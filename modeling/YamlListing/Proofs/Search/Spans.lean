import YamlListing.Proofs.Search.Columns
import YamlListing.Proofs.Search.Leftmost
import YamlListing.Proofs.Source.Substring

set_option autoImplicit false

/-! # The spans of matches

A finder tells its matches as spans of the source that it has loaded. Main statement
(`find_isAnswer`): every span lies on a line that exists and covers columns that the line has, the
spans come in order and share no position, and the text that a span covers folds to one that
contains the folded query. On the way to them no column is looked up that the index does not
have. -/

namespace YamlListing

/-! ## Spans on a line -/

/-- Whether a span covers columns of one line of a source, at least one. -/
structure IsWithinLine (s : Source) (span : Span) : Prop where
  sameLine : span.stop.line = span.start.line
  one_le : 1 ≤ span.start.column
  nonempty : span.start.column < span.stop.column
  exists_line : ∃ text, s.line? span.start.line = some text ∧ span.stop.column ≤ text.length + 1

/-- Whether a span stops before another one starts. -/
def Span.Precedes (a b : Span) : Prop := a.stop ≤ b.start

theorem IsWithinLine.start_lt_of_precedes {s : Source} {a b : Span} (h : IsWithinLine s a)
    (hab : a.Precedes b) : a.start < b.start := by
  have hline := h.sameLine
  have hcolumn := h.nonempty
  rw [Span.Precedes, Position.le_def] at hab
  rw [Position.lt_def]
  omega

theorem Span.compare_eq_lt {a b : Span} (h : a.start < b.start) : a.compare b = .lt := by
  rw [Position.lt_def] at h
  rw [Span.compare, Position.compare, Ordering.then_eq_lt, Ordering.then_eq_lt]
  left
  rcases h with h | ⟨hline, hcolumn⟩
  · exact Or.inl (Nat.compare_eq_lt.2 h)
  · exact Or.inr ⟨Nat.compare_eq_eq.2 hline, Nat.compare_eq_lt.2 hcolumn⟩

theorem Span.not_contains_of_precedes {a b : Span} (h : a.Precedes b) (p : Position) :
    ¬ (a.contains p = true ∧ b.contains p = true) := by
  rw [Span.contains_iff, Span.contains_iff]
  rintro ⟨⟨-, hstop⟩, hstart, -⟩
  exact Position.not_lt.2 (Position.le_trans h hstart) hstop

namespace Finder

/-- What a finder may answer to a query. -/
structure IsAnswer (n : Normalizer) (s : Source) (query : Text) (spans : List Span) : Prop where
  /-- Every match covers columns of a line that exists. -/
  within : ∀ span ∈ spans, IsWithinLine s span
  /-- The matches come in order, without repetition. -/
  increasing : spans.Pairwise fun a b => a.compare b = .lt
  /-- No two matches share a position. -/
  apart : spans.Pairwise fun a b => ∀ p, ¬ (a.contains p = true ∧ b.contains p = true)
  /-- What a match covers folds to a text that contains the folded query. -/
  folded : ∀ span ∈ spans, n.normalize query <:+: n.normalize (s.substring span)

section spans

variable {n : Normalizer} {s : Source} {query needle text : Text} {i k : Nat} {hit : Nat × Nat}
  {span : Span}

/-- A line falls into what comes before some of its columns, these columns and what comes after. -/
theorem exists_stretch {first stop : Nat} (hfirst : 1 ≤ first) (hle : first ≤ stop)
    (hstop : stop ≤ text.length + 1) :
    ∃ x y w, text = x ++ y ++ w ∧ first = x.length + 1 ∧ stop = x.length + y.length + 1 := by
  refine ⟨text.take (first - 1), (text.drop (first - 1)).take (stop - first),
    (text.drop (first - 1)).drop (stop - first), ?_, ?_, ?_⟩
  · rw [List.append_assoc, List.take_append_drop, List.take_append_drop]
  · rw [List.length_take]
    omega
  · rw [List.length_take, List.length_take, List.length_drop]
    omega

/-- An occurrence on a line of a source is told by a span of that line, and what the span covers
folds to a text that contains the needle. -/
theorem onLine_isMatch (hline : s.lines[i]? = some text)
    (h : FoldedLine.OccursAt needle (.ofText n text) k hit) :
    IsWithinLine s (.onLine (i + 1) hit.1 hit.2) ∧
      needle <:+: n.normalize (s.substring (.onLine (i + 1) hit.1 hit.2)) := by
  have hlt := h.lt (FoldedLine.ofText_isOrdered n text)
  obtain ⟨hone, hstop⟩ := h.bounds
  have hspan : Span.onLine (i + 1) hit.1 hit.2 = ⟨⟨i + 1, hit.1⟩, ⟨i + 1, hit.2⟩⟩ := by
    rw [Span.onLine, Nat.min_eq_left (by omega), Nat.max_eq_right (by omega)]
  obtain ⟨x, y, w, rfl, hx, hy⟩ := exists_stretch hone (Nat.le_of_lt hlt) hstop
  obtain ⟨hi, hget⟩ := List.getElem?_eq_some_iff.1 hline
  rw [hspan]
  constructor
  · refine ⟨rfl, hone, hlt, _, ?_, hstop⟩
    simpa [Source.line?, Source.atLine] using hline
  · have hlength : (s.lines.take i).length = i := List.length_take_of_le (Nat.le_of_lt hi)
    have hlines : s.lines = s.lines.take i ++ (x ++ y ++ w) :: s.lines.drop (i + 1) := by
      rw [← hget, ← List.drop_eq_getElem_cons hi, List.take_append_drop]
    have hvalid : Span.IsValid ⟨⟨i + 1, hit.1⟩, ⟨i + 1, hit.2⟩⟩ :=
      ⟨Or.inr ⟨rfl, Nat.le_of_lt hlt⟩, hone, Nat.le_trans hone (Nat.le_of_lt hlt)⟩
    have hsubstring : s.substring ⟨⟨i + 1, hit.1⟩, ⟨i + 1, hit.2⟩⟩ = y :=
      Source.substring_within hvalid hlines (by rw [hlength, hx]) (by rw [hlength, hy])
    rw [hsubstring]
    exact h.infix_normalize hx hy

theorem mem_spansOf {reported : List (List (Nat × Nat))} (h : span ∈ spansOf reported) :
    ∃ i hits, reported[i]? = some hits ∧ ∃ hit ∈ hits, span = .onLine (i + 1) hit.1 hit.2 := by
  obtain ⟨spans, hspans, hspan⟩ := List.mem_flatten.1 h
  obtain ⟨i, hi, rfl⟩ := List.mem_mapIdx.1 hspans
  obtain ⟨hit, hhit, rfl⟩ := List.mem_map.1 hspan
  exact ⟨i, reported[i], List.getElem?_eq_getElem hi, hit, hhit, rfl⟩

/-- Hits that are in order on every line make spans that are in order. -/
theorem spansOf_pairwise {reported : List (List (Nat × Nat))}
    (h : ∀ hits ∈ reported, hits.Pairwise fun a b => a.2 ≤ b.1)
    (hlt : ∀ hits ∈ reported, ∀ hit ∈ hits, hit.1 < hit.2) :
    (spansOf reported).Pairwise Span.Precedes := by
  rw [spansOf, List.pairwise_flatten]
  constructor
  · intro spans hspans
    obtain ⟨i, hi, rfl⟩ := List.mem_mapIdx.1 hspans
    have hmem := List.getElem_mem hi
    rw [List.pairwise_map]
    refine (h _ hmem).imp_of_mem ?_
    intro a b ha hb hab
    have := hlt _ hmem a ha
    have := hlt _ hmem b hb
    exact Or.inr ⟨rfl, by simp only [Span.onLine]; omega⟩
  · rw [List.pairwise_iff_getElem]
    intro i j hi hj hij a ha b hb
    rw [List.getElem_mapIdx] at ha hb
    obtain ⟨c, -, rfl⟩ := List.mem_map.1 ha
    obtain ⟨d, -, rfl⟩ := List.mem_map.1 hb
    exact Or.inl (Nat.succ_lt_succ hij)

theorem pairwise_of_precedes {spans : List Span} (hwithin : ∀ span ∈ spans, IsWithinLine s span)
    (h : spans.Pairwise Span.Precedes) :
    (spans.Pairwise fun a b => a.compare b = .lt) ∧
      spans.Pairwise fun a b => ∀ p, ¬ (a.contains p = true ∧ b.contains p = true) := by
  constructor
  · refine h.imp_of_mem ?_
    intro a b ha _ hab
    exact Span.compare_eq_lt ((hwithin a ha).start_lt_of_precedes hab)
  · refine h.imp ?_
    intro a b hab
    exact Span.not_contains_of_precedes hab

end spans

/-! ## What a finder answers -/

section find

variable {s : Source} {query : Text} {span : Span}

theorem find_eq_nil {f : Finder} (h : f.normalizer.normalize query = []) :
    (f.load s).find query = [] := by
  have hempty : ((f.load s).normalizer.normalize query).isEmpty = true := List.isEmpty_iff.2 h
  rw [find, hempty]
  rfl

theorem hits_ofText_isReport (n : Normalizer) (text : Text) (hne : n.normalize query ≠ []) :
    FoldedLine.IsReport (n.normalize query) (.ofText n text)
      (FoldedLine.hits (n.normalize query) (.ofText n text)) :=
  FoldedLine.hits_isReport (FoldedLine.ofText_isOrdered n text) hne

theorem isMatch_of_mem_find (f : Finder) (h : span ∈ (f.load s).find query) :
    IsWithinLine s span ∧
      f.normalizer.normalize query <:+: f.normalizer.normalize (s.substring span) := by
  by_cases hne : f.normalizer.normalize query = []
  · rw [find_eq_nil hne] at h
    cases h
  · rw [find_load s hne] at h
    obtain ⟨i, hits, hhits, hit, hhit, rfl⟩ := mem_spansOf h
    rw [List.getElem?_map] at hhits
    obtain ⟨text, hline, rfl⟩ := Option.map_eq_some_iff.1 hhits
    obtain ⟨k, hoccurs⟩ := (hits_ofText_isReport f.normalizer text hne).occurs hit hhit
    exact onLine_isMatch hline hoccurs

theorem find_pairwise_precedes (f : Finder) (s : Source) (query : Text) :
    ((f.load s).find query).Pairwise Span.Precedes := by
  by_cases hne : f.normalizer.normalize query = []
  · rw [find_eq_nil hne]
    exact .nil
  · rw [find_load s hne]
    refine spansOf_pairwise ?_ ?_
    · intro hits hhits
      obtain ⟨text, -, rfl⟩ := List.mem_map.1 hhits
      exact (hits_ofText_isReport f.normalizer text hne).disjoint
    · intro hits hhits hit hhit
      obtain ⟨text, -, rfl⟩ := List.mem_map.1 hhits
      obtain ⟨k, hoccurs⟩ := (hits_ofText_isReport f.normalizer text hne).occurs hit hhit
      exact hoccurs.lt (FoldedLine.ofText_isOrdered f.normalizer text)

/-- Whatever a finder is asked for in the source that it has loaded, its answer is a list of
matches, and the columns of every match are in its index. -/
theorem find_isAnswer (f : Finder) (s : Source) (query : Text) :
    IsAnswer f.normalizer s query ((f.load s).find query) ∧
      ∀ l ∈ (f.load s).index, l.ReadsColumns (f.normalizer.normalize query) := by
  have hwithin : ∀ span ∈ (f.load s).find query, IsWithinLine s span :=
    fun span hspan => (isMatch_of_mem_find f hspan).1
  obtain ⟨hincreasing, hapart⟩ :=
    pairwise_of_precedes hwithin (find_pairwise_precedes f s query)
  constructor
  · exact ⟨hwithin, hincreasing, hapart, fun span hspan => (isMatch_of_mem_find f hspan).2⟩
  · intro l _
    exact FoldedLine.readsColumns _ l

end find

end Finder

end YamlListing
