import YamlListing.Proofs.Source.Parts
import YamlListing.Proofs.Source.Substring
import YamlListing.Proofs.Yaml.Partition

set_option autoImplicit false

/-! # Classifying a source

The segments of a text divide it, and so their parts divide the lines of a source that holds it.
Main statement: any text can be classified, each segment covers the text that it names, every
character that is not blank lies in just one segment of its line, and the segments without width are
the implicit nulls (`exists_classify_ofText`). -/

namespace YamlListing.Source

open Unicode (isBlank)
open Yaml (Segment)
open Text (positionAfter spanOf splitLines joinLines terminated)

/-! ## The lines of a text -/

theorem dropReturn_subset {line : Text} {c : Char} (h : c ∈ dropReturn line) : c ∈ line := by
  rw [dropReturn] at h
  by_cases hlast : line.getLast? = some '\r'
  · have hne : line ≠ [] := by
      rintro rfl
      cases hlast
    obtain ⟨front, d, rfl⟩ := (List.eq_nil_or_concat line).resolve_left hne
    rw [List.concat_eq_append] at *
    rw [List.getLast?_concat] at hlast
    obtain rfl := Option.some.inj hlast
    rw [Text.dropLast?_concat, Option.getD_some] at h
    exact List.mem_append_left _ h
  · rw [Text.dropLast?_eq_none hlast, Option.getD_none] at h
    exact h

/-- No line that a text is read into holds a line feed. -/
theorem ofText_hasLines (t : Text) (name : Option String) : (ofText t name).HasLines := by
  intro line hline hnew
  simp only [ofText, ofLines] at hline
  split at hline
  · cases hline
  · obtain ⟨l, hl, rfl⟩ := List.mem_map.1 hline
    exact Text.newline_not_mem_of_mem_splitLines hl (dropReturn_subset hnew)

section

variable {s : Source}

/-- The text that is classified ends where the lines do, but for a line feed. -/
theorem exists_terminated_eq (lines : List Text) :
    ∃ gap, terminated lines = joinLines lines ++ gap ∧ ∀ c ∈ gap, isBlank c = true := by
  by_cases h : lines = []
  · subst h
    exact ⟨[], rfl, by simp⟩
  · refine ⟨['\n'], Text.terminated_eq_joinLines h, ?_⟩
    intro c hc
    rw [List.mem_singleton.1 hc]
    decide

theorem terminated_isPartition (s : Source) :
    Segment.IsPartition (terminated s.lines) (Segment.ofText (joinLines s.lines)) := by
  obtain ⟨gap, hlines, hgap⟩ := exists_terminated_eq s.lines
  rw [hlines]
  exact (Segment.ofText_isPartition (joinLines s.lines)).append_right hgap

/-- A character of a line stands in the text at the position of its line and column. -/
theorem exists_position_eq (hs : s.HasLines) {n i : Nat} {text : Text}
    (hline : s.line? n = some text) (hi : i < text.length) :
    ∃ front back, terminated s.lines = front ++ text[i] :: back ∧
      positionAfter front = ⟨n, i + 1⟩ := by
  cases n with
  | zero => cases hline
  | succ k =>
      rw [line?_succ] at hline
      obtain ⟨hk, htext⟩ := List.getElem?_eq_some_iff.1 hline
      have hsplit : s.lines = s.lines.take k ++ text :: s.lines.drop (k + 1) := by
        rw [← htext, List.getElem_cons_drop, List.take_append_drop]
      have hfront : ∀ l ∈ s.lines.take k, '\n' ∉ l := fun l hl => hs l (List.mem_of_mem_take hl)
      have htake : '\n' ∉ text.take i := by
        intro hmem
        refine hs text ?_ (List.mem_of_mem_take hmem)
        rw [← htext]
        exact List.getElem_mem hk
      refine ⟨terminated (s.lines.take k) ++ text.take i,
        text.drop (i + 1) ++ '\n' :: terminated (s.lines.drop (k + 1)), ?_, ?_⟩
      · have hcut : text = text.take i ++ text[i] :: text.drop (i + 1) := by
          rw [List.getElem_cons_drop, List.take_append_drop]
        conv => lhs; rw [hsplit, Text.terminated_append, Text.terminated_cons, hcut]
        simp only [List.append_assoc, List.cons_append]
      · rw [Text.positionAfter_append htake, Text.positionAfter_terminated hfront,
          List.length_take_of_le (Nat.le_of_lt hk), List.length_take_of_le (Nat.le_of_lt hi)]
        simp only [Position.lineStart, Position.mk.injEq, true_and]
        omega

/-- A stretch of the text does not begin past the end of its line. -/
theorem fits_of_isIn (hs : s.HasLines) {segment : Segment}
    (h : segment.IsIn [] (terminated s.lines)) : s.Fits segment := by
  obtain ⟨before, after, htext, hspan⟩ := h.located
  obtain ⟨front, x, hbefore⟩ := Text.exists_splitLines_concat before
  obtain ⟨w, ws, hafter⟩ := Text.exists_splitLines_cons (segment.raw ++ after)
  intro text hline
  rw [List.nil_append] at hspan
  rw [hspan, spanOf_start hbefore, line?_succ] at hline
  rw [hspan, spanOf_start hbefore]
  -- The line holds all that comes before the stretch on it.
  have hlines := Text.splitLines_terminated hs
  rw [htext, List.append_assoc, Text.splitLines_append hbefore hafter] at hlines
  have hget := congrArg (·[front.length]?) hlines
  have hk : front.length < s.lines.length := (List.getElem?_eq_some_iff.1 hline).1
  simp only [List.getElem?_append_right (Nat.le_refl _), Nat.sub_self, List.getElem?_cons_zero,
    List.getElem?_append_left hk, hline, Option.some.injEq] at hget
  rw [← hget, List.length_append]
  simp only
  omega

theorem isValid_of_isIn {text : Text} {segment : Segment} (h : segment.IsIn [] text) :
    segment.span.IsValid := by
  obtain ⟨front, back, -, hspan⟩ := h.located
  rw [hspan]
  exact Text.spanOf_isValid _ _

/-! ## Classified lines -/

theorem substring_of_isIn (hs : s.HasLines) {segment : Segment}
    (h : segment.IsIn [] (terminated s.lines)) : s.substring segment.span = segment.raw := by
  obtain ⟨front, back, htext, hspan⟩ := h.located
  rw [hspan, List.nil_append, substring_spanOf hs htext, Text.dropLast?_eq_none h.getLast?_raw,
    Option.getD_none]

theorem isValid_of_mem {segment : Segment} (h : segment ∈ Segment.ofText (joinLines s.lines)) :
    segment.span.IsValid :=
  isValid_of_isIn ((terminated_isPartition s).isIn segment h)

theorem fits_of_mem (hs : s.HasLines) {segment : Segment}
    (h : segment ∈ Segment.ofText (joinLines s.lines)) : s.Fits segment :=
  fits_of_isIn hs ((terminated_isPartition s).isIn segment h)

/-- Classifying a source attaches the segments of its text. -/
theorem classify_eq_ok (hs : s.HasLines) :
    s.classify = .ok { s with
      segments := s.partTable (Segment.ofText (joinLines s.lines)), classified := true } :=
  attach_eq_ok (fun _ hmem => isValid_of_mem hmem) (fun _ hmem => fits_of_mem hs hmem)
    (terminated_isPartition s).ordered

/-- The segments of a classified line are the parts of those of the text. -/
theorem partsOn_ofText (hs : s.HasLines) {n : Nat} {text : Text} (hline : s.line? n = some text) :
    partsOn (Segment.ofText (joinLines s.lines)) n text =
      (Segment.ofText (joinLines s.lines)).filterMap
        (fun segment => partOn segment n text.length) :=
  partsOn_eq_filterMap (fun _ hmem => isValid_of_mem hmem) (fun _ hmem => fits_of_mem hs hmem)
    (terminated_isPartition s).ordered hline

/-- A character that is not blank lies in just one part. -/
theorem countP_covers_partsOn (hs : s.HasLines) {n i : Nat} {text : Text}
    (hline : s.line? n = some text) (hi : i < text.length) (hblank : isBlank text[i] = false) :
    (partsOn (Segment.ofText (joinLines s.lines)) n text).countP (·.covers (i + 1)) = 1 := by
  have hpartition := terminated_isPartition s
  obtain ⟨front, back, htext, hposition⟩ := exists_position_eq hs hline hi
  obtain ⟨segment, hmem, hcontains⟩ := hpartition.covers front _ back htext hblank
  rw [hposition] at hcontains
  obtain ⟨part, hpart, hcovers⟩ := exists_part_of_contains (isValid_of_mem hmem)
    (Nat.le_add_left 1 i) (Nat.succ_le_of_lt hi) hcontains
  rw [partsOn_ofText hs hline]
  exact countP_covers_eq_one
    (parts_pairwise (fun _ hmem => isValid_of_mem hmem) hpartition.ordered n text.length)
    ⟨part, List.mem_filterMap.2 ⟨segment, hmem, hpart⟩, hcovers⟩

/-- A part without width belongs to an implicit null. -/
theorem category_of_isEmpty (hs : s.HasLines) {n : Nat} {text : Text} {part : LineSegment}
    (hline : s.line? n = some text)
    (hmem : part ∈ partsOn (Segment.ofText (joinLines s.lines)) n text)
    (hempty : part.isEmpty = true) : part.category = .literalNullImplicit := by
  rw [partsOn_ofText hs hline] at hmem
  obtain ⟨segment, hsegment, hpart⟩ := List.mem_filterMap.1 hmem
  have hin := (terminated_isPartition s).isIn segment hsegment
  obtain ⟨-, -, -, -, hcategory, hspan⟩ := partOn_eq_some (isValid_of_isIn hin) hpart
  obtain ⟨front, back, -, hstretch⟩ := hin.located
  have hnone := hspan hempty
  rw [hstretch, Text.isEmpty_spanOf] at hnone
  rw [hcategory]
  exact hin.category hnone

end

/-- A source that is read from a text can be classified. Each segment of its text covers what it
    says; each character that is not blank lies in just one segment of its line; and segments
    without width are implicit nulls. -/
theorem exists_classify_ofText (t : Text) (name : Option String) :
    (∀ segment ∈ Segment.ofText (joinLines (ofText t name).lines),
      (ofText t name).substring segment.span = segment.raw) ∧
    ∃ s : Source, (ofText t name).classify = .ok s ∧ s.lines = (ofText t name).lines ∧
      (∀ n text, s.line? n = some text → ∀ i (hi : i < text.length), isBlank text[i] = false →
        (s.segmentsAt n).countP (·.covers (i + 1)) = 1) ∧
      ∀ n, ∀ part ∈ s.segmentsAt n, part.isEmpty = true → part.category = .literalNullImplicit := by
  have hs := ofText_hasLines t name
  have hpartition := terminated_isPartition (ofText t name)
  refine ⟨fun segment hmem => substring_of_isIn hs (hpartition.isIn segment hmem), _,
    classify_eq_ok hs, rfl, ?_, ?_⟩
  · intro n text hline i hi hblank
    have hline' : (ofText t name).line? n = some text := hline
    rw [segmentsAt_partTable hline']
    exact countP_covers_partsOn hs hline' hi hblank
  · intro n part hmem hempty
    cases hline : (ofText t name).line? n with
    | none =>
        rw [segmentsAt_partTable_of_none hline] at hmem
        cases hmem
    | some text =>
        rw [segmentsAt_partTable hline] at hmem
        exact category_of_isEmpty hs hline hmem hempty

end YamlListing.Source
