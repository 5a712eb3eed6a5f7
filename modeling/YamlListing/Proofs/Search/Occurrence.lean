import Mathlib.Data.List.Pairwise
import YamlListing.Search.Finder

set_option autoImplicit false

/-! # Occurrences in folded lines

A needle occurs in a folded line at an offset if it stands there, and it covers the columns that its
first and its last character come from (`OccursAt`). Columns never go down along a folded line
(`columns_le`), so later occurrences cover later columns. -/

namespace YamlListing.FoldedLine

/-- An occurrence of a needle, at an offset into a folded line, with the columns that it covers: the
first one and the one after the last. -/
structure OccursAt (needle : Text) (l : FoldedLine) (offset : Nat) (hit : Nat × Nat) : Prop where
  stands : needle <+: l.text.drop offset
  first : l[offset]?.map Prod.snd = some hit.1
  last : l[offset + (needle.length - 1)]?.map (fun c => c.2 + 1) = some hit.2

/-- Whether columns never go down along a folded line. -/
def IsOrdered (l : FoldedLine) : Prop := l.Pairwise fun a b => a.2 ≤ b.2

section ofText

variable {n : Normalizer} {column : Nat} {text : Text} {c : Char × Nat}

theorem column_le_of_mem (h : c ∈ ofTextFrom n column text) : column ≤ c.2 := by
  induction text generalizing column with
  | nil => cases h
  | cons d text ih =>
    rw [ofTextFrom, List.mem_append] at h
    rcases h with h | h
    · obtain ⟨e, -, rfl⟩ := List.mem_map.1 h
      exact Nat.le_refl column
    · exact Nat.le_of_succ_le (ih h)

theorem ofTextFrom_isOrdered (n : Normalizer) (column : Nat) (text : Text) :
    IsOrdered (ofTextFrom n column text) := by
  induction text generalizing column with
  | nil => exact .nil
  | cons d text ih =>
    rw [ofTextFrom, IsOrdered, List.pairwise_append]
    refine ⟨?_, ih (column + 1), ?_⟩
    · rw [List.pairwise_map]
      exact List.pairwise_of_forall fun _ _ => Nat.le_refl column
    · intro a ha b hb
      obtain ⟨e, -, rfl⟩ := List.mem_map.1 ha
      exact Nat.le_of_succ_le (column_le_of_mem hb)

theorem ofText_isOrdered (n : Normalizer) (text : Text) : IsOrdered (ofText n text) :=
  ofTextFrom_isOrdered n 1 text

end ofText

/-! ## Occurrences -/

section OccursAt

variable {needle : Text} {l : FoldedLine} {i j k offset : Nat} {hit hit' : Nat × Nat}

/-- A needle that stands somewhere ends inside the line. -/
theorem length_le_of_stands (h : needle <+: l.text.drop k) : needle.length ≤ (l.drop k).length := by
  have hlength := h.length_le
  rw [text, ← List.map_drop, List.length_map] at hlength
  exact hlength

theorem getLast?_take_drop (hne : needle ≠ []) (h : needle <+: l.text.drop k) :
    ((l.drop k).take needle.length).getLast? = l[k + (needle.length - 1)]? := by
  have hpos := List.length_pos_iff.2 hne
  rw [List.getLast?_eq_getElem?, List.length_take, Nat.min_eq_left (length_le_of_stands h),
    List.getElem?_take, if_pos (by omega), List.getElem?_drop]

/-- A hit at the start of what is left of a folded line is an occurrence. -/
theorem hitAt?_drop_eq_some (hne : needle ≠ []) :
    hitAt? needle (l.drop k) = some hit ↔ OccursAt needle l k hit := by
  have htext : text (l.drop k) = l.text.drop k := List.map_drop
  rw [hitAt?, htext]
  constructor
  · intro h
    split at h
    · next hprefix =>
      have hstands := List.isPrefixOf_iff_prefix.1 hprefix
      rw [getLast?_take_drop hne hstands, List.head?_drop] at h
      split at h
      · next c first d last hfirst hlast =>
        obtain rfl := Option.some.inj h
        exact ⟨hstands, by rw [hfirst, Option.map_some], by rw [hlast, Option.map_some]⟩
      · cases h
    · cases h
  · -- Both ends of an occurrence exist, so the two lookups succeed.
    intro h
    obtain ⟨a, ha, hfirst⟩ := Option.map_eq_some_iff.1 h.first
    obtain ⟨b, hb, hlast⟩ := Option.map_eq_some_iff.1 h.last
    rw [if_pos (List.isPrefixOf_iff_prefix.2 h.stands), getLast?_take_drop hne h.stands,
      List.head?_drop, ha, hb]
    simp only [hfirst, hlast]

theorem OccursAt.lt_length (h : OccursAt needle l k hit) : k < l.length := by
  obtain ⟨a, ha, -⟩ := Option.map_eq_some_iff.1 h.first
  exact (List.getElem?_eq_some_iff.1 ha).1

theorem column_le (hl : IsOrdered l) (hij : i ≤ j) {a b : Char × Nat} (ha : l[i]? = some a)
    (hb : l[j]? = some b) : a.2 ≤ b.2 := by
  obtain ⟨hi, rfl⟩ := List.getElem?_eq_some_iff.1 ha
  obtain ⟨hj, rfl⟩ := List.getElem?_eq_some_iff.1 hb
  rcases Nat.lt_or_eq_of_le hij with hlt | rfl
  · exact List.pairwise_iff_getElem.1 hl i j hi hj hlt
  · exact Nat.le_refl _

/-- An occurrence covers at least one column. -/
theorem OccursAt.lt (hl : IsOrdered l) (h : OccursAt needle l k hit) : hit.1 < hit.2 := by
  obtain ⟨a, ha, hfirst⟩ := Option.map_eq_some_iff.1 h.first
  obtain ⟨b, hb, hlast⟩ := Option.map_eq_some_iff.1 h.last
  have hle := column_le hl (Nat.le_add_right k _) ha hb
  omega

/-- Occurrences begin in the order of their offsets. -/
theorem OccursAt.first_le (hl : IsOrdered l) (h : OccursAt needle l j hit)
    (h' : OccursAt needle l k hit') (hjk : j ≤ k) : hit.1 ≤ hit'.1 := by
  obtain ⟨a, ha, hfirst⟩ := Option.map_eq_some_iff.1 h.first
  obtain ⟨b, hb, hfirst'⟩ := Option.map_eq_some_iff.1 h'.first
  have hle := column_le hl hjk ha hb
  omega

/-- An occurrence that begins inside another one begins in a column that the other one covers. -/
theorem OccursAt.first_lt (hl : IsOrdered l) (h : OccursAt needle l j hit)
    (h' : OccursAt needle l k hit') (hkj : k < j + needle.length) : hit'.1 < hit.2 := by
  obtain ⟨a, ha, hlast⟩ := Option.map_eq_some_iff.1 h.last
  obtain ⟨b, hb, hfirst⟩ := Option.map_eq_some_iff.1 h'.first
  have hle := column_le hl (by omega) hb ha
  omega

theorem OccursAt.unique (h : OccursAt needle l k hit) (h' : OccursAt needle l k hit') :
    hit = hit' :=
  Prod.ext (Option.some.inj (h.first.symm.trans h'.first))
    (Option.some.inj (h.last.symm.trans h'.last))

end OccursAt

end YamlListing.FoldedLine
