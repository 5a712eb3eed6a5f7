import YamlListing.Text.Basic

set_option autoImplicit false

/-! # Cutting joined texts

A separator that no part holds cuts a joined text into its parts again. -/

namespace YamlListing.Text

variable {sep : Char}

theorem splitOn_of_not_mem {t : Text} (h : sep ∉ t) : splitOn sep t = [t] := by
  induction t with
  | nil => rfl
  | cons c t ih =>
    rw [List.mem_cons, not_or] at h
    rw [splitOn, if_neg (Ne.symm h.1), ih h.2]

theorem splitOn_append_cons {t : Text} (h : sep ∉ t) (rest : Text) :
    splitOn sep (t ++ sep :: rest) = t :: splitOn sep rest := by
  induction t with
  | nil => rw [List.nil_append, splitOn, if_pos rfl]
  | cons c t ih =>
    rw [List.mem_cons, not_or] at h
    rw [List.cons_append, splitOn, if_neg (Ne.symm h.1), ih h.2]

theorem splitOn_joinWith {parts : List Text} (hne : parts ≠ []) (h : ∀ t ∈ parts, sep ∉ t) :
    splitOn sep (joinWith [sep] parts) = parts := by
  induction parts with
  | nil => exact absurd rfl hne
  | cons t rest ih =>
    have ht : sep ∉ t := h t List.mem_cons_self
    cases rest with
    | nil => exact splitOn_of_not_mem ht
    | cons u rest =>
      rw [joinWith, List.append_assoc, List.singleton_append, splitOn_append_cons ht,
        ih (List.cons_ne_nil _ _) fun v hv => h v (List.mem_cons_of_mem _ hv)]

theorem eq_of_joinWith_eq {parts parts' : List Text} (hne : parts ≠ []) (hne' : parts' ≠ [])
    (h : ∀ t ∈ parts, sep ∉ t) (h' : ∀ t ∈ parts', sep ∉ t)
    (heq : joinWith [sep] parts = joinWith [sep] parts') : parts = parts' := by
  rw [← splitOn_joinWith hne h, heq, splitOn_joinWith hne' h']

end YamlListing.Text
