import YamlListing.Proofs.Text.Place
import YamlListing.Source.Basic

set_option autoImplicit false

/-! # Line breaks

A text may end its lines with a line feed or with a carriage return and a line feed. A source keeps
the lines and drops the difference, so the text that it gives back should be `plainBreaks` of the
one it was made from. Main statement: it is, but for one carriage return more: the one that the text
ends with (`text_ofText_iff`). -/

namespace YamlListing

open Text (splitLines joinLines dropLast?)

namespace Text

/-- A text with each carriage return dropped that stands right before a line feed. -/
def plainBreaks : Text → Text
  | [] => []
  | c :: rest =>
    if c = '\r' ∧ rest.head? = some '\n' then plainBreaks rest else c :: plainBreaks rest

/-- The carriage return that a text ends with. -/
def finalReturn (t : Text) : Text := if t.getLast? = some '\r' then ['\r'] else []

theorem finalReturn_cons {c : Char} {rest : Text} (h : ¬ (c = '\r' ∧ rest = [])) :
    finalReturn (c :: rest) = finalReturn rest := by
  cases rest with
  | nil =>
    have hc : c ≠ '\r' := fun hc => h ⟨hc, rfl⟩
    exact if_neg fun hlast => hc (Option.some.inj hlast)
  | cons d rest => rw [finalReturn, finalReturn, List.getLast?_cons_cons]

/-- The first line is empty if a line feed comes first, or nothing at all. -/
theorem eq_nil_of_splitLines {t line : Text} {lines : List Text}
    (h : splitLines t = line :: lines) : line = [] ↔ t = [] ∨ t.head? = some '\n' := by
  cases t with
  | nil => exact iff_of_true (List.cons.inj h).1.symm (Or.inl rfl)
  | cons d rest =>
    rw [List.head?_cons, Option.some.injEq, or_iff_right (List.cons_ne_nil d rest)]
    by_cases hd : d = '\n'
    · rw [hd, splitLines_cons_newline] at h
      exact iff_of_true (List.cons.inj h).1.symm hd
    · obtain ⟨inner, others, hrest⟩ := exists_splitLines_cons rest
      rw [splitLines_cons hd hrest] at h
      exact iff_of_false (fun hnil => List.cons_ne_nil d inner ((List.cons.inj h).1.trans hnil)) hd

/-- Only where a carriage return meets a line feed is there something to drop. -/
theorem length_plainBreaks_le (t : Text) : (plainBreaks t).length ≤ t.length := by
  induction t with
  | nil => exact Nat.le_refl 0
  | cons c rest ih =>
    rw [plainBreaks]
    split
    · exact Nat.le_succ_of_le ih
    · exact Nat.succ_le_succ ih

theorem plainBreaks_eq_self_iff (t : Text) : plainBreaks t = t ↔ ¬ ['\r', '\n'] <:+: t := by
  induction t with
  | nil => exact iff_of_true rfl (by decide)
  | cons c rest ih =>
    rw [List.infix_cons_iff, not_or, ← ih, plainBreaks]
    split
    · next hbreak =>
      obtain ⟨rfl, hhead⟩ := hbreak
      obtain ⟨after, rfl⟩ : ∃ after, rest = '\n' :: after := List.head?_eq_some_iff.1 hhead
      refine iff_of_false (fun heq => ?_) (fun h => h.1 ⟨after, rfl⟩)
      have hle := length_plainBreaks_le ('\n' :: after)
      rw [heq, List.length_cons] at hle
      exact Nat.not_succ_le_self _ hle
    · next hbreak =>
      rw [List.cons.injEq, and_iff_right rfl]
      refine (and_iff_right fun hprefix => hbreak ?_).symm
      obtain ⟨after, hafter⟩ := hprefix
      obtain ⟨rfl, rfl⟩ := List.cons.inj hafter
      exact ⟨rfl, rfl⟩

end Text

namespace Source

open Text (plainBreaks finalReturn)

/-- A carriage return is dropped only at the end of a line. -/
theorem dropReturn_cons (c : Char) (line : Text) :
    dropReturn (c :: line) = if c = '\r' ∧ line = [] then [] else c :: dropReturn line := by
  cases line with
  | nil =>
    by_cases hc : c = '\r'
    · rw [if_pos ⟨hc, rfl⟩, hc]
      rfl
    · rw [if_neg fun h => hc h.1, dropReturn, dropLast?, if_neg hc]
      rfl
  | cons d line =>
    rw [if_neg fun h => List.cons_ne_nil d line h.2, dropReturn, dropReturn, dropLast?]
    cases dropLast? '\r' (d :: line) <;> rfl

/-- The lines of a text without their carriage returns, put together. -/
theorem joinLines_map_dropReturn (t : Text) :
    joinLines ((splitLines t).map dropReturn) ++ finalReturn t = plainBreaks t := by
  induction t with
  | nil => rfl
  | cons c rest ih =>
    obtain ⟨line, lines, hlines⟩ := Text.exists_splitLines_cons rest
    have hempty := Text.eq_nil_of_splitLines hlines
    rw [hlines, List.map_cons, Text.joinLines_cons] at ih
    rw [plainBreaks]
    by_cases hc : c = '\n'
    · subst hc
      have hnil : dropReturn [] = [] := rfl
      have hfeed : '\n' ≠ '\r' := by decide
      rw [if_neg fun h => hfeed h.1, Text.splitLines_cons_newline, hlines, List.map_cons, List.map_cons,
        Text.joinLines_cons, List.flatMap_cons, Text.finalReturn_cons fun h => hfeed h.1, hnil, ← ih]
      simp only [List.nil_append, List.cons_append, List.append_assoc]
    · rw [Text.splitLines_cons hc hlines, List.map_cons, Text.joinLines_cons, dropReturn_cons]
      by_cases hdrop : c = '\r' ∧ line = []
      · obtain ⟨rfl, rfl⟩ := hdrop
        rw [if_pos ⟨rfl, rfl⟩]
        -- The text ends here, or a line feed follows.
        rcases hempty.1 rfl with rfl | hhead
        · rw [← (List.cons.inj hlines).2]
          rfl
        · have hne : rest ≠ [] := fun h => by rw [h] at hhead; cases hhead
          rw [if_pos ⟨rfl, hhead⟩, Text.finalReturn_cons fun h => hne h.2, ← ih]
          rfl
      · have hbreak : ¬ (c = '\r' ∧ rest.head? = some '\n') := fun h =>
          hdrop ⟨h.1, hempty.2 (Or.inr h.2)⟩
        have hfinal : ¬ (c = '\r' ∧ rest = []) := fun h => hdrop ⟨h.1, hempty.2 (Or.inl h.2)⟩
        rw [if_neg hdrop, if_neg hbreak, Text.finalReturn_cons hfinal, ← ih]
        rfl

/-- A source gives back its lines, with a line feed after the last one if there was one. -/
theorem text_ofText (t : Text) (name : Option String) :
    (ofText t name).text = joinLines ((splitLines t).map dropReturn) := by
  by_cases hend : t.getLast? = some '\n'
  · obtain ⟨body, rfl⟩ := List.getLast?_eq_some_iff.1 hend
    obtain ⟨line, lines, hlines⟩ := Text.exists_splitLines_cons body
    have hne : (body ++ ['\n']).isEmpty = false := by simp
    have hsplit : splitLines (body ++ ['\n']) = line :: lines ++ [[]] := by
      rw [Text.splitLines_append_newline, hlines]
      rfl
    have hempty : dropReturn [] = [] := rfl
    rw [hsplit, List.map_append, List.map_cons, List.map_cons, List.map_nil, hempty,
      Text.joinLines_concat]
    simp only [ofText, hne, text, ofLines, Text.dropLast?_concat, Option.getD_some, hlines,
      endsWithLineFeed, hend, beq_self_eq_true, if_true, Bool.false_eq_true, if_false, List.map_cons]
  · have hfinal : endsWithLineFeed t = false := beq_eq_false_iff_ne.2 hend
    simp only [ofText, text, ofLines, hfinal, Bool.false_eq_true, if_false, List.append_nil,
      Text.dropLast?_eq_none hend, Option.getD_none]
    split
    · next hempty =>
      rw [List.isEmpty_iff.1 hempty]
      rfl
    · rfl

/-- The text that a source gives back is the one that it was made from, without the carriage return
of each line break, exactly if that text does not end with a carriage return; this one is dropped as
well. If nothing is to be dropped there is no such line break. -/
theorem text_ofText_iff (t : Text) (name : Option String) :
    (ofText t name).text ++ finalReturn t = plainBreaks t ∧
      ((ofText t name).text = plainBreaks t ↔ t.getLast? ≠ some '\r') ∧
      (plainBreaks t = t ↔ ¬ ['\r', '\n'] <:+: t) := by
  have htext : (ofText t name).text ++ finalReturn t = plainBreaks t := by
    rw [text_ofText, joinLines_map_dropReturn]
  refine ⟨htext, ?_, Text.plainBreaks_eq_self_iff t⟩
  rw [← htext, eq_comm, List.append_right_eq_self, finalReturn]
  split
  · next hreturn => exact iff_of_false (List.cons_ne_nil _ _) (fun h => h hreturn)
  · next hreturn => exact iff_of_true rfl hreturn

/-- A carriage return at the end of a text stands before no line feed, and is lost. -/
theorem not_text_ofText_eq_plainBreaks :
    ¬ ∀ (t : Text) (name : Option String), (ofText t name).text = plainBreaks t := by
  intro h
  exact absurd (h ['a', '\r'] none) (by decide)

end Source

end YamlListing
