import YamlListing.Proofs.Yaml.Run

set_option autoImplicit false

/-! # The nesting of flow collections

The lexer and the classifier keep apart how many flow collections are open: the one by the brackets
that it reads, the other by the kinds of the tokens that it is given. After every token of a text
they stand at the same number (`nesting_agrees`), so it does not matter which of the two the
segments are read off with. -/

namespace YamlListing.Yaml

open Lexer (Counts steps tokenize bracketsAfter)
open Segment (flowAfter ofToken ofTokensFrom)

/-- The segments of steps that follow a given token, read off with the numbers of open flow
    collections that the lexer has put down. -/
def Segment.ofSteps (before : Option Token) : List Lexer.Step → List Segment
  | [] => []
  | step :: after =>
    ofToken before step.flow step.token (after.map (·.token)) ++ ofSteps (some step.token) after

namespace Lexer.Counts

variable {flow final : Nat} {steps : List Lexer.Step}

/-- The numbers along counted steps are those that the kinds of their tokens lead through. -/
theorem flows_eq_scanl (h : Counts flow steps final) : flow :: steps.map (·.flow) =
    (steps.map (·.token)).scanl (fun flow token => flowAfter flow token.kind) flow := by
  induction h with
  | nil flow => rfl
  | @cons flow final step steps hstep _ _ ih =>
    rw [List.map_cons, List.map_cons, List.scanl_cons, ih, hstep]

/-- So are they those that the brackets lead through. -/
theorem flows_eq_scanl_brackets (h : Counts flow steps final) :
    flow :: steps.map (·.flow) = (steps.map (·.token)).scanl bracketsAfter flow := by
  induction h with
  | nil flow => rfl
  | @cons flow final step steps _ hbrackets _ ih =>
    rw [List.map_cons, List.map_cons, List.scanl_cons, ih, hbrackets]

/-- What the classifier counts for itself, it could take from counted steps. -/
theorem ofTokensFrom_eq_ofSteps (h : Counts flow steps final) (before : Option Token) :
    ofTokensFrom before flow (steps.map (·.token)) = Segment.ofSteps before steps := by
  induction h generalizing before with
  | nil flow => rfl
  | @cons flow final step steps hstep _ _ ih =>
    rw [List.map_cons, ofTokensFrom, ← hstep, ih, Segment.ofSteps]

end Lexer.Counts

/-- After each token of a text the classifier counts as many open flow collections as the lexer did
right after it pushed that token, and this is the number that the brackets give which are read up
to there. Classifying with the numbers of the lexer gives the same segments. -/
theorem nesting_agrees (t : Text) :
    0 :: (steps t).map (·.flow) =
        (tokenize t).scanl (fun flow token => flowAfter flow token.kind) 0 ∧
      0 :: (steps t).map (·.flow) = (tokenize t).scanl bracketsAfter 0 ∧
      Segment.ofText t = Segment.ofSteps none (steps t) := by
  obtain ⟨final, hcounts⟩ := Lexer.steps_counts t
  exact ⟨hcounts.flows_eq_scanl, hcounts.flows_eq_scanl_brackets,
    hcounts.ofTokensFrom_eq_ofSteps none⟩

/-- A closing bracket before any other is stray, brackets in quotes do not count, and a marker
closes what is open. -/
example : (steps "] [\x7b'['\n---\n]".toList).map (·.flow) = [0, 1, 2, 2, 0, 0] := by
  decide +kernel

end YamlListing.Yaml
