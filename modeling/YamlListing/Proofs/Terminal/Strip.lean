import Mathlib.Data.List.Forall2
import YamlListing.Proofs.Terminal.Control
import YamlListing.Proofs.Terminal.Writer

set_option autoImplicit false

/-! # Taking sequences out again

A listing is a visible text with sequences put in that set graphics (`IsStyled`). So stripping gives
the visible text back, and no escape in a listing begins anything but such a sequence. What a writer
makes of runs of text is of this form (`Writer.line_isStyled`). -/

namespace YamlListing.Terminal

/-- `out` is the text `shown`, which has no escapes, with sequences put in that set graphics. -/
inductive IsStyled : (out shown : Text) → Prop where
  | nil : IsStyled [] []
  | char {out shown : Text} {c : Char} (hc : c ≠ '\x1b') (h : IsStyled out shown) :
    IsStyled (c :: out) (c :: shown)
  | sequence {out shown : Text} (params : List Nat) (h : IsStyled out shown) :
    IsStyled (Sgr.sequence params ++ out) shown

namespace IsStyled

variable {out out' shown shown' : Text}

theorem append (h : IsStyled out shown) (h' : IsStyled out' shown') :
    IsStyled (out ++ out') (shown ++ shown') := by
  induction h with
  | nil => exact h'
  | char hc _ ih => exact ih.char hc
  | sequence params _ ih =>
    rw [List.append_assoc]
    exact ih.sequence params

theorem ofText (h : '\x1b' ∉ shown) : IsStyled shown shown := by
  induction shown with
  | nil => exact .nil
  | cons c shown ih =>
    rw [List.mem_cons, not_or] at h
    exact (ih h.2).char (Ne.symm h.1)

theorem ofSequence (params : List Nat) : IsStyled (Sgr.sequence params) [] := by
  rw [← List.append_nil (Sgr.sequence params)]
  exact nil.sequence params

/-- Lines that are styled make a text that is. -/
theorem joinLines {outs lines : List Text} (h : List.Forall₂ IsStyled outs lines) :
    IsStyled (Text.joinLines outs) (Text.joinLines lines) := by
  induction h with
  | nil => exact .nil
  | cons hline hrest ih =>
    cases hrest with
    | nil => exact hline
    | cons _ _ => exact (hline.append (.ofText (by decide))).append ih

end IsStyled

/-! ## Stripping -/

theorem strip_cons {c : Char} (h : c ≠ '\x1b') (t : Text) : strip (c :: t) = c :: strip t := by
  rw [strip]
  rintro _ rfl
  exact absurd rfl h

theorem stripSequence_append {t : Text} (h : ∀ c ∈ t, isFinal c = false) (rest : Text) :
    stripSequence (t ++ rest) = stripSequence rest := by
  induction t with
  | nil => rfl
  | cons c t ih =>
    rw [List.cons_append, stripSequence, if_neg (by simp [h c List.mem_cons_self]),
      ih fun d hd => h d (List.mem_cons_of_mem _ hd)]

theorem strip_sequence_append (params : List Nat) (rest : Text) :
    strip (Sgr.sequence params ++ rest) = strip rest := by
  have hparams : ∀ c ∈ Text.joinWith [';'] (params.map Text.decimal), isFinal c = false :=
    fun c hc => isFinal_of_isDigit (mem_joinWith_decimal hc)
  rw [Sgr.sequence]
  simp only [List.append_assoc, List.cons_append, List.nil_append, strip]
  rw [stripSequence_append hparams, stripSequence, if_pos (by decide)]

theorem IsStyled.strip_eq {out shown : Text} (h : IsStyled out shown) : strip out = shown := by
  induction h with
  | nil => rfl
  | char hc _ ih => rw [strip_cons hc, ih]
  | sequence params _ ih => rw [strip_sequence_append, ih]

/-! ## Escapes -/

/-- Every escape begins a sequence that sets graphics. -/
def EscapesSet (t : Text) : Prop :=
  ∀ before after, t = before ++ '\x1b' :: after →
    ∃ params rest, after = '[' :: params ++ 'm' :: rest ∧
      ∀ c ∈ params, c.isDigit = true ∨ c = ';'

namespace EscapesSet

variable {t u : Text} {c : Char}

theorem cons (hc : c ≠ '\x1b') (h : EscapesSet t) : EscapesSet (c :: t) := by
  intro before after heq
  cases before with
  | nil => exact absurd (List.cons.inj heq).1 hc
  | cons b before => exact h before after (List.cons.inj heq).2

theorem append (ht : '\x1b' ∉ t) (h : EscapesSet u) : EscapesSet (t ++ u) := by
  induction t with
  | nil => exact h
  | cons c t ih =>
    rw [List.mem_cons, not_or] at ht
    exact (ih ht.2).cons (Ne.symm ht.1)

theorem sequence (params : List Nat) (h : EscapesSet u) :
    EscapesSet (Sgr.sequence params ++ u) := by
  have hmem : ∀ c ∈ Text.joinWith [';'] (params.map Text.decimal), c.isDigit = true ∨ c = ';' :=
    fun c hc => mem_joinWith_decimal hc
  intro before after heq
  cases before with
  | nil =>
    refine ⟨_, u, ?_, hmem⟩
    simp only [Sgr.sequence, List.nil_append, List.cons_append, List.append_assoc] at heq
    exact (List.cons.inj heq).2.symm
  | cons b before =>
    -- No other character of the sequence is an escape.
    have hrest : '\x1b' ∉ '[' :: (Text.joinWith [';'] (params.map Text.decimal) ++ ['m']) := by
      simp only [List.mem_cons, List.mem_append, List.not_mem_nil, or_false, not_or]
      refine ⟨by decide, ?_, by decide⟩
      intro hescape
      exact absurd (hmem _ hescape) (by decide)
    refine h.append hrest before after ?_
    simp only [Sgr.sequence, List.cons_append, List.nil_append] at heq
    exact (List.cons.inj heq).2

end EscapesSet

namespace IsStyled

variable {out shown : Text}

theorem escapesSet (h : IsStyled out shown) : EscapesSet out := by
  induction h with
  | nil =>
    intro before after heq
    exact absurd heq (by simp)
  | char hc _ ih => exact ih.cons hc
  | sequence params _ ih => exact ih.sequence params

/-- The only control of a sequence is the escape that begins it. -/
theorem eq_escape_of_mem_sequence {params : List Nat} {c : Char} (hc : c ∈ Sgr.sequence params)
    (hcontrol : isControl c = true) : c = '\x1b' := by
  simp only [Sgr.sequence, List.mem_append, List.mem_cons, List.not_mem_nil, or_false] at hc
  rcases hc with ((rfl | rfl) | hparams) | rfl
  · rfl
  · cases hcontrol
  · rcases mem_joinWith_decimal hparams with hdigit | rfl
    · rw [isControl_of_isDigit hdigit] at hcontrol
      cases hcontrol
    · cases hcontrol
  · cases hcontrol

/-- A control in a listing begins a sequence or is shown. -/
theorem control_cases (h : IsStyled out shown) {c : Char} (hc : c ∈ out)
    (hcontrol : isControl c = true) : c = '\x1b' ∨ c ∈ shown := by
  induction h with
  | nil => cases hc
  | char _ _ ih =>
    rcases List.mem_cons.1 hc with rfl | hc
    · exact Or.inr List.mem_cons_self
    · exact (ih hc).imp_right (List.mem_cons_of_mem _)
  | @sequence out shown params _ ih =>
    rcases List.mem_append.1 hc with hc | hc
    · exact Or.inl (eq_escape_of_mem_sequence hc hcontrol)
    · exact ih hc

/-- Apart from escapes, controls are shown as often as they are written. -/
theorem count_eq (h : IsStyled out shown) {c : Char} (hcontrol : isControl c = true)
    (hc : c ≠ '\x1b') : out.count c = shown.count c := by
  induction h with
  | nil => rfl
  | char _ _ ih => rw [List.count_cons, List.count_cons, ih]
  | @sequence out shown params _ ih =>
    have hnot : c ∉ Sgr.sequence params := fun hmem =>
      hc (eq_escape_of_mem_sequence hmem hcontrol)
    rw [List.count_append, List.count_eq_zero.2 hnot, Nat.zero_add, ih]

end IsStyled

/-! ## What writers write -/

namespace Writer

variable {rs : List (Style × Text)}

theorem attributes_isStyled (a : Attributes) : IsStyled (Sgr.attributes a) [] := by
  rw [Sgr.attributes]
  split
  · exact .nil
  · exact .ofSequence _

theorem setAttributes_isStyled (w : Writer) (a : Attributes) :
    IsStyled (w.setAttributes a).1 [] := by
  rw [setAttributes]
  split
  · exact .nil
  · split
    · exact attributes_isStyled a
    · exact (IsStyled.ofSequence _).append (attributes_isStyled a)

theorem setForeground_isStyled (w : Writer) (c : CellColor) :
    IsStyled (w.setForeground c).1 [] := by
  rw [setForeground]
  split
  · exact .nil
  · exact .ofSequence _

theorem setBackground_isStyled (w : Writer) (c : CellColor) :
    IsStyled (w.setBackground c).1 [] := by
  rw [setBackground]
  split
  · exact .nil
  · exact .ofSequence _

theorem run_isStyled (w : Writer) (s : Style) {t : Text} (h : '\x1b' ∉ t) :
    IsStyled (w.run s t).1 t := by
  simp only [run, apply]
  exact (((setAttributes_isStyled w _).append (setForeground_isStyled _ _)).append
    (setBackground_isStyled _ _)).append (.ofText h)

theorem finish_isStyled (w : Writer) : IsStyled w.finish.1 [] := by
  rw [finish]
  split
  · exact .ofSequence _
  · exact .nil

theorem runs_isStyled (w : Writer) (h : ∀ r ∈ rs, '\x1b' ∉ r.2) :
    IsStyled (w.runs rs).1 (rs.flatMap Prod.snd) := by
  induction rs generalizing w with
  | nil => exact .nil
  | cons r rs ih =>
    obtain ⟨hr, hrs⟩ := List.forall_mem_cons.1 h
    exact (run_isStyled w r.1 hr).append (ih _ hrs)

/-- A line of runs is the texts of the runs with sequences put in. -/
theorem line_isStyled (w : Writer) (h : ∀ r ∈ rs, '\x1b' ∉ r.2) :
    IsStyled (w.line rs) (rs.flatMap Prod.snd) := by
  rw [← List.append_nil (rs.flatMap Prod.snd)]
  exact (runs_isStyled w h).append (finish_isStyled _)

end Writer

end YamlListing.Terminal
