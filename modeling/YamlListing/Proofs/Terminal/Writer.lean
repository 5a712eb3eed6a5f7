import YamlListing.Proofs.Terminal.Screen
import YamlListing.Terminal.Writer

set_option autoImplicit false

/-! # What a writer makes a terminal show

A writer leaves out the sequences that would change nothing. This is right as long as it knows the
look that its terminal has, which every step keeps up (`IsSwitch`). So a line of runs is shown as if
each run stood alone between the sequences of its style and a reset (`read_line_eq_plainly`). -/

namespace YamlListing

open Terminal (Look Cell Screen Writer)

namespace Style

/-- What a terminal shows for a color that may be missing. -/
def cellColor (depth : ColorDepth) : Option Color → CellColor
  | some c => (CellColor.ofColor c).downgrade depth
  | none => .default

/-- The look that a style asks of a terminal. -/
def look (depth : ColorDepth) (s : Style) : Look :=
  ⟨cellColor depth s.foreground, cellColor depth s.background, s.attributes⟩

/-- A text in the look of a style. -/
def cells (depth : ColorDepth) (s : Style) (t : Text) : List Cell := t.map (⟨·, s.look depth⟩)

end Style

namespace Terminal.Writer

/-- The look that a writer takes its terminal to have. -/
def look (w : Writer) : Look := ⟨w.foreground, w.background, w.attributes⟩

/-- Writes runs one after the other. -/
def runs (w : Writer) : List (Style × Text) → Text × Writer
  | [] => ([], w)
  | (s, t) :: rest =>
    let (written, w) := w.run s t
    let (others, w) := w.runs rest
    (written ++ others, w)

/-- Writes runs and goes back to the reset state. -/
def line (w : Writer) (rs : List (Style × Text)) : Text :=
  (w.runs rs).1 ++ (w.runs rs).2.finish.1

theorem line_cons (w : Writer) (s : Style) (t : Text) (rest : List (Style × Text)) :
    w.line ((s, t) :: rest) = (w.run s t).1 ++ (w.run s t).2.line rest := by
  simp only [line, runs, List.append_assoc]

/-- Runs of which each begins and ends in the reset state. -/
def plainly (depth : ColorDepth) (rs : List (Style × Text)) : Text :=
  rs.flatMap fun r => Sgr.style depth r.1 ++ r.2 ++ Sgr.reset

/-! ## Switches -/

/-- A text that takes a terminal from the look that `w` knows to the one that `w'` knows, and shows
nothing. -/
structure IsSwitch (t : Text) (w w' : Writer) : Prop where
  depth : w'.depth = w.depth
  read : ∀ shown, (Screen.outside w.look shown).read t = .outside w'.look shown

section IsSwitch

variable {t u : Text} {w w' w'' : Writer}

theorem IsSwitch.refl (w : Writer) : IsSwitch [] w w := ⟨rfl, fun _ => rfl⟩

theorem IsSwitch.append (h : IsSwitch t w w') (h' : IsSwitch u w' w'') :
    IsSwitch (t ++ u) w w'' := by
  refine ⟨h'.depth.trans h.depth, ?_⟩
  intro shown
  rw [Screen.read_append, h.read, h'.read]

theorem setForeground_isSwitch (w : Writer) (c : CellColor) :
    IsSwitch (w.setForeground c).1 w (w.setForeground c).2 := by
  rw [setForeground]
  split
  · exact .refl w
  · exact ⟨rfl, fun _ => Screen.read_foreground c⟩

theorem setBackground_isSwitch (w : Writer) (c : CellColor) :
    IsSwitch (w.setBackground c).1 w (w.setBackground c).2 := by
  rw [setBackground]
  split
  · exact .refl w
  · exact ⟨rfl, fun _ => Screen.read_background c⟩

theorem setAttributes_isSwitch (w : Writer) (a : Attributes) :
    IsSwitch (w.setAttributes a).1 w (w.setAttributes a).2 := by
  rw [setAttributes]
  split
  · exact .refl w
  · split
    · next h =>
      have hnone : w.look.attributes = {} := eq_of_beq h
      exact ⟨rfl, fun _ => Screen.read_attributes hnone a⟩
    · -- The reset takes the colors away too, which is why the writer forgets them here.
      refine ⟨rfl, ?_⟩
      intro shown
      rw [Screen.read_append, Screen.read_reset, Screen.read_attributes rfl]
      rfl

theorem setForeground_look (w : Writer) (c : CellColor) :
    (w.setForeground c).2.look = { w.look with foreground := c } := by
  rw [setForeground]
  split
  · next h => rw [h]; rfl
  · rfl

theorem setBackground_look (w : Writer) (c : CellColor) :
    (w.setBackground c).2.look = { w.look with background := c } := by
  rw [setBackground]
  split
  · next h => rw [h]; rfl
  · rfl

theorem setAttributes_look_attributes (w : Writer) (a : Attributes) :
    (w.setAttributes a).2.look.attributes = a := by
  rw [setAttributes]
  split
  · next h => exact h.symm
  · split <;> rfl

theorem shown_eq_cellColor (w : Writer) (c : Option Color) :
    w.shown c = Style.cellColor w.depth c := by
  cases c <;> rfl

theorem apply_isSwitch (w : Writer) (s : Style) : IsSwitch (w.apply s).1 w (w.apply s).2 := by
  simp only [apply]
  exact ((setAttributes_isSwitch w _).append (setForeground_isSwitch _ _)).append
    (setBackground_isSwitch _ _)

/-- After a switch to a style the terminal has the look of the style. -/
theorem apply_look (w : Writer) (s : Style) : (w.apply s).2.look = s.look w.depth := by
  simp only [apply]
  rw [setBackground_look, setForeground_look, shown_eq_cellColor, shown_eq_cellColor]
  simp only [setAttributes_look_attributes, Style.look]

theorem finish_isSwitch (w : Writer) : IsSwitch w.finish.1 w w.finish.2 := by
  rw [finish]
  split
  · exact ⟨rfl, fun _ => Screen.read_reset⟩
  · exact .refl w

theorem finish_look (w : Writer) : w.finish.2.look = .plain := by
  rw [finish]
  split
  · rfl
  · next h =>
    -- A writer that has nothing to take back knows the look after a reset.
    obtain ⟨depth, foreground, background, attributes⟩ := w
    simp only [isDirty, Bool.or_eq_true, Bool.not_eq_true', not_or, Bool.not_eq_false] at h
    obtain ⟨⟨hf, hb⟩, ha⟩ := h
    have hdefault : ∀ {c : CellColor}, c.isDefault = true → c = .default := by
      intro c hc
      cases c <;> first | rfl | cases hc
    rw [look, Look.plain, hdefault hf, hdefault hb, eq_of_beq ha]
    rfl

end IsSwitch

/-! ## Runs -/

section runs

variable {w : Writer} {rs : List (Style × Text)} {shown : List Cell}

/-- A run shows its text in the look of its style, which the writer knows afterwards. -/
theorem read_run (w : Writer) (shown : List Cell) (s : Style) {t : Text} (h : '\x1b' ∉ t) :
    (Screen.outside w.look shown).read (w.run s t).1 =
      .outside (w.run s t).2.look (shown ++ s.cells w.depth t) := by
  simp only [run]
  rw [Screen.read_append, (apply_isSwitch w s).read, Screen.read_text h, apply_look]
  rfl

theorem run_depth (w : Writer) (s : Style) (t : Text) : (w.run s t).2.depth = w.depth :=
  (apply_isSwitch w s).depth

/-- Runs show their texts in the looks of their styles. The writer knows the look of the terminal
after them if it does before. -/
theorem read_runs (w : Writer) (shown : List Cell) (h : ∀ r ∈ rs, '\x1b' ∉ r.2) :
    (Screen.outside w.look shown).read (w.runs rs).1 =
      .outside (w.runs rs).2.look (shown ++ rs.flatMap fun r => r.1.cells w.depth r.2) := by
  induction rs generalizing w shown with
  | nil => rw [runs, Screen.read_nil, List.flatMap_nil, List.append_nil]
  | cons r rs ih =>
    obtain ⟨hr, hrs⟩ := List.forall_mem_cons.1 h
    simp only [runs]
    rw [Screen.read_append, read_run w shown r.1 hr, ih _ _ hrs, run_depth, List.flatMap_cons,
      List.append_assoc]

/-- A line of runs shows the texts of the runs in the looks of their styles and leaves the terminal
in the reset state. -/
theorem read_line (w : Writer) (shown : List Cell) (h : ∀ r ∈ rs, '\x1b' ∉ r.2) :
    (Screen.outside w.look shown).read (w.line rs) =
      .outside .plain (shown ++ rs.flatMap fun r => r.1.cells w.depth r.2) := by
  rw [line, Screen.read_append, read_runs w shown h, (finish_isSwitch _).read, finish_look]

theorem read_style (depth : ColorDepth) (s : Style) (shown : List Cell) :
    (Screen.outside .plain shown).read (Sgr.style depth s) = .outside (s.look depth) shown := by
  simp only [Sgr.style]
  rw [Screen.read_append, Screen.read_append, Screen.read_attributes rfl]
  cases hf : s.foreground <;> cases hb : s.background <;>
    simp only [Screen.read_nil, Screen.read_foreground, Screen.read_background, Style.look,
      Style.cellColor, Look.plain, hf, hb]

theorem read_plainly (depth : ColorDepth) (shown : List Cell) (h : ∀ r ∈ rs, '\x1b' ∉ r.2) :
    (Screen.outside .plain shown).read (plainly depth rs) =
      .outside .plain (shown ++ rs.flatMap fun r => r.1.cells depth r.2) := by
  induction rs generalizing shown with
  | nil => simp [plainly]
  | cons r rs ih =>
    obtain ⟨hr, hrs⟩ := List.forall_mem_cons.1 h
    have hcons : plainly depth (r :: rs) =
        Sgr.style depth r.1 ++ r.2 ++ Sgr.reset ++ plainly depth rs := List.flatMap_cons
    rw [hcons, Screen.read_append, Screen.read_append, Screen.read_append, read_style,
      Screen.read_text hr, Screen.read_reset, ih _ hrs, List.flatMap_cons, List.append_assoc]
    rfl

end runs

/-- Runs without escapes look the same whether a writer writes them or each one stands alone between
the sequences of its style and a reset: every character is shown in the look of its style and the
terminal ends in the reset state. Before each run the writer knows the look of the terminal. -/
theorem read_line_eq_plainly (depth : ColorDepth) (rs : List (Style × Text))
    (h : ∀ r ∈ rs, '\x1b' ∉ r.2) :
    Screen.blank.read ((new depth).line rs) = Screen.blank.read (plainly depth rs) ∧
      Screen.blank.read ((new depth).line rs) =
        .outside .plain (rs.flatMap fun r => r.1.cells depth r.2) ∧
      ∀ done rest, rs = done ++ rest →
        Screen.blank.read ((new depth).runs done).1 =
          .outside ((new depth).runs done).2.look (done.flatMap fun r => r.1.cells depth r.2) := by
  have hblank : Screen.blank = .outside (new depth).look [] := rfl
  have hline := read_line (new depth) [] h
  refine ⟨?_, ?_, ?_⟩
  · rw [hblank, hline]
    exact (read_plainly depth [] h).symm
  · rw [hblank, hline]
    rfl
  · rintro done rest rfl
    rw [hblank, read_runs (new depth) [] fun r hr => h r (List.mem_append_left _ hr)]
    rfl

/-- Going from bold to italic takes a reset, and going back to plain text another one. -/
theorem read_line_bold_italic_plain :
    let rs := [(Style.plain.bold, ['a']), (Style.plain.italic, ['b']), (Style.plain, ['c'])]
    let shown := [Cell.mk 'a' ⟨.default, .default, { bold := true }⟩,
      ⟨'b', ⟨.default, .default, { italic := true }⟩⟩, ⟨'c', .plain⟩]
    Screen.blank.read ((new .ansi16).line rs) = Screen.blank.read (plainly .ansi16 rs) ∧
      Screen.blank.read ((new .ansi16).line rs) = .outside .plain shown ∧
      Screen.blank.read ((new .ansi16).runs (rs.take 2)).1 =
        .outside ((new .ansi16).runs (rs.take 2)).2.look (shown.take 2) := by
  obtain ⟨hplainly, hshown, hknown⟩ := read_line_eq_plainly .ansi16
    [(Style.plain.bold, ['a']), (Style.plain.italic, ['b']), (Style.plain, ['c'])] (by decide)
  exact ⟨hplainly, hshown, hknown [_, _] [_] rfl⟩

end Terminal.Writer

end YamlListing
