import YamlListing.Proofs.Listing.Print

set_option autoImplicit false

/-! # What a printer remembers does not show

A composer numbers its compositions as it is asked for them, so the cells of a line depend on
everything that its printer printed before. What is written does not: a line is cut into runs where
two handles differ, and handles that two composers make by the same recipes differ in the same
places (`Composer.Twins`). So the text of a line only depends on its characters, its segments and
what lies over each of its columns (`line_congr`), and a listing is put together from the texts of
its lines (`lines_eq`, `groups_eq`). -/

namespace YamlListing

namespace Composer

variable {given : Handle → Prop} {c c' : Composer} {a b a' b' : Handle}

/-- Handles that two composers make by one recipe. -/
def Twins (given : Handle → Prop) (c c' : Composer) (a a' : Handle) : Prop :=
  ∃ r, Makes given c r a ∧ Makes given c' r a'

theorem Twins.style_eq (hs : c.IsSound given) (hs' : c'.IsSound given)
    (h : Twins given c c' a a') : a.style = a'.style := by
  obtain ⟨r, hmakes, hmakes'⟩ := h
  rw [hmakes.style_eq hs.toIsFaithful, hmakes'.style_eq hs'.toIsFaithful]

/-- Two handles are the same one exactly when their twins are. -/
theorem Twins.same_eq (hs : c.IsSound given) (hs' : c'.IsSound given) (ha : Twins given c c' a a')
    (hb : Twins given c c' b b') : a.same b = a'.same b' := by
  obtain ⟨r, hra, hra'⟩ := ha
  obtain ⟨t, htb, htb'⟩ := hb
  have hiff : a.id = b.id ↔ a'.id = b'.id := by
    constructor
    · intro hid
      obtain rfl := hra.recipe_eq hs htb hid
      rw [hra'.unique hs'.toIsFaithful htb']
    · intro hid
      obtain rfl := hra'.recipe_eq hs' htb' hid
      rw [hra.unique hs.toIsFaithful htb]
  rw [Bool.eq_iff_iff, Handle.same, Handle.same, beq_iff_eq, beq_iff_eq]
  exact hiff

end Composer

namespace Run

open Composer (Twins)

/-- The text of a run with its style, which is all of it that is written. -/
def painted (r : Run) : Style × Text := (r.handle.style, r.text)

/-- Runs with the same texts and styles are written the same. -/
theorem emit_congr {o : ListingOptions} {runs runs' : List Run}
    (h : runs.map painted = runs'.map painted) (w : Terminal.Writer) (column : Nat) :
    emit o w column runs = emit o w column runs' := by
  induction runs generalizing runs' w column with
  | nil =>
    rw [List.map_nil, eq_comm, List.map_eq_nil_iff] at h
    rw [h]
  | cons r runs ih =>
    cases runs' with
    | nil => cases h
    | cons r' runs' =>
      obtain ⟨hfirst, hrest⟩ := List.cons.inj h
      obtain ⟨hstyle, htext⟩ := Prod.mk.inj hfirst
      simp only [emit, hstyle, htext]
      rw [ih hrest]

/-- The same character with twins for handles. -/
def CellTwins (given : Handle → Prop) (c c' : Composer) (x x' : Char × Handle) : Prop :=
  x.1 = x'.1 ∧ Twins given c c' x.2 x'.2

section twins

variable {given : Handle → Prop} {c c' : Composer} {own own' : Handle}
  {cells cells' : List (Char × Handle)}

theorem map_fst_eq_of_twins (h : List.Forall₂ (CellTwins given c c') cells cells') :
    cells.map Prod.fst = cells'.map Prod.fst := by
  rw [← List.forall₂_eq_eq_eq, List.forall₂_map_left_iff, List.forall₂_map_right_iff]
  exact h.imp fun _ _ hcell => hcell.1

section sound

variable (hs : c.IsSound given) (hs' : c'.IsSound given)
include hs hs'

/-- As many cells go on with a handle as twins of theirs go on with its twin. -/
theorem extent_eq (hown : Twins given c c' own own')
    (h : List.Forall₂ (CellTwins given c c') cells cells') (limit : Option Nat) :
    extent own limit cells = extent own' limit cells' := by
  have hlength : (cells.takeWhile fun cell => cell.2.same own).length =
      (cells'.takeWhile fun cell => cell.2.same own').length := by
    induction h with
    | nil => rfl
    | cons hcell _ ih =>
      rw [List.takeWhile_cons, List.takeWhile_cons, hcell.2.same_eq hs hs' hown]
      split
      · rw [List.length_cons, List.length_cons, ih]
      · rfl
  simp only [extent, hlength]

theorem painted_extent (hown : Twins given c c' own own')
    (h : List.Forall₂ (CellTwins given c c') cells cells') (limit : Option Nat) (x : Char) :
    painted ⟨own, x :: (cells.take (extent own limit cells)).map Prod.fst⟩ =
      painted ⟨own', x :: (cells'.take (extent own' limit cells')).map Prod.fst⟩ := by
  rw [painted, painted, hown.style_eq hs hs', extent_eq hs hs' hown h,
    map_fst_eq_of_twins (List.forall₂_take _ h)]

/-- Cells and their twins are cut into runs at the same places. -/
theorem map_painted_runsFrom (column : Nat) (inserts : List (Nat × Handle))
    (h : List.Forall₂ (CellTwins given c c') cells cells') :
    (runsFrom column inserts cells).map painted = (runsFrom column inserts cells').map painted := by
  -- A run of the cells and one of their twins take equally many, and what is left are twins again.
  induction column, inserts, cells using runsFrom.induct generalizing cells' with
  | case1 column due handle inserts cells hdue ih =>
    rw [runsFrom_of_due hdue, runsFrom_of_due hdue, List.map_cons, List.map_cons, ih h]
  | case2 column due handle inserts hdue =>
    cases h
    rfl
  | case3 column due handle inserts hdue x own rest n =>
    rename_i ih
    obtain ⟨⟨x', own'⟩, rest', ⟨hchar, hown⟩, hrest, rfl⟩ := List.forall₂_cons_left_iff.1 h
    obtain rfl : x = x' := hchar
    rw [runsFrom, runsFrom, if_neg hdue, if_neg hdue, List.map_cons, List.map_cons,
      ih (List.forall₂_drop _ hrest), painted_extent hs hs' hown hrest,
      ← extent_eq hs hs' hown hrest]
  | case4 column x own rest n =>
    rename_i ih
    obtain ⟨⟨x', own'⟩, rest', ⟨hchar, hown⟩, hrest, rfl⟩ := List.forall₂_cons_left_iff.1 h
    obtain rfl : x = x' := hchar
    rw [runsFrom, runsFrom, List.map_cons, List.map_cons, ih (List.forall₂_drop _ hrest),
      painted_extent hs hs' hown hrest, ← extent_eq hs hs' hown hrest]
  | case5 column =>
    cases h
    rfl

end sound

/-- Characters with cells that two composers make by the same recipes. -/
theorem Paints.zip_twins {f : Nat → Recipe} {n : Nat} {handles handles' : List Handle}
    (h : Paints given c f n handles) (h' : Paints given c' f n handles')
    (hlength : handles.length = handles'.length) (text : Text) :
    List.Forall₂ (CellTwins given c c') (text.zip handles) (text.zip handles') := by
  induction text generalizing n handles handles' with
  | nil => exact .nil
  | cons x text ih =>
    cases handles with
    | nil =>
      obtain rfl := List.length_eq_zero_iff.1 hlength.symm
      exact .nil
    | cons handle handles =>
      cases handles' with
      | nil => cases hlength
      | cons handle' handles' =>
        exact .cons ⟨rfl, f n, h.1, h'.1⟩ (ih h.2 h'.2 (Nat.succ.inj hlength))

end twins

end Run

namespace Source

/-- Lines, perhaps of two sources, with the same text, the same segments, and the same categories
laid over their columns. -/
structure SameLine (s : Source) (n : Nat) (t : Source) (m : Nat) : Prop where
  text : (s.line? n).getD [] = (t.line? m).getD []
  segments : s.segmentsAt n = t.segmentsAt m
  laid : ∀ column, 1 ≤ column → column ≤ ((s.line? n).getD []).length →
    categoriesOver s.overlays ⟨n, column⟩ = categoriesOver t.overlays ⟨m, column⟩

theorem SameLine.refl (s : Source) (n : Nat) : s.SameLine n s n :=
  ⟨rfl, rfl, fun _ _ _ => rfl⟩

end Source

namespace Run

/-- Composers that have composed different things cut the same line into runs that look the same. -/
theorem map_painted_ofLine {styles : Styles} {c c' : Composer} {s t : Source} {n m : Nat}
    (hs : c.IsSound styles.Gives) (hs' : c'.IsSound styles.Gives) (h : s.SameLine n t m) :
    (ofLine styles s n c).1.map painted = (ofLine styles t m c').1.map painted := by
  have hblends := lineCells_blends s hs n
  have hblends' := lineCells_blends t hs' m
  have hlength := length_lineCells s hs n
  have hlength' := length_lineCells t hs' m
  have hrecipes : Paints styles.Gives (lineCells styles t m c').2
      (fun column => s.recipeAt styles ⟨n, column⟩) 1 (lineCells styles t m c').1 := by
    refine hblends'.paints.congr ?_
    intro column hlow hhigh
    rw [hlength', ← h.text] at hhigh
    have hover := h.laid column hlow (by omega)
    exact (Source.recipeAt_congr (p := ⟨n, column⟩) (q := ⟨m, column⟩) h.segments rfl hover).symm
  rw [ofLine_eq, ofLine_eq, ← h.text, ← h.segments]
  refine map_painted_runsFrom hblends.sound hblends'.sound 1 _ ?_
  refine hblends.paints.zip_twins hrecipes ?_ _
  rw [hlength, hlength', h.text]

end Run

namespace Printer

variable {o : ListingOptions} {p p' : Printer} {s t : Source} {n m : Nat}

/-! ## Whoever asks the composer

The composer of a printer is there for others too. They may ask it about handles of their own, and
they may clear it. -/

theorem IsReady.ask {given : Handle → Prop} {lower upper : Option Handle} (hoptions : p.options = o)
    (hs : p.composer.IsSound given) (hgiven : ∀ a, o.styles.Gives a → given a) (theme : Nat)
    (mode : ComposeMode) (hlower : ∀ a ∈ lower, Composer.Knows given p.composer a)
    (hupper : ∀ a ∈ upper, Composer.Knows given p.composer a) :
    { p with composer := (p.composer.blend theme lower upper mode).2 }.IsReady o :=
  ⟨hoptions, (hs.blend hlower hupper).anti hgiven⟩

theorem IsReady.clear (h : p.IsReady o) : { p with composer := p.composer.clear }.IsReady o :=
  ⟨h.options, h.sound.clear⟩

/-! ## The text of a line -/

/-- Whatever two composers remember, the same line is printed with the same text. -/
theorem line_congr (h : p.IsReady o) (h' : p'.IsReady o) (hline : s.SameLine n t m)
    (hgutter : ∀ gutter, o.gutter = some gutter →
      gutter ⟨s, o.styles, o.depth⟩ n = gutter ⟨t, o.styles, o.depth⟩ m) :
    (p.line s n).1 = (p'.line t m).1 := by
  obtain ⟨rfl, hs⟩ := h
  obtain ⟨hoptions, hs'⟩ := h'
  simp only [line, hoptions]
  rw [Run.emit_congr (Run.map_painted_ofLine hs hs' hline)]
  cases hsome : p.options.gutter with
  | none => rfl
  | some gutter => simp only [hgutter gutter hsome]

/-- The text of a line of a listing. -/
def lineText (o : ListingOptions) (source : Source) (n : Nat) : Text := ((new o).line source n).1

variable (h : p.IsReady o) (source : Source)
include h

theorem line_eq (n : Nat) : (p.line source n).1 = lineText o source n :=
  line_congr h (new_isReady o) (.refl source n) fun _ _ => rfl

/-! ## The text of a listing -/

/-- Lines are printed as the texts of the lines, with a line feed between neighbours. -/
theorem lines_eq (numbers : List Nat) :
    (p.lines source numbers).1 = Text.joinLines (numbers.map (lineText o source)) := by
  obtain ⟨outs, heq, houts, -⟩ := lines_eq_joinLines source
    (fun n out => lineText o source n = out) (fun _ n hp => (line_eq hp source n).symm) h numbers
  rw [← List.forall₂_map_left_iff (f := lineText o source) (R := Eq),
    List.forall₂_eq_eq_eq] at houts
  rw [heq, houts]

/-- Groups of lines are printed as the texts of the groups, with the separator between neighbours.
-/
theorem groups_eq (groups : List (List Nat)) :
    (p.groups source groups).1 = Text.joinWith ('\n' :: o.separator ++ ['\n'])
      (groups.map fun numbers => Text.joinLines (numbers.map (lineText o source))) := by
  induction groups generalizing p with
  | nil => rfl
  | cons numbers rest ih =>
    have hready := lines_isReady h source numbers
    cases rest with
    | nil => exact lines_eq h source numbers
    | cons next rest =>
      rw [List.map_cons, List.map_cons, Text.joinWith, ← lines_eq h source numbers]
      have hoptions := (groups_isReady hready source (next :: rest)).options
      rw [List.map_cons] at ih
      rw [← ih hready]
      simp only [groups, hoptions, List.cons_append, List.append_assoc, List.nil_append]

end Printer

end YamlListing
