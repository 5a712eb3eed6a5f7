import Mathlib.Data.List.Basic
import YamlListing.Proofs.Text.Split
import YamlListing.Terminal.Sgr

set_option autoImplicit false

/-! # A terminal that reads text

A screen reads a text one character after the other, the way a terminal does that knows the
sequences which set graphics and no others. Every character outside of a sequence is shown, in the
look that the sequences before it have set (`Screen.read_text`, `Screen.read_sequence`). Line feeds
part the shown characters into rows. -/

namespace YamlListing.Terminal

/-- What a cell of a terminal has besides its character. -/
structure Look where
  foreground : CellColor
  background : CellColor
  attributes : Attributes
  deriving DecidableEq, Repr

/-- A character on a terminal. -/
structure Cell where
  char : Char
  look : Look
  deriving DecidableEq, Repr

/-! ## Parameters -/

namespace Look

variable {l : Look} {n : Nat}

/-- The look after a reset. -/
def plain : Look := ⟨.default, .default, {}⟩

/-- The color that a parameter names on its own; `base` is the parameter of the first one. -/
def classic? (base n : Nat) : Option CellColor :=
  if base ≤ n ∧ n < base + 8 then some (.indexed (.ofNat (n - base)))
  else if n = base + 9 then some .default
  else if base + 60 ≤ n ∧ n < base + 68 then some (.indexed (.ofNat (n - base - 52)))
  else none

/-- The attributes after a parameter. -/
def setAttribute (a : Attributes) : Nat → Attributes
  | 1 => { a with bold := true }
  | 2 => { a with dim := true }
  | 3 => { a with italic := true }
  | 4 => { a with underline := true }
  | 7 => { a with inverse := true }
  | 9 => { a with strikethrough := true }
  | 22 => { a with bold := false, dim := false }
  | 23 => { a with italic := false }
  | 24 => { a with underline := false }
  | 27 => { a with inverse := false }
  | 29 => { a with strikethrough := false }
  | _ => a

/-- The look after a parameter that stands for itself. -/
def set (l : Look) (n : Nat) : Look :=
  if n = 0 then plain
  else ⟨(classic? 30 n).getD l.foreground, (classic? 40 n).getD l.background,
    setAttribute l.attributes n⟩

/-- The look after the parameters of a sequence. 38 and 48 begin a color that takes several. -/
def apply (l : Look) : List Nat → Look
  | [] => l
  | 38 :: 5 :: n :: rest => { l with foreground := .indexed (.ofNat n) }.apply rest
  | 38 :: 2 :: r :: g :: b :: rest =>
    { l with foreground := .rgb (.ofNat r) (.ofNat g) (.ofNat b) }.apply rest
  | 48 :: 5 :: n :: rest => { l with background := .indexed (.ofNat n) }.apply rest
  | 48 :: 2 :: r :: g :: b :: rest =>
    { l with background := .rgb (.ofNat r) (.ofNat g) (.ofNat b) }.apply rest
  | n :: rest => (l.set n).apply rest

section classic

variable {base n i : Nat}

theorem classic?_of_lt (h : i < 8) : classic? base (base + i) = some (.indexed (.ofNat i)) := by
  rw [classic?, if_pos (by omega), Nat.add_sub_cancel_left]

theorem classic?_of_bright (h : 8 ≤ i) (h' : i < 16) :
    classic? base (base + 52 + i) = some (.indexed (.ofNat i)) := by
  rw [classic?, if_neg (by omega), if_neg (by omega), if_pos (by omega)]
  congr 3
  omega

theorem classic?_eq_none (h : n < base ∨ base + 10 ≤ n ∧ n < base + 60 ∨ base + 68 ≤ n) :
    classic? base n = none := by
  rw [classic?, if_neg (by omega), if_neg (by omega), if_neg (by omega)]

end classic

theorem setAttribute_of_le {a : Attributes} {n : Nat} (h : 30 ≤ n) : setAttribute a n = a := by
  unfold setAttribute
  split <;> first | omega | rfl

theorem apply_singleton {l : Look} {n : Nat} (h : 30 ≤ n) (h' : n ≠ 38) (h'' : n ≠ 48) :
    l.apply [n] =
      ⟨(classic? 30 n).getD l.foreground, (classic? 40 n).getD l.background, l.attributes⟩ := by
  simp only [apply, set, setAttribute_of_le h]
  rw [if_neg (by omega)]

/-- A color is set by one parameter that means nothing for the other ground, or by several. -/
theorem colorParams_cases {base other : Nat} (h : base = 30 ∧ other = 40 ∨ base = 40 ∧ other = 30)
    (c : CellColor) :
    (∃ n, Sgr.colorParams base c = [n] ∧ 30 ≤ n ∧ n ≠ 38 ∧ n ≠ 48 ∧
      classic? base n = some c ∧ classic? other n = none) ∨
    (∃ index, c = .indexed index ∧ Sgr.colorParams base c = [base + 8, 5, index.toNat]) ∨
    ∃ r g b, c = .rgb r g b := by
  cases c with
  | rgb r g b => exact Or.inr (Or.inr ⟨r, g, b, rfl⟩)
  | default =>
    refine Or.inl ⟨base + 9, rfl, by omega, by omega, by omega, ?_, classic?_eq_none (by omega)⟩
    rw [classic?, if_neg (by omega), if_pos rfl]
  | indexed index =>
    have hindex : UInt8.ofNat index.toNat = index := UInt8.ofNat_toNat
    by_cases hlow : index.toNat < 8
    · refine Or.inl ⟨base + index.toNat, by simp only [Sgr.colorParams, if_pos hlow], by omega,
        by omega, by omega, ?_, classic?_eq_none (by omega)⟩
      rw [classic?_of_lt hlow, hindex]
    by_cases hhigh : index.toNat < 16
    · refine Or.inl ⟨base + 52 + index.toNat,
        by simp only [Sgr.colorParams, if_neg hlow, if_pos hhigh], by omega, by omega, by omega,
        ?_, classic?_eq_none (by omega)⟩
      rw [classic?_of_bright (by omega) hhigh, hindex]
    · exact Or.inr (Or.inl ⟨index, rfl, by simp only [Sgr.colorParams, if_neg hlow, if_neg hhigh]⟩)

theorem colorParams_ne_nil (base : Nat) (c : CellColor) : Sgr.colorParams base c ≠ [] := by
  cases c with
  | default => exact List.cons_ne_nil _ _
  | rgb r g b => exact List.cons_ne_nil _ _
  | indexed index =>
    by_cases hlow : index.toNat < 8
    · simp [Sgr.colorParams, hlow]
    · by_cases hhigh : index.toNat < 16 <;> simp [Sgr.colorParams, hlow, hhigh]

theorem apply_foreground (l : Look) (c : CellColor) :
    l.apply (Sgr.colorParams 30 c) = { l with foreground := c } := by
  rcases colorParams_cases (Or.inl ⟨rfl, rfl⟩) c with
    ⟨n, hn, hle, h38, h48, hc, hnone⟩ | ⟨index, rfl, hn⟩ | ⟨r, g, b, rfl⟩
  · rw [hn, apply_singleton hle h38 h48, hc, hnone]
    rfl
  · rw [hn]
    simp [apply]
  · simp [Sgr.colorParams, apply]

theorem apply_background (l : Look) (c : CellColor) :
    l.apply (Sgr.colorParams 40 c) = { l with background := c } := by
  rcases colorParams_cases (Or.inr ⟨rfl, rfl⟩) c with
    ⟨n, hn, hle, h38, h48, hc, hnone⟩ | ⟨index, rfl, hn⟩ | ⟨r, g, b, rfl⟩
  · rw [hn, apply_singleton hle h38 h48, hc, hnone]
    rfl
  · rw [hn]
    simp [apply]
  · simp [Sgr.colorParams, apply]

/-- A look without attributes takes on those that a sequence sets. -/
theorem apply_labels (f b : CellColor) (a : Attributes) :
    apply ⟨f, b, {}⟩ (a.labels 1 2 3 4 7 9) = ⟨f, b, a⟩ := by
  -- None of the six parameters takes another one with it, so all sets can be tried.
  obtain ⟨bold, dim, italic, underline, inverse, strikethrough⟩ := a
  cases bold <;> cases dim <;> cases italic <;> cases underline <;> cases inverse <;>
    cases strikethrough <;> rfl

theorem labels_ne_nil {a : Attributes} (h : a.isNone = false) : a.labels 1 2 3 4 7 9 ≠ [] := by
  revert h
  obtain ⟨bold, dim, italic, underline, inverse, strikethrough⟩ := a
  cases bold <;> cases dim <;> cases italic <;> cases underline <;> cases inverse <;>
    cases strikethrough <;> decide

end Look

/-! ## Reading -/

/-- The numbers that the parameters of a sequence write; one that is left out counts as 0. -/
def parameters (t : Text) : List Nat :=
  (Text.splitOn ';' t).map fun digits => Nat.ofDigitChars 10 digits 0

theorem not_mem_decimal {c : Char} (h : c.isDigit = false) (n : Nat) : c ∉ Text.decimal n := by
  intro hc
  rw [Text.isDigit_of_mem_decimal hc] at h
  cases h

theorem parameters_joinWith {ns : List Nat} (h : ns ≠ []) :
    parameters (Text.joinWith [';'] (ns.map Text.decimal)) = ns := by
  have hsplit : Text.splitOn ';' (Text.joinWith [';'] (ns.map Text.decimal)) =
      ns.map Text.decimal := by
    refine Text.splitOn_joinWith (by simpa using h) ?_
    intro digits hdigits
    obtain ⟨n, -, rfl⟩ := List.mem_map.1 hdigits
    exact not_mem_decimal (by decide) n
  have hread : ∀ n, Nat.ofDigitChars 10 (Text.decimal n) 0 = n := fun n =>
    Nat.ofDigitChars_toDigits (by decide) (by decide)
  rw [parameters, hsplit, List.map_map]
  exact List.map_id'' hread ns

/-- The characters between the ends of a sequence are digits and semicolons. -/
theorem mem_joinWith_decimal {ns : List Nat} {c : Char}
    (h : c ∈ Text.joinWith [';'] (ns.map Text.decimal)) : c.isDigit = true ∨ c = ';' := by
  induction ns with
  | nil => cases h
  | cons n ns ih =>
    cases ns with
    | nil => exact Or.inl (Text.isDigit_of_mem_decimal h)
    | cons m ns =>
      rw [List.map_cons, List.map_cons, Text.joinWith, List.mem_append, List.mem_append,
        List.mem_singleton] at h
      rcases h with (h | h) | h
      · exact Or.inl (Text.isDigit_of_mem_decimal h)
      · exact Or.inr h
      · exact ih h

theorem isFinal_of_isDigit {c : Char} (h : c.isDigit = true ∨ c = ';') : isFinal c = false := by
  rcases h with h | rfl
  · -- Digits come before the characters that end a sequence.
    rw [Char.isDigit, Bool.and_eq_true, decide_eq_true_eq, decide_eq_true_eq] at h
    rw [isFinal, Bool.and_eq_false_iff, decide_eq_false_iff_not]
    left
    intro hc
    have hle : ('@' : Char).val ≤ '9'.val := UInt32.le_trans hc h.2
    revert hle
    decide
  · decide

/-- Where a terminal is in the text that it reads: outside of sequences, after an escape, or in a
sequence of which it has read some parameters. -/
inductive Reading where
  | text
  | escape
  | sequence (params : Text)
  deriving DecidableEq, Repr

/-- What a terminal has shown so far, and how it will go on. -/
structure Screen where
  look : Look
  reading : Reading
  shown : List Cell
  deriving DecidableEq, Repr

namespace Screen

/-- A terminal outside of sequences. -/
def outside (look : Look) (shown : List Cell) : Screen := ⟨look, .text, shown⟩

/-- A terminal after a reset. -/
def blank : Screen := outside .plain []

/-- Reads a character. Sequences other than those which set graphics have no effect. -/
def feed (s : Screen) (c : Char) : Screen :=
  match s.reading with
  | .text =>
    if c = '\x1b' then { s with reading := .escape }
    else { s with shown := s.shown ++ [⟨c, s.look⟩] }
  | .escape => { s with reading := if c = '[' then .sequence [] else .text }
  | .sequence params =>
    if c = 'm' then { s with reading := .text, look := s.look.apply (parameters params) }
    else { s with reading := if isFinal c then .text else .sequence (params ++ [c]) }

/-- Reads a text. -/
def read (s : Screen) (t : Text) : Screen := t.foldl feed s

/-- What is shown, row by row. -/
def rows (s : Screen) : List (List Cell) := s.shown.splitOnP (·.char == '\n')

@[simp] theorem read_nil (s : Screen) : s.read [] = s := rfl

theorem read_cons (s : Screen) (c : Char) (t : Text) : s.read (c :: t) = (s.feed c).read t := rfl

@[simp] theorem read_append (s : Screen) (t u : Text) : s.read (t ++ u) = (s.read t).read u :=
  List.foldl_append

section outside

variable {l : Look} {shown : List Cell}

/-- A text without escapes is shown as it is. -/
theorem read_text {t : Text} (h : '\x1b' ∉ t) :
    (outside l shown).read t = outside l (shown ++ t.map (⟨·, l⟩)) := by
  induction t generalizing shown with
  | nil => rw [read_nil, List.map_nil, List.append_nil]
  | cons c t ih =>
    rw [List.mem_cons, not_or] at h
    have hfeed : (outside l shown).feed c = outside l (shown ++ [⟨c, l⟩]) := by
      simp only [feed, outside, if_neg (Ne.symm h.1)]
    rw [read_cons, hfeed, ih h.2, List.append_assoc, List.map_cons, List.singleton_append]

theorem read_params {params t : Text} (h : ∀ c ∈ t, isFinal c = false) :
    read ⟨l, .sequence params, shown⟩ t = ⟨l, .sequence (params ++ t), shown⟩ := by
  induction t generalizing params with
  | nil => rw [read_nil, List.append_nil]
  | cons c t ih =>
    have hc : isFinal c = false := h c List.mem_cons_self
    have hm : c ≠ 'm' := by
      rintro rfl
      exact absurd hc (by decide)
    have hfeed : feed ⟨l, .sequence params, shown⟩ c = ⟨l, .sequence (params ++ [c]), shown⟩ := by
      simp only [feed, if_neg hm, hc, Bool.false_eq_true, if_false]
    rw [read_cons, hfeed, ih fun d hd => h d (List.mem_cons_of_mem _ hd), List.append_assoc,
      List.singleton_append]

/-- A sequence changes the look of what follows and shows nothing. -/
theorem read_sequence {ns : List Nat} (h : ns ≠ []) :
    (outside l shown).read (Sgr.sequence ns) = outside (l.apply ns) shown := by
  have hparams : ∀ c ∈ Text.joinWith [';'] (ns.map Text.decimal), isFinal c = false := fun c hc =>
    isFinal_of_isDigit (mem_joinWith_decimal hc)
  have hopen : (outside l shown).read ['\x1b', '['] = ⟨l, .sequence [], shown⟩ := rfl
  rw [Sgr.sequence, read_append, read_append, hopen, read_params hparams, List.nil_append,
    read_cons, read_nil]
  simp only [feed, if_true, parameters_joinWith h, outside]

/-! ### The sequences of a listing -/

theorem read_reset : (outside l shown).read Sgr.reset = outside .plain shown :=
  read_sequence (List.cons_ne_nil _ _)

theorem read_foreground (c : CellColor) :
    (outside l shown).read (Sgr.foreground c) = outside { l with foreground := c } shown := by
  rw [Sgr.foreground, read_sequence (Look.colorParams_ne_nil 30 c), Look.apply_foreground]

theorem read_background (c : CellColor) :
    (outside l shown).read (Sgr.background c) = outside { l with background := c } shown := by
  rw [Sgr.background, read_sequence (Look.colorParams_ne_nil 40 c), Look.apply_background]

/-- Attributes are only ever added to those that a terminal has, so it has to have none. -/
theorem read_attributes (h : l.attributes = {}) (a : Attributes) :
    (outside l shown).read (Sgr.attributes a) = outside { l with attributes := a } shown := by
  obtain ⟨f, b, attributes⟩ := l
  obtain rfl : attributes = {} := h
  rw [Sgr.attributes]
  split
  · next ha =>
    obtain rfl : a = {} := eq_of_beq ha
    rfl
  · next ha =>
    rw [read_sequence (Look.labels_ne_nil (Bool.eq_false_iff.2 ha)), Look.apply_labels]

end outside

end Screen

end YamlListing.Terminal
