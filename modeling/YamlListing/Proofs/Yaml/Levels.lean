import Mathlib.Data.List.Dedup
import Mathlib.Data.List.DropRight
import Mathlib.Data.List.Infix
import YamlListing.Proofs.Yaml.Visits

set_option autoImplicit false

/-! # Levels

The stack of indentations grows strictly from 0 on, between lines and at every moment within one
(`Visit.isNested_of_passes`). A line takes off what is deeper than it is and puts its own
indentation on, so what stays on the stack is what no later line has been left of: the stack holds
the suffix minima of the indentations since the last document marker (`Tracks`). Main statement: the
level of a structural line is the number of those that are positive (`levels_count`). -/

namespace YamlListing.Yaml.Lexer

/-! ## Suffix minima -/

/-- The least of each suffix of a list that is not empty. -/
def suffixMinima (ns : List Nat) : List Nat := ns.tails.filterMap List.min?

/-- The number of different positive numbers in a list. -/
def countPositive (ns : List Nat) : Nat := (ns.filter (0 < ·)).dedup.length

section suffixMinima

variable {ns : List Nat} {m d : Nat}

theorem mem_suffixMinima_iff :
    m ∈ suffixMinima ns ↔ ∃ suffix, suffix <:+ ns ∧ suffix.min? = some m := by
  simp only [suffixMinima, List.mem_filterMap, List.mem_tails]

theorem min?_concat_eq_some_iff : (ns ++ [d]).min? = some m ↔
    m = d ∧ (∀ n ∈ ns, d ≤ n) ∨ m ≤ d ∧ ns.min? = some m := by
  rw [List.min?_eq_some_iff, List.min?_eq_some_iff, List.forall_mem_append,
    List.forall_mem_singleton, List.mem_append, List.mem_singleton]
  constructor
  · rintro ⟨hmem | rfl, hle, hd⟩
    · exact Or.inr ⟨hd, hmem, hle⟩
    · exact Or.inl ⟨rfl, hle⟩
  · rintro (⟨rfl, hle⟩ | ⟨hd, hmem, hle⟩)
    · exact ⟨Or.inr rfl, hle, Nat.le_refl _⟩
    · exact ⟨Or.inl hmem, hle, hd⟩

/-- One more number at the end is a suffix minimum, and it leaves those that are less. -/
theorem mem_suffixMinima_concat : m ∈ suffixMinima (ns ++ [d]) ↔
    m = d ∨ m < d ∧ m ∈ suffixMinima ns := by
  rw [mem_suffixMinima_iff, mem_suffixMinima_iff]
  constructor
  · rintro ⟨suffix, hsuffix, hmin⟩
    obtain rfl | ⟨front, rfl, hfront⟩ := List.suffix_concat_iff.1 hsuffix
    · cases hmin
    · obtain ⟨rfl, -⟩ | ⟨hle, hmin⟩ := min?_concat_eq_some_iff.1 hmin
      · exact Or.inl rfl
      · obtain hlt | rfl := Nat.lt_or_eq_of_le hle
        · exact Or.inr ⟨hlt, front, hfront, hmin⟩
        · exact Or.inl rfl
  · rintro (rfl | ⟨hlt, front, hfront, hmin⟩)
    · exact ⟨[m], List.suffix_concat_iff.2 (Or.inr ⟨[], rfl, List.nil_suffix⟩), rfl⟩
    · exact ⟨front ++ [d], List.suffix_concat_iff.2 (Or.inr ⟨front, rfl, hfront⟩),
        min?_concat_eq_some_iff.2 (Or.inr ⟨Nat.le_of_lt hlt, hmin⟩)⟩

end suffixMinima

/-! ## The stack -/

section stack

variable {indents : List Nat} {m d : Nat}

theorem IsNested.le_top {top : Nat} (h : IsNested (top :: indents)) (hm : m ∈ top :: indents) :
    m ≤ top := by
  obtain rfl | hm := List.mem_cons.1 hm
  · exact Nat.le_refl m
  · exact Nat.le_of_lt (List.rel_of_pairwise_cons h.decreasing hm)

/-- What is deeper is taken off, and nothing else. -/
theorem IsNested.mem_unindent (h : IsNested indents) :
    m ∈ State.unindent d indents ↔ m ∈ indents ∧ m ≤ d := by
  fun_induction State.unindent d indents with
  | case1 top next rest htop ih =>
    rw [ih (h.tail (List.cons_ne_nil next rest)), List.mem_cons (a := m) (b := top)]
    constructor
    · rintro ⟨hmem, hle⟩
      exact ⟨Or.inr hmem, hle⟩
    · rintro ⟨rfl | hmem, hle⟩
      · omega
      · exact ⟨hmem, hle⟩
  | case2 top next rest htop =>
    exact ⟨fun hmem => ⟨hmem, Nat.le_trans (h.le_top hmem) (Nat.le_of_not_lt htop)⟩, And.left⟩
  | case3 stack hstack =>
    refine ⟨fun hmem => ⟨hmem, ?_⟩, And.left⟩
    -- Only the outermost indentation is on the stack.
    cases stack with
    | nil => cases hmem
    | cons top rest =>
      cases rest with
      | nil =>
        have htop : top = 0 := Option.some.inj h.outermost
        have hle := h.le_top hmem
        omega
      | cons next rest => exact absurd rfl (hstack top next rest)

/-- The stack for a line holds its indentation and those that are less. -/
theorem IsNested.mem_indentTo (h : IsNested indents) :
    m ∈ State.indentTo d indents ↔ m = d ∨ m < d ∧ m ∈ indents := by
  obtain ⟨top, rest, hunindent, htop, hnested⟩ := h.unindent d
  have hmem : m ∈ top :: rest ↔ m ∈ indents ∧ m ≤ d := hunindent ▸ h.mem_unindent
  rw [State.indentTo, hunindent]
  obtain hlt | rfl := Nat.lt_or_eq_of_le htop
  · simp only [if_pos hlt]
    rw [List.mem_cons]
    refine or_congr_right ⟨?_, ?_⟩
    · intro hm
      exact ⟨Nat.lt_of_le_of_lt (hnested.le_top hm) hlt, (hmem.1 hm).1⟩
    · rintro ⟨hm, hin⟩
      exact hmem.2 ⟨hin, Nat.le_of_lt hm⟩
  · simp only [Nat.lt_irrefl, if_false]
    constructor
    · intro hm
      obtain hlt | rfl := Nat.lt_or_eq_of_le (hnested.le_top hm)
      · exact Or.inr ⟨hlt, (hmem.1 hm).1⟩
      · exact Or.inl rfl
    · rintro (rfl | ⟨hlt, hin⟩)
      · exact List.mem_cons_self
      · exact hmem.2 ⟨hin, Nat.le_of_lt hlt⟩

/-- Whether a stack holds 0 and the suffix minima of indentations. -/
structure Tracks (indents ns : List Nat) : Prop where
  nested : IsNested indents
  mem_iff : ∀ m, m ∈ indents ↔ m = 0 ∨ m ∈ suffixMinima ns

namespace Tracks

variable {ns : List Nat}

theorem start : Tracks [0] [] := ⟨IsNested.start, by simp [suffixMinima]⟩

/-- A line that changes the stack. -/
theorem indentTo (h : Tracks indents ns) (d : Nat) :
    Tracks (State.indentTo d indents) (ns ++ [d]) := by
  constructor
  · obtain ⟨rest, heq, hnested⟩ := h.nested.indentTo d
    exact heq ▸ hnested
  · intro m
    rw [h.nested.mem_indentTo, mem_suffixMinima_concat, h.mem_iff]
    constructor
    · rintro (rfl | ⟨hlt, rfl | hm⟩)
      · exact Or.inr (Or.inl rfl)
      · exact Or.inl rfl
      · exact Or.inr (Or.inr ⟨hlt, hm⟩)
    · rintro (rfl | rfl | ⟨hlt, hm⟩)
      · obtain rfl | hpos := Nat.eq_zero_or_pos d
        · exact Or.inl rfl
        · exact Or.inr ⟨hpos, Or.inl rfl⟩
      · exact Or.inl rfl
      · exact Or.inr ⟨hlt, Or.inr hm⟩

/-- The stack is as high as there are positive suffix minima. -/
theorem height (h : Tracks indents ns) : indents.length - 1 = countPositive (suffixMinima ns) := by
  obtain ⟨inner, rfl⟩ := List.getLast?_eq_some_iff.1 h.nested.outermost
  obtain ⟨hinner, -, hpos⟩ := List.pairwise_append.1 h.nested.decreasing
  have hmem : ∀ m, m ∈ inner ↔ m ∈ ((suffixMinima ns).filter (0 < ·)).dedup := by
    intro m
    have hm := h.mem_iff m
    rw [List.mem_append, List.mem_singleton] at hm
    rw [List.mem_dedup, List.mem_filter, decide_eq_true_eq]
    constructor
    · intro hin
      have hlt : 0 < m := hpos m hin 0 (List.mem_singleton_self 0)
      exact ⟨(hm.1 (Or.inl hin)).resolve_left (Nat.ne_of_gt hlt), hlt⟩
    · rintro ⟨hin, hlt⟩
      exact (hm.2 (Or.inr hin)).resolve_right (Nat.ne_of_gt hlt)
  have hnodup : inner.Nodup := hinner.imp fun hgt => Nat.ne_of_gt hgt
  have hperm := (List.perm_ext_iff_of_nodup hnodup (List.nodup_dedup _)).2 hmem
  rw [countPositive, ← hperm.length_eq, List.length_append]
  rfl

end Tracks

end stack

/-! ## Along the lines -/

/-- The indentations of the structural lines after the last one that begins a document. -/
def indentsSince (past : List Visit) : List Nat :=
  ((past.rtakeWhile (!·.opensDocument)).filter (·.isStructural)).map (·.line.indent)

section tracks

variable {v : Visit} {past : List Visit}

theorem indentsSince_concat (past : List Visit) (v : Visit) : indentsSince (past ++ [v]) =
    if v.opensDocument then []
    else if v.isStructural then indentsSince past ++ [v.line.indent] else indentsSince past := by
  rw [indentsSince, List.rtakeWhile_concat]
  cases v.opensDocument with
  | true => rfl
  | false =>
    have hfilter : [v].filter (·.isStructural) = if v.isStructural then [v] else [] := by
      rw [List.filter_cons, List.filter_nil]
    rw [if_pos (Bool.not_false), if_neg Bool.false_ne_true, List.filter_append, List.map_append,
      ← indentsSince, hfilter]
    split
    · rfl
    · exact List.append_nil _

theorem Visit.tracks_of_isStructural (h : Tracks v.state.indents (indentsSince past))
    (hstructural : v.isStructural = true) :
    Tracks v.indents (indentsSince past ++ [v.line.indent]) := by
  rw [Visit.indents, if_pos hstructural]
  exact h.indentTo v.line.indent

/-- A line leaves a stack that tracks the lines up to it. -/
theorem Visit.next_tracks (h : Tracks v.state.indents (indentsSince past)) :
    Tracks v.next.indents (indentsSince (past ++ [v])) := by
  rw [v.next_indents, indentsSince_concat]
  cases v.opensDocument with
  | true => exact .start
  | false =>
    cases hstructural : v.isStructural with
    | true => exact Visit.tracks_of_isStructural h hstructural
    | false =>
      rw [Visit.indents_of_not_isStructural hstructural]
      exact h

/-- The stack tracks the lines that the lexer has come by. -/
theorem State.visits_track {s : State} {number offset : Nat} {lines : List Text}
    (h : Tracks s.indents (indentsSince past)) {before after : List Visit}
    (hv : s.visits number offset lines = before ++ v :: after) :
    Tracks v.state.indents (indentsSince (past ++ before)) := by
  induction lines generalizing s number offset past before with
  | nil => exact absurd hv (by simp [State.visits])
  | cons text lines ih =>
    rw [State.visits] at hv
    cases before with
    | nil =>
      obtain ⟨rfl, -⟩ := List.cons.inj hv
      rw [List.append_nil]
      exact h
    | cons first before =>
      obtain ⟨rfl, hrest⟩ := List.cons.inj hv
      have htracks := ih (Visit.next_tracks h) hrest
      rwa [List.append_assoc] at htracks

theorem visits_track {t : Text} {before after : List Visit}
    (h : visits t = before ++ v :: after) : Tracks v.state.indents (indentsSince before) := by
  have hstart : Tracks State.start.indents (indentsSince []) := .start
  exact State.visits_track hstart h

end tracks

/-! ## Within a line -/

/-- The states that the loop over a line goes through from a state and an index on. -/
inductive LoopPasses (ctx : LineContext) (line : Line) : State → Nat → State → Prop
  | here (s : State) (i : Nat) : LoopPasses ctx line s i s
  | leave (s : State) (i : Nat) (hnext : (turn ctx line s i).next = none) :
      LoopPasses ctx line s i (turn ctx line s i).state
  | next {s t : State} {i j : Nat} (hnext : (turn ctx line s i).next = some j)
      (h : LoopPasses ctx line (turn ctx line s i).state j t) : LoopPasses ctx line s i t

/-- The states that the lexer goes through on a line. -/
inductive Visit.Passes (v : Visit) : State → Prop
  | before : v.Passes v.state
  /-- The indentation of a structural line is on the stack, and nothing of the line is read. -/
  | entered (h : v.isStructural = true) : v.Passes ({ v.state with block := none }.enter v.line)
  | opened : v.Passes (openLine v.state v.line).state
  | loop {steps : List Step} {ctx : LineContext} {s t : State} {i : Nat}
      (hopen : openLine v.state v.line = .enter steps ctx s i)
      (h : LoopPasses ctx v.line s i t) : v.Passes t

section passes

variable {ctx : LineContext} {line : Line} {s t : State}

/-- A round of the loop pushes tokens that leave the stack as it is. -/
theorem turn_indents (ctx : LineContext) (line : Line) (s : State) (i : Nat) :
    (turn ctx line s i).state.indents = s.indents := by
  unfold turn
  split
  · rfl
  · rfl
  · next kind raw value hround =>
    unfold Line.round? at hround
    split at hround
    · cases hround
    · exact State.indents_push_of_isFree (Round.token_isFree (Option.some.inj hround)).1 s _ raw
  · rfl
  · rfl

theorem LoopPasses.indents {i : Nat} (h : LoopPasses ctx line s i t) : t.indents = s.indents := by
  induction h with
  | here s i => rfl
  | leave s i hnext => exact turn_indents ctx line s i
  | next hnext h ih => rw [ih, turn_indents]

/-- What the loop gives, it comes to by rounds. -/
theorem LoopPasses.of_loop {rounds i : Nat} {result : List Step × State}
    (h : loop ctx line rounds s i = some result) : LoopPasses ctx line s i result.2 := by
  induction rounds generalizing s i result with
  | zero =>
    rw [loop] at h
    split at h
    · obtain rfl := Option.some.inj h
      exact .here s i
    · cases h
  | succ rounds ih =>
    rw [loop] at h
    split at h
    · obtain rfl := Option.some.inj h
      exact .here s i
    · cases hnext : (turn ctx line s i).next with
      | none =>
        simp only [hnext] at h
        obtain rfl := Option.some.inj h
        exact .leave s i hnext
      | some j =>
        simp only [hnext, Option.map_eq_some_iff] at h
        obtain ⟨rest, hrest, rfl⟩ := h
        have hpasses := ih hrest
        exact .next hnext hpasses

/-- The last of the states on a line is the one after it. -/
theorem Visit.passes_next (v : Visit) : v.Passes v.next := by
  have hfinish : (openLine v.state v.line).finish v.line.text.length v.line =
      some (lexLine v.state v.line) := Opening.finish_eq _ (Nat.le_refl _)
  cases hopen : openLine v.state v.line with
  | read steps s =>
    rw [hopen, Opening.finish] at hfinish
    have hnext : v.next = (openLine v.state v.line).state := by
      rw [hopen, Visit.next, ← Option.some.inj hfinish]
      rfl
    exact hnext ▸ .opened
  | enter steps ctx s i =>
    rw [hopen, Opening.finish, Option.map_eq_some_iff] at hfinish
    obtain ⟨result, hloop, hresult⟩ := hfinish
    have hpasses := LoopPasses.of_loop hloop
    rw [Visit.next, ← hresult]
    exact .loop hopen hpasses

theorem Visit.isNested_of_passes {v : Visit} (h : IsNested v.state.indents) (hs : v.Passes s) :
    IsNested s.indents := by
  cases hs with
  | before => exact h
  | entered _ => exact State.enter_isNested (s := { v.state with block := none }) h v.line
  | opened => exact openLine_isNested h v.line
  | loop hopen hloop =>
    have hnested := openLine_isNested h v.line
    rw [hopen] at hnested
    rw [hloop.indents]
    exact hnested

end passes

/-! ## Texts -/

/-- The states that the lexer goes through on a line lead to the one after it, and in each of them
the stack of indentations grows strictly from 0 on. On every structural line a token begins, and the
tokens there have as their level the number of different positive suffix minima of the indentations
of the structural lines from the one after the last document marker up to this one. -/
theorem levels_count (t : Text) :
    (∀ v ∈ visits t, v.Passes v.next ∧ ∀ s, v.Passes s → IsNested s.indents) ∧
    ∀ before v after, visits t = before ++ v :: after → v.isStructural = true →
      (∃ token ∈ tokenize t, token.place.line = v.line.number) ∧
      ∀ token ∈ tokenize t, token.place.line = v.line.number → token.place.level =
        countPositive (suffixMinima (indentsSince before ++ [v.line.indent])) := by
  constructor
  · intro v hv
    obtain ⟨before, after, hsplit⟩ := List.append_of_mem hv
    refine ⟨v.passes_next, fun s hs => ?_⟩
    exact Visit.isNested_of_passes (visits_track hsplit).nested hs
  · intro before v after hsplit hstructural
    have hv : v ∈ visits t := hsplit ▸ List.mem_append_right _ List.mem_cons_self
    obtain ⟨token, htoken, hline, -⟩ := exists_token_of_isStructural hv hstructural
    refine ⟨⟨token, htoken, hline⟩, fun token htoken hline => ?_⟩
    rw [level_eq_of_mem_tokenize hv htoken hline, Visit.level]
    exact (Visit.tracks_of_isStructural (visits_track hsplit) hstructural).height

/-- The last line is left of two before it, and no line since the marker was as deep as it is. -/
theorem levels_count_dedented :
    let t := "  x\n---\na:\n    b:\n      c\n  d".toList
    let v : Visit := ⟨⟨0, none, none, [6, 4, 0], some (.scalar .plain)⟩, ⟨6, 26, "  d".toList⟩⟩
    (∀ s, v.Passes s → IsNested s.indents) ∧ ∃ before, visits t = before ++ [v] ∧
      v.isStructural = true ∧ indentsSince before = [0, 4, 6] ∧
      (∃ token ∈ tokenize t, token.place.line = 6) ∧
      ∀ token ∈ tokenize t, token.place.line = 6 → token.place.level = 1 := by
  intro t v
  have hsplit : visits t = (visits t).take 5 ++ [v] := by decide +kernel
  have hstructural : v.isStructural = true := by decide +kernel
  have hsince : indentsSince ((visits t).take 5) = [0, 4, 6] := by decide +kernel
  obtain ⟨hnested, hlevels⟩ := levels_count t
  obtain ⟨hexists, hlevel⟩ := hlevels _ v [] hsplit hstructural
  have hv : v ∈ visits t := hsplit ▸ List.mem_append_right _ (List.mem_singleton_self v)
  have hcount : countPositive (suffixMinima [0, 4, 6, 2]) = 1 := by decide
  rw [hsince] at hlevel
  refine ⟨(hnested v hv).2, _, hsplit, hstructural, hsince, hexists, fun token htoken hline => ?_⟩
  exact (hlevel token htoken hline).trans hcount

end YamlListing.Yaml.Lexer
