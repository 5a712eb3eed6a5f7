import Mathlib.Data.List.Sort
import YamlListing.Proofs.Span.Clip

set_option autoImplicit false

/-! # The lines of merged spans

Spans are merged by their lines, but what is put together are their ends, and which lines a span
touches depends on both of its ends. A span that merely sits at the start of a line touches that
line; joined to one that reaches up to there it is the end of a longer span, which does not. So a
line is lost if no other spans touch it and the line before it stays (`keepsLine`). Apart from that
the merged spans touch the same lines as before (`any_touches_mergeByLines`), and there is a gap
between any two of them (`mergeByLines_pairwise`). All this holds as long as merging does not ask
for the line after the greatest one, which would be line 0 (`RunsOut`). -/

namespace YamlListing.Span

variable {s t current next : Span} {rest spans : List Span} {n : Nat}

/-! ## Touching a line -/

/-- Whether a span touches a line. -/
def touches (s : Span) (n : Nat) : Bool := s.firstLine ≤ n && n ≤ s.lastLine

/-- Whether a span merely sits at the start of a line. -/
def isAtLineStart (s : Span) : Bool := s.start.line == s.stop.line && s.stop.column ≤ 1

theorem touches_iff : s.touches n = true ↔ s.firstLine ≤ n ∧ n ≤ s.lastLine := by
  rw [touches, Bool.and_eq_true, decide_eq_true_eq, decide_eq_true_eq]

theorem touches_eq_false (h : s.lastLine < n) : s.touches n = false := by
  rw [Bool.eq_false_iff, ne_eq, touches_iff]
  omega

theorem firstLine_le_firstLine (h : s.start ≤ t.start) : s.firstLine ≤ t.firstLine := by
  rw [Position.le_def] at h
  rw [firstLine, firstLine]
  omega

theorem le_lastLine_iff (h : s.start ≤ s.stop) :
    n ≤ s.lastLine ↔ n ≤ s.firstLine ∨ .lineStart n < s.stop := by
  rw [Position.le_def] at h
  rw [firstLine, lastLine, Position.lt_def, Position.lineStart]
  simp only
  split <;> omega

theorem firstLine_le_lastLine (h : s.start ≤ s.stop) : s.firstLine ≤ s.lastLine :=
  (le_lastLine_iff h).2 (Or.inl (Nat.le_refl _))

/-- A span merely sits at the start of its line if it does not reach beyond that. -/
theorem isAtLineStart_eq_false_iff (h : s.start ≤ s.stop) :
    s.isAtLineStart = false ↔ .lineStart s.firstLine < s.stop := by
  rw [Position.le_def] at h
  simp only [isAtLineStart, Bool.and_eq_false_iff, beq_eq_false_iff_ne, decide_eq_false_iff_not,
    firstLine, Position.lt_def, Position.lineStart]
  omega

theorem isAtLineStart_eq_false (h : s.start ≤ s.stop) (hfirst : s.firstLine ≤ n)
    (hstop : .lineStart n < s.stop) : s.isAtLineStart = false := by
  rw [isAtLineStart_eq_false_iff h]
  rw [Position.lt_def, Position.lineStart] at hstop ⊢
  simp only at hstop ⊢
  omega

/-! ## The lines that stay -/

/-- Whether a line stays when spans are merged. Spans that merely sit at its start keep it only if
the line before does not stay. -/
def keepsLine (spans : List Span) : Nat → Bool
  | 0 => spans.any (·.touches 0)
  | n + 1 => spans.any fun s => s.touches (n + 1) && (!s.isAtLineStart || !keepsLine spans n)

theorem keepsLine_zero_iff : keepsLine spans 0 = true ↔ ∃ s ∈ spans, s.touches 0 = true := by
  rw [keepsLine, List.any_eq_true]

theorem keepsLine_succ_iff : keepsLine spans (n + 1) = true ↔
    ∃ s ∈ spans, s.touches (n + 1) = true ∧
      (s.isAtLineStart = false ∨ keepsLine spans n = false) := by
  simp only [keepsLine, List.any_eq_true, Bool.and_eq_true, Bool.or_eq_true, Bool.not_eq_true']

/-- A line that stays is touched. -/
theorem exists_touches_of_keepsLine (h : keepsLine spans n = true) :
    ∃ s ∈ spans, s.touches n = true := by
  cases n with
  | zero => exact keepsLine_zero_iff.1 h
  | succ n =>
    obtain ⟨s, hs, htouches, -⟩ := keepsLine_succ_iff.1 h
    exact ⟨s, hs, htouches⟩

/-- A line stays that a span touches which does not merely sit at its start. -/
theorem keepsLine_of_touches (hs : s ∈ spans) (htouches : s.touches n = true)
    (hstart : s.isAtLineStart = false) : keepsLine spans n = true := by
  cases n with
  | zero => exact keepsLine_zero_iff.2 ⟨s, hs, htouches⟩
  | succ n => exact keepsLine_succ_iff.2 ⟨s, hs, htouches, Or.inl hstart⟩

/-- All lines stay that the first of some spans touches. -/
theorem keepsLine_of_first (hs : s ∈ spans) (hvalid : s.start ≤ s.stop)
    (hfirst : ∀ t ∈ spans, s.firstLine ≤ t.firstLine) (htouches : s.touches n = true) :
    keepsLine spans n = true := by
  obtain ⟨hlow, hhigh⟩ := touches_iff.1 htouches
  rcases (le_lastLine_iff hvalid).1 hhigh with hhigh | hstop
  · obtain rfl : n = s.firstLine := Nat.le_antisymm hhigh hlow
    -- Nothing touches the line before the first one.
    cases hline : s.firstLine with
    | zero => exact keepsLine_zero_iff.2 ⟨s, hs, by rwa [hline] at htouches⟩
    | succ m =>
      rw [hline] at htouches
      refine keepsLine_succ_iff.2 ⟨s, hs, htouches, Or.inr ?_⟩
      rw [Bool.eq_false_iff]
      intro hkeeps
      obtain ⟨t, ht, htm⟩ := exists_touches_of_keepsLine hkeeps
      have hle := hfirst t ht
      have hlow := (touches_iff.1 htm).1
      omega
  · exact keepsLine_of_touches hs htouches (isAtLineStart_eq_false hvalid hlow hstop)

/-- If no span sits at the start of a line, the lines stay that are touched. -/
theorem keepsLine_eq_any (h : ∀ s ∈ spans, s.isAtLineStart = false) (n : Nat) :
    keepsLine spans n = spans.any (·.touches n) := by
  rw [Bool.eq_iff_iff, List.any_eq_true]
  constructor
  · exact exists_touches_of_keepsLine
  · rintro ⟨s, hs, htouches⟩
    exact keepsLine_of_touches hs htouches (h s hs)

theorem keepsLine_perm {spans' : List Span} (h : spans.Perm spans') (n : Nat) :
    keepsLine spans n = keepsLine spans' n := by
  induction n with
  | zero => simp only [keepsLine, h.any_eq]
  | succ n ih => simp only [keepsLine, ih, h.any_eq]

/-! ## Joining two spans -/

/-- A span with a later one joined to it. -/
def join (s t : Span) : Span := ⟨s.start, max s.stop t.stop⟩

theorem start_le_stop_join (h : s.start ≤ s.stop) (t : Span) :
    (s.join t).start ≤ (s.join t).stop :=
  Position.le_trans h (Position.max_le.1 (Position.le_refl _)).1

section join

variable (hs : s.start ≤ s.stop) (ht : t.start ≤ t.stop) (hstart : s.start ≤ t.start)
  (htouch : t.firstLine ≤ s.lastLine + 1)
include hs

theorem touches_join_iff : (s.join t).touches n = true ↔
    s.firstLine ≤ n ∧ (n ≤ s.firstLine ∨ .lineStart n < s.stop ∨ .lineStart n < t.stop) := by
  have hfirst : (s.join t).firstLine = s.firstLine := rfl
  rw [touches_iff, le_lastLine_iff (start_le_stop_join hs t), hfirst, join, Position.lt_max]

theorem touches_join (htouches : s.touches n = true) : (s.join t).touches n = true := by
  obtain ⟨hlow, hhigh⟩ := touches_iff.1 htouches
  exact (touches_join_iff hs).2 ⟨hlow, ((le_lastLine_iff hs).1 hhigh).imp_right Or.inl⟩

theorem touches_eq_false_of_join (h : (s.join t).touches n = false) : s.touches n = false := by
  rw [Bool.eq_false_iff] at h ⊢
  exact fun htouches => h (touches_join hs htouches)

include ht htouch

/-- Each line of two spans that are joined is touched by one of them, and by the later one not only
at its start. -/
theorem touches_or_of_join (h : (s.join t).touches n = true) :
    s.touches n = true ∨ (t.touches n = true ∧ t.isAtLineStart = false) := by
  obtain ⟨hlow, hhigh⟩ := (touches_join_iff hs).1 h
  by_cases hlast : n ≤ s.lastLine
  · exact Or.inl (touches_iff.2 ⟨hlow, hlast⟩)
  · rw [le_lastLine_iff hs, not_or] at hlast
    have hstop : .lineStart n < t.stop := by
      rcases hhigh with h | h | h
      · exact absurd h hlast.1
      · exact absurd h hlast.2
      · exact h
    have hfirst : t.firstLine ≤ n := by
      have hnot : ¬ n ≤ s.lastLine := by rwa [le_lastLine_iff hs, not_or]
      omega
    exact Or.inr ⟨touches_iff.2 ⟨hfirst, (le_lastLine_iff ht).2 (Or.inr hstop)⟩,
      isAtLineStart_eq_false ht hfirst hstop⟩

include hstart

/-- A line of the later one of two spans is lost when they are joined only if it comes right after
the lines of the other one and the span merely sits at its start. -/
theorem isAtLineStart_of_not_join (h : t.touches n = true) (hlost : (s.join t).touches n = false) :
    t.isAtLineStart = true ∧ n = s.lastLine + 1 := by
  obtain ⟨hlow, hhigh⟩ := touches_iff.1 h
  have hfirst : s.firstLine ≤ n := Nat.le_trans (firstLine_le_firstLine hstart) hlow
  rw [Bool.eq_false_iff, ne_eq, touches_join_iff hs] at hlost
  have hstop : ¬ .lineStart n < t.stop := fun hlt => hlost ⟨hfirst, Or.inr (Or.inr hlt)⟩
  have hlast : ¬ n ≤ s.lastLine := by
    rw [le_lastLine_iff hs]
    exact fun hle => hlost ⟨hfirst, hle.imp_right Or.inl⟩
  have hline : n = t.firstLine :=
    Nat.le_antisymm (((le_lastLine_iff ht).1 hhigh).resolve_right hstop) hlow
  refine ⟨?_, by omega⟩
  rw [← Bool.not_eq_false, isAtLineStart_eq_false_iff ht, ← hline]
  exact hstop

/-- The lines of two spans that are joined stay, also before the two are joined. -/
theorem keepsLine_of_touches_join (hrest : ∀ u ∈ rest, s.firstLine ≤ u.firstLine)
    (h : (s.join t).touches n = true) :
    keepsLine (s.join t :: rest) n = true ∧ keepsLine (s :: t :: rest) n = true := by
  have hfirst : s.firstLine ≤ t.firstLine := firstLine_le_firstLine hstart
  refine ⟨keepsLine_of_first List.mem_cons_self (start_le_stop_join hs t)
    (List.forall_mem_cons.2 ⟨Nat.le_refl _, hrest⟩) h, ?_⟩
  rcases touches_or_of_join hs ht htouch h with htouches | ⟨htouches, hpast⟩
  · exact keepsLine_of_first List.mem_cons_self hs
      (List.forall_mem_cons.2 ⟨Nat.le_refl _, List.forall_mem_cons.2 ⟨hfirst, hrest⟩⟩) htouches
  · exact keepsLine_of_touches (List.mem_cons_of_mem _ List.mem_cons_self) htouches hpast

/-- Joining two spans changes nothing about which lines stay. -/
theorem keepsLine_join (hrest : ∀ u ∈ rest, s.firstLine ≤ u.firstLine) (n : Nat) :
    keepsLine (s.join t :: rest) n = keepsLine (s :: t :: rest) n := by
  induction n with
  | zero =>
    cases hj : (s.join t).touches 0 with
    | true =>
      obtain ⟨hjoined, hbefore⟩ := keepsLine_of_touches_join hs ht hstart htouch hrest hj
      rw [hjoined, hbefore]
    | false =>
      have hnot := touches_eq_false_of_join hs hj
      have hnotLater : t.touches 0 = false := by
        rw [Bool.eq_false_iff]
        intro h
        have hline := (isAtLineStart_of_not_join hs ht hstart htouch h hj).2
        omega
      simp only [keepsLine, List.any_cons, hj, hnot, hnotLater, Bool.false_or]
  | succ n ih =>
    cases hj : (s.join t).touches (n + 1) with
    | true =>
      obtain ⟨hjoined, hbefore⟩ := keepsLine_of_touches_join hs ht hstart htouch hrest hj
      rw [hjoined, hbefore]
    | false =>
      have hnot := touches_eq_false_of_join hs hj
      have hlater : (t.touches (n + 1) && (!t.isAtLineStart || !keepsLine (s :: t :: rest) n)) =
          false := by
        rw [Bool.and_eq_false_imp]
        intro h
        -- The line before is the last one of the first span, so it stays.
        obtain ⟨hsits, hline⟩ := isAtLineStart_of_not_join hs ht hstart htouch h hj
        obtain rfl : n = s.lastLine := Nat.succ.inj hline
        have hlast : s.touches s.lastLine = true :=
          touches_iff.2 ⟨firstLine_le_lastLine hs, Nat.le_refl _⟩
        rw [hsits, (keepsLine_of_touches_join hs ht hstart htouch hrest (touches_join hs hlast)).2]
        rfl
      rw [keepsLine, keepsLine, ih, List.any_cons, List.any_cons, List.any_cons, hj, hnot, hlater]
      simp only [Bool.false_and, Bool.false_or]

end join

/-- Spans that lie after a gap keep their own lines. -/
theorem keepsLine_of_gap (hs : s.start ≤ s.stop) (hgap : ∀ u ∈ rest, s.lastLine + 1 < u.firstLine)
    (n : Nat) : keepsLine (s :: rest) n = (s.touches n || keepsLine rest n) := by
  have hle := firstLine_le_lastLine hs
  cases hn : s.touches n with
  | true =>
    refine (keepsLine_of_first List.mem_cons_self hs ?_ hn).trans (Bool.true_or _).symm
    refine List.forall_mem_cons.2 ⟨Nat.le_refl _, fun u hu => ?_⟩
    have hlt := hgap u hu
    omega
  | false =>
    induction n with
    | zero => rw [keepsLine, keepsLine, List.any_cons, hn]
    | succ n ih =>
      -- What touches the line lies after the gap, so the line before is not one of the first span.
      have hbefore : ∀ u ∈ rest, u.touches (n + 1) = true →
          keepsLine (s :: rest) n = keepsLine rest n := by
        intro u hu htouches
        have hlt := hgap u hu
        have hfirst := (touches_iff.1 htouches).1
        rw [ih (touches_eq_false (by omega)), Bool.false_or]
      rw [Bool.false_or, Bool.eq_iff_iff, keepsLine_succ_iff, keepsLine_succ_iff]
      constructor
      · rintro ⟨u, hu, htouches, hstays⟩
        rcases List.mem_cons.1 hu with rfl | hu
        · rw [hn] at htouches
          cases htouches
        · exact ⟨u, hu, htouches, by rwa [hbefore u hu htouches] at hstays⟩
      · rintro ⟨u, hu, htouches, hstays⟩
        exact ⟨u, List.mem_cons_of_mem _ hu, htouches, by rwa [hbefore u hu htouches]⟩

/-! ## Merging -/

/-- What holds of spans and of any two that are joined holds of all that come out. -/
theorem forall_mergeInto {P : Span → Prop} (hjoin : ∀ s t, P s → P t → P (s.join t))
    (hcurrent : P current) (hrest : ∀ s ∈ rest, P s) : ∀ s ∈ mergeInto current rest, P s := by
  induction rest generalizing current with
  | nil => simpa [mergeInto] using hcurrent
  | cons next rest ih =>
    obtain ⟨hnext, hrest⟩ := List.forall_mem_cons.1 hrest
    by_cases htouch : next.firstLine ≤ nextLine current.lastLine
    · rw [mergeInto, if_pos htouch]
      exact ih (hjoin _ _ hcurrent hnext) hrest
    · rw [mergeInto, if_neg htouch]
      exact List.forall_mem_cons.2 ⟨hcurrent, ih hnext hrest⟩

theorem forall_mergeByLines {P : Span → Prop} (hjoin : ∀ s t, P s → P t → P (s.join t))
    (hspans : ∀ s ∈ spans, P s) : ∀ s ∈ mergeByLines spans, P s := by
  have hsorted : ∀ s ∈ spans.mergeSort fun s t => (s.compare t).isLE, P s := fun s hs =>
    hspans s (List.mem_mergeSort.1 hs)
  rw [mergeByLines]
  cases hsort : spans.mergeSort fun s t => (s.compare t).isLE with
  | nil => exact List.forall_mem_nil _
  | cons first rest =>
    rw [hsort] at hsorted
    obtain ⟨hfirst, hrest⟩ := List.forall_mem_cons.1 hsorted
    exact forall_mergeInto hjoin hfirst hrest

/-- Spans in the order of their starts whose ends come in order. -/
structure IsSorted (spans : List Span) : Prop where
  valid : ∀ s ∈ spans, s.start ≤ s.stop
  firstLine_le_max : ∀ s ∈ spans, s.firstLine ≤ maxLine
  starts : spans.Pairwise (·.start ≤ ·.start)

theorem IsSorted.tail (h : IsSorted (current :: rest)) : IsSorted rest :=
  ⟨(List.forall_mem_cons.1 h.valid).2, (List.forall_mem_cons.1 h.firstLine_le_max).2, h.starts.tail⟩

theorem IsSorted.firstLine_le (h : IsSorted (current :: rest)) :
    ∀ s ∈ rest, current.firstLine ≤ s.firstLine :=
  fun s hs => firstLine_le_firstLine ((List.pairwise_cons.1 h.starts).1 s hs)

/-- Two spans that are joined are still in front of the others. -/
theorem IsSorted.join (h : IsSorted (current :: next :: rest)) :
    IsSorted (current.join next :: rest) := by
  obtain ⟨hcurrent, hrest⟩ := List.forall_mem_cons.1 h.valid
  obtain ⟨hstarts, hnext⟩ := List.pairwise_cons.1 h.starts
  have hline : current.firstLine ≤ maxLine := h.firstLine_le_max current List.mem_cons_self
  exact ⟨List.forall_mem_cons.2 ⟨start_le_stop_join hcurrent next, h.tail.tail.valid⟩,
    List.forall_mem_cons.2 ⟨hline, h.tail.tail.firstLine_le_max⟩,
    List.pairwise_cons.2 ⟨(List.forall_mem_cons.1 hstarts).2, hnext.tail⟩⟩

/-! ### The line after the greatest one -/

theorem keepsLine_nil (n : Nat) : keepsLine [] n = false := by
  cases n <;> rfl

/-- If the greatest line does not stay of spans without the last one, the first of them stops
before that line. -/
theorem IsSorted.lastLine_lt (h : IsSorted (current :: next :: rest))
    (hout : keepsLine (current :: next :: rest).dropLast maxLine = false) :
    current.lastLine < maxLine := by
  by_contra hge
  have hline := h.firstLine_le_max current List.mem_cons_self
  have htouches : current.touches maxLine = true := touches_iff.2 ⟨hline, Nat.not_lt.1 hge⟩
  have hfirst : ∀ t ∈ current :: (next :: rest).dropLast, current.firstLine ≤ t.firstLine :=
    List.forall_mem_cons.2 ⟨Nat.le_refl _,
      fun t ht => h.firstLine_le t (List.dropLast_subset _ ht)⟩
  have hkeeps := keepsLine_of_first List.mem_cons_self (h.valid current List.mem_cons_self) hfirst
    htouches
  rw [List.dropLast_cons_cons, hkeeps] at hout
  cases hout

section dropLast

variable (h : IsSorted (current :: next :: rest)) (hlt : current.lastLine < maxLine)
include h hlt

theorem keepsLine_dropLast_join (htouch : next.firstLine ≤ current.lastLine + 1) :
    keepsLine (current.join next :: rest).dropLast maxLine =
      keepsLine (current :: next :: rest).dropLast maxLine := by
  obtain ⟨hcurrent, hrest⟩ := List.forall_mem_cons.1 h.valid
  obtain ⟨hnext, -⟩ := List.forall_mem_cons.1 hrest
  cases rest with
  | nil =>
    change keepsLine [] maxLine = keepsLine [current] maxLine
    rw [keepsLine_of_gap hcurrent (List.forall_mem_nil _), touches_eq_false hlt, Bool.false_or]
  | cons u rest =>
    have hstart := (List.pairwise_cons.1 h.starts).1 next List.mem_cons_self
    refine keepsLine_join hcurrent hnext hstart htouch (fun t ht => ?_) maxLine
    exact h.firstLine_le t (List.mem_cons_of_mem _ (List.dropLast_subset _ ht))

theorem keepsLine_dropLast_gap (hgap : current.lastLine + 1 < next.firstLine) :
    keepsLine (next :: rest).dropLast maxLine =
      keepsLine (current :: next :: rest).dropLast maxLine := by
  have hgaps : ∀ u ∈ (next :: rest).dropLast, current.lastLine + 1 < u.firstLine := by
    have hle : ∀ u ∈ next :: rest, next.firstLine ≤ u.firstLine :=
      List.forall_mem_cons.2 ⟨Nat.le_refl _, h.tail.firstLine_le⟩
    exact fun u hu => Nat.lt_of_lt_of_le hgap (hle u (List.dropLast_subset _ hu))
  rw [List.dropLast_cons_cons, keepsLine_of_gap (h.valid current List.mem_cons_self) hgaps,
    touches_eq_false hlt, Bool.false_or]

end dropLast

/-! ### What comes out -/

/-- Merged spans touch the lines that stay. -/
theorem any_touches_mergeInto (h : IsSorted (current :: rest))
    (hout : keepsLine (current :: rest).dropLast maxLine = false) (n : Nat) :
    (mergeInto current rest).any (·.touches n) = keepsLine (current :: rest) n := by
  induction rest generalizing current with
  | nil =>
    rw [keepsLine_of_gap (h.valid _ List.mem_cons_self) (List.forall_mem_nil _), keepsLine_nil]
    rfl
  | cons next rest ih =>
    obtain ⟨hcurrent, hrest⟩ := List.forall_mem_cons.1 h.valid
    have hnext : next.start ≤ next.stop := (List.forall_mem_cons.1 hrest).1
    have hlt := h.lastLine_lt hout
    rw [mergeInto, nextLine_of_lt hlt]
    by_cases htouch : next.firstLine ≤ current.lastLine + 1
    · have hstart := (List.pairwise_cons.1 h.starts).1 next List.mem_cons_self
      rw [if_pos htouch]
      exact (ih h.join ((keepsLine_dropLast_join h hlt htouch).trans hout)).trans
        (keepsLine_join hcurrent hnext hstart htouch (List.forall_mem_cons.1 h.firstLine_le).2 n)
    · have hrest := ih h.tail ((keepsLine_dropLast_gap h hlt (by omega)).trans hout)
      rw [if_neg htouch, List.any_cons, hrest, keepsLine_of_gap hcurrent]
      refine List.forall_mem_cons.2 ⟨by omega, fun s hs => ?_⟩
      have hle := h.tail.firstLine_le s hs
      omega

/-- Whether there is a gap between the lines of two spans. -/
def IsApart (s t : Span) : Prop := s.lastLine + 1 < t.firstLine

theorem mergeInto_pairwise (h : IsSorted (current :: rest))
    (hout : keepsLine (current :: rest).dropLast maxLine = false) :
    (mergeInto current rest).Pairwise IsApart := by
  induction rest generalizing current with
  | nil => exact List.pairwise_singleton _ _
  | cons next rest ih =>
    have hlt := h.lastLine_lt hout
    rw [mergeInto, nextLine_of_lt hlt]
    by_cases htouch : next.firstLine ≤ current.lastLine + 1
    · rw [if_pos htouch]
      exact ih h.join ((keepsLine_dropLast_join h hlt htouch).trans hout)
    · rw [if_neg htouch]
      have hrest := ih h.tail ((keepsLine_dropLast_gap h hlt (by omega)).trans hout)
      refine List.pairwise_cons.2 ⟨?_, hrest⟩
      -- No span that comes out begins before the first that goes in.
      have hfirst : ∀ s ∈ mergeInto next rest, next.firstLine ≤ s.firstLine :=
        forall_mergeInto (fun _ _ hs _ => hs) (Nat.le_refl _) h.tail.firstLine_le
      intro s hs
      have hle := hfirst s hs
      rw [IsApart]
      omega

/-! ## Merging spans in any order -/

theorem isLE_compare_iff : (s.compare t).isLE = true ↔
    s.start.line < t.start.line ∨ (s.start.line = t.start.line ∧
      (s.start.column < t.start.column ∨ (s.start.column = t.start.column ∧
        (s.stop.line < t.stop.line ∨ (s.stop.line = t.stop.line ∧
          s.stop.column ≤ t.stop.column))))) := by
  simp only [compare, Position.compare, Ordering.isLE_then_iff_or, Ordering.then_eq_lt,
    Ordering.then_eq_eq, Nat.compare_eq_lt, Nat.compare_eq_eq, Nat.isLE_compare]
  omega

theorem mergeSort_pairwise (spans : List Span) :
    (spans.mergeSort fun s t => (s.compare t).isLE).Pairwise fun s t =>
      (s.compare t).isLE = true := by
  refine List.pairwise_mergeSort ?_ ?_ spans
  · intro s t u hst htu
    rw [isLE_compare_iff] at *
    omega
  · intro s t
    rw [Bool.or_eq_true, isLE_compare_iff, isLE_compare_iff]
    omega

theorem isSorted_mergeSort (hvalid : ∀ s ∈ spans, s.start ≤ s.stop)
    (hmax : ∀ s ∈ spans, s.firstLine ≤ maxLine) :
    IsSorted (spans.mergeSort fun s t => (s.compare t).isLE) := by
  refine ⟨fun s hs => hvalid s (List.mem_mergeSort.1 hs),
    fun s hs => hmax s (List.mem_mergeSort.1 hs), ?_⟩
  refine (mergeSort_pairwise spans).imp ?_
  intro s t hst
  rw [isLE_compare_iff] at hst
  rw [Position.le_def]
  omega

/-- Whether merging spans asks for the line after the greatest one. That happens if the greatest
line stays of the spans without the one that comes last in order. -/
def RunsOut (spans : List Span) : Prop :=
  keepsLine (spans.mergeSort fun s t => (s.compare t).isLE).dropLast maxLine = true

/-- Spans that stop before the greatest line can be merged. -/
theorem not_runsOut_of_lastLine_lt (h : ∀ s ∈ spans, s.lastLine < maxLine) : ¬ RunsOut spans := by
  intro hout
  obtain ⟨s, hs, htouches⟩ := exists_touches_of_keepsLine hout
  have hmem := List.mem_mergeSort.1 (List.dropLast_subset _ hs)
  exact Nat.not_le.2 (h s hmem) (touches_iff.1 htouches).2

section mergeByLines

variable (hvalid : ∀ s ∈ spans, s.start ≤ s.stop) (hmax : ∀ s ∈ spans, s.firstLine ≤ maxLine)
  (hout : ¬ RunsOut spans)
include hvalid hmax hout

/-- Merged spans touch the lines that stay, and no others. -/
theorem any_touches_mergeByLines (n : Nat) :
    (mergeByLines spans).any (·.touches n) = keepsLine spans n := by
  rw [← keepsLine_perm (List.mergeSort_perm spans fun s t => (s.compare t).isLE) n]
  have hsorted := isSorted_mergeSort hvalid hmax
  rw [RunsOut, Bool.not_eq_true] at hout
  rw [mergeByLines]
  cases hsort : spans.mergeSort fun s t => (s.compare t).isLE with
  | nil => exact (keepsLine_nil n).symm
  | cons first rest =>
    rw [hsort] at hsorted hout
    exact any_touches_mergeInto hsorted hout n

/-- Between any two merged spans there is a gap. -/
theorem mergeByLines_pairwise : (mergeByLines spans).Pairwise IsApart := by
  have hsorted := isSorted_mergeSort hvalid hmax
  rw [RunsOut, Bool.not_eq_true] at hout
  rw [mergeByLines]
  cases hsort : spans.mergeSort fun s t => (s.compare t).isLE with
  | nil => exact List.Pairwise.nil
  | cons first rest =>
    rw [hsort] at hsorted hout
    exact mergeInto_pairwise hsorted hout

end mergeByLines

end YamlListing.Span
