import Mathlib.Data.List.Induction
import YamlListing.Search.Finder

set_option autoImplicit false

/-! # What a finder remembers

Sources have owners, who can drop them at any time, and a finder only refers to the one that it has
loaded last. It is given other sources and other normalizers in between. Main statement
(`Session.find_run`): none of this is remembered. While the source that was loaded last exists, the
finder answers as a new one with the present normalizer that has loaded nothing else, and otherwise
it answers nothing. The index of a source that is gone stays until the next change, but no answer is
taken from it. -/

namespace YamlListing.Finder

/-- What happens to a finder and to the sources around it. A source goes by a number. -/
inductive Event where
  | load (number : Nat) (s : Source)
  | setNormalizer (n : Normalizer)
  /-- The owner of a source drops it. -/
  | drop (number : Nat)

namespace Event

/-- Whether an event ends the use of the source of a number by a finder that has loaded it. -/
def Ends (number : Nat) : Event → Prop
  | load _ _ => True
  | setNormalizer _ => False
  | drop other => other = number

/-- The normalizer that an event brings. -/
def normalizer? : Event → Option Normalizer
  | setNormalizer n => some n
  | _ => none

end Event

/-- A finder and the number of the source that it refers to, which may be gone. -/
structure Session where
  finder : Finder
  loaded : Option Nat

namespace Session

/-- A new finder. -/
def start (n : Normalizer) : Session := ⟨.new n, none⟩

/-- What an event changes. A finder that refers to another source does not notice a drop. -/
def step (session : Session) : Event → Session
  | .load number s => ⟨session.finder.load s, some number⟩
  | .setNormalizer n => ⟨session.finder.setNormalizer n, session.loaded⟩
  | .drop number =>
    if session.loaded = some number then ⟨session.finder.forget, session.loaded⟩ else session

/-- A new finder after some events. -/
def run (n : Normalizer) (events : List Event) : Session := events.foldl step (start n)

/-- Whether a source was loaded under a number, and since then neither another one was loaded nor it
was dropped. -/
def IsCurrent (events : List Event) (number : Nat) (s : Source) : Prop :=
  ∃ before after, events = before ++ .load number s :: after ∧ ∀ e ∈ after, ¬ e.Ends number

/-- The normalizer that was set last, after a first one. -/
def normalizerAfter (n : Normalizer) (events : List Event) : Normalizer :=
  (events.filterMap Event.normalizer?).getLast?.getD n

variable {n : Normalizer} {events : List Event} {e : Event} {number : Nat} {s : Source}

/-! ## One more event -/

theorem isCurrent_append_singleton : IsCurrent (events ++ [e]) number s ↔
    e = .load number s ∨ (IsCurrent events number s ∧ ¬ e.Ends number) := by
  constructor
  · rintro ⟨before, after, heq, hafter⟩
    rcases List.eq_nil_or_concat after with rfl | ⟨after, last, rfl⟩
    · exact Or.inl (List.append_inj_right' heq rfl |> List.cons.inj).1
    · rw [List.concat_eq_append, ← List.cons_append, ← List.append_assoc] at heq
      obtain ⟨hevents, hlast⟩ := List.append_inj' heq rfl
      obtain rfl := (List.cons.inj hlast).1
      rw [List.concat_eq_append, List.forall_mem_append, List.forall_mem_singleton] at hafter
      exact Or.inr ⟨⟨before, after, hevents, hafter.1⟩, hafter.2⟩
  · rintro (rfl | ⟨⟨before, after, rfl, hafter⟩, he⟩)
    · exact ⟨events, [], rfl, List.forall_mem_nil _⟩
    · refine ⟨before, after ++ [e], by simp, ?_⟩
      exact List.forall_mem_append.2 ⟨hafter, List.forall_mem_singleton.2 he⟩

theorem normalizerAfter_append_singleton : normalizerAfter n (events ++ [e]) =
    e.normalizer?.getD (normalizerAfter n events) := by
  rw [normalizerAfter, List.filterMap_append, List.getLast?_append]
  cases h : e.normalizer? with
  | none => simp [h, normalizerAfter]
  | some n' => simp [h]

/-! ## Any number of events -/

/-- What a finder is after some events. -/
structure Reflects (n : Normalizer) (events : List Event) (session : Session) : Prop where
  normalizer : session.finder.normalizer = normalizerAfter n events
  /-- The finder has a source as long as that is current. -/
  current : ∀ number s, session.loaded = some number ∧ session.finder.source = some s ↔
    IsCurrent events number s
  loaded : session.finder.source.isSome → session.loaded.isSome
  /-- The lines of a source that exists are folded with the normalizer. -/
  index : ∀ s, session.finder.source = some s →
    session.finder.index = indexOf session.finder.normalizer (some s)

theorem start_reflects (n : Normalizer) : (start n).Reflects n [] where
  normalizer := rfl
  current number s := by
    refine iff_of_false (fun h => nomatch h.1) ?_
    rintro ⟨before, after, heq, -⟩
    exact absurd heq (by simp)
  loaded h := nomatch h
  index s h := nomatch h

variable {session : Session}

theorem Reflects.load (h : session.Reflects n events) (number : Nat) (s : Source) :
    (session.step (.load number s)).Reflects n (events ++ [.load number s]) where
  normalizer := by
    rw [normalizerAfter_append_singleton]
    exact h.normalizer
  current other t := by
    rw [isCurrent_append_singleton]
    simp only [step, Finder.load, Event.Ends, Option.some.injEq, Event.load.injEq,
      not_true_eq_false, and_false, or_false]
  loaded _ := rfl
  index t ht := by
    obtain rfl := Option.some.inj ht
    rfl

theorem Reflects.setNormalizer (h : session.Reflects n events) (n' : Normalizer) :
    (session.step (.setNormalizer n')).Reflects n (events ++ [.setNormalizer n']) where
  normalizer := by
    rw [normalizerAfter_append_singleton]
    rfl
  current number s := by
    rw [isCurrent_append_singleton]
    simpa [step, Finder.setNormalizer, Event.Ends] using h.current number s
  loaded := h.loaded
  index s hs := by
    have hsource : session.finder.source = some s := hs
    rw [← hsource]
    rfl

theorem Reflects.drop (h : session.Reflects n events) (number : Nat) :
    (session.step (.drop number)).Reflects n (events ++ [.drop number]) := by
  have hnormalizer : normalizerAfter n (events ++ [.drop number]) = normalizerAfter n events :=
    normalizerAfter_append_singleton
  rw [step]
  split
  · next hloaded =>
    -- The source of the finder is dropped: nothing is current.
    refine ⟨by rw [hnormalizer]; exact h.normalizer, fun other s => ?_, nofun, nofun⟩
    rw [isCurrent_append_singleton]
    refine iff_of_false (fun hcurrent => nomatch hcurrent.2) ?_
    rintro (heq | ⟨hcurrent, hother⟩)
    · cases heq
    · have hsame := ((h.current other s).2 hcurrent).1
      exact hother (Option.some.inj (hloaded.symm.trans hsame))
  · next hloaded =>
    -- Another source is dropped, or one that was replaced.
    refine ⟨by rw [hnormalizer]; exact h.normalizer, fun other s => ?_, h.loaded, h.index⟩
    rw [isCurrent_append_singleton, ← h.current other s]
    constructor
    · intro hcurrent
      refine Or.inr ⟨hcurrent, ?_⟩
      rintro rfl
      exact hloaded hcurrent.1
    · rintro (heq | ⟨hcurrent, -⟩)
      · cases heq
      · exact hcurrent

theorem Reflects.step (h : session.Reflects n events) (e : Event) :
    (session.step e).Reflects n (events ++ [e]) := by
  cases e with
  | load number s => exact h.load number s
  | setNormalizer n' => exact h.setNormalizer n'
  | drop number => exact h.drop number

theorem run_reflects (n : Normalizer) (events : List Event) :
    (run n events).Reflects n events := by
  induction events using List.reverseRecOn with
  | nil => exact start_reflects n
  | append_singleton events e ih =>
    rw [run, List.foldl_append]
    exact ih.step e

/-- A finder with a source is a new one that has loaded nothing else. -/
theorem Reflects.finder_eq (h : session.Reflects n events)
    (hsource : session.finder.source = some s) :
    session.finder = (Finder.new (normalizerAfter n events)).load s := by
  obtain ⟨⟨normalizer, source, index⟩, loaded⟩ := session
  obtain rfl : source = some s := hsource
  obtain rfl : normalizer = normalizerAfter n events := h.normalizer
  obtain rfl : index = indexOf (normalizerAfter n events) (some s) := h.index s rfl
  rfl

/-- A finder has a source exactly while there is a current one. -/
theorem Reflects.isLoaded_iff (h : session.Reflects n events) :
    session.finder.isLoaded = true ↔ ∃ number s, IsCurrent events number s := by
  rw [isLoaded]
  constructor
  · intro hloaded
    obtain ⟨s, hs⟩ := Option.isSome_iff_exists.1 hloaded
    obtain ⟨number, hnumber⟩ := Option.isSome_iff_exists.1 (h.loaded hloaded)
    exact ⟨number, s, (h.current number s).1 ⟨hnumber, hs⟩⟩
  · rintro ⟨number, s, hcurrent⟩
    rw [((h.current number s).2 hcurrent).2]
    rfl

theorem find_of_not_isLoaded {f : Finder} (h : f.isLoaded = false) (query : Text) :
    f.find query = [] := by
  rw [find, h, Bool.not_false, Bool.or_true]
  rfl

/-- Whatever has happened, a finder answers as a new one that was given the normalizer that was set
last and has loaded the current source, and it answers nothing if there is none. -/
theorem find_run (n : Normalizer) (events : List Event) (query : Text) :
    (∀ number s, IsCurrent events number s → (run n events).finder.find query =
        ((Finder.new (normalizerAfter n events)).load s).find query) ∧
      ((¬ ∃ number s, IsCurrent events number s) → (run n events).finder.find query = []) := by
  have h := run_reflects n events
  refine ⟨fun number s hcurrent => ?_, fun hnone => ?_⟩
  · rw [h.finder_eq ((h.current number s).2 hcurrent).2]
  · rw [← h.isLoaded_iff, Bool.not_eq_true] at hnone
    exact find_of_not_isLoaded hnone query

/-- The first of two sources is dropped after it was replaced, which does not matter, and the
normalizer is changed; then the second one is dropped too. -/
theorem find_run_replaced :
    let b := Source.ofLines [['b']] none
    let folding : Normalizer := { widthFold := true }
    let events := [.load 1 (.ofLines [['a']] none), .load 2 b, .drop 1, .setNormalizer folding]
    (run {} events).finder.find ['b'] = ((Finder.new folding).load b).find ['b'] ∧
      (run {} (events ++ [.drop 2])).finder.find ['b'] = [] := by
  intro b folding events
  have hcurrent : IsCurrent events 2 b :=
    ⟨[.load 1 (.ofLines [['a']] none)], [.drop 1, .setNormalizer folding], rfl,
      by simp [Event.Ends]⟩
  have hgone : ¬ ∃ number s, IsCurrent (events ++ [.drop 2]) number s := by
    rintro ⟨number, s, hgone⟩
    rcases isCurrent_append_singleton.1 hgone with heq | ⟨hbefore, hother⟩
    · cases heq
    · -- the source that is current before the drop is the one that is dropped
      have hnumber : some 2 = some number :=
        (((run_reflects {} events).current number s).2 hbefore).1
      cases hnumber
      exact hother rfl
  have hlast : normalizerAfter {} events = folding := rfl
  have hfound := (find_run {} events ['b']).1 2 b hcurrent
  rw [hlast] at hfound
  have hnothing := (find_run {} (events ++ [.drop 2]) ['b']).2 hgone
  exact ⟨hfound, hnothing⟩

end Session

end YamlListing.Finder
