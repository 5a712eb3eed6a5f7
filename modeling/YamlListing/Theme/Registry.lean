import YamlListing.Theme.Builtin

set_option autoImplicit false

/-! # Registered themes

The themes that can be asked for by name: the builtin ones, and those that were registered later,
which replace any other of their name. A theme is built when it is first looked up, and that one
build is the answer from then on. -/

namespace YamlListing

/-- A registered theme: how to build it under a given number, and its styles once it is built. -/
structure ThemeEntry where
  mode : Mode
  build : Nat → Styles
  built : Option Styles

/-- The registered themes and the number for the next theme that is built. -/
structure Registry where
  entries : List (String × ThemeEntry)
  next : Nat

namespace Registry

/-- The registry with nothing but the builtin themes. -/
def builtin : Registry :=
  ⟨Builtin.names.map fun name =>
    (name, ⟨(Builtin.mode? name).getD .dark,
      fun id => (Builtin.styles? name id).getD ⟨id, .plain, []⟩, none⟩), 1⟩

/-- The theme of a name. -/
def find? (r : Registry) (name : String) : Option ThemeEntry :=
  (r.entries.find? fun entry => entry.1 == name).map Prod.snd

/-- The registry with a theme in place of any other of its name. -/
def put (r : Registry) (name : String) (entry : ThemeEntry) : Registry :=
  { r with entries := r.entries.filter (fun e => e.1 != name) ++ [(name, entry)] }

/-- Registers a theme. -/
def register (r : Registry) (name : String) (mode : Mode) (build : Nat → Styles) : Registry :=
  r.put name ⟨mode, build, none⟩

/-- A number for a theme that is made outside of the registry. -/
def fresh (r : Registry) : Nat × Registry := (r.next, { r with next := r.next + 1 })

/-- The styles of a theme, which is built if it was not yet. -/
def lookup (r : Registry) (name : String) : Option Styles × Registry :=
  match r.find? name with
  | none => (none, r)
  | some entry =>
    match entry.built with
    | some styles => (some styles, r)
    | none =>
      let styles := entry.build r.next
      (some styles, { r.put name { entry with built := some styles } with next := r.next + 1 })

/-- The mode of a theme. -/
def mode? (r : Registry) (name : String) : Option Mode := (r.find? name).map (·.mode)

/-- Whether a theme was built already. -/
def isBuilt (r : Registry) (name : String) : Bool := (r.find? name).any fun e => e.built.isSome

/-- The names of all themes, sorted. -/
def names (r : Registry) : List String :=
  (r.entries.map Prod.fst).mergeSort fun a b => decide (a ≤ b)

/-- The default theme. If its name is no longer registered, it is built anew. -/
def default (r : Registry) : Styles × Registry :=
  match r.lookup Builtin.defaultName with
  | (some styles, r) => (styles, r)
  | (none, r) =>
    let (id, r) := r.fresh
    ((Palette.generate 265.0 .dark).styles id, r)

end Registry

end YamlListing
