import YamlListing.Text.Basic
import YamlListing.Unicode.ClusterTables

set_option autoImplicit false

/-! # Grapheme clusters

What a reader takes for one character can be several: a letter with its marks, the letters of a
Hangul syllable, two regional indicators that make a flag, pictographs that are joined. `clusters`
cuts a text into extended grapheme clusters. It reads from left to right and keeps, in a `Context`,
what the rules need to know of the cluster so far. -/

namespace YamlListing.Unicode

/-- What a character is to the rules for clusters. -/
inductive ClusterClass where
  | carriageReturn
  | lineFeed
  | control
  | extend
  | joiner
  | regional
  | prepend
  | spacing
  /-- A leading consonant of Hangul. -/
  | lead
  /-- A vowel of Hangul. -/
  | vowel
  /-- A trailing consonant of Hangul. -/
  | trail
  /-- A Hangul syllable without a trailing consonant. -/
  | openSyllable
  /-- A Hangul syllable with a trailing consonant. -/
  | closedSyllable
  | other
  deriving DecidableEq, Repr

/-- Whether a code point lies between two others. -/
def isBetween (first last n : Nat) : Bool := first ≤ n && n ≤ last

/-- Whether a character is a regional indicator. -/
def isRegional (c : Char) : Bool := isBetween 0x1F1E6 0x1F1FF c.toNat

/-- Whether a character is an emoji modifier. -/
def isModifier (c : Char) : Bool := isBetween 0x1F3FB 0x1F3FF c.toNat

/-- The class of a character. -/
def clusterClass (c : Char) : ClusterClass :=
  let n := c.toNat
  if c = '\r' then .carriageReturn
  else if c = '\n' then .lineFeed
  else if isBetween 0x20 0x7E n then .other
  else if n = 0x200D then .joiner
  else if isExtending c || isModifier c then .extend
  else if controls.mem c then .control
  else if isRegional c then .regional
  else if prepended.mem c then .prepend
  else if spacingMarks.mem c then .spacing
  else if isBetween 0x1100 0x115F n || isBetween 0xA960 0xA97C n then .lead
  else if isBetween 0x1160 0x11A7 n || isBetween 0xD7B0 0xD7C6 n || n == 0x16D63 ||
    isBetween 0x16D67 0x16D6A n then .vowel
  else if isBetween 0x11A8 0x11FF n || isBetween 0xD7CB 0xD7FB n then .trail
  else if isBetween 0xAC00 0xD7A3 n then
    if (n - 0xAC00) % 28 = 0 then .openSyllable else .closedSyllable
  else .other

/-- How far a conjunct of consonants has come. -/
inductive Conjunct where
  | none
  /-- A consonant and characters that extend it. -/
  | consonant
  /-- A consonant with a linker, and characters that extend it. -/
  | linked
  deriving DecidableEq, Repr

/-- How far a sequence of joined pictographs has come. -/
inductive Pictograph where
  | none
  /-- A pictograph and characters that extend it. -/
  | extended
  /-- A pictograph, characters that extend it, and a joiner. -/
  | joined
  deriving DecidableEq, Repr

/-- What is known of the text before a character. -/
structure Context where
  last : ClusterClass
  conjunct : Conjunct
  pictograph : Pictograph
  /-- Whether an odd number of regional indicators comes right before. -/
  oddRegionals : Bool
  deriving DecidableEq, Repr

/-- Whether classes are controls, which stand alone. -/
def ClusterClass.isControl : ClusterClass → Bool
  | carriageReturn | lineFeed | control => true
  | _ => false

/-- Whether one class of Hangul letters goes on into another. -/
def ClusterClass.joinsHangul : ClusterClass → ClusterClass → Bool
  | lead, lead | lead, vowel | lead, openSyllable | lead, closedSyllable => true
  | openSyllable, vowel | openSyllable, trail | vowel, vowel | vowel, trail => true
  | closedSyllable, trail | trail, trail => true
  | _, _ => false

/-- Whether a character belongs to the cluster before it. -/
def Context.joins (ctx : Context) (c : Char) : Bool :=
  let next := clusterClass c
  if ctx.last = .carriageReturn ∧ next = .lineFeed then true
  else if ctx.last.isControl || next.isControl then false
  else if ctx.last.joinsHangul next then true
  -- Marks and joiners belong to what is before them, whatever it is.
  else if next = .extend ∨ next = .joiner ∨ next = .spacing then true
  else if ctx.last = .prepend then true
  else if ctx.conjunct = .linked ∧ conjunctConsonants.mem c then true
  else if ctx.pictograph = .joined ∧ pictographs.mem c then true
  -- Regional indicators pair up from the left.
  else ctx.last = .regional && next = .regional && ctx.oddRegionals

/-- What is known after a character. -/
def Context.push (ctx : Context) (c : Char) : Context :=
  let next := clusterClass c
  { last := next
    conjunct :=
      if conjunctConsonants.mem c then .consonant
      else if conjunctLinkers.mem c then
        if ctx.conjunct = .none then .none else .linked
      else if (next = .extend ∧ c ≠ '\u200c') ∨ next = .joiner then ctx.conjunct
      else .none
    pictograph :=
      if pictographs.mem c then .extended
      else if next = .extend ∧ ctx.pictograph = .extended then .extended
      else if next = .joiner ∧ ctx.pictograph = .extended then .joined
      else .none
    oddRegionals := next = .regional && !(ctx.last = .regional && ctx.oddRegionals) }

/-- Before any text. -/
def Context.start : Context := ⟨.control, .none, .none, false⟩

/-- The clusters of a text that follows a given one. A cluster that goes on from before stands first;
    it is empty if there is none. -/
def clustersFrom (ctx : Context) : Text → Text × List Text
  | [] => ([], [])
  | c :: rest =>
    let (cluster, clusters) := clustersFrom (ctx.push c) rest
    if ctx.joins c then (c :: cluster, clusters) else ([], (c :: cluster) :: clusters)

/-- The extended grapheme clusters of a text. -/
def clusters (t : Text) : List Text := (clustersFrom .start t).2

theorem clustersFrom_flatten (ctx : Context) (t : Text) :
    (clustersFrom ctx t).1 ++ (clustersFrom ctx t).2.flatten = t := by
  induction t generalizing ctx with
  | nil => rfl
  | cons c rest ih =>
    simp only [clustersFrom]
    split
    · simp [ih]
    · simp [ih]

theorem clustersFrom_start (t : Text) : (clustersFrom .start t).1 = [] := by
  cases t with
  | nil => rfl
  | cons c rest =>
    have h : Context.start.joins c = false := by
      simp [Context.joins, Context.start, ClusterClass.isControl]
    simp [clustersFrom, h]

/-- The clusters of a text put together are that text. -/
theorem flatten_clusters (t : Text) : (clusters t).flatten = t := by
  have h := clustersFrom_flatten .start t
  rwa [clustersFrom_start, List.nil_append] at h

end YamlListing.Unicode
