import Mathlib.Data.List.Basic
import YamlListing.Proofs.Yaml.Partition
import YamlListing.Proofs.Yaml.Run

set_option autoImplicit false

/-! # Missing values

An implicit null right after a token of a text says that a value is missing there. That is so
exactly where `isValueMissing` says it of a colon and the tokens around it (`isNullAfter_iff`), since
tokens end at different places and no other segment is without width.

A value on a later line is found by its column: it has to stand further right than the entry of the
colon. `keyColumn` takes the entry to begin where the key does. A key may have properties before it
on the line, and then the entry begins with these; a value that is indented against them, but not
against the key, counts as missing. `KeyLine.isNullAfter_below_iff` says when that is. -/

namespace YamlListing.Yaml

/-- Tokens that end at the same place divide the tokens of a text in the same way. -/
theorem Tiles.split_eq {before text : Text} {front front' after after' : List Token}
    {token token' : Token} (h : Tiles before text (front ++ token :: after))
    (hsplit : front ++ token :: after = front' ++ token' :: after')
    (hstop : token.stop = token'.stop) : front = front' ∧ token = token' ∧ after = after' := by
  obtain ⟨-, hafter, hfront⟩ := List.pairwise_append.1 h.stop_pairwise
  refine (List.append_cons_inj_of_notMem (fun hmem => ?_) (fun hmem => ?_)).1 hsplit
  · have hlt := hfront token' hmem token List.mem_cons_self
    rw [hstop] at hlt
    exact Position.not_lt.2 (Position.le_refl _) hlt
  · have hlt := List.rel_of_pairwise_cons hafter hmem
    rw [hstop] at hlt
    exact Position.not_lt.2 (Position.le_refl _) hlt

namespace Segment

/-! ## Implicit nulls of a text -/

section ofTokens

variable {previous : Option Token} {flow : Nat} {tokens : List Token} {segment : Segment}

/-- Each segment is that of a token between its neighbours. -/
theorem mem_ofTokensFrom_iff : segment ∈ ofTokensFrom previous flow tokens ↔
    ∃ front token after, tokens = front ++ token :: after ∧
      segment ∈ ofToken (front.getLast?.or previous)
        (((front ++ [token]).map (·.kind)).foldl flowAfter flow) token after := by
  induction tokens generalizing previous flow with
  | nil =>
    refine ⟨fun h => absurd h List.not_mem_nil, ?_⟩
    rintro ⟨front, token, after, hsplit, -⟩
    exact absurd hsplit.symm (List.append_ne_nil_of_right_ne_nil front (List.cons_ne_nil _ _))
  | cons first tokens ih =>
    have hlast (front : List Token) :
        (first :: front).getLast?.or previous = front.getLast?.or (some first) := by
      rw [List.getLast?_cons, Option.some_or, Option.or_some]
    rw [ofTokensFrom, List.mem_append, ih]
    constructor
    · rintro (hmem | ⟨front, token, after, rfl, hmem⟩)
      · exact ⟨[], first, tokens, rfl, hmem⟩
      · refine ⟨first :: front, token, after, rfl, ?_⟩
        rw [hlast]
        exact hmem
    · rintro ⟨front, token, after, hsplit, hmem⟩
      cases front with
      | nil =>
        obtain ⟨rfl, rfl⟩ := List.cons.inj hsplit
        exact Or.inl hmem
      | cons head front =>
        obtain ⟨rfl, rfl⟩ := List.cons.inj hsplit
        rw [hlast] at hmem
        exact Or.inr ⟨front, token, after, rfl, hmem⟩

end ofTokens

/-- Whether an implicit null stands right after a token of a text. -/
def IsNullAfter (t : Text) (token : Token) : Prop :=
  ∃ segment ∈ ofText t, segment.category = .literalNullImplicit ∧ segment.span = .empty token.stop

instance (t : Text) (token : Token) : Decidable (IsNullAfter t token) :=
  inferInstanceAs (Decidable (∃ segment ∈ ofText t, _))

/-- An implicit null stands after the colons whose value is missing, and nowhere else. -/
theorem isNullAfter_iff {t : Text} {front after : List Token} {token : Token}
    (htokens : Lexer.tokenize t = front ++ token :: after) :
    IsNullAfter t token ↔ token.kind = .mappingValue ∧ isValueMissing front.getLast? token after
      (0 < ((front ++ [token]).map (·.kind)).foldl flowAfter 0) = true := by
  have htiles := Lexer.tokenize_tiles t
  constructor
  · rintro ⟨segment, hmem, -, hspan⟩
    rw [ofText, ofTokens, mem_ofTokensFrom_iff] at hmem
    obtain ⟨front', token', after', hsplit, hmem⟩ := hmem
    have hmem' : token' ∈ Lexer.tokenize t := by
      rw [hsplit]
      exact List.mem_append_right front' List.mem_cons_self
    have hproper := htiles.isProper token' hmem'
    rcases mem_ofToken_iff.1 hmem with rfl | ⟨hnull, rfl⟩
    · -- The token has some text, so its own segment is not without width.
      obtain ⟨before, -, -, hat⟩ := htiles.exists_isAt token' hmem'
      have hspan : Text.spanOf ([] ++ before) token'.raw = .empty token.stop := by
        rw [← span_of_isAt hat]
        exact hspan
      have hempty : (Text.spanOf ([] ++ before) token'.raw).isEmpty = true := by
        rw [hspan, Span.isEmpty, Span.empty, beq_self_eq_true]
      exact absurd (Text.isEmpty_spanOf.1 hempty) hproper.raw_ne_nil
    · rw [implicitNull_span hproper hnull.1] at hspan
      rw [htokens] at htiles hsplit
      obtain ⟨rfl, rfl, rfl⟩ := htiles.split_eq hsplit (congrArg Span.start hspan).symm
      rw [Option.or_none] at hnull
      exact hnull
  · intro hnull
    have hproper := htiles.isProper token (by
      rw [htokens]
      exact List.mem_append_right front List.mem_cons_self)
    refine ⟨implicitNull token, ?_, rfl, implicitNull_span hproper hnull.1⟩
    rw [ofText, ofTokens, mem_ofTokensFrom_iff]
    refine ⟨front, token, after, htokens, mem_ofToken_iff.2 (Or.inr ⟨?_, rfl⟩)⟩
    rw [Option.or_none]
    exact hnull

/-- Outside flow collections a token on a later line is the value if it stands further right than
the entry of the colon; a sequence may begin right below. -/
theorem isValueMissing_below_iff {before : Option Token} {colon next : Token} {after : List Token}
    (hnext : after.find? (·.kind != .comment) = some next)
    (hline : colon.place.line < next.place.line) (hheader : next.kind ≠ .documentHeader)
    (hend : next.kind ≠ .documentEnd) : isValueMissing before colon after false = true ↔
      next.place.column < keyColumn before colon ∨
        (next.place.column = keyColumn before colon ∧ next.kind ≠ .sequenceEntry) := by
  rw [isValueMissing, hnext]
  dsimp only
  split
  · next hkind => exact absurd hkind hheader
  · next hkind => exact absurd hkind hend
  · rw [if_neg Bool.false_ne_true, if_neg (Nat.ne_of_gt hline)]
    by_cases hentry : next.kind = .sequenceEntry
    · simp [hentry]
    · simp [hentry, Nat.le_iff_lt_or_eq]

/-! ## Keys with properties -/

/-- A colon of a text outside flow collections, on a line that holds nothing else up to it but a key
    and, before that, properties. -/
structure KeyLine (t : Text) where
  before : List Lexer.Step
  properties : List Lexer.Step
  key : Lexer.Step
  colon : Lexer.Step
  after : List Lexer.Step
  steps_eq : Lexer.steps t = before ++ properties ++ key :: colon :: after
  stop_line_lt : ∀ step ∈ before, step.token.stop.line < colon.token.place.line
  isProperty : ∀ step ∈ properties, (step.token.kind = .anchor ∨ step.token.kind = .tag) ∧
    step.token.place.line = colon.token.place.line
  isScalar : ∃ style, key.token.kind = .scalar style
  key_line : key.token.stop.line = colon.token.place.line
  isColon : colon.token.kind = .mappingValue
  flow_eq : colon.flow = 0

namespace KeyLine

variable {t : Text} {next : Token}

/-- The first token on the line of the colon. -/
def first (x : KeyLine t) : Token := ((x.properties.head?).getD x.key).token

/-- The first token after the colon that is no comment. -/
def next? (x : KeyLine t) : Option Token := (x.after.map (·.token)).find? (·.kind != .comment)

/-- Whether a token that is no document marker comes next, comments apart, on a later line. -/
structure IsFollowedBy (x : KeyLine t) (next : Token) : Prop where
  next?_eq : x.next? = some next
  line_lt : x.colon.token.place.line < next.place.line
  ne_documentHeader : next.kind ≠ .documentHeader
  ne_documentEnd : next.kind ≠ .documentEnd

/-- The value of a colon outside flow collections is looked for next to its key. -/
theorem isNullAfter_iff_isValueMissing (x : KeyLine t) : IsNullAfter t x.colon.token ↔
    isValueMissing (some x.key.token) x.colon.token (x.after.map (·.token)) false = true := by
  have hsteps : Lexer.steps t = (x.before ++ x.properties ++ [x.key]) ++ x.colon :: x.after := by
    rw [x.steps_eq, List.append_assoc _ [x.key], List.singleton_append]
  have htokens : Lexer.tokenize t = (x.before ++ x.properties ++ [x.key]).map (·.token) ++
      x.colon.token :: x.after.map (·.token) := by
    rw [Lexer.tokenize, hsteps, List.map_append, List.map_cons]
  have hflow : (((x.before ++ x.properties ++ [x.key]).map (·.token) ++ [x.colon.token]).map
      (·.kind)).foldl flowAfter 0 = 0 := by
    obtain ⟨final, hcounts⟩ := Lexer.steps_counts t
    rw [hsteps] at hcounts
    have hfinal := hcounts.flow_eq
    rw [x.flow_eq, List.map_append] at hfinal
    rw [List.map_append, List.map_map]
    exact hfinal.symm
  rw [isNullAfter_iff htokens, and_iff_right x.isColon, hflow, List.map_append, List.map_singleton,
    List.getLast?_concat]
  rfl

/-- A value on a later line counts as missing exactly if it does not stand further right than the
key, a sequence even only if it stands further left. So without properties before the key all is
present that stands further right than the first token of the line. -/
theorem isNullAfter_below_iff (x : KeyLine t) (h : x.IsFollowedBy next) :
    (IsNullAfter t x.colon.token ↔ next.place.column < x.key.token.place.column ∨
      (next.place.column = x.key.token.place.column ∧ next.kind ≠ .sequenceEntry)) ∧
    (x.properties = [] → x.first.place.column < next.place.column →
      ¬ IsNullAfter t x.colon.token) := by
  have hnull : IsNullAfter t x.colon.token ↔ next.place.column < x.key.token.place.column ∨
      (next.place.column = x.key.token.place.column ∧ next.kind ≠ .sequenceEntry) := by
    rw [x.isNullAfter_iff_isValueMissing,
      isValueMissing_below_iff h.next?_eq h.line_lt h.ne_documentHeader h.ne_documentEnd,
      keyColumn, if_pos x.key_line]
  refine ⟨hnull, fun hproperties hcolumn => ?_⟩
  rw [first, hproperties] at hcolumn
  rw [hnull]
  have hcolumn : x.key.token.place.column < next.place.column := hcolumn
  omega

/-- A key on a line of its own, then a comment, and its value on the next line. -/
def commented : KeyLine ['k', ':', ' ', '#', 'c', '\n', ' ', 'v'] where
  before := []
  properties := []
  key := ⟨⟨.scalar .plain, ['k'], ['k'], .none, ⟨1, 1, 0, 0, 0⟩⟩, 0⟩
  colon := ⟨⟨.mappingValue, [':'], [':'], .blockStructure, ⟨1, 2, 1, 0, 0⟩⟩, 0⟩
  after := [⟨⟨.comment, ['#', 'c'], ['c'], .comment, ⟨1, 4, 3, 0, 0⟩⟩, 0⟩,
    ⟨⟨.scalar .plain, ['v'], ['v'], .none, ⟨2, 2, 7, 1, 1⟩⟩, 0⟩]
  steps_eq := by decide +kernel
  stop_line_lt := List.forall_mem_nil _
  isProperty := List.forall_mem_nil _
  isScalar := ⟨.plain, rfl⟩
  key_line := rfl
  isColon := rfl
  flow_eq := rfl

/-- The comment does not hide the value. -/
theorem not_isNullAfter_commented :
    let value : Token := ⟨.scalar .plain, ['v'], ['v'], .none, ⟨2, 2, 7, 1, 1⟩⟩
    commented.IsFollowedBy value ∧ commented.first.place.column < value.place.column ∧
      ¬ IsNullAfter ['k', ':', ' ', '#', 'c', '\n', ' ', 'v'] commented.colon.token := by
  intro value
  have h : commented.IsFollowedBy value := ⟨by decide, by decide, nofun, nofun⟩
  have hcolumn : commented.first.place.column < value.place.column := by decide
  exact ⟨h, hcolumn, (commented.isNullAfter_below_iff h).2 rfl hcolumn⟩

/-- A key with an anchor before it, and a value between the two columns. -/
def anchored : KeyLine ['&', 'a', ' ', 'k', ':', '\n', ' ', ' ', 'v'] where
  before := []
  properties := [⟨⟨.anchor, ['&', 'a'], ['a'], .nodeProperty, ⟨1, 1, 0, 0, 0⟩⟩, 0⟩]
  key := ⟨⟨.scalar .plain, ['k'], ['k'], .none, ⟨1, 4, 3, 0, 0⟩⟩, 0⟩
  colon := ⟨⟨.mappingValue, [':'], [':'], .blockStructure, ⟨1, 5, 4, 0, 0⟩⟩, 0⟩
  after := [⟨⟨.scalar .plain, ['v'], ['v'], .none, ⟨2, 3, 8, 2, 1⟩⟩, 0⟩]
  steps_eq := by decide +kernel
  stop_line_lt := List.forall_mem_nil _
  isProperty := List.forall_mem_singleton.2 ⟨Or.inl rfl, rfl⟩
  isScalar := ⟨.plain, rfl⟩
  key_line := rfl
  isColon := rfl
  flow_eq := rfl

/-- A value that stands further right than the first token of the line may count as missing. -/
theorem not_present_anchored : ¬ ∀ (t : Text) (x : KeyLine t) (next : Token),
    x.IsFollowedBy next → x.first.place.column < next.place.column →
      ¬ IsNullAfter t x.colon.token := by
  intro h
  refine h _ anchored ⟨.scalar .plain, ['v'], ['v'], .none, ⟨2, 3, 8, 2, 1⟩⟩ ?_ ?_ ?_
  · exact ⟨by decide, by decide, nofun, nofun⟩
  · decide
  · decide +kernel

end KeyLine

end Segment

end YamlListing.Yaml
