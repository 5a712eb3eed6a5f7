import YamlListing.Proofs.Yaml.Quoted

set_option autoImplicit false

/-! # Escapes

`decode` replaces every well-formed escape of a text by its character and leaves everything else as
it is. `unescape` does so up to the first broken escape, a numeric one that is not well-formed
(`firstBroken?`). From there it goes on behind the characters in the place of the digits, and these
are lost. Main statement: that is how the value of a double-quoted scalar on one line comes about
(`value_of_doubleQuoted`).

That the loss shows is a matter of counting. Whatever `unescape` goes on with, it writes no
more backslashes than `decode` does (`count_unescape_le`), so it cannot make up for one that a broken
escape took (`eq_nil_of_unescape_eq`). Only where that took a backslash itself can both agree. -/

namespace YamlListing.Yaml

open Unicode (isBlank)

/-! ## Well-formed escapes -/

/-- The character whose number is written with a given number of hexadecimal digits. -/
def numbered? (width : Nat) (digits : Text) : Option Char :=
  if digits.length = width then (hexNumberFrom 0 digits).bind charOfNumber? else none

/-- The character of the well-formed escape that a text begins with, and what follows it. -/
def escape? : Text → Option (Char × Text)
  | '\\' :: letter :: rest =>
    match escapeWidth? letter with
    | some width => (numbered? width (rest.take width)).map fun c => (c, rest.drop width)
    | none => (letterEscape? letter).map fun c => (c, rest)
  | _ => none

/-- What the front of a text stands for, and what follows it: a well-formed escape stands for its
    character, and any other character for itself. -/
def readFirst (c : Char) (rest : Text) : Char × Text := (escape? (c :: rest)).getD (c, rest)

theorem ne_backslash_of_escapeWidth? {letter : Char} {width : Nat}
    (h : escapeWidth? letter = some width) : letter ≠ '\\' := by
  rintro rfl
  cases h

theorem ne_backslash_of_letterEscape? {letter : Char} (h : letterEscape? letter = none) :
    letter ≠ '\\' := by
  rintro rfl
  cases h

theorem backslash_not_mem_of_hexNumberFrom {digits : Text} {n m : Nat}
    (h : hexNumberFrom n digits = some m) : '\\' ∉ digits := by
  induction digits generalizing n with
  | nil => exact List.not_mem_nil
  | cons c digits ih =>
    obtain ⟨d, hd, hm⟩ := Option.bind_eq_some_iff.1 h
    rw [List.mem_cons, not_or]
    refine ⟨?_, ih hm⟩
    rintro rfl
    cases hd

theorem backslash_not_mem_of_numbered? {width : Nat} {digits : Text} {c : Char}
    (h : numbered? width digits = some c) : '\\' ∉ digits := by
  rw [numbered?] at h
  split at h
  · obtain ⟨n, hn, -⟩ := Option.bind_eq_some_iff.1 h
    exact backslash_not_mem_of_hexNumberFrom hn
  · cases h

/-- Behind its backslash only the escape of a backslash has another one. -/
theorem exists_of_escape? {c d : Char} {rest after : Text}
    (h : escape? (c :: rest) = some (d, after)) :
    c = '\\' ∧ ∃ signs, rest = signs ++ after ∧ (signs = ['\\'] ∧ d = '\\' ∨ '\\' ∉ signs) := by
  unfold escape? at h
  split at h
  · next letter rest' heq =>
    obtain ⟨rfl, rfl⟩ := List.cons.inj heq
    refine ⟨rfl, ?_⟩
    split at h
    · next width hwidth =>
      obtain ⟨d', hnumbered, heq⟩ := Option.map_eq_some_iff.1 h
      obtain ⟨rfl, rfl⟩ := Prod.mk.inj heq
      refine ⟨letter :: rest'.take width, by rw [List.cons_append, List.take_append_drop], .inr ?_⟩
      rw [List.mem_cons, not_or]
      exact ⟨(ne_backslash_of_escapeWidth? hwidth).symm, backslash_not_mem_of_numbered? hnumbered⟩
    · obtain ⟨d', hletter, heq⟩ := Option.map_eq_some_iff.1 h
      obtain ⟨rfl, rfl⟩ := Prod.mk.inj heq
      refine ⟨[letter], rfl, ?_⟩
      by_cases hbackslash : letter = '\\'
      · subst hbackslash
        exact .inl ⟨rfl, (Option.some.inj hletter).symm⟩
      · exact .inr fun hmem => hbackslash (List.mem_singleton.1 hmem).symm
  · cases h

theorem readFirst_isSuffix (c : Char) (rest : Text) : (readFirst c rest).2 <:+ rest := by
  rw [readFirst]
  cases h : escape? (c :: rest) with
  | none => exact List.suffix_rfl
  | some found =>
    obtain ⟨-, signs, hsigns, -⟩ := exists_of_escape? h
    exact ⟨signs, hsigns.symm⟩

/-- A text with every well-formed escape replaced by its character and everything else as it is. -/
def decode : Text → Text
  | [] => []
  | c :: rest => (readFirst c rest).1 :: decode (readFirst c rest).2
termination_by t => t.length
decreasing_by exact Nat.lt_succ_of_le (readFirst_isSuffix c rest).length_le

/-! ## Broken escapes -/

/-- A numeric escape that is not well-formed. -/
structure BrokenEscape where
  /-- What stands before it, decoded. -/
  before : Text
  letter : Char
  /-- The characters in the place of its digits. -/
  taken : Text
  after : Text
  deriving DecidableEq, Repr

/-- The numeric escape that is not well-formed at the start of a text. At the end of the text its
    letter does no harm, since nothing is in the place of its digits. -/
def broken? : Text → Option BrokenEscape
  | '\\' :: letter :: rest =>
    (escapeWidth? letter).bind fun width =>
      if rest = [] ∨ (numbered? width (rest.take width)).isSome then none
      else some ⟨[], letter, rest.take width, rest.drop width⟩
  | _ => none

/-- The first numeric escape of a text that is not well-formed. -/
def firstBroken? : Text → Option BrokenEscape
  | [] => none
  | c :: rest =>
    (broken? (c :: rest)).or
      ((firstBroken? (readFirst c rest).2).map fun b =>
        { b with before := (readFirst c rest).1 :: b.before })
termination_by t => t.length
decreasing_by exact Nat.lt_succ_of_le (readFirst_isSuffix c rest).length_le

/-- What `unescape` makes of a numeric escape with the given characters in the place of its digits. -/
def numericValue (letter : Char) (digits : Text) : Text :=
  match (hexNumber? digits).bind charOfNumber? with
  | some c => [c]
  | none => ['\\', letter]

/-- What is left of the escape: the character whose number its characters write all the same, with
    fewer digits or a sign, or its backslash and its letter. -/
def BrokenEscape.left (b : BrokenEscape) : Text := numericValue b.letter b.taken

/-! ## Reading the front of a text -/

section front

variable {c letter : Char} {rest t : Text} {b : BrokenEscape} {width : Nat}

theorem readFirst_of_ne (h : c ≠ '\\') (rest : Text) : readFirst c rest = (c, rest) := by
  rw [readFirst]
  cases hescape : escape? (c :: rest) with
  | none => rfl
  | some found => exact absurd (exists_of_escape? hescape).1 h

theorem escape?_numeric (h : escapeWidth? letter = some width) (rest : Text) :
    escape? ('\\' :: letter :: rest) =
      (numbered? width (rest.take width)).map fun c => (c, rest.drop width) := by
  rw [escape?, h]

theorem escape?_letter (h : escapeWidth? letter = none) (rest : Text) :
    escape? ('\\' :: letter :: rest) = (letterEscape? letter).map fun c => (c, rest) := by
  rw [escape?, h]

theorem unescape_numeric (h : escapeWidth? letter = some width) (rest : Text) :
    unescape ('\\' :: letter :: rest) =
      numericValue letter (rest.take width) ++ unescape (rest.drop width) := by
  rw [unescape, h]
  rfl

theorem unescape_letter (h : escapeWidth? letter = none) (rest : Text) :
    unescape ('\\' :: letter :: rest) =
      (letterEscape? letter).elim ['\\', letter] (fun c => [c]) ++ unescape rest := by
  rw [unescape, h]
  cases letterEscape? letter <;> rfl

theorem pos_of_escapeWidth? (h : escapeWidth? letter = some width) : 0 < width := by
  unfold escapeWidth? at h
  split at h
  all_goals cases h
  all_goals decide

/-- The number of a well-formed escape is read. -/
theorem hexNumber?_of_numbered? {digits : Text} (hwidth : 0 < width)
    (h : numbered? width digits = some c) : (hexNumber? digits).bind charOfNumber? = some c := by
  rw [numbered?] at h
  split at h
  · next hlength =>
    have hhex : hexNumber? digits = hexNumberFrom 0 digits := by
      unfold hexNumber?
      split
      · exact absurd hlength (Nat.ne_of_lt hwidth)
      · cases h
      · rfl
    rw [hhex]
    exact h
  · cases h

/-- Where no numeric escape is broken, the front of a text is read as it should be. -/
theorem unescape_cons (h : broken? (c :: rest) = none) :
    unescape (c :: rest) = (readFirst c rest).1 :: unescape (readFirst c rest).2 := by
  by_cases hc : c = '\\'
  · subst hc
    cases rest with
    | nil =>
      have hfirst : readFirst '\\' [] = ('\\', []) := rfl
      rw [hfirst, unescape, unescape]
    | cons letter rest =>
      cases hwidth : escapeWidth? letter with
      | some width =>
        rw [broken?, hwidth, Option.bind_some] at h
        rw [unescape_numeric hwidth, readFirst, escape?_numeric hwidth]
        cases hnumbered : numbered? width (rest.take width) with
        | some d =>
          rw [numericValue, hexNumber?_of_numbered? (pos_of_escapeWidth? hwidth) hnumbered]
          rfl
        | none =>
          have hrest : rest = [] := by
            refine Decidable.byContradiction fun hrest => ?_
            rw [hnumbered, Option.isSome_none,
              if_neg (not_or.2 ⟨hrest, Bool.false_ne_true⟩)] at h
            cases h
          subst hrest
          have hne : letter ≠ '\\' := ne_backslash_of_escapeWidth? hwidth
          rw [List.take_nil, List.drop_nil]
          exact congrArg (List.cons '\\') (unescape_cons_of_ne hne []).symm
      | none =>
        rw [unescape_letter hwidth, readFirst, escape?_letter hwidth]
        cases hletter : letterEscape? letter with
        | some d => rfl
        | none =>
          have hne : letter ≠ '\\' := ne_backslash_of_letterEscape? hletter
          exact congrArg (List.cons '\\') (unescape_cons_of_ne hne rest).symm
  · rw [readFirst_of_ne hc, unescape_cons_of_ne hc]

/-- What makes an escape broken. -/
theorem broken?_eq_some (h : broken? t = some b) :
    ∃ letter width rest, t = '\\' :: letter :: rest ∧ escapeWidth? letter = some width ∧ rest ≠ [] ∧
      numbered? width (rest.take width) = none ∧
      b = ⟨[], letter, rest.take width, rest.drop width⟩ := by
  unfold broken? at h
  split at h
  · next letter rest =>
    obtain ⟨width, hwidth, h⟩ := Option.bind_eq_some_iff.1 h
    split at h
    · cases h
    · next hbroken =>
      obtain ⟨hrest, hnumbered⟩ := not_or.1 hbroken
      exact ⟨letter, width, rest, rfl, hwidth, hrest, Option.not_isSome_iff_eq_none.1 hnumbered,
        (Option.some.inj h).symm⟩
  · cases h

/-- The letter of a broken escape is not read with its backslash. -/
theorem readFirst_of_broken? (h : broken? (c :: rest) = some b) :
    readFirst c rest = ('\\', rest) := by
  obtain ⟨letter, width, rest', heq, hwidth, -, hnumbered, -⟩ := broken?_eq_some h
  obtain ⟨rfl, rfl⟩ := List.cons.inj heq
  rw [readFirst, escape?_numeric hwidth, hnumbered]
  rfl

theorem after_isSuffix_of_broken? (h : broken? (c :: rest) = some b) : b.after <:+ rest := by
  obtain ⟨letter, width, rest', heq, -, -, -, rfl⟩ := broken?_eq_some h
  rw [(List.cons.inj heq).2]
  exact (List.drop_suffix width rest').trans (List.suffix_cons letter rest')

end front

/-! ## Up to the first broken escape -/

/-- Whether a text is read as it should be up to a broken escape, and how it goes on there. -/
structure BrokenEscape.Splits (b : BrokenEscape) (t : Text) : Prop where
  letter_ne : b.letter ≠ '\\'
  taken_ne_nil : b.taken ≠ []
  unescape_eq : unescape t = b.before ++ b.left ++ unescape b.after
  decode_eq : decode t = b.before ++ '\\' :: b.letter :: decode (b.taken ++ b.after)

variable {t : Text} {b : BrokenEscape}

theorem splits_of_broken? (h : broken? t = some b) : b.before = [] ∧ b.Splits t := by
  obtain ⟨letter, width, rest, rfl, hwidth, hrest, -, rfl⟩ := broken?_eq_some h
  have hne : letter ≠ '\\' := ne_backslash_of_escapeWidth? hwidth
  have htaken : rest.take width ≠ [] := by
    rw [Ne, List.take_eq_nil_iff, not_or]
    exact ⟨Nat.ne_of_gt (pos_of_escapeWidth? hwidth), hrest⟩
  refine ⟨rfl, hne, htaken, unescape_numeric hwidth rest, ?_⟩
  rw [decode, readFirst_of_broken? h, decode, readFirst_of_ne hne, List.take_append_drop]
  rfl

theorem splits_of_firstBroken? (h : firstBroken? t = some b) : b.Splits t := by
  induction t using decode.induct generalizing b with
  | case1 =>
    rw [firstBroken?] at h
    cases h
  | case2 c rest ih =>
    rw [firstBroken?] at h
    cases hbroken : broken? (c :: rest) with
    | some b' =>
      rw [hbroken, Option.some_or] at h
      obtain rfl := Option.some.inj h
      exact (splits_of_broken? hbroken).2
    | none =>
      rw [hbroken, Option.none_or, Option.map_eq_some_iff] at h
      obtain ⟨b', hb', rfl⟩ := h
      obtain ⟨hletter, htaken, hunescape, hdecode⟩ := ih hb'
      refine ⟨hletter, htaken, ?_, ?_⟩
      · rw [unescape_cons hbroken, hunescape]
        rfl
      · rw [decode, hdecode]
        rfl

theorem unescape_eq_decode (h : firstBroken? t = none) : unescape t = decode t := by
  induction t using decode.induct with
  | case1 => rw [unescape, decode]
  | case2 c rest ih =>
    rw [firstBroken?, Option.or_eq_none_iff, Option.map_eq_none_iff] at h
    rw [unescape_cons h.1, decode, ih h.2]

/-! ## What is lost -/

/-- Of a broken escape at most one backslash is left, in front. -/
theorem BrokenEscape.Splits.left_cases (h : b.Splits t) :
    '\\' ∉ b.left ∨ ∃ tail, b.left = '\\' :: tail ∧ '\\' ∉ tail := by
  rw [BrokenEscape.left, numericValue]
  split
  · next c _ =>
    by_cases hc : c = '\\'
    · exact .inr ⟨[], by rw [hc], List.not_mem_nil⟩
    · exact .inl fun hmem => hc (List.mem_singleton.1 hmem).symm
  · exact .inr ⟨[b.letter], rfl, fun hmem => h.letter_ne (List.mem_singleton.1 hmem).symm⟩

/-- One more character in front writes at most one more backslash. -/
theorem exists_count_unescape_le (c : Char) (t : Text) :
    ∃ after, after <:+ t ∧
      (unescape (c :: t)).count '\\' ≤ (unescape after).count '\\' + 1 := by
  cases hbroken : broken? (c :: t) with
  | none =>
    refine ⟨(readFirst c t).2, readFirst_isSuffix c t, ?_⟩
    rw [unescape_cons hbroken, List.count_cons]
    split <;> omega
  | some b =>
    obtain ⟨hbefore, hsplits⟩ := splits_of_broken? hbroken
    refine ⟨b.after, after_isSuffix_of_broken? hbroken, ?_⟩
    rw [hsplits.unescape_eq, hbefore, List.nil_append, List.count_append]
    rcases hsplits.left_cases with hleft | ⟨tail, hleft, htail⟩
    · rw [List.count_eq_zero.2 hleft]
      omega
    · rw [hleft, List.count_cons_self, List.count_eq_zero.2 htail]
      omega

/-- Behind a text without backslashes the same is read as at its start. -/
theorem unescape_append_of_not_mem {s : Text} (h : '\\' ∉ s) (t : Text) :
    unescape (s ++ t) = s ++ unescape t := by
  induction s with
  | nil => rfl
  | cons c s ih =>
    have hc : c ≠ '\\' := (List.ne_of_not_mem_cons h).symm
    rw [List.cons_append, unescape_cons_of_ne hc, ih (List.not_mem_of_not_mem_cons h),
      List.cons_append]

theorem decode_append_of_not_mem {s : Text} (h : '\\' ∉ s) (t : Text) :
    decode (s ++ t) = s ++ decode t := by
  induction s with
  | nil => rfl
  | cons c s ih =>
    have hc : c ≠ '\\' := (List.ne_of_not_mem_cons h).symm
    rw [List.cons_append, decode, readFirst_of_ne hc, ih (List.not_mem_of_not_mem_cons h),
      List.cons_append]

/-- What begins inside of signs without backslashes is read as if it began behind them. -/
theorem exists_count_unescape_eq {signs after : Text} (hsigns : '\\' ∉ signs)
    (h : t <:+ signs ++ after) :
    ∃ t', t' <:+ after ∧ (unescape t).count '\\' = (unescape t').count '\\' := by
  obtain ⟨front, hfront⟩ := h
  rcases List.append_eq_append_iff.1 hfront with ⟨mid, rfl, rfl⟩ | ⟨mid, -, hafter⟩
  · have hmid : '\\' ∉ mid := fun hmem => hsigns (List.mem_append_right _ hmem)
    refine ⟨after, List.suffix_rfl, ?_⟩
    rw [unescape_append_of_not_mem hmid, List.count_append, List.count_eq_zero.2 hmid, Nat.zero_add]
  · exact ⟨t, ⟨mid, hafter.symm⟩, rfl⟩

/-- Wherever `unescape` goes on, it writes no more backslashes than there are to write. -/
theorem count_unescape_le {s : Text} (h : t <:+ s) :
    (unescape t).count '\\' ≤ (decode s).count '\\' := by
  induction s using decode.induct generalizing t with
  | case1 =>
    rw [List.suffix_nil] at h
    exact Nat.le_of_eq (by rw [h, unescape, decode])
  | case2 c rest ih =>
    rw [decode, List.count_cons]
    rcases List.suffix_cons_iff.1 h with rfl | hrest
    · cases hbroken : broken? (c :: rest) with
      | none =>
        rw [unescape_cons hbroken, List.count_cons]
        exact Nat.add_le_add_right (ih List.suffix_rfl) _
      | some b =>
        rw [readFirst_of_broken? hbroken] at ih ⊢
        obtain ⟨after, hafter, hle⟩ := exists_count_unescape_le c rest
        exact Nat.le_trans hle (Nat.add_le_add_right (ih hafter) 1)
    · cases hescape : escape? (c :: rest) with
      | none =>
        rw [readFirst, hescape] at ih ⊢
        exact Nat.le_trans (ih hrest) (Nat.le_add_right _ _)
      | some found =>
        obtain ⟨d, after⟩ := found
        rw [readFirst, hescape] at ih ⊢
        obtain ⟨-, signs, rfl, ⟨rfl, rfl⟩ | hsigns⟩ := exists_of_escape? hescape
        · rcases List.suffix_cons_iff.1 hrest with rfl | hafter
          · obtain ⟨after', hafter', hle⟩ := exists_count_unescape_le '\\' after
            exact Nat.le_trans hle (Nat.add_le_add_right (ih hafter') 1)
          · exact Nat.le_trans (ih hafter) (Nat.le_add_right _ _)
        · obtain ⟨t', ht', hcount⟩ := exists_count_unescape_eq hsigns hrest
          rw [hcount]
          exact Nat.le_trans (ih ht') (Nat.le_add_right _ _)

theorem eq_nil_of_append_cons {mid back back' : Text} {c : Char}
    (h : c :: back = mid ++ c :: back') (hcount : back.count c = back'.count c) : mid = [] := by
  cases mid with
  | nil => rfl
  | cons d mid =>
    have hback : back = mid ++ c :: back' := (List.cons.inj h).2
    rw [hback, List.count_append, List.count_cons_self] at hcount
    omega

/-- Two cuts of a text at a character that is as frequent behind both are the same cut. -/
theorem append_cons_inj_of_count {front front' back back' : Text} {c : Char}
    (h : front ++ c :: back = front' ++ c :: back') (hcount : back.count c = back'.count c) :
    front = front' := by
  rcases List.append_eq_append_iff.1 h with ⟨mid, rfl, hback⟩ | ⟨mid, rfl, hback⟩
  · rw [eq_nil_of_append_cons hback hcount, List.append_nil]
  · rw [eq_nil_of_append_cons hback hcount.symm, List.append_nil]

/-- No text is read as what it should be read as with something in front. -/
theorem eq_nil_of_unescape_eq {front : Text} (h : unescape t = front ++ decode t) : front = [] := by
  cases hbroken : firstBroken? t with
  | none =>
    rw [unescape_eq_decode hbroken] at h
    exact List.append_left_eq_self.1 h.symm
  | some b =>
    have hsplits := splits_of_firstBroken? hbroken
    -- Behind the broken escape at least as many backslashes should be read as are.
    have hle : (unescape b.after).count '\\' ≤ (decode (b.taken ++ b.after)).count '\\' :=
      count_unescape_le (List.suffix_append _ _)
    rw [hsplits.unescape_eq, hsplits.decode_eq, ← List.append_assoc] at h
    have hcount := congrArg (List.count '\\') h
    simp only [List.count_append, List.count_cons_self, List.count_cons_of_ne hsplits.letter_ne]
      at hcount
    rcases hsplits.left_cases with hleft | ⟨tail, hleft, htail⟩
    · rw [List.count_eq_zero.2 hleft] at hcount
      omega
    · rw [hleft, List.count_cons_self, List.count_eq_zero.2 htail] at hcount
      rw [hleft, List.append_assoc, List.cons_append] at h
      have hbefore : b.before = front ++ b.before := by
        refine append_cons_inj_of_count h ?_
        rw [List.count_append, List.count_eq_zero.2 htail, List.count_cons_of_ne hsplits.letter_ne]
        omega
      exact List.append_left_eq_self.1 hbefore.symm

/-- The characters in the place of the digits are lost, if there is no backslash among them. -/
theorem BrokenEscape.Splits.unescape_ne_decode (h : b.Splits t) (htaken : '\\' ∉ b.taken) :
    unescape t ≠ decode t := by
  intro heq
  rw [h.unescape_eq, h.decode_eq, List.append_assoc, List.append_cancel_left_eq,
    decode_append_of_not_mem htaken] at heq
  rw [BrokenEscape.left, numericValue] at heq
  split at heq
  · obtain ⟨-, hrest⟩ := List.cons.inj heq
    have hfront : b.letter :: b.taken = [] := eq_nil_of_unescape_eq hrest
    cases hfront
  · obtain ⟨-, hrest⟩ := List.cons.inj (List.cons.inj heq).2
    exact h.taken_ne_nil (eq_nil_of_unescape_eq hrest)

/-- The value of a double-quoted scalar on one line is its content with the well-formed escapes
    replaced, up to the first broken escape. It goes on behind the characters that this one has in
    the place of its digits. -/
theorem value_of_doubleQuoted {t : Text} {token : Token} (h : token ∈ Lexer.tokenize t)
    (hkind : token.kind = .scalar .doubleQuoted) (hline : '\n' ∉ token.raw) :
    ∃ content, token.raw = '"' :: content ++ ['"'] ∧
      ((∀ c ∈ content.getLast?, isBlank c = false) →
        (firstBroken? content = none → token.value = decode content) ∧
        ∀ b, firstBroken? content = some b →
          token.value = b.before ++ b.left ++ unescape b.after ∧
          decode content = b.before ++ '\\' :: b.letter :: decode (b.taken ++ b.after) ∧
          ('\\' ∉ b.taken → token.value ≠ decode content)) := by
  have hquote : Lexer.isQuote '"' = true := rfl
  obtain ⟨content, hraw, hvalue⟩ := Lexer.exists_content_of_mem_tokenize h hquote hkind
  refine ⟨content, hraw, fun hlast => ?_⟩
  have hcontent : '\n' ∉ content := by
    intro hmem
    rw [hraw] at hline
    exact hline (List.mem_append_left _ (List.mem_cons_of_mem _ hmem))
  have hunescape : token.value = unescape content := by
    rw [hvalue, hraw, unquote_of_not_mem '"' hcontent, Text.trimEnd_eq_self_iff.2 hlast]
    rfl
  rw [hunescape]
  refine ⟨unescape_eq_decode, fun b hb => ?_⟩
  have hsplits := splits_of_firstBroken? hb
  exact ⟨hsplits.unescape_eq, hsplits.decode_eq, hsplits.unescape_ne_decode⟩

theorem value_of_doubleQuoted_broken :
    let raw := "\"\\t\\x4G, \\n\"".toList
    let token : Token :=
      ⟨.scalar .doubleQuoted, raw, "\t\\x, \n".toList, .quotedScalar, ⟨1, 1, 0, 0, 0⟩⟩
    let content := "\\t\\x4G, \\n".toList
    let b : BrokenEscape := ⟨['\t'], 'x', ['4', 'G'], ", \\n".toList⟩
    token ∈ Lexer.tokenize raw ∧ token.kind = .scalar .doubleQuoted ∧ '\n' ∉ token.raw ∧
      (∀ c ∈ content.getLast?, isBlank c = false) ∧ firstBroken? content = some b ∧
      '\\' ∉ b.taken ∧ token.value = b.before ++ b.left ++ unescape b.after ∧
      token.value ≠ decode content := by
  intro raw token content b
  have hmem : token ∈ Lexer.tokenize raw := by decide +kernel
  have hline : '\n' ∉ token.raw := by decide +kernel
  have hlast : ∀ c ∈ content.getLast?, isBlank c = false :=
    Text.trimEnd_eq_self_iff.1 (by decide +kernel)
  have hb : firstBroken? content = some b := by decide +kernel
  have htaken : '\\' ∉ b.taken := by decide +kernel
  obtain ⟨content', hraw, hvalue⟩ := value_of_doubleQuoted hmem rfl hline
  obtain rfl : content = content' :=
    List.append_cancel_right (List.cons.inj (show '"' :: content ++ ['"'] = _ from hraw)).2
  obtain ⟨heq, -, hne⟩ := (hvalue hlast).2 b hb
  exact ⟨hmem, rfl, hline, hlast, hb, htaken, heq, hne htaken⟩

/-- The characters that are no digits are lost. -/
theorem not_value_eq_decode :
    ¬ ∀ (t : Text), ∀ token ∈ Lexer.tokenize t, token.kind = .scalar .doubleQuoted →
      '\n' ∉ token.raw → ∀ content, token.raw = '"' :: content ++ ['"'] →
        (∀ c ∈ content.getLast?, isBlank c = false) → token.value = decode content := by
  intro h
  have htoken : (⟨.scalar .doubleQuoted, "\"\\xZZ\"".toList, "\\x".toList, .quotedScalar,
      ⟨1, 1, 0, 0, 0⟩⟩ : Token) ∈ Lexer.tokenize "\"\\xZZ\"".toList := by decide +kernel
  have hline : '\n' ∉ "\"\\xZZ\"".toList := by decide +kernel
  have hlast := Text.trimEnd_eq_self_iff.1 (show Text.trimEnd "\\xZZ".toList = _ by decide +kernel)
  have hvalue := h _ _ htoken rfl hline "\\xZZ".toList rfl hlast
  have hdecode : decode "\\xZZ".toList = "\\xZZ".toList := by decide +kernel
  rw [hdecode] at hvalue
  revert hvalue
  decide

-- Here the digits of an escape that begins among the lost characters make up for them.
example : unescape "\\U\\x3003\\u0030".toList = decode "\\U\\x3003\\u0030".toList := by decide +kernel

end YamlListing.Yaml
