import YamlListing.Proofs.Unicode.Tables
import YamlListing.Unicode.Lowercase
import YamlListing.Unicode.WidthVariant

set_option autoImplicit false

/-! # Letters that stand for others

A capital letter has a small one, a letter with diacritics has a base letter, and a width variant
has an ordinary form. What a character stands for stands for itself: small letters have no other
small letters (`lowercase_of_mem`), base letters no other base letters (`baseLetters_of_mem`), and
ordinary forms are no width variants (`widthBlocks_checked`). Each of these is read off the tables,
which are compared as a whole. -/

namespace YamlListing.Unicode

variable {c d : Char} {x y : Nat}

/-- The code points that are characters. -/
def characters : List (Nat × Nat) := [(0, 0xD7FF), (0xE000, 0x10FFFF)]

theorem isValidChar_iff : x.isValidChar ↔ InRanges characters x := by
  simp only [Nat.isValidChar, InRanges, characters, List.mem_cons, List.not_mem_nil, or_false,
    exists_eq_or_imp, exists_eq_left]
  omega

/-- A code point as a character, if it is one. -/
theorem toNat_ofNat (h : InRanges characters x) : (Char.ofNat x).toNat = x := by
  rw [Char.ofNat, dif_pos (isValidChar_iff.2 h)]
  rfl

/-! ## Small letters -/

/-- Every so many code points from a start on, as many as a run of capitals has. -/
def CapitalRun.strideFrom (r : CapitalRun) (start : Nat) : List (Nat × Nat) :=
  if r.step = 1 then [(start, start + (r.last - r.first))]
  else points ((List.range ((r.last - r.first) / r.step + 1)).map fun k => start + r.step * k)

/-- The capital letters. -/
def capitals : List (Nat × Nat) :=
  (0x130, 0x130) :: capitalRuns.toList.flatMap fun r => r.strideFrom r.first

/-- The small letters, and the dot that is left of the I with a dot. -/
def smallLetters : List (Nat × Nat) :=
  [(0x69, 0x69), (0x307, 0x307)] ++ capitalRuns.toList.flatMap fun r => r.strideFrom r.lower

/-- Whether a run has a capital letter with a small one. -/
structure CapitalRun.Has (r : CapitalRun) (x y : Nat) : Prop where
  first_le : r.first ≤ x
  le_last : x ≤ r.last
  step : (x - r.first) % r.step = 0
  small : y = r.lower + (x - r.first)

/-- Whether a capital letter has a single small one. -/
def HasSmall (x y : Nat) : Prop := ∃ r ∈ capitalRuns.toList, r.Has x y

theorem CapitalRun.inRanges_strideFrom {r : CapitalRun} {start : Nat} :
    InRanges (r.strideFrom start) x ↔
      start ≤ x ∧ x - start ≤ r.last - r.first ∧ (x - start) % r.step = 0 := by
  rw [strideFrom]
  split
  · next hone =>
    simp only [InRanges, List.mem_singleton, exists_eq_left, hone, Nat.mod_one, and_true]
    omega
  · simp only [inRanges_points, List.mem_map, List.mem_range, Nat.lt_succ_iff]
    constructor
    · rintro ⟨k, hk, rfl⟩
      have hle := Nat.mul_le_mul_left r.step hk
      have hdiv := Nat.mul_div_le (r.last - r.first) r.step
      rw [Nat.add_sub_cancel_left, Nat.mul_mod_right]
      exact ⟨Nat.le_add_right _ _, hle.trans hdiv, rfl⟩
    · rintro ⟨hstart, hlast, hstep⟩
      have hmul := Nat.mul_div_cancel' (Nat.dvd_of_mod_eq_zero hstep)
      refine ⟨(x - start) / r.step, Nat.div_le_div_right hlast, ?_⟩
      rw [hmul, Nat.add_sub_cancel' hstart]

/-- What is read off the table of capitals: its runs come in order and leave out the I with a dot,
all small letters are characters, and none of them is a capital. -/
theorem capitalRuns_checked :
    (∀ r ∈ capitalRuns.toList, r.first ≤ r.last ∧ (r.last < 0x130 ∨ 0x130 < r.first)) ∧
    capitalRuns.toList.IsChain (fun r r' => r.last < r'.first ∧ r'.first ≤ r'.last) ∧
    bits smallLetters ||| bits characters = bits characters ∧
    bits smallLetters &&& bits capitals = 0 := by
  decide +kernel

theorem capitalRuns_areStretches : AreStretches (·.first) (·.last) capitalRuns :=
  .of_isChain (fun r hr => (capitalRuns_checked.1 r hr).1) capitalRuns_checked.2.1

theorem inRanges_capitals : InRanges capitals x ↔ x = 0x130 ∨ ∃ y, HasSmall x y := by
  have hrun {r : CapitalRun} (hr : r ∈ capitalRuns.toList) :
      InRanges (r.strideFrom r.first) x ↔ ∃ y, r.Has x y := by
    have hle := capitalRuns_areStretches.start_le_stop r hr
    rw [CapitalRun.inRanges_strideFrom]
    constructor
    · exact fun h => ⟨_, h.1, by omega, h.2.2, rfl⟩
    · exact fun ⟨y, h⟩ => ⟨h.first_le, Nat.sub_le_sub_right h.le_last _, h.step⟩
  rw [capitals, inRanges_cons, inRanges_flatMap]
  refine or_congr (by omega) ?_
  constructor
  · rintro ⟨r, hr, hin⟩
    obtain ⟨y, h⟩ := (hrun hr).1 hin
    exact ⟨y, r, hr, h⟩
  · rintro ⟨y, r, hr, h⟩
    exact ⟨r, hr, (hrun hr).2 ⟨y, h⟩⟩

theorem HasSmall.inRanges_smallLetters (h : HasSmall x y) : InRanges smallLetters y := by
  obtain ⟨r, hr, hhas⟩ := h
  refine inRanges_append.2 (Or.inr (inRanges_flatMap.2 ⟨r, hr, ?_⟩))
  rw [CapitalRun.inRanges_strideFrom, hhas.small, Nat.add_sub_cancel_left]
  exact ⟨Nat.le_add_right _ _, Nat.sub_le_sub_right hhas.le_last _, hhas.step⟩

theorem HasSmall.toNat_small (h : HasSmall x y) : (Char.ofNat y).toNat = y :=
  toNat_ofNat (inRanges_of_bits capitalRuns_checked.2.2.1 h.inRanges_smallLetters)

theorem not_inRanges_capitals (h : InRanges smallLetters x) : ¬ InRanges capitals x :=
  not_inRanges_of_bits capitalRuns_checked.2.2.2 h

theorem lowercase_dotted : lowercase '\u0130' = ['i', '\u0307'] := rfl

theorem lowercase_cases (c : Char) : lowercase c = [c] ∨ c = '\u0130' ∨
    ∃ y, HasSmall c.toNat y ∧ lowercase c = [Char.ofNat y] := by
  rw [lowercase]
  split
  · next hdotted => exact Or.inr (Or.inl hdotted)
  · split
    · exact Or.inl rfl
    · next r hfound =>
      obtain ⟨hmem, hfirst⟩ := of_lastAtMost? hfound
      split
      · next hin =>
        rw [Bool.and_eq_true, decide_eq_true_eq, beq_iff_eq] at hin
        exact Or.inr (Or.inr ⟨_, ⟨r, hmem.val, hfirst, hin.1, hin.2, rfl⟩, rfl⟩)
      · exact Or.inl rfl

theorem HasSmall.lowercase_eq (h : HasSmall c.toNat y) : lowercase c = [Char.ofNat y] := by
  obtain ⟨r, hr, hfirst, hlast, hstep, rfl⟩ := h
  have hdotted : c ≠ '\u0130' := by
    rintro rfl
    have hout : r.last < 0x130 ∨ 0x130 < r.first := (capitalRuns_checked.1 r hr).2
    have hcode : '\u0130'.toNat = 0x130 := rfl
    omega
  have hfound := capitalRuns_areStretches.lastAtMost?_eq_some hr hfirst hlast
  simp only [lowercase, if_neg hdotted, hfound]
  rw [if_pos]
  rw [Bool.and_eq_true, decide_eq_true_eq, beq_iff_eq]
  exact ⟨hlast, hstep⟩

theorem lowercase_eq_self_iff : lowercase c = [c] ↔ ¬ InRanges capitals c.toNat := by
  rw [inRanges_capitals]
  constructor
  · rintro h (hdotted | ⟨y, hsmall⟩)
    · obtain rfl : c = '\u0130' := Char.toNat_inj.1 hdotted
      rw [lowercase_dotted] at h
      cases h
    · rw [hsmall.lowercase_eq, List.cons.injEq] at h
      have hsame : y = c.toNat := by
        rw [← h.1, hsmall.toNat_small]
      refine not_inRanges_capitals hsmall.inRanges_smallLetters ?_
      exact inRanges_capitals.2 (Or.inr ⟨y, hsame ▸ hsmall⟩)
  · intro hnone
    rcases lowercase_cases c with hself | rfl | ⟨y, hsmall, -⟩
    · exact hself
    · exact absurd (Or.inl rfl) hnone
    · exact absurd (Or.inr ⟨y, hsmall⟩) hnone

/-- Small letters have no other small letters. -/
theorem lowercase_of_mem (h : d ∈ lowercase c) : lowercase d = [d] := by
  rcases lowercase_cases c with hself | rfl | ⟨y, hsmall, hlower⟩
  · rw [hself] at h
    rw [List.mem_singleton.1 h, hself]
  · refine lowercase_eq_self_iff.2 (not_inRanges_capitals (inRanges_append.2 (Or.inl ?_)))
    simp only [lowercase_dotted, List.mem_cons, List.not_mem_nil, or_false] at h
    rcases h with rfl | rfl <;> decide
  · rw [hlower] at h
    rw [lowercase_eq_self_iff, List.mem_singleton.1 h, hsmall.toNat_small]
    exact not_inRanges_capitals hsmall.inRanges_smallLetters

/-! ## Blocks -/

/-- The base letters of a table of blocks with the characters that they are for. -/
def pairsOf (blocks : Array BaseBlock) : List (Nat × Nat) :=
  blocks.toList.flatMap fun b => b.bases.zipIdx b.first

/-- The characters of a table of blocks. -/
def charactersOf (blocks : Array BaseBlock) : List (Nat × Nat) :=
  blocks.toList.map fun b => (b.first, b.first + b.bases.length - 1)

/-- The base letters of a table of blocks. -/
def basesOf (blocks : Array BaseBlock) : List (Nat × Nat) :=
  points (blocks.toList.flatMap (·.bases))

/-- What a table of blocks has for a character: its base letter, or itself. -/
def baseIn (blocks : Array BaseBlock) (c : Char) : List Char :=
  match lastAtMost? (fun (b : BaseBlock) => b.first) blocks c.toNat with
  | none => [c]
  | some b => match b.bases[c.toNat - b.first]? with
    | none => [c]
    | some base => [Char.ofNat base]

theorem inRanges_of_mem_pairsOf {blocks : Array BaseBlock} (h : (x, y) ∈ pairsOf blocks) :
    InRanges (basesOf blocks) x ∧ InRanges (charactersOf blocks) y := by
  obtain ⟨b, hb, hpair⟩ := List.mem_flatMap.1 h
  obtain ⟨hfirst, hget⟩ := List.mk_mem_zipIdx_iff_le_and_getElem?_sub.1 hpair
  have hlast := (List.getElem?_eq_some_iff.1 hget).1
  refine ⟨?_, _, List.mem_map.2 ⟨b, hb, rfl⟩, hfirst, by omega⟩
  exact inRanges_points.2 (List.mem_flatMap.2 ⟨b, hb, List.mem_of_getElem? hget⟩)

theorem baseIn_cases (blocks : Array BaseBlock) (c : Char) : baseIn blocks c = [c] ∨
    ∃ base, (base, c.toNat) ∈ pairsOf blocks ∧ baseIn blocks c = [Char.ofNat base] := by
  rw [baseIn]
  split
  · exact Or.inl rfl
  · next b hfound =>
    obtain ⟨hmem, hfirst⟩ := of_lastAtMost? hfound
    split
    · exact Or.inl rfl
    · next base hbase =>
      refine Or.inr ⟨base, ?_, rfl⟩
      refine List.mem_flatMap.2 ⟨b, hmem.val, ?_⟩
      exact List.mk_mem_zipIdx_iff_le_and_getElem?_sub.2 ⟨hfirst, hbase⟩

/-! ## Base letters -/

/-- The characters that are not their own base letters. -/
def composed : List (Nat × Nat) :=
  (0xAC00, 0xD7A3) :: (0x16D68, 0x16D6A) :: marks.ranges.toList ++ charactersOf baseBlocks

/-- Where the letters are that Hangul syllables are made of, and those of the Kirat Rai vowels. -/
def soundLetters : List (Nat × Nat) := [(0x1100, 0x11FF), (0x16D63, 0x16D67)]

/-- What is read off the table of base letters: all are characters, and none is composed. -/
theorem baseBlocks_checked :
    bits (soundLetters ++ basesOf baseBlocks) ||| bits characters = bits characters ∧
    bits (soundLetters ++ basesOf baseBlocks) &&& bits composed = 0 := by
  decide +kernel

theorem baseLetters_eq (c : Char) : baseLetters c =
    if 0xAC00 ≤ c.toNat ∧ c.toNat ≤ 0xD7A3 then hangulLetters (c.toNat - 0xAC00)
    else if c.toNat = 0x16D68 then [0x16D67, 0x16D67].map Char.ofNat
    else if c.toNat = 0x16D69 then [0x16D63, 0x16D67].map Char.ofNat
    else if c.toNat = 0x16D6A then [0x16D63, 0x16D67, 0x16D67].map Char.ofNat
    else if isMark c then []
    else baseIn baseBlocks c := by
  rw [baseLetters]
  -- The table itself must not be looked into.
  generalize baseBlocks = blocks
  rfl

theorem inRanges_hangulLetters (hx : x ≤ 0xD7A3 - 0xAC00) (h : d ∈ hangulLetters x) :
    InRanges soundLetters d.toNat := by
  have hletters : ∀ n ∈ [0x1100 + x / 588, 0x1161 + x % 588 / 28, 0x11A7 + x % 28],
      0x1100 ≤ n ∧ n ≤ 0x11FF := by
    simp only [List.mem_cons, List.not_mem_nil, or_false]
    omega
  have hmem : ∃ n ∈ [0x1100 + x / 588, 0x1161 + x % 588 / 28, 0x11A7 + x % 28],
      Char.ofNat n = d := by
    simp only [hangulLetters] at h
    refine List.mem_map.1 ?_
    split at h
    · exact List.mem_append_left [_] h
    · exact h
  obtain ⟨n, hn, rfl⟩ := hmem
  obtain ⟨hlow, hhigh⟩ := hletters n hn
  rw [toNat_ofNat ⟨_, List.mem_cons_self, Nat.zero_le _, by omega⟩]
  exact ⟨_, List.mem_cons_self, hlow, hhigh⟩

/-- A base letter is the character itself, if that has no other one, or it comes from the table or
is one of those that syllables are made of. -/
theorem baseLetters_cases (h : d ∈ baseLetters c) : baseLetters c = [c] ∨
    (d.toNat, c.toNat) ∈ pairsOf baseBlocks ∨ InRanges soundLetters d.toNat := by
  have hkiratRai {l : List Nat} (hl : ∀ n ∈ l, n = 0x16D63 ∨ n = 0x16D67)
      (hd : d ∈ l.map Char.ofNat) : InRanges soundLetters d.toNat := by
    obtain ⟨n, hn, rfl⟩ := List.mem_map.1 hd
    rcases hl n hn with rfl | rfl <;> decide
  rw [baseLetters_eq] at h ⊢
  split at h
  · exact Or.inr (Or.inr (inRanges_hangulLetters (by omega) h))
  next hhangul =>
  split at h
  · exact Or.inr (Or.inr (hkiratRai (by decide) h))
  next hfirst =>
  split at h
  · exact Or.inr (Or.inr (hkiratRai (by decide) h))
  next hsecond =>
  split at h
  · exact Or.inr (Or.inr (hkiratRai (by decide) h))
  next hthird =>
  split at h
  · cases h
  next hmark =>
  rw [if_neg hhangul, if_neg hfirst, if_neg hsecond, if_neg hthird, if_neg hmark]
  rcases baseIn_cases baseBlocks c with hself | ⟨base, hpair, hbase⟩
  · exact Or.inl hself
  · rw [hbase] at h
    have hchar := inRanges_of_bits baseBlocks_checked.1
      (inRanges_append.2 (Or.inr (inRanges_of_mem_pairsOf hpair).1))
    rw [List.mem_singleton.1 h, toNat_ofNat hchar]
    exact Or.inr (Or.inl hpair)

theorem baseLetters_of_not_composed (h : ¬ InRanges composed c.toNat) : baseLetters c = [c] := by
  rw [composed, inRanges_append, not_or] at h
  obtain ⟨hranges, htable⟩ := h
  have hout {r : Nat × Nat} (hr : r ∈ (0xAC00, 0xD7A3) :: (0x16D68, 0x16D6A) :: marks.ranges.toList)
      (hlow : r.1 ≤ c.toNat) (hhigh : c.toNat ≤ r.2) : False := hranges ⟨r, hr, hlow, hhigh⟩
  have hhangul : ¬ (0xAC00 ≤ c.toNat ∧ c.toNat ≤ 0xD7A3) :=
    fun hc => hout List.mem_cons_self hc.1 hc.2
  have hkiratRai (hlow : 0x16D68 ≤ c.toNat) (hhigh : c.toNat ≤ 0x16D6A) : False :=
    hout (List.mem_cons_of_mem _ List.mem_cons_self) hlow hhigh
  have hmark : ¬ isMark c = true := by
    intro hmark
    obtain ⟨r, hr, hlow, hhigh⟩ := CodePointSet.inRanges_of_mem hmark
    exact hout (List.mem_cons_of_mem _ (List.mem_cons_of_mem _ hr)) hlow hhigh
  rw [baseLetters_eq, if_neg hhangul, if_neg (fun _ => hkiratRai (by omega) (by omega)),
    if_neg (fun _ => hkiratRai (by omega) (by omega)),
    if_neg (fun _ => hkiratRai (by omega) (by omega)), if_neg hmark]
  rcases baseIn_cases baseBlocks c with hself | ⟨base, hpair, -⟩
  · exact hself
  · exact absurd (inRanges_of_mem_pairsOf hpair).2 htable

/-- Base letters have no other base letters. -/
theorem baseLetters_of_mem (h : d ∈ baseLetters c) : baseLetters d = [d] := by
  have hbase (hd : InRanges (soundLetters ++ basesOf baseBlocks) d.toNat) : baseLetters d = [d] :=
    baseLetters_of_not_composed (not_inRanges_of_bits baseBlocks_checked.2 hd)
  rcases baseLetters_cases h with hself | hpair | hsound
  · rw [hself] at h
    rw [List.mem_singleton.1 h, hself]
  · exact hbase (inRanges_append.2 (Or.inr (inRanges_of_mem_pairsOf hpair).1))
  · exact hbase (inRanges_append.2 (Or.inl hsound))

/-! ## Ordinary forms -/

/-- The width variants. -/
def widthVariants : List (Nat × Nat) := [(0x3000, 0x3000), (0xFF01, 0xFFEE)]

/-- The ordinary forms of width variants. -/
def ordinaryForms : List (Nat × Nat) :=
  [(0x20, 0x7E), (0x304, 0x304)] ++ basesOf widthBlocks

theorem isWidthVariant_iff : isWidthVariant c = true ↔ InRanges widthVariants c.toNat := by
  have hspace : c = '\u3000' ↔ c.toNat = 0x3000 := Char.toNat_inj.symm
  simp only [isWidthVariant, InRanges, widthVariants, Bool.or_eq_true, Bool.and_eq_true,
    decide_eq_true_eq, hspace, List.mem_cons, List.not_mem_nil, or_false, exists_eq_or_imp,
    exists_eq_left]
  omega

/-- What is read off the table of width variants: all ordinary forms are characters, and none is a
width variant. -/
theorem widthBlocks_checked :
    bits ordinaryForms ||| bits characters = bits characters ∧
    bits ordinaryForms &&& bits widthVariants = 0 := by
  decide +kernel

theorem ordinaryWidth_eq (c : Char) : ordinaryWidth c =
    if c = '\u3000' then [' ']
    else if c.toNat = 0xFFE3 then [' ', '\u0304']
    else if 0xFF01 ≤ c.toNat ∧ c.toNat ≤ 0xFF5E then [Char.ofNat (c.toNat - 0xFEE0)]
    else baseIn widthBlocks c := by
  rw [ordinaryWidth]
  generalize widthBlocks = blocks
  rfl

/-- The ordinary form of a character is the character itself or no width variant. -/
theorem ordinaryWidth_cases (h : d ∈ ordinaryWidth c) :
    ordinaryWidth c = [c] ∨ InRanges ordinaryForms d.toNat := by
  have hfew {x : Nat} (hx : InRanges [(0x20, 0x7E), (0x304, 0x304)] x) : InRanges ordinaryForms x :=
    inRanges_append.2 (Or.inl hx)
  rw [ordinaryWidth_eq] at h ⊢
  split at h
  · rw [List.mem_singleton.1 h]
    exact Or.inr (hfew (by decide))
  next hspace =>
  split at h
  · refine Or.inr (hfew ?_)
    simp only [List.mem_cons, List.not_mem_nil, or_false] at h
    rcases h with rfl | rfl <;> decide
  next hmacron =>
  split at h
  · next hascii =>
    rw [List.mem_singleton.1 h, toNat_ofNat ⟨_, List.mem_cons_self, Nat.zero_le _, by omega⟩]
    exact Or.inr (hfew ⟨_, List.mem_cons_self, by omega, by omega⟩)
  next hascii =>
  rw [if_neg hspace, if_neg hmacron, if_neg hascii]
  rcases baseIn_cases widthBlocks c with hself | ⟨base, hpair, hbase⟩
  · exact Or.inl hself
  · rw [hbase] at h
    have hform : InRanges ordinaryForms base :=
      inRanges_append.2 (Or.inr (inRanges_of_mem_pairsOf hpair).1)
    rw [List.mem_singleton.1 h, toNat_ofNat (inRanges_of_bits widthBlocks_checked.1 hform)]
    exact Or.inr hform

/-- Fullwidth capitals have another ordinary form. -/
theorem ordinaryWidth_ne_of_fullwidth (hfirst : 0xFF21 ≤ c.toNat) (hlast : c.toNat ≤ 0xFF3A) :
    ordinaryWidth c ≠ [c] := by
  have hspace : c ≠ '\u3000' := by
    rintro rfl
    exact absurd hfirst (by decide)
  rw [ordinaryWidth_eq, if_neg hspace, if_neg (by omega), if_pos ⟨by omega, by omega⟩]
  intro hsame
  have hcode := congrArg Char.toNat (List.cons.inj hsame).1
  rw [toNat_ofNat ⟨_, List.mem_cons_self, Nat.zero_le _, by omega⟩] at hcode
  omega

end YamlListing.Unicode
