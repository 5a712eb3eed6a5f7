import YamlListing.Proofs.Search.Columns
import YamlListing.Proofs.Search.Leftmost
import YamlListing.Proofs.Unicode.Letters

set_option autoImplicit false

/-! # Folding a folded text

A folded text should be a canonical form, which folding leaves as it is. It nearly is: what a fold
gives, the folds before it leave alone, with one exception. The long s with a dot above is a small
letter that no case fold changes; the diacritic fold, which comes last, takes its dot, and a long s
is left, which the case fold would have made an s. Main statement (`Finder.refolds_iff`): without
further steps, this letter is all that keeps a text from being folded once and for all, and all that
can make a search for the folded query differ; what is folded twice is settled. -/

namespace YamlListing.Normalizer

open Unicode

variable {n : Normalizer} {c d : Char} {t : Text} {x y : Nat}

/-- The long s with a dot above. -/
abbrev dottedLongS : Char := '\u1E9B'

/-- The small letters that a case fold changes. -/
def variantLetters : List Nat :=
  [0xDF, 0x17F, 0x3C2, 0xFB00, 0xFB01, 0xFB02, 0xFB03, 0xFB04, 0xFB05, 0xFB06]

/-- What a case fold makes of them. -/
def plainLetters : List Char := ['s', 'σ', 'f', 'i', 'l', 't']

/-- All letters that a case fold changes. -/
def casedLetters : List (Nat × Nat) := capitals ++ points variantLetters

/-- Whether the first of two code points is among those that are the bits of a number and the second
is not. -/
def onlyFirst (bits : Nat) (p : Nat × Nat) : Bool := bits.testBit p.1 && !bits.testBit p.2

/-- What becomes of the long s with a dot above, and without one. -/
theorem dottedLongS_checked : foldWidth dottedLongS = [dottedLongS] ∧
    foldCase dottedLongS = [dottedLongS] ∧ baseLetters dottedLongS = ['ſ'] ∧
    foldWidth 'ſ' = ['ſ'] ∧ foldCase 'ſ' = ['s'] ∧ baseLetters 's' = ['s'] := by
  decide +kernel

/-- What is read off the tables of capitals and of width variants: no run has the dotted long s
among its small letters, those with width variants among them have fullwidth capitals, and no width
variant stands for the dotted long s. -/
theorem smallLetters_checked :
    (∀ r ∈ capitalRuns.toList,
      ¬ (r.lower ≤ 0x1E9B ∧ 0x1E9B ≤ r.lower + (r.last - r.first)) ∧
      ((∃ v ∈ widthVariants, r.lower ≤ v.2 ∧ v.1 ≤ r.lower + (r.last - r.first)) →
        0xFF21 ≤ r.first ∧ r.last ≤ 0xFF3A)) ∧
    ¬ InRanges ordinaryForms dottedLongS.toNat := by
  decide +kernel

/-- What is read off the table of base letters: none is a width variant, and only that of the dotted
long s can be folded though the letter with its diacritics cannot. The letters that syllables are
made of cannot be folded, nor can those that a case fold makes. -/
theorem bases_checked :
    bits (soundLetters ++ basesOf baseBlocks) &&& bits widthVariants = 0 ∧
    bits (soundLetters ++ points (plainLetters.map Char.toNat)) &&& bits casedLetters = 0 ∧
    (pairsOf baseBlocks).filter (onlyFirst (bits casedLetters)) = [(0x17F, 0x1E9B)] := by
  decide +kernel

/-! ## The width fold -/

theorem foldWidth_of_not_inRanges (h : ¬ InRanges widthVariants c.toNat) : foldWidth c = [c] := by
  rw [foldWidth, if_neg]
  rwa [isWidthVariant_iff]

theorem foldWidth_cases (h : d ∈ foldWidth c) :
    foldWidth c = [c] ∨ InRanges ordinaryForms d.toNat := by
  by_cases hvariant : isWidthVariant c = true
  · rw [foldWidth, if_pos hvariant] at h ⊢
    exact ordinaryWidth_cases h
  · rw [foldWidth, if_neg hvariant]
    exact Or.inl rfl

theorem foldWidth_of_mem (h : d ∈ foldWidth c) : foldWidth d = [d] := by
  rcases foldWidth_cases h with hself | hordinary
  · rw [hself] at h
    rw [List.mem_singleton.1 h, hself]
  · exact foldWidth_of_not_inRanges (not_inRanges_of_bits widthBlocks_checked.2 hordinary)

theorem foldWidth_ne_of_fullwidth (hfirst : 0xFF21 ≤ c.toNat) (hlast : c.toNat ≤ 0xFF3A) :
    foldWidth c ≠ [c] := by
  have hvariant : InRanges widthVariants c.toNat :=
    inRanges_cons.2 (Or.inr ⟨_, List.mem_cons_self, by omega, by omega⟩)
  rw [foldWidth, if_pos (isWidthVariant_iff.2 hvariant)]
  exact ordinaryWidth_ne_of_fullwidth hfirst hlast

/-- Only fullwidth capitals have width variants for their small letters. -/
theorem fullwidth_of_hasSmall (h : HasSmall x y) (hvariant : InRanges widthVariants y) :
    0xFF21 ≤ x ∧ x ≤ 0xFF3A := by
  obtain ⟨r, hr, hhas⟩ := h
  obtain ⟨v, hv, hfrom, hto⟩ := hvariant
  have hfirst := hhas.first_le
  have hlast := hhas.le_last
  have hsmall := hhas.small
  have hrun := (smallLetters_checked.1 r hr).2 ⟨v, hv, by omega, by omega⟩
  omega

theorem ne_dottedLongS_of_hasSmall (h : HasSmall x y) : y ≠ 0x1E9B := by
  obtain ⟨r, hr, hhas⟩ := h
  have hfirst := hhas.first_le
  have hlast := hhas.le_last
  have hsmall := hhas.small
  have hrun := (smallLetters_checked.1 r hr).1
  omega

/-! ## The case fold -/

theorem caseVariant_cases (h : d ∈ caseVariant c) : caseVariant c = [c] ∨ d ∈ plainLetters := by
  unfold caseVariant at h ⊢
  split at h
  case h_11 => exact Or.inl rfl
  all_goals
    right
    refine List.all_iff_forall_prop.1 ?_ d h
    decide

theorem caseVariant_eq_self_iff : caseVariant c = [c] ↔ c.toNat ∉ variantLetters := by
  constructor
  · intro h hmem
    have hchanged : ∀ x ∈ variantLetters, caseVariant (Char.ofNat x) ≠ [Char.ofNat x] := by decide
    refine hchanged _ hmem ?_
    rw [Char.ofNat_toNat, h]
  · intro h
    unfold caseVariant
    split
    case h_11 => rfl
    all_goals exact absurd (by decide) h

theorem not_inRanges_casedLetters :
    ¬ InRanges casedLetters c.toNat ↔ lowercase c = [c] ∧ caseVariant c = [c] := by
  rw [casedLetters, inRanges_append, not_or, inRanges_points, lowercase_eq_self_iff,
    caseVariant_eq_self_iff]

theorem foldCase_of_mem_plainLetters (h : c ∈ plainLetters) :
    lowercase c = [c] ∧ caseVariant c = [c] := by
  rw [← not_inRanges_casedLetters]
  refine not_inRanges_of_bits bases_checked.2.1 (inRanges_append.2 (Or.inr ?_))
  exact inRanges_points.2 (List.mem_map_of_mem h)

theorem mem_foldCase : d ∈ foldCase c ↔ ∃ e ∈ lowercase c, d ∈ caseVariant e := List.mem_flatMap

theorem foldCase_of_both (hlower : lowercase c = [c]) (hvariant : caseVariant c = [c]) :
    foldCase c = [c] := by
  rw [foldCase, hlower, List.flatMap_singleton, hvariant]

/-- What a case fold gives is a small letter that is told from no other. -/
theorem foldCase_cases (h : d ∈ foldCase c) :
    lowercase d = [d] ∧ caseVariant d = [d] ∧ (d ∈ lowercase c ∨ d ∈ plainLetters) := by
  obtain ⟨e, he, hd⟩ := mem_foldCase.1 h
  rcases caseVariant_cases hd with hself | hplain
  · rw [hself] at hd
    obtain rfl := List.mem_singleton.1 hd
    exact ⟨lowercase_of_mem he, hself, Or.inl he⟩
  · obtain ⟨hlower, hvariant⟩ := foldCase_of_mem_plainLetters hplain
    exact ⟨hlower, hvariant, Or.inr hplain⟩

theorem foldCase_of_mem (h : d ∈ foldCase c) : foldCase d = [d] := by
  obtain ⟨hlower, hvariant, -⟩ := foldCase_cases h
  exact foldCase_of_both hlower hvariant

theorem foldCase_eq_self_iff : foldCase c = [c] ↔ ¬ InRanges casedLetters c.toNat := by
  rw [not_inRanges_casedLetters]
  constructor
  · intro h
    obtain ⟨hlower, hvariant, -⟩ := foldCase_cases (c := c) (d := c) (by rw [h]; simp)
    exact ⟨hlower, hvariant⟩
  · exact fun h => foldCase_of_both h.1 h.2

/-- Folding the case of an ordinary character gives ordinary ones. -/
theorem foldWidth_of_mem_foldCase (h : d ∈ foldCase c) (hc : foldWidth c = [c]) :
    foldWidth d = [d] := by
  -- Tested on the list, since there are instances that would go through all characters.
  have hfew : ∀ d ∈ 'i' :: '\u0307' :: plainLetters, ¬ InRanges widthVariants d.toNat :=
    List.all_iff_forall_prop.1 (by decide)
  obtain ⟨-, -, hlower | hplain⟩ := foldCase_cases h
  · rcases lowercase_cases c with hself | rfl | ⟨y, hsmall, hy⟩
    · rw [hself] at hlower
      rw [List.mem_singleton.1 hlower, hc]
    · rw [lowercase_dotted] at hlower
      exact foldWidth_of_not_inRanges (hfew d (List.mem_of_mem_take (i := 2) hlower))
    · rw [hy] at hlower
      obtain rfl := List.mem_singleton.1 hlower
      refine foldWidth_of_not_inRanges fun hvariant => ?_
      rw [hsmall.toNat_small] at hvariant
      obtain ⟨hfirst, hlast⟩ := fullwidth_of_hasSmall hsmall hvariant
      exact foldWidth_ne_of_fullwidth hfirst hlast hc
  · refine foldWidth_of_not_inRanges (hfew d ?_)
    exact List.mem_cons_of_mem _ (List.mem_cons_of_mem _ hplain)

/-! ## The diacritic fold -/

/-- Base letters of ordinary characters are ordinary. -/
theorem foldWidth_of_mem_baseLetters (h : d ∈ baseLetters c) (hc : foldWidth c = [c]) :
    foldWidth d = [d] := by
  rcases baseLetters_cases h with hself | hbase
  · rw [hself] at h
    rw [List.mem_singleton.1 h, hc]
  · refine foldWidth_of_not_inRanges
      (not_inRanges_of_bits bases_checked.1 (inRanges_append.2 ?_))
    exact hbase.symm.imp_right fun hpair => (inRanges_of_mem_pairsOf hpair).1

/-- Of the characters that a case fold leaves alone, only the dotted long s has a base letter that
it does not leave alone. -/
theorem foldCase_of_mem_baseLetters (h : d ∈ baseLetters c) (hc : foldCase c = [c]) :
    foldCase d = [d] ∨ (c = dottedLongS ∧ d = 'ſ') := by
  obtain ⟨-, hsound, hexception⟩ := bases_checked
  rw [foldCase_eq_self_iff] at hc ⊢
  rcases baseLetters_cases h with hself | hpair | hletter
  · rw [hself] at h
    rw [List.mem_singleton.1 h]
    exact Or.inl hc
  · rw [or_iff_not_imp_left, not_not]
    intro hd
    rw [← testBit_bits] at hc hd
    have hmem : (d.toNat, c.toNat) ∈
        (pairsOf baseBlocks).filter (onlyFirst (bits casedLetters)) := by
      rw [List.mem_filter, onlyFirst, hd, Bool.eq_false_iff.2 hc]
      exact ⟨hpair, rfl⟩
    rw [hexception, List.mem_singleton, Prod.mk.injEq] at hmem
    exact ⟨Char.toNat_inj.1 hmem.2, Char.toNat_inj.1 hmem.1⟩
  · exact Or.inl (not_inRanges_of_bits hsound (inRanges_append.2 (Or.inl hletter)))

/-! ## The dotted long s -/

theorem eq_of_dottedLongS_mem_foldWidth (h : dottedLongS ∈ foldWidth c) : c = dottedLongS := by
  rcases foldWidth_cases h with hself | hordinary
  · rw [hself] at h
    exact (List.mem_singleton.1 h).symm
  · exact absurd hordinary smallLetters_checked.2

theorem eq_of_dottedLongS_mem_foldCase (h : dottedLongS ∈ foldCase c) : c = dottedLongS := by
  obtain ⟨-, -, hlower | hplain⟩ := foldCase_cases h
  · rcases lowercase_cases c with hself | rfl | ⟨y, hsmall, hy⟩
    · rw [hself] at hlower
      exact (List.mem_singleton.1 hlower).symm
    · exact absurd hlower (by decide)
    · rw [hy] at hlower
      refine absurd ?_ (ne_dottedLongS_of_hasSmall hsmall)
      rw [← hsmall.toNat_small, ← List.mem_singleton.1 hlower]
      rfl
  · exact absurd hplain (by decide)

/-! ## All folds -/

/-- A fold that is on or off. -/
theorem mem_ite_fold {on : Bool} {fold : Char → Text} (h : d ∈ (if on then fold c else [c])) :
    (on = true ∧ d ∈ fold c) ∨ (on = false ∧ d = c) := by
  cases on with
  | true => exact Or.inl ⟨rfl, h⟩
  | false => exact Or.inr ⟨rfl, List.mem_singleton.1 h⟩

/-- Whether the folds of a normalizer leave a character alone, each for itself. -/
structure IsFolded (n : Normalizer) (c : Char) : Prop where
  width : n.widthFold = true → foldWidth c = [c]
  case : n.caseFold = true → foldCase c = [c]
  diacritic : n.diacriticFold = true → baseLetters c = [c]

theorem IsFolded.ne_longS (h : n.IsFolded d) (hcase : n.caseFold = true) : d ≠ 'ſ' := by
  rintro rfl
  have hself := h.case hcase
  rw [dottedLongS_checked.2.2.2.2.1] at hself
  exact absurd hself (by decide)

section folds

variable (hn : n.transformers = [])
include hn

theorem normalizeChar_eq (c : Char) : n.normalizeChar c =
    ((if n.widthFold then foldWidth c else [c]).flatMap fun a =>
      if n.caseFold then foldCase a else [a]).flatMap fun b =>
        if n.diacriticFold then baseLetters b else [b] := by
  rw [normalizeChar, hn]
  cases n.widthFold <;> cases n.caseFold <;> cases n.diacriticFold <;>
    simp only [if_true, if_false, Bool.false_eq_true, List.flatMap_singleton', List.foldl_nil]

theorem IsFolded.normalizeChar (h : n.IsFolded c) : n.normalizeChar c = [c] := by
  have hwidth : (if n.widthFold then foldWidth c else [c]) = [c] := by
    split
    · exact h.width ‹_›
    · rfl
  have hcase : (if n.caseFold then foldCase c else [c]) = [c] := by
    split
    · exact h.case ‹_›
    · rfl
  have hdiacritic : (if n.diacriticFold then baseLetters c else [c]) = [c] := by
    split
    · exact h.diacritic ‹_›
    · rfl
  rw [normalizeChar_eq hn, hwidth, List.flatMap_singleton, hcase, List.flatMap_singleton,
    hdiacritic]

theorem normalizeChar_dottedLongS (hcase : n.caseFold = true)
    (hdiacritic : n.diacriticFold = true) : n.normalizeChar dottedLongS = ['ſ'] := by
  obtain ⟨hwidth, hlower, hbase, -⟩ := dottedLongS_checked
  simp only [normalizeChar_eq hn, hwidth, ite_self, hcase, hdiacritic, if_true,
    List.flatMap_singleton, hlower, hbase]

theorem normalizeChar_longS (hcase : n.caseFold = true) : n.normalizeChar 'ſ' = ['s'] := by
  obtain ⟨-, -, -, hwidth, hlower, hbase⟩ := dottedLongS_checked
  simp only [normalizeChar_eq hn, hwidth, ite_self, hcase, if_true, List.flatMap_singleton, hlower,
    hbase]

/-- What the folds give, they leave alone, but for the long s that is left of a dotted one. -/
theorem isFolded_of_mem (h : d ∈ n.normalizeChar c) : n.IsFolded d ∨
    (n.caseFold = true ∧ n.diacriticFold = true ∧ c = dottedLongS ∧ d = 'ſ') := by
  rw [normalizeChar_eq hn] at h
  obtain ⟨b, hb, hd⟩ := List.mem_flatMap.1 h
  obtain ⟨a, ha, hb⟩ := List.mem_flatMap.1 hb
  have hwidthA : (n.widthFold = true → foldWidth a = [a]) ∧
      (a = dottedLongS → c = dottedLongS) := by
    rcases mem_ite_fold ha with ⟨-, ha⟩ | ⟨hoff, rfl⟩
    · refine ⟨fun _ => foldWidth_of_mem ha, ?_⟩
      rintro rfl
      exact eq_of_dottedLongS_mem_foldWidth ha
    · exact ⟨fun hon => absurd (hoff.symm.trans hon) Bool.false_ne_true, id⟩
  have hfoldB : (n.widthFold = true → foldWidth b = [b]) ∧ (n.caseFold = true → foldCase b = [b]) ∧
      (b = dottedLongS → c = dottedLongS) := by
    rcases mem_ite_fold hb with ⟨-, hb⟩ | ⟨hoff, rfl⟩
    · refine ⟨fun hon => foldWidth_of_mem_foldCase hb (hwidthA.1 hon),
        fun _ => foldCase_of_mem hb, ?_⟩
      rintro rfl
      exact hwidthA.2 (eq_of_dottedLongS_mem_foldCase hb)
    · exact ⟨hwidthA.1, fun hon => absurd (hoff.symm.trans hon) Bool.false_ne_true, hwidthA.2⟩
  obtain ⟨hwidthB, hcaseB, hdotted⟩ := hfoldB
  rcases mem_ite_fold hd with ⟨hdiacritic, hd⟩ | ⟨hoff, rfl⟩
  · by_cases hexception : n.caseFold = true ∧ b = dottedLongS ∧ d = 'ſ'
    · obtain ⟨hcase, hb, hlongS⟩ := hexception
      exact Or.inr ⟨hcase, hdiacritic, hdotted hb, hlongS⟩
    · refine Or.inl ⟨fun hon => foldWidth_of_mem_baseLetters hd (hwidthB hon), fun hon => ?_,
        fun _ => baseLetters_of_mem hd⟩
      refine (foldCase_of_mem_baseLetters hd (hcaseB hon)).resolve_right fun hboth => ?_
      exact hexception ⟨hon, hboth⟩
  · exact Or.inl ⟨hwidthB, hcaseB, fun hon => absurd (hoff.symm.trans hon) Bool.false_ne_true⟩

/-- What a character of a folded text becomes when it is folded again. -/
def refoldChar (n : Normalizer) (d : Char) : Char :=
  if n.caseFold = true ∧ d = 'ſ' then 's' else d

theorem normalizeChar_of_mem (h : d ∈ n.normalizeChar c) :
    n.normalizeChar d = [n.refoldChar d] := by
  rcases isFolded_of_mem hn h with hfolded | ⟨hcase, -, -, rfl⟩
  · rw [hfolded.normalizeChar hn, refoldChar, if_neg]
    exact fun hboth => hfolded.ne_longS hboth.1 hboth.2
  · rw [normalizeChar_longS hn hcase, refoldChar, if_pos ⟨hcase, rfl⟩]

/-- Folding a folded text again makes an s of each long s, if case is folded, and changes nothing
else. -/
theorem normalize_normalize (t : Text) :
    n.normalize (n.normalize t) = (n.normalize t).map n.refoldChar := by
  rw [normalize, List.map_eq_flatMap]
  refine List.flatMap_congr fun d hd => ?_
  obtain ⟨c, -, hd⟩ := List.mem_flatMap.1 hd
  exact normalizeChar_of_mem hn hd

theorem longS_mem_normalize_iff (hcase : n.caseFold = true) :
    'ſ' ∈ n.normalize t ↔ n.diacriticFold = true ∧ dottedLongS ∈ t := by
  rw [normalize, List.mem_flatMap]
  constructor
  · rintro ⟨c, hc, hlongS⟩
    rcases isFolded_of_mem hn hlongS with hfolded | ⟨-, hdiacritic, rfl, -⟩
    · exact absurd rfl (hfolded.ne_longS hcase)
    · exact ⟨hdiacritic, hc⟩
  · rintro ⟨hdiacritic, hmem⟩
    refine ⟨dottedLongS, hmem, ?_⟩
    rw [normalizeChar_dottedLongS hn hcase hdiacritic]
    exact List.mem_singleton_self _

/-- Whether folding a text once is enough. -/
def Settles (n : Normalizer) (t : Text) : Prop :=
  n.caseFold = true → n.diacriticFold = true → dottedLongS ∉ t

omit hn in
theorem map_refoldChar_eq_self_iff {t : Text} :
    t.map n.refoldChar = t ↔ (n.caseFold = true → 'ſ' ∉ t) := by
  constructor
  · intro h hcase hmem
    rw [← h] at hmem
    obtain ⟨d, -, hd⟩ := List.mem_map.1 hmem
    rw [refoldChar] at hd
    split at hd
    · exact absurd hd (by decide)
    · next hkeep => exact hkeep ⟨hcase, hd⟩
  · intro h
    refine (List.map_congr_left fun d hd => ?_).trans t.map_id
    rw [refoldChar, if_neg, id]
    rintro ⟨hcase, rfl⟩
    exact h hcase hd

theorem normalize_normalize_eq_iff (t : Text) :
    n.normalize (n.normalize t) = n.normalize t ↔ n.Settles t := by
  rw [normalize_normalize hn, map_refoldChar_eq_self_iff, Settles]
  refine forall_congr' fun hcase => ?_
  rw [longS_mem_normalize_iff hn hcase, not_and]

/-- What is folded twice is settled. -/
theorem normalize_normalize_normalize (t : Text) :
    n.normalize (n.normalize (n.normalize t)) = n.normalize (n.normalize t) := by
  have htwice (d : Char) : n.refoldChar (n.refoldChar d) = n.refoldChar d := by
    simp only [refoldChar]
    split
    · rw [if_neg]
      exact fun hs => absurd hs.2 (by decide)
    · rfl
  rw [normalize_normalize hn (n.normalize t), normalize_normalize hn t, List.map_map]
  exact List.map_congr_left fun d _ => htwice d

end folds

end YamlListing.Normalizer

namespace YamlListing.FoldedLine

variable {needle : Text} {l : FoldedLine}

/-- A needle that stands somewhere covers some columns. -/
theorem exists_occursAt {k : Nat} (hne : needle ≠ []) (h : needle <+: l.text.drop k) :
    ∃ hit, OccursAt needle l k hit := by
  have hpos := List.length_pos_iff.2 hne
  have hlength := length_le_of_stands h
  rw [List.length_drop] at hlength
  refine ⟨(l[k].2, l[k + (needle.length - 1)].2 + 1), h, ?_, ?_⟩
  · rw [List.getElem?_eq_getElem, Option.map_some]
  · rw [List.getElem?_eq_getElem, Option.map_some]

/-- A line has no hits exactly if the needle stands nowhere on it. -/
theorem hits_eq_nil_iff (hl : IsOrdered l) (hne : needle ≠ []) :
    hits needle l = [] ↔ ∀ k, ¬ needle <+: l.text.drop k := by
  have hreport := hits_isReport hl hne
  constructor
  · intro hnone k hstands
    obtain ⟨hit, hoccurs⟩ := exists_occursAt hne hstands
    have hfound := hreport.complete k hit hoccurs
    rw [hnone] at hfound
    rcases hfound with ⟨_, hmem, -⟩ | ⟨_, _, _, _, _, _, _, hmem, -⟩
    · cases hmem
    · cases hmem
  · intro hnowhere
    refine List.eq_nil_iff_forall_not_mem.2 fun hit hmem => ?_
    obtain ⟨k, hoccurs⟩ := hreport.occurs hit hmem
    exact hnowhere k hoccurs.stands

end YamlListing.FoldedLine

namespace YamlListing.Finder

open FoldedLine (hits hits_eq_nil_iff ofText_isOrdered text_ofTextFrom)
open Normalizer (dottedLongS normalize_normalize normalize_normalize_eq_iff
  normalize_normalize_normalize)

variable {n : Normalizer} {t : Text}

theorem spansOf_singleton_eq_nil_iff (hits : List (Nat × Nat)) :
    spansOf [hits] = [] ↔ hits = [] := by
  simp [spansOf]

/-- On a line that is the query, the query is found and another needle of the same length is not. -/
theorem find_ne_of_normalize_ne {query : Text} (hne : n.normalize query ≠ n.normalize t)
    (hlength : (n.normalize query).length = (n.normalize t).length) :
    ((new n).load (.ofLines [t] none)).find query ≠ ((new n).load (.ofLines [t] none)).find t := by
  have hneedle : n.normalize t ≠ [] := by
    intro hnil
    rw [hnil, List.length_nil, List.length_eq_zero_iff] at hlength
    exact hne (hlength.trans hnil.symm)
  have hquery : n.normalize query ≠ [] := by
    intro hnil
    rw [hnil, List.length_nil, eq_comm, List.length_eq_zero_iff] at hlength
    exact hneedle hlength
  have htext : (FoldedLine.ofText n t).text = n.normalize t := text_ofTextFrom n 1 t
  have hfound : hits (n.normalize t) (.ofText n t) ≠ [] := by
    rw [Ne, hits_eq_nil_iff (ofText_isOrdered n t) hneedle, htext]
    exact fun hnowhere => hnowhere 0 (List.prefix_refl _)
  have hmissed : hits (n.normalize query) (.ofText n t) = [] := by
    rw [hits_eq_nil_iff (ofText_isOrdered n t) hquery, htext]
    intro k hstands
    -- The needle is as long as the line, so it could only be the line.
    have hle := hstands.length_le
    have hpos := List.length_pos_iff.2 hneedle
    rw [List.length_drop] at hle
    obtain rfl : k = 0 := by omega
    exact hne (hstands.eq_of_length hlength)
  rw [find_load _ hquery, find_load _ hneedle]
  intro hsame
  refine hfound ((spansOf_singleton_eq_nil_iff _).1 (hsame.symm.trans ?_))
  exact (spansOf_singleton_eq_nil_iff _).2 hmissed

theorem find_normalize_iff (hn : n.transformers = []) (t : Text) :
    (∀ s, ((new n).load s).find (n.normalize t) = ((new n).load s).find t) ↔ n.Settles t := by
  rw [← normalize_normalize_eq_iff hn]
  constructor
  · intro hsame
    by_contra hne
    refine find_ne_of_normalize_ne hne ?_ (hsame _)
    rw [normalize_normalize hn, List.length_map]
  · intro heq s
    have hnormalizer : ((new n).load s).normalizer = n := rfl
    rw [find, find, hnormalizer, heq]

/-- Folding is settled after one time, and a folded query is searched for like the query, exactly if
case and diacritics are not both folded or no long s with a dot is there; and it is always settled
after two times. -/
theorem refolds_iff (n : Normalizer) (hn : n.transformers = []) (t : Text) :
    (n.normalize (n.normalize t) = n.normalize t ↔ n.Settles t) ∧
    ((∀ s, ((new n).load s).find (n.normalize t) = ((new n).load s).find t) ↔ n.Settles t) ∧
    n.normalize (n.normalize (n.normalize t)) = n.normalize (n.normalize t) :=
  ⟨normalize_normalize_eq_iff hn t, find_normalize_iff hn t, normalize_normalize_normalize hn t⟩

/-- A German street is settled, a dotted long s is not, unless its dot stays. -/
theorem refolds_iff_longS :
    let n : Normalizer := {}
    let keepsDots : Normalizer := { diacriticFold := false }
    n.normalize (n.normalize "Straße".toList) = n.normalize "Straße".toList ∧
      (∀ s, ((new n).load s).find (n.normalize "Straße".toList) =
        ((new n).load s).find "Straße".toList) ∧
      n.normalize (n.normalize [dottedLongS]) ≠ n.normalize [dottedLongS] ∧
      keepsDots.normalize (keepsDots.normalize [dottedLongS]) =
        keepsDots.normalize [dottedLongS] := by
  intro n keepsDots
  obtain ⟨hsame, hfind, -⟩ := refolds_iff n rfl "Straße".toList
  have hsettled : n.Settles "Straße".toList := fun _ _ => by decide
  refine ⟨hsame.2 hsettled, hfind.2 hsettled, ?_, ?_⟩
  · intro heq
    exact (refolds_iff n rfl [dottedLongS]).1.1 heq rfl rfl (List.mem_singleton_self _)
  · exact (refolds_iff keepsDots rfl [dottedLongS]).1.2 nofun

/-- The long s that is left of a dotted one folds to an s, so the folded query does not find what
the query does. -/
theorem not_refolds_dottedLongS :
    ¬ ∀ (n : Normalizer) (t : Text), n.transformers = [] →
      n.normalize (n.normalize t) = n.normalize t ∧
        ∀ s, ((new n).load s).find (n.normalize t) = ((new n).load s).find t := by
  intro h
  obtain ⟨-, hfind⟩ := h {} [dottedLongS] rfl
  have hempty : ((new {}).load (.ofLines [[dottedLongS]] none)).find ['ſ'] = [] := by decide +kernel
  have hfound : ((new {}).load (.ofLines [[dottedLongS]] none)).find [dottedLongS] =
      [.onLine 1 1 2] := by decide +kernel
  have hfold : Normalizer.normalize {} [dottedLongS] = ['ſ'] := by decide +kernel
  have hsame := hfind (.ofLines [[dottedLongS]] none)
  rw [hfold, hempty, hfound] at hsame
  cases hsame

end YamlListing.Finder
