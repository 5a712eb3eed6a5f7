import Mathlib.Data.List.Forall2
import YamlListing.Proofs.Search.Occurrence

set_option autoImplicit false

/-! # Leftmost matches

The greedy matches of a needle are the leftmost occurrence, the leftmost one of those that begin
after its columns, and so on (`IsGreedy`). A finder looks for occurrences that do not reach into
each other in the folded line (`IsScan`) and then drops those that begin in a column of a match
before.

Both agree as long as occurrences that do not reach into each other in the folded line do not meet
in a column (`IsScan.isGreedy`). They do not agree otherwise: a hit that was dropped has used up
characters, and an occurrence that begins among these is missed although no match covers its
columns. These are the only ones (`IsScan.meets_or_hidden`). -/

namespace YamlListing

namespace FoldedLine

/-- The matches from a column on that begin with the leftmost occurrence and go on after its last
column. -/
inductive IsGreedy (needle : Text) (l : FoldedLine) : (stop : Nat) → List (Nat × Nat) → Prop
  | done {stop : Nat} (hnone : ∀ k hit, OccursAt needle l k hit → hit.1 < stop) :
    IsGreedy needle l stop []
  | next {stop k : Nat} {hit : Nat × Nat} {rest : List (Nat × Nat)}
    (hoccurs : OccursAt needle l k hit) (hstop : stop ≤ hit.1)
    (hleft : ∀ j other, j < k → OccursAt needle l j other → other.1 < stop)
    (hrest : IsGreedy needle l hit.2 rest) : IsGreedy needle l stop (hit :: rest)

/-- The matches from an offset on that begin with the leftmost occurrence and go on after its last
character. -/
inductive IsScan (needle : Text) (l : FoldedLine) : (start : Nat) → List (Nat × Nat) → Prop
  | done {start : Nat} (hnone : ∀ k hit, start ≤ k → ¬ OccursAt needle l k hit) :
    IsScan needle l start []
  | next {start k : Nat} {hit : Nat × Nat} {rest : List (Nat × Nat)} (hstart : start ≤ k)
    (hoccurs : OccursAt needle l k hit)
    (hleft : ∀ j other, start ≤ j → j < k → ¬ OccursAt needle l j other)
    (hrest : IsScan needle l (k + needle.length) rest) : IsScan needle l start (hit :: rest)

/-- Whether occurrences that do not reach into each other do not meet in a column. -/
def IsApart (needle : Text) (l : FoldedLine) : Prop :=
  ∀ j k a b, OccursAt needle l j a → OccursAt needle l k b → j + needle.length ≤ k → a.2 ≤ b.1

/-- Whether two hits have a column in common. -/
def Meets (a b : Nat × Nat) : Prop := a.1 < b.2 ∧ b.1 < a.2

/-- Whether a hit begins in a column of another one. -/
def BeginsIn (a b : Nat × Nat) : Prop := b.1 ≤ a.1 ∧ a.1 < b.2

/-- Whether an occurrence begins inside one that is no match but begins in a column of a match. -/
def IsHidden (needle : Text) (l : FoldedLine) (hits : List (Nat × Nat)) (k : Nat) : Prop :=
  ∃ j dropped, OccursAt needle l j dropped ∧ dropped ∉ hits ∧ j < k ∧ k < j + needle.length ∧
    ∃ found ∈ hits, BeginsIn dropped found

section IsScan

variable {needle : Text} {l : FoldedLine} {start stop : Nat} {hits : List (Nat × Nat)}

/-- Columns never go down, so occurrences that reach into each other meet. -/
theorem OccursAt.meets (hl : IsOrdered l) {j k : Nat} {a b : Nat × Nat}
    (ha : OccursAt needle l j a) (hb : OccursAt needle l k b) (hjk : j ≤ k)
    (hk : k < j + needle.length) : Meets a b :=
  ⟨Nat.lt_of_le_of_lt (ha.first_le hl hb hjk) (hb.lt hl), ha.first_lt hl hb hk⟩

theorem IsScan.of_succ (h : IsScan needle l (start + 1) hits)
    (hnone : ∀ hit, ¬ OccursAt needle l start hit) : IsScan needle l start hits := by
  have hleft : ∀ j hit, start ≤ j → ¬ start + 1 ≤ j → ¬ OccursAt needle l j hit := by
    intro j hit hj hj'
    obtain rfl : j = start := by omega
    exact hnone hit
  cases h with
  | done hrest =>
    refine .done ?_
    intro k hit hk hoccurs
    exact hleft k hit hk (fun hk' => hrest k hit hk' hoccurs) hoccurs
  | next hstart hoccurs hbefore hrest =>
    refine .next (by omega) hoccurs ?_ hrest
    intro j other hj hjk hother
    exact hleft j other hj (fun hj' => hbefore j other hj' hjk hother) hother

/-- The hits of a finder are a scan. -/
theorem hitsFrom_isScan (hne : needle ≠ []) (skip k : Nat) :
    IsScan needle l (k + skip) (hitsFrom needle skip (l.drop k)) := by
  have hpos := List.length_pos_iff.2 hne
  induction hrest : l.drop k generalizing k skip with
  | nil =>
    refine .done ?_
    intro j hit hj hoccurs
    have hlength := hoccurs.lt_length
    rw [List.drop_eq_nil_iff] at hrest
    omega
  | cons c rest ih =>
    have hdrop : l.drop (k + 1) = rest := by
      rw [← List.drop_drop, hrest, List.drop_succ_cons, List.drop_zero]
    cases skip with
    | succ skip =>
      rw [hitsFrom, Nat.add_succ, ← Nat.succ_add]
      exact ih skip (k + 1) hdrop
    | zero =>
      rw [hitsFrom, ← hrest]
      cases hhit : hitAt? needle (l.drop k) with
      | some hit =>
        refine .next (Nat.le_refl k) ((hitAt?_drop_eq_some hne).1 hhit) ?_ ?_
        · intro j other hj hjk
          omega
        · have hlater := ih (needle.length - 1) (k + 1) hdrop
          rw [show k + 1 + (needle.length - 1) = k + needle.length by omega] at hlater
          exact hlater
      | none =>
        refine (ih 0 (k + 1) hdrop).of_succ ?_
        intro hit hoccurs
        have hsome := (hitAt?_drop_eq_some hne).2 hoccurs
        rw [hhit] at hsome
        cases hsome

/-! ## Dropping hits -/

theorem disjoint_cons_of_lt {hit : Nat × Nat} (h : hit.1 < stop) :
    disjoint stop (hit :: hits) = disjoint stop hits := by
  rw [disjoint, if_pos h]

theorem disjoint_cons_of_le {hit : Nat × Nat} (h : stop ≤ hit.1) :
    disjoint stop (hit :: hits) = hit :: disjoint hit.2 hits := by
  rw [disjoint, if_neg (by omega)]

theorem mem_of_mem_disjoint {hit : Nat × Nat} (h : hit ∈ disjoint stop hits) : hit ∈ hits := by
  induction hits generalizing stop with
  | nil => exact h
  | cons first rest ih =>
    rcases Nat.lt_or_ge first.1 stop with hlt | hle
    · rw [disjoint_cons_of_lt hlt] at h
      exact List.mem_cons_of_mem _ (ih h)
    · rw [disjoint_cons_of_le hle] at h
      rcases List.mem_cons.1 h with rfl | h
      · exact List.mem_cons_self
      · exact List.mem_cons_of_mem _ (ih h)

/-- Hits that are kept begin where the search for them does or later, and do not meet. -/
theorem disjoint_pairwise (hhits : ∀ hit ∈ hits, hit.1 < hit.2) :
    (∀ hit ∈ disjoint stop hits, stop ≤ hit.1) ∧
      (disjoint stop hits).Pairwise fun a b => a.2 ≤ b.1 := by
  induction hits generalizing stop with
  | nil => exact ⟨List.forall_mem_nil _, .nil⟩
  | cons first rest ih =>
    obtain ⟨hfirst, hrest⟩ := List.forall_mem_cons.1 hhits
    rcases Nat.lt_or_ge first.1 stop with hlt | hle
    · rw [disjoint_cons_of_lt hlt]
      exact ih hrest
    · rw [disjoint_cons_of_le hle]
      obtain ⟨hbound, hpairwise⟩ : (∀ hit ∈ disjoint first.2 rest, first.2 ≤ hit.1) ∧
          (disjoint first.2 rest).Pairwise fun a b => a.2 ≤ b.1 := ih hrest
      refine ⟨List.forall_mem_cons.2 ⟨hle, ?_⟩, List.pairwise_cons.2 ⟨hbound, hpairwise⟩⟩
      intro hit hmem
      have := hbound hit hmem
      omega

theorem IsScan.exists_occursAt (h : IsScan needle l start hits) {hit : Nat × Nat}
    (hhit : hit ∈ hits) : ∃ k, OccursAt needle l k hit := by
  induction h with
  | done _ => cases hhit
  | @next start k first rest _ hoccurs _ _ ih =>
    rcases List.mem_cons.1 hhit with rfl | hhit
    · exact ⟨k, hoccurs⟩
    · exact ih hhit

/-- Where occurrences that do not reach into each other do not meet, no hit is dropped and the hits
of a scan are the greedy matches. -/
theorem IsScan.isGreedy (hl : IsOrdered l) (hapart : IsApart needle l)
    (h : IsScan needle l start hits)
    (hbefore : ∀ k hit, k < start → OccursAt needle l k hit → hit.1 < stop)
    (hafter : ∀ k hit, start ≤ k → OccursAt needle l k hit → stop ≤ hit.1) :
    IsGreedy needle l stop (disjoint stop hits) := by
  -- The offset `start` and the column `stop` part the occurrences the same way. After a hit this is
  -- so again: those inside it begin in its columns, and the later ones do not.
  induction h generalizing stop with
  | @done start hnone =>
    refine .done ?_
    intro k hit hoccurs
    rcases Nat.lt_or_ge k start with hk | hk
    · exact hbefore k hit hk hoccurs
    · exact absurd hoccurs (hnone k hit hk)
  | @next start k first rest hstart hoccurs hleft _ ih =>
    have hstop := hafter k first hstart hoccurs
    rw [disjoint_cons_of_le hstop]
    refine .next hoccurs hstop ?_ (ih ?_ ?_)
    · intro j other hjk hother
      rcases Nat.lt_or_ge j start with hj | hj
      · exact hbefore j other hj hother
      · exact absurd hother (hleft j other hj hjk)
    · intro j other hj hother
      exact hoccurs.first_lt hl hother hj
    · intro j other hj hother
      exact hapart k j first other hoccurs hother hj

/-- The occurrences that a scan comes across meet a match or are hidden. `found` are the matches
from before, which hits are dropped for. -/
theorem IsScan.meets_or_hidden (hl : IsOrdered l) (h : IsScan needle l start hits)
    (found : List (Nat × Nat))
    (hdropped : ∀ k hit, start ≤ k → OccursAt needle l k hit → hit.1 < stop →
      ∃ earlier ∈ found, BeginsIn hit earlier) {k : Nat} {hit : Nat × Nat} (hk : start ≤ k)
    (hoccurs : OccursAt needle l k hit) :
    (∃ one ∈ found ++ disjoint stop hits, Meets one hit) ∨
      IsHidden needle l (found ++ disjoint stop hits) k := by
  induction h generalizing stop found with
  | done hnone => exact absurd hoccurs (hnone k hit hk)
  | @next start j first rest hstart hfirst hleft _ ih =>
    have hjk : j ≤ k := by
      rcases Nat.lt_or_ge k j with hlt | hle
      · exact absurd hoccurs (hleft k hit hk hlt)
      · exact hle
    rcases Nat.lt_or_ge first.1 stop with hdrop | hkeep
    · -- The hit is dropped. It meets the match that it begins in, and hides what begins inside it.
      rw [disjoint_cons_of_lt hdrop]
      rcases Nat.lt_or_ge k (j + needle.length) with hin | hout
      · obtain ⟨one, hone, hbegins⟩ := hdropped j first hstart hfirst hdrop
        rcases Nat.lt_or_eq_of_le hjk with hlt | rfl
        · by_cases hmatch : first ∈ found ++ disjoint stop rest
          · exact Or.inl ⟨first, hmatch, hfirst.meets hl hoccurs hjk hin⟩
          · exact Or.inr
              ⟨j, first, hfirst, hmatch, hlt, hin, one, List.mem_append_left _ hone, hbegins⟩
        · rw [hoccurs.unique hfirst]
          exact Or.inl ⟨one, List.mem_append_left _ hone,
            Nat.lt_of_le_of_lt hbegins.1 (hfirst.lt hl), hbegins.2⟩
      · refine ih found ?_ hout
        intro i other hi
        exact hdropped i other (by omega)
    · -- The hit is a match, and what begins inside it meets it.
      rw [disjoint_cons_of_le hkeep]
      rcases Nat.lt_or_ge k (j + needle.length) with hin | hout
      · exact Or.inl ⟨first, List.mem_append_right _ List.mem_cons_self,
          hfirst.meets hl hoccurs hjk hin⟩
      · have hearlier : ∀ i other, j + needle.length ≤ i → OccursAt needle l i other →
            other.1 < first.2 → ∃ earlier ∈ found ++ [first], BeginsIn other earlier := by
          intro i other hi hother hlt
          exact ⟨first, List.mem_append_right _ List.mem_cons_self,
            hfirst.first_le hl hother (by omega), hlt⟩
        have hlater := ih (found ++ [first]) hearlier hout
        rw [List.append_assoc, List.singleton_append] at hlater
        exact hlater

/-! ## A line -/

/-- What a finder reports on a line. -/
structure IsReport (needle : Text) (l : FoldedLine) (hits : List (Nat × Nat)) : Prop where
  /-- Every match covers the columns of an occurrence. -/
  occurs : ∀ hit ∈ hits, ∃ k, OccursAt needle l k hit
  /-- Matches come in order and do not meet. -/
  disjoint : hits.Pairwise fun a b => a.2 ≤ b.1
  /-- Occurrences that do not reach into each other may meet in a column; if none do, the matches
  are the greedy ones. -/
  leftmost : IsApart needle l → IsGreedy needle l 0 hits
  /-- An occurrence that meets no match begins inside one that was dropped for a match. -/
  complete : ∀ k hit, OccursAt needle l k hit → (∃ found ∈ hits, Meets found hit) ∨
    IsHidden needle l hits k

theorem hits_isReport (hl : IsOrdered l) (hne : needle ≠ []) :
    IsReport needle l (FoldedLine.hits needle l) := by
  have hscan : IsScan needle l 0 (hitsFrom needle 0 l) := hitsFrom_isScan hne 0 0
  have hlt : ∀ hit ∈ hitsFrom needle 0 l, hit.1 < hit.2 := by
    intro hit hhit
    obtain ⟨k, hoccurs⟩ := hscan.exists_occursAt hhit
    exact hoccurs.lt hl
  refine ⟨?_, (disjoint_pairwise hlt).2, ?_, ?_⟩
  · intro hit hhit
    exact hscan.exists_occursAt (mem_of_mem_disjoint hhit)
  · intro hapart
    refine hscan.isGreedy hl hapart ?_ ?_
    · intro k hit hk
      exact absurd hk (Nat.not_lt_zero k)
    · intro k hit _ _
      exact Nat.zero_le _
  · intro k hit hoccurs
    refine hscan.meets_or_hidden hl [] ?_ (Nat.zero_le k) hoccurs
    intro j other _ _ hlt
    exact absurd hlt (Nat.not_lt_zero _)

end IsScan

end FoldedLine

/-! ## A source -/

namespace Finder

open FoldedLine (IsGreedy IsReport OccursAt)

/-- The spans of hits that are given line by line. -/
def spansOf (reported : List (List (Nat × Nat))) : List Span :=
  (reported.mapIdx fun i hits => hits.map fun hit => Span.onLine (i + 1) hit.1 hit.2).flatten

/-- Whether a finder that has loaded a source finds the greedy matches of a query on every line. -/
def FindsLeftmost (f : Finder) (s : Source) (query : Text) : Prop :=
  ∃ reported, (f.load s).find query = spansOf reported ∧
    List.Forall₂ (fun text hits =>
      IsGreedy (f.normalizer.normalize query) (.ofText f.normalizer text) 0 hits) s.lines reported

variable {f : Finder} {query : Text}

theorem find_load (s : Source) (h : f.normalizer.normalize query ≠ []) :
    (f.load s).find query = spansOf (s.lines.map fun text =>
      FoldedLine.hits (f.normalizer.normalize query) (.ofText f.normalizer text)) := by
  have hempty : (f.normalizer.normalize query).isEmpty = false := List.isEmpty_eq_false_iff.2 h
  have hloaded : (f.load s).isLoaded = true := rfl
  have hindex : (f.load s).index = s.lines.map (FoldedLine.ofText f.normalizer) := rfl
  have hnormalizer : (f.load s).normalizer = f.normalizer := rfl
  simp only [find, hnormalizer, hempty, hloaded, hindex, Bool.not_true, Bool.or_self,
    Bool.false_eq_true, if_false, spansOf]
  refine congrArg List.flatten (List.ext_getElem? fun i => ?_)
  simp only [List.getElem?_mapIdx, List.getElem?_map, Option.map_map]
  rfl

/-- What a finder finds on the lines of the source that it has loaded. -/
theorem find_isReport (f : Finder) (s : Source) (h : f.normalizer.normalize query ≠ []) :
    ∃ reported, (f.load s).find query = spansOf reported ∧
      List.Forall₂ (fun text hits =>
        IsReport (f.normalizer.normalize query) (.ofText f.normalizer text) hits)
        s.lines reported := by
  refine ⟨_, find_load s h, ?_⟩
  rw [List.forall₂_map_right_iff, List.forall₂_same]
  intro text _
  exact FoldedLine.hits_isReport (FoldedLine.ofText_isOrdered f.normalizer text) h

/-- Sharp s folds to two letters, which are a match in one column. -/
theorem find_isReport_sharp :
    ∃ reported, ((new {}).load (.ofLines [['a', 'ß', 's', 's']] none)).find ['S', 's'] =
        spansOf reported ∧
      List.Forall₂ (fun text hits =>
        IsReport (Normalizer.normalize {} ['S', 's']) (.ofText {} text) hits)
        [['a', 'ß', 's', 's']] reported :=
  find_isReport (new {}) (.ofLines [['a', 'ß', 's', 's']] none) (by decide +kernel)

/-- Where a character folds to two, a match can be missed. The first two of five letters are found,
the next two are dropped since the third one comes from the column of the second, and so nothing is
left of the last two but one letter. -/
theorem not_findsLeftmost :
    ¬ (new {}).FindsLeftmost (.ofLines [['s', 'ß', 's', 's']] none) ['s', 's'] := by
  have hneedle : (new {}).normalizer.normalize ['s', 's'] = ['s', 's'] := by decide +kernel
  have hfolded : FoldedLine.ofText (new {}).normalizer ['s', 'ß', 's', 's'] =
      [('s', 1), ('s', 2), ('s', 2), ('s', 3), ('s', 4)] := by decide +kernel
  have hfound : ((new {}).load (.ofLines [['s', 'ß', 's', 's']] none)).find ['s', 's'] =
      [Span.onLine 1 1 3] := by decide +kernel
  have hmissed : OccursAt ['s', 's'] [('s', 1), ('s', 2), ('s', 2), ('s', 3), ('s', 4)] 3 (3, 5) :=
    ⟨by decide, rfl, rfl⟩
  rintro ⟨reported, hfind, hlines⟩
  rw [hfound] at hfind
  cases hlines with
  | @cons _ hits _ _ hgreedy hnil =>
    cases hnil
    rw [hneedle, hfolded] at hgreedy
    cases hgreedy with
    | done _ => cases hfind
    | @next _ k hit rest hoccurs hstop hleft hrest =>
      have hspans : [Span.onLine 1 1 3] = Span.onLine 1 hit.1 hit.2 ::
          (rest.map fun hit => Span.onLine 1 hit.1 hit.2) := by
        rw [hfind]
        simp [spansOf]
      obtain ⟨hspan, hnone⟩ := List.cons.inj hspans
      obtain rfl : rest = [] := List.map_eq_nil_iff.1 hnone.symm
      have hstop : max 1 3 = max hit.1 hit.2 := congrArg (·.stop.column) hspan
      cases hrest with
      | done hlater =>
        have hlt : 3 < hit.2 := hlater 3 (3, 5) hmissed
        omega

end Finder

end YamlListing
