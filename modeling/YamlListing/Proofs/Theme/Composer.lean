import Mathlib.Data.List.Nodup
import YamlListing.Proofs.Style.Alike
import YamlListing.Theme.Composer

set_option autoImplicit false

/-! # What a composer remembers

A composer compares handles by their identity and never by their style. That its answers are right
nevertheless is an invariant (`IsFaithful`): among the handles around, the identity tells the
handle, every composition is one of the handles that its question names, and no question and no
result is there twice. The handles around are those that someone holds and those that the composer
keeps, and a new composition keeps the invariant up if its result gets an identity that none of them
has (`IsFaithful.layer`). -/

namespace YamlListing

/-- Whether a composition is the one that a question asks for. -/
structure Composition.IsFor (e : Composition) (key : ComposeKey) : Prop where
  lower : e.lower.id = key.lower
  upper : e.upper.id = key.upper
  style : e.result.style = .compose key.mode e.lower.style e.upper.style

namespace Composer

/-- The handles that a composer keeps: those that it was asked about and those that it answered. -/
inductive Keeps (c : Composer) : Handle → Prop
  | lower {entry : ComposeKey × Composition} (hentry : entry ∈ c.entries) : Keeps c entry.2.lower
  | upper {entry : ComposeKey × Composition} (hentry : entry ∈ c.entries) : Keeps c entry.2.upper
  | result {entry : ComposeKey × Composition} (hentry : entry ∈ c.entries) : Keeps c entry.2.result

/-- The handles around: those given from outside and those that the composer keeps. -/
inductive Knows (given : Handle → Prop) (c : Composer) : Handle → Prop
  | given {h : Handle} (hgiven : given h) : Knows given c h
  | kept {h : Handle} (hkeeps : c.Keeps h) : Knows given c h

/-- Whether what a composer remembers is right. -/
structure IsFaithful (given : Handle → Prop) (c : Composer) : Prop where
  /-- An identity belongs to one handle. -/
  unique : ∀ a b, Knows given c a → Knows given c b → a.id = b.id → a = b
  /-- What is remembered for a question is its composition. -/
  isFor : ∀ entry ∈ c.entries, entry.2.IsFor entry.1
  /-- A question is answered once. -/
  keys : (c.entries.map Prod.fst).Nodup
  /-- A handle is the result of one composition. -/
  results : (c.entries.map fun entry => entry.2.result.id).Nodup

section layer

variable {given given' : Handle → Prop} {c : Composer} {lower upper h : Handle} {theme : Nat}
  {mode : ComposeMode} {key : ComposeKey} {e e' : Composition}

theorem empty_isFaithful (hunique : ∀ a b, given a → given b → a.id = b.id → a = b) :
    empty.IsFaithful given := by
  have hknows : ∀ {h}, Knows given empty h → given h := by
    intro h hh
    cases hh with
    | given hgiven => exact hgiven
    | kept hkeeps => cases hkeeps <;> contradiction
  refine ⟨?_, List.forall_mem_nil _, List.nodup_nil, List.nodup_nil⟩
  intro a b ha hb
  exact hunique a b (hknows ha) (hknows hb)

theorem IsFaithful.eq_of_key_eq (hs : c.IsFaithful given) (h : (key, e) ∈ c.entries)
    (h' : (key, e') ∈ c.entries) : e = e' :=
  (Prod.mk.inj (List.inj_on_of_nodup_map hs.keys h h' rfl)).2

theorem IsFaithful.eq_of_result_eq (hs : c.IsFaithful given)
    {entry entry' : ComposeKey × Composition} (h : entry ∈ c.entries) (h' : entry' ∈ c.entries)
    (hid : entry.2.result.id = entry'.2.result.id) : entry = entry' :=
  List.inj_on_of_nodup_map hs.results h h' hid

theorem find?_eq_some (h : c.find? key = some e) : (key, e) ∈ c.entries := by
  rw [find?, Option.map_eq_some_iff] at h
  obtain ⟨entry, hentry, rfl⟩ := h
  have hbeq := List.find?_some hentry
  have hkey : entry.1 = key := eq_of_beq hbeq
  rw [← hkey]
  exact List.mem_of_find?_eq_some hentry

theorem find?_eq_none (h : c.find? key = none) : key ∉ c.entries.map Prod.fst := by
  rw [find?, Option.map_eq_none_iff, List.find?_eq_none] at h
  intro hmem
  obtain ⟨entry, hentry, hkey⟩ := List.mem_map.1 hmem
  exact h entry hentry (beq_iff_eq.2 hkey)

/-! ## The ways to answer -/

/-- The composer after a composition that it did not remember. -/
def remember (c : Composer) (key : ComposeKey) (e : Composition) : Composer :=
  ⟨c.entries ++ [(key, e)], c.next + 1⟩

/-- A composition that is made anew. -/
def compositionOf (c : Composer) (lower upper : Handle) (mode : ComposeMode) : Composition :=
  ⟨lower, upper, .composed c.next, .compose mode lower.style upper.style⟩

/-- The ways to answer a question. -/
theorem layer_cases (c : Composer) (theme : Nat) (lower upper : Handle) (mode : ComposeMode) :
    (upper.style.isEmpty = true ∧ c.layer theme lower upper mode = (lower, c)) ∨
    (upper.style.isEmpty = false ∧ lower.style.isEmpty = true ∧
      c.layer theme lower upper mode = (upper, c)) ∨
    (upper.style.isEmpty = false ∧ lower.style.isEmpty = false ∧
      ((∃ e, (⟨theme, lower.id, upper.id, mode⟩, e) ∈ c.entries ∧
        c.layer theme lower upper mode = (e.result, c)) ∨
      ((⟨theme, lower.id, upper.id, mode⟩ : ComposeKey) ∉ c.entries.map Prod.fst ∧
        c.layer theme lower upper mode = ((c.compositionOf lower upper mode).result,
          c.remember ⟨theme, lower.id, upper.id, mode⟩ (c.compositionOf lower upper mode))))) := by
  cases hupper : upper.style.isEmpty with
  | true => exact Or.inl ⟨rfl, by rw [layer, if_pos hupper]⟩
  | false =>
    have hnotUpper : ¬ upper.style.isEmpty = true := by simp [hupper]
    cases hlower : lower.style.isEmpty with
    | true => exact Or.inr (Or.inl ⟨rfl, rfl, by rw [layer, if_neg hnotUpper, if_pos hlower]⟩)
    | false =>
      have hnotLower : ¬ lower.style.isEmpty = true := by simp [hlower]
      refine Or.inr (Or.inr ⟨rfl, rfl, ?_⟩)
      rw [layer, if_neg hnotUpper, if_neg hnotLower]
      cases hfind : c.find? ⟨theme, lower.id, upper.id, mode⟩ with
      | some e => exact Or.inl ⟨e, find?_eq_some hfind, by simp only [hfind]⟩
      | none => exact Or.inr ⟨find?_eq_none hfind, by simp only [hfind]; rfl⟩

/-! ## What is kept -/

theorem Keeps.mono {c c' : Composer} (hkeeps : c.Keeps h) (hsubset : c.entries ⊆ c'.entries) :
    c'.Keeps h := by
  cases hkeeps with
  | lower hentry => exact .lower (hsubset hentry)
  | upper hentry => exact .upper (hsubset hentry)
  | result hentry => exact .result (hsubset hentry)

theorem Knows.mono {c c' : Composer} (hknows : Knows given c h) (hsubset : c.entries ⊆ c'.entries) :
    Knows given c' h := by
  cases hknows with
  | given hgiven => exact .given hgiven
  | kept hkeeps => exact .kept (hkeeps.mono hsubset)

theorem Knows.imp (hknows : Knows given' c h) (hgiven : ∀ a, given' a → given a) :
    Knows given c h := by
  cases hknows with
  | given hmem => exact .given (hgiven _ hmem)
  | kept hkeeps => exact .kept hkeeps

/-- What is remembered stays so when another question is asked. -/
theorem entries_subset_layer (c : Composer) (theme : Nat) (lower upper : Handle)
    (mode : ComposeMode) : c.entries ⊆ (c.layer theme lower upper mode).2.entries := by
  rcases c.layer_cases theme lower upper mode with
    ⟨-, heq⟩ | ⟨-, -, heq⟩ | ⟨-, -, ⟨e, -, heq⟩ | ⟨-, heq⟩⟩ <;> rw [heq]
  · exact List.Subset.refl _
  · exact List.Subset.refl _
  · exact List.Subset.refl _
  · exact List.subset_append_left _ _

theorem mem_remember (c : Composer) : (key, e) ∈ (c.remember key e).entries :=
  List.mem_append_right _ (List.mem_singleton.2 rfl)

theorem knows_remember (hlower : Knows given c e.lower) (hupper : Knows given c e.upper)
    (hknows : Knows given (c.remember key e) h) : Knows given c h ∨ h = e.result := by
  cases hknows with
  | given hgiven => exact Or.inl (.given hgiven)
  | kept hkeeps =>
    cases hkeeps with
    | lower hentry =>
      rcases List.mem_append.1 hentry with hentry | hentry
      · exact Or.inl (.kept (.lower hentry))
      · rw [List.mem_singleton.1 hentry]
        exact Or.inl hlower
    | upper hentry =>
      rcases List.mem_append.1 hentry with hentry | hentry
      · exact Or.inl (.kept (.upper hentry))
      · rw [List.mem_singleton.1 hentry]
        exact Or.inl hupper
    | result hentry =>
      rcases List.mem_append.1 hentry with hentry | hentry
      · exact Or.inl (.kept (.result hentry))
      · rw [List.mem_singleton.1 hentry]
        exact Or.inr rfl

/-! ## Laying one handle over another -/

/-- The number of the next composition is no identity of a handle around. -/
def IsFree (given : Handle → Prop) (c : Composer) : Prop :=
  ∀ h, Knows given c h → h.id ≠ .composed c.next

theorem IsFaithful.remember (hs : c.IsFaithful given) (hfree : c.IsFree given)
    (hlower : Knows given c lower) (hupper : Knows given c upper)
    (hkey : (⟨theme, lower.id, upper.id, mode⟩ : ComposeKey) ∉ c.entries.map Prod.fst) :
    (c.remember ⟨theme, lower.id, upper.id, mode⟩
      (c.compositionOf lower upper mode)).IsFaithful given := by
  refine ⟨?_, ?_, ?_, ?_⟩
  · intro a b ha hb hid
    -- The new handle has an identity that no other one has, so only two old ones can be confused.
    rcases knows_remember hlower hupper ha with ha | rfl <;>
      rcases knows_remember hlower hupper hb with hb | rfl
    · exact hs.unique a b ha hb hid
    · exact absurd hid (hfree a ha)
    · exact absurd hid.symm (hfree b hb)
    · rfl
  · intro entry hentry
    rcases List.mem_append.1 hentry with hentry | hentry
    · exact hs.isFor entry hentry
    · rw [List.mem_singleton.1 hentry]
      exact ⟨rfl, rfl, rfl⟩
  · rw [Composer.remember, List.map_append, List.map_singleton, ← List.concat_eq_append]
    exact (List.nodup_concat _ _).2 ⟨hkey, hs.keys⟩
  · rw [Composer.remember, List.map_append, List.map_singleton, ← List.concat_eq_append]
    refine (List.nodup_concat _ _).2 ⟨?_, hs.results⟩
    intro hmem
    obtain ⟨entry, hentry, hid⟩ := List.mem_map.1 hmem
    exact hfree _ (.kept (.result hentry)) hid

theorem IsFaithful.layer (hs : c.IsFaithful given) (hfree : c.IsFree given)
    (hlower : Knows given c lower) (hupper : Knows given c upper) :
    (c.layer theme lower upper mode).2.IsFaithful given := by
  rcases c.layer_cases theme lower upper mode with
    ⟨-, heq⟩ | ⟨-, -, heq⟩ | ⟨-, -, ⟨e, -, heq⟩ | ⟨hkey, heq⟩⟩ <;> rw [heq]
  · exact hs
  · exact hs
  · exact hs
  · exact hs.remember hfree hlower hupper hkey

theorem Knows.answer (hlower : Knows given c lower) (hupper : Knows given c upper) :
    Knows given (c.layer theme lower upper mode).2 (c.layer theme lower upper mode).1 := by
  rcases c.layer_cases theme lower upper mode with
    ⟨-, heq⟩ | ⟨-, -, heq⟩ | ⟨-, -, ⟨e, hentry, heq⟩ | ⟨-, heq⟩⟩ <;> rw [heq]
  · exact hlower
  · exact hupper
  · exact .kept (.result hentry)
  · exact .kept (.result c.mem_remember)

/-- A handle around with the identity that a question names is the one that the remembered
composition was made for. -/
theorem IsFaithful.eq_of_mem (hs : c.IsFaithful given) (hlower : Knows given c lower)
    (hupper : Knows given c upper) (hentry : (⟨theme, lower.id, upper.id, mode⟩, e) ∈ c.entries) :
    e.lower = lower ∧ e.upper = upper :=
  ⟨hs.unique _ _ (.kept (.lower hentry)) hlower (hs.isFor _ hentry).lower,
    hs.unique _ _ (.kept (.upper hentry)) hupper (hs.isFor _ hentry).upper⟩

/-- Laying a handle over another one gives a handle that looks like the composition of their styles,
whether the composer remembers it or not and also where it answers with one of the two. -/
theorem IsFaithful.layer_alike (hs : c.IsFaithful given) (theme : Nat) (mode : ComposeMode)
    (hlower : Knows given c lower) (hupper : Knows given c upper) :
    (c.layer theme lower upper mode).1.style.Alike (.compose mode lower.style upper.style) := by
  obtain ⟨combine, hcombine⟩ := Style.compose_eq_layer mode
  rcases c.layer_cases theme lower upper mode with
    ⟨hempty, heq⟩ | ⟨-, hempty, heq⟩ | ⟨-, -, ⟨e, hentry, heq⟩ | ⟨-, heq⟩⟩ <;> rw [heq]
  · rw [hcombine]
    exact (Style.layer_alike_of_isEmpty_upper hempty).symm
  · rw [hcombine]
    exact (Style.layer_alike_of_isEmpty_lower hempty).symm
  · obtain ⟨rfl, rfl⟩ := hs.eq_of_mem hlower hupper hentry
    rw [(hs.isFor _ hentry).style]
    exact .refl _
  · exact .refl _

/-! ## Handles come and go -/

/-- A composer stays faithful if no further handles are around. -/
theorem IsFaithful.of_knows (hs : c.IsFaithful given)
    (hknows : ∀ a, Knows given' c a → Knows given c a) : c.IsFaithful given' :=
  ⟨fun a b ha hb => hs.unique a b (hknows a ha) (hknows b hb), hs.isFor, hs.keys, hs.results⟩

/-- A handle with an identity that no handle around has may come to them. -/
theorem IsFaithful.make (hs : c.IsFaithful given) (hfree : ∀ a, Knows given c a → a.id ≠ h.id) :
    c.IsFaithful (fun a => a = h ∨ given a) := by
  have hknows : ∀ {a}, Knows (fun a => a = h ∨ given a) c a → a = h ∨ Knows given c a := by
    intro a ha
    cases ha with
    | given hgiven => exact hgiven.imp_right .given
    | kept hkeeps => exact Or.inr (.kept hkeeps)
  refine ⟨?_, hs.isFor, hs.keys, hs.results⟩
  intro a b ha hb hid
  rcases hknows ha with rfl | hold <;> rcases hknows hb with rfl | hold'
  · rfl
  · exact absurd hid.symm (hfree b hold')
  · exact absurd hid (hfree a hold)
  · exact hs.unique a b hold hold' hid

/-- Forgetting everything leaves fewer handles around. -/
theorem IsFaithful.clear (hs : c.IsFaithful given) : c.clear.IsFaithful given := by
  have hsubset : c.clear.entries ⊆ c.entries := List.nil_subset _
  exact ⟨fun a b ha hb => hs.unique a b (ha.mono hsubset) (hb.mono hsubset),
    List.forall_mem_nil _, List.nodup_nil, List.nodup_nil⟩

end layer

/-! ## Asking about handles that may be missing -/

section blend

variable {given : Handle → Prop} {c : Composer} {lower upper : Option Handle}

theorem IsFaithful.blend (hs : c.IsFaithful given) (theme : Nat) (mode : ComposeMode)
    (hfree : c.IsFree given) (hlower : ∀ h ∈ lower, Knows given c h)
    (hupper : ∀ h ∈ upper, Knows given c h) :
    (c.blend theme lower upper mode).2.IsFaithful given := by
  cases lower with
  | none => cases upper <;> exact hs
  | some lower =>
    cases upper with
    | none => exact hs
    | some upper => exact hs.layer hfree (hlower lower rfl) (hupper upper rfl)

end blend

end Composer

end YamlListing
