import YamlListing.Proofs.Theme.Composer

set_option autoImplicit false

/-! # How a handle is made

Which number a composition gets depends on everything that its composer was asked before. How it is
made does not: from which given handles, and what was laid over what. That is its recipe. As long as
a composer forgets nothing, two handles are one and the same exactly when they have one recipe
(`Makes.unique`, `Makes.recipe_eq`), so what is decided by comparing handles is decided by their
recipes. -/

namespace YamlListing

/-- How a handle is made: it is given, or one was laid over another. -/
inductive Recipe where
  | given (handle : Handle)
  | layered (theme : Nat) (lower upper : Recipe) (mode : ComposeMode)

namespace Recipe

/-- The style of what a recipe makes. -/
def style : Recipe → Style
  | given handle => handle.style
  | layered _ lower upper mode => .compose mode lower.style upper.style

/-- Lays what a recipe makes over what another one makes. An empty style changes nothing. -/
def layer (theme : Nat) (lower upper : Recipe) (mode : ComposeMode) : Recipe :=
  if upper.style.isEmpty then lower
  else if lower.style.isEmpty then upper
  else layered theme lower upper mode

theorem layer_alike (theme : Nat) (lower upper : Recipe) (mode : ComposeMode) :
    (layer theme lower upper mode).style.Alike (.compose mode lower.style upper.style) := by
  obtain ⟨combine, hcombine⟩ := Style.compose_eq_layer mode
  rw [layer]
  split
  · next hempty =>
    rw [hcombine]
    exact (Style.layer_alike_of_isEmpty_upper hempty).symm
  · split
    · next hempty =>
      rw [hcombine]
      exact (Style.layer_alike_of_isEmpty_lower hempty).symm
    · exact .refl _

end Recipe

namespace Composer

/-- Whether a composer that forgets nothing makes a handle by a recipe. -/
inductive Makes (given : Handle → Prop) (c : Composer) : Recipe → Handle → Prop
  | given {h : Handle} (hgiven : given h) : Makes given c (.given h) h
  | layered {theme : Nat} {l u : Recipe} {mode : ComposeMode} {e : Composition}
    (hlower : Makes given c l e.lower) (hupper : Makes given c u e.upper)
    (hentry : (⟨theme, e.lower.id, e.upper.id, mode⟩, e) ∈ c.entries) :
    Makes given c (.layered theme l u mode) e.result

/-- Whether what a composer remembers is right, all compositions are told apart by their numbers,
and none of the given handles is a composition. -/
structure IsSound (given : Handle → Prop) (c : Composer) : Prop extends IsFaithful given c where
  /-- The number of the next composition is not in use. -/
  fresh : ∀ h n, Knows given c h → h.id = .composed n → n < c.next
  numbered : ∀ entry ∈ c.entries, ∃ n, entry.2.result.id = .composed n
  apart : ∀ h n, given h → h.id ≠ .composed n

section Makes

variable {given given' : Handle → Prop} {c c' : Composer} {lower upper a b : Handle} {theme : Nat}
  {mode : ComposeMode} {r r' l u : Recipe}

theorem empty_isSound (hunique : ∀ a b, given a → given b → a.id = b.id → a = b)
    (hgiven : ∀ h n, given h → h.id ≠ .composed n) : empty.IsSound given := by
  refine ⟨empty_isFaithful hunique, ?_, List.forall_mem_nil _, hgiven⟩
  intro h n hknows hid
  cases hknows with
  | given hh => exact absurd hid (hgiven h n hh)
  | kept hkeeps => cases hkeeps <;> contradiction

theorem IsSound.isFree (hs : c.IsSound given) : c.IsFree given := by
  intro h hknows hid
  exact Nat.lt_irrefl _ (hs.fresh h c.next hknows hid)

theorem IsSound.layer (hs : c.IsSound given) (hlower : Knows given c lower)
    (hupper : Knows given c upper) : (c.layer theme lower upper mode).2.IsSound given := by
  refine ⟨hs.toIsFaithful.layer hs.isFree hlower hupper, ?_, ?_, hs.apart⟩
  all_goals
    rcases c.layer_cases theme lower upper mode with
      ⟨-, heq⟩ | ⟨-, -, heq⟩ | ⟨-, -, ⟨e, -, heq⟩ | ⟨-, heq⟩⟩ <;> rw [heq]
  · exact hs.fresh
  · exact hs.fresh
  · exact hs.fresh
  · intro h n hh hid
    rcases knows_remember hlower hupper hh with hh | rfl
    · exact Nat.lt_succ_of_lt (hs.fresh h n hh hid)
    · obtain rfl := HandleId.composed.inj hid
      exact Nat.lt_succ_self _
  · exact hs.numbered
  · exact hs.numbered
  · exact hs.numbered
  · intro entry hentry
    rcases List.mem_append.1 hentry with hentry | hentry
    · exact hs.numbered entry hentry
    · rw [List.mem_singleton.1 hentry]
      exact ⟨c.next, rfl⟩

theorem IsSound.blend {lower upper : Option Handle} (hs : c.IsSound given)
    (hlower : ∀ h ∈ lower, Knows given c h) (hupper : ∀ h ∈ upper, Knows given c h) :
    (c.blend theme lower upper mode).2.IsSound given := by
  cases lower with
  | none => cases upper <;> exact hs
  | some lower =>
    cases upper with
    | none => exact hs
    | some upper => exact hs.layer (hlower lower rfl) (hupper upper rfl)

theorem IsSound.clear (hs : c.IsSound given) : c.clear.IsSound given :=
  ⟨hs.toIsFaithful.clear, fun h n hh => hs.fresh h n (hh.mono (List.nil_subset _)),
    List.forall_mem_nil _, hs.apart⟩

/-- A composer stays sound when handles go. -/
theorem IsSound.anti (hs : c.IsSound given) (hgiven : ∀ h, given' h → given h) :
    c.IsSound given' :=
  ⟨hs.toIsFaithful.of_knows fun _ hh => hh.imp hgiven, fun h n hh => hs.fresh h n (hh.imp hgiven),
    hs.numbered, fun h n hh => hs.apart h n (hgiven h hh)⟩

theorem Makes.mono (h : Makes given c r a) (hsubset : c.entries ⊆ c'.entries) :
    Makes given c' r a := by
  induction h with
  | given hgiven => exact .given hgiven
  | layered _ _ hentry hlower hupper => exact .layered hlower hupper (hsubset hentry)

theorem Makes.knows (h : Makes given c r a) : Knows given c a := by
  cases h with
  | given hgiven => exact .given hgiven
  | layered _ _ hentry => exact .kept (.result hentry)

theorem Makes.style_eq (hs : c.IsFaithful given) (h : Makes given c r a) : a.style = r.style := by
  induction h with
  | given hgiven => rfl
  | layered _ _ hentry hlower hupper =>
    rw [(hs.isFor _ hentry).style, hlower, hupper, Recipe.style]

/-- A recipe makes one handle. -/
theorem Makes.unique (hs : c.IsFaithful given) (h : Makes given c r a) (h' : Makes given c r b) :
    a = b := by
  induction h generalizing b with
  | given hgiven =>
    cases h' with
    | given hgiven' => rfl
  | @layered theme l u mode e _ _ hentry ihl ihu =>
    cases h' with
    | @layered _ _ _ _ e' hlower hupper hentry' =>
      -- The same handles make the same question, and that one is answered once.
      rw [← ihl hlower, ← ihu hupper] at hentry'
      rw [hs.eq_of_key_eq hentry hentry']

/-- A handle is made by one recipe. -/
theorem Makes.recipe_eq (hs : c.IsSound given) (h : Makes given c r a) (h' : Makes given c r' b)
    (hid : a.id = b.id) : r = r' := by
  induction h generalizing r' b with
  | @given a ha =>
    cases h' with
    | given hb => rw [hs.unique _ _ (.given ha) (.given hb) hid]
    | layered _ _ hentry' =>
      obtain ⟨n, hn⟩ := hs.numbered _ hentry'
      exact absurd (hid.trans hn) (hs.apart a n ha)
  | @layered theme l u mode e _ _ hentry ihl ihu =>
    cases h' with
    | given hb =>
      obtain ⟨n, hn⟩ := hs.numbered _ hentry
      exact absurd (hid.symm.trans hn) (hs.apart b n hb)
    | @layered theme' l' u' mode' e' hlower hupper hentry' =>
      obtain ⟨hkey, rfl⟩ := Prod.mk.inj (hs.eq_of_result_eq hentry hentry' hid)
      obtain ⟨rfl, -, -, rfl⟩ := ComposeKey.mk.inj hkey
      rw [ihl hlower rfl, ihu hupper rfl]

/-! ## Laying one handle over another -/

/-- What a question gives: a handle that is made by a recipe, and the composer after it. -/
structure Lays (given : Handle → Prop) (c : Composer) (r : Recipe) (answer : Handle × Composer) :
    Prop where
  sound : answer.2.IsSound given
  subset : c.entries ⊆ answer.2.entries
  makes : Makes given answer.2 r answer.1

theorem Lays.unchanged (hs : c.IsSound given) (h : Makes given c r a) : Lays given c r (a, c) :=
  ⟨hs, List.Subset.refl _, h⟩

/-- Laying a handle over another one gives the handle that is made by laying their recipes. -/
theorem layer_lays (hs : c.IsSound given) (theme : Nat) (mode : ComposeMode)
    (hlower : Makes given c l lower) (hupper : Makes given c u upper) :
    Lays given c (.layer theme l u mode) (c.layer theme lower upper mode) := by
  refine ⟨hs.layer hlower.knows hupper.knows, c.entries_subset_layer theme lower upper mode, ?_⟩
  have hlowerStyle := hlower.style_eq hs.toIsFaithful
  have hupperStyle := hupper.style_eq hs.toIsFaithful
  rw [Recipe.layer, ← hlowerStyle, ← hupperStyle]
  rcases c.layer_cases theme lower upper mode with
    ⟨hempty, heq⟩ | ⟨hupperEmpty, hempty, heq⟩ | ⟨hupperEmpty, hlowerEmpty, hcases⟩
  · rw [heq, if_pos hempty]
    exact hlower
  · rw [heq, hupperEmpty, if_neg Bool.false_ne_true, if_pos hempty]
    exact hupper
  · rw [hupperEmpty, hlowerEmpty, if_neg Bool.false_ne_true, if_neg Bool.false_ne_true]
    rcases hcases with ⟨e, hentry, heq⟩ | ⟨-, heq⟩ <;> rw [heq]
    · obtain ⟨rfl, rfl⟩ := hs.eq_of_mem hlower.knows hupper.knows hentry
      exact .layered hlower hupper hentry
    · have hsubset : c.entries ⊆ (c.remember ⟨theme, lower.id, upper.id, mode⟩
          (c.compositionOf lower upper mode)).entries := List.subset_append_left _ _
      exact .layered (e := c.compositionOf lower upper mode) (hlower.mono hsubset)
        (hupper.mono hsubset) c.mem_remember

end Makes

end Composer

end YamlListing
