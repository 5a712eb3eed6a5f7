import YamlListing.Theme.Styles

set_option autoImplicit false

/-! # Handles of a theme

A theme gives out handles that are told apart by the category which brought their style in. So two
of its handles with one identity are one handle (`Styles.handle_eq_of_id_eq`). -/

namespace YamlListing.Styles

variable {s : Styles} {c d : Category} {own : Style}

theorem handle_of_inherited (hroot : c.isRoot = false) (hown : s.own? c = none) :
    s.handle c = s.handle c.parent := by
  rw [handle, dif_pos hroot, hown]

theorem handle_of_own (hroot : c.isRoot = false) (hown : s.own? c = some own) :
    s.handle c = ⟨.entry s.id c, (s.handle c.parent).style.overrideStyle own⟩ := by
  rw [handle, dif_pos hroot, hown]

theorem style_of_inherited (hroot : c.isRoot = false) (hown : s.own? c = none) :
    s.style c = s.style c.parent := by
  rw [style, handle_of_inherited hroot hown, style]

theorem style_of_own (hroot : c.isRoot = false) (hown : s.own? c = some own) :
    s.style c = (s.style c.parent).overrideStyle own := by
  rw [style, handle_of_own hroot hown, style]

theorem style_text (hown : s.own? .text = none) : s.style .text = s.base := by
  rw [style, handle, dif_neg (by decide), hown]

theorem style_text_of_own (hown : s.own? .text = some own) :
    s.style .text = s.base.overrideStyle own := by
  rw [style, handle, dif_neg (by decide), hown]

/-- A handle is named after the category that it belongs to, which does not come later. -/
theorem exists_handle_id (s : Styles) (c : Category) :
    ∃ owner, (s.handle c).id = .entry s.id owner ∧ s.handle owner = s.handle c ∧
      owner.index ≤ c.index := by
  induction c using handle.induct (s := s) with
  | case1 c hroot hown ih =>
    obtain ⟨owner, hid, howner, hle⟩ := ih
    rw [handle_of_inherited hroot hown]
    exact ⟨owner, hid, howner, Nat.le_trans hle (Nat.le_of_lt (Category.parent_lt hroot))⟩
  | case2 c hroot own hown ih =>
    exact ⟨c, by rw [handle_of_own hroot hown], rfl, Nat.le_refl _⟩
  | case3 c hroot =>
    have htext : c = .text := by
      rw [Bool.not_eq_false] at hroot
      exact eq_of_beq hroot
    refine ⟨.text, ?_, by rw [htext], Nat.zero_le _⟩
    rw [handle, dif_neg hroot]

/-- Handles of a theme with one identity are one handle. -/
theorem handle_eq_of_id_eq (h : (s.handle c).id = (s.handle d).id) : s.handle c = s.handle d := by
  obtain ⟨owner, hc, howner, -⟩ := s.exists_handle_id c
  obtain ⟨owner', hd, howner', -⟩ := s.exists_handle_id d
  rw [hc, hd] at h
  obtain rfl : owner = owner' := (HandleId.entry.inj h).2
  rw [← howner, howner']

/-- The handles that a theme gives out. -/
def Gives (s : Styles) (h : Handle) : Prop := ∃ c, h = s.handle c

theorem gives_handle (s : Styles) (c : Category) : s.Gives (s.handle c) := ⟨c, rfl⟩

theorem Gives.eq_of_id_eq {a b : Handle} (ha : s.Gives a) (hb : s.Gives b) (h : a.id = b.id) :
    a = b := by
  obtain ⟨c, rfl⟩ := ha
  obtain ⟨d, rfl⟩ := hb
  exact handle_eq_of_id_eq h

theorem Gives.id_ne_composed {h : Handle} (hgives : s.Gives h) (n : Nat) : h.id ≠ .composed n := by
  obtain ⟨c, rfl⟩ := hgives
  obtain ⟨owner, hid, -⟩ := s.exists_handle_id c
  rw [hid]
  exact HandleId.noConfusion

/-- The styles that leave every text as it is. -/
def HasNoTransform (s : Styles) : Prop := ∀ c, (s.style c).transform = none

theorem own?_eq_some (h : s.own? c = some own) : (c, own) ∈ s.overrides := by
  rw [own?, Option.map_eq_some_iff] at h
  obtain ⟨entry, hentry, rfl⟩ := h
  have hbeq := List.find?_some hentry
  have hcategory : entry.1 = c := eq_of_beq hbeq
  rw [← hcategory]
  exact List.mem_reverse.1 (List.mem_of_find?_eq_some hentry)

/-- A theme that is put together from styles without transforms has none. -/
theorem hasNoTransform_of_forall (hbase : s.base.transform = none)
    (hoverrides : ∀ entry ∈ s.overrides, entry.2.transform = none) : s.HasNoTransform := by
  have hlayer : ∀ {lower upper : Style}, lower.transform = none → upper.transform = none →
      (lower.overrideStyle upper).transform = none := by
    intro lower upper hlower hupper
    rw [Style.overrideStyle, Style.layer, hlower, hupper]
    rfl
  intro c
  induction c using handle.induct (s := s) with
  | case1 c hroot hown ih =>
    rw [style_of_inherited hroot hown]
    exact ih
  | case2 c hroot own hown ih =>
    rw [style_of_own hroot hown]
    exact hlayer ih (hoverrides _ (own?_eq_some hown))
  | case3 c hroot =>
    obtain rfl : c = .text := by
      rw [Bool.not_eq_false] at hroot
      exact eq_of_beq hroot
    cases hown : s.own? .text with
    | none =>
      rw [style_text hown]
      exact hbase
    | some own =>
      rw [style_text_of_own hown]
      exact hlayer hbase (hoverrides _ (own?_eq_some hown))

end YamlListing.Styles
