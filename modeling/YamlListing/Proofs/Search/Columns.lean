import YamlListing.Proofs.Search.Occurrence

set_option autoImplicit false

/-! # The columns of a match

The columns of a folded line make a table with one entry for every byte of the folded text
(`columns`). A search by bytes looks the columns of a match up there, at the first and at the last
byte of the needle. Both entries exist wherever the needle stands, and they are the columns that the
match is told by (`readsColumns`).

The characters from which a match comes are a stretch of the line. What they fold to contains the
needle, whatever else the first and the last of them fold to (`OccursAt.infix_normalize`). -/

namespace YamlListing.FoldedLine

/-! ## One column for every byte -/

/-- The column of every byte of the folded text. -/
def columns (l : FoldedLine) : List Nat := l.flatMap fun c => List.replicate c.1.utf8Size c.2

/-- Whether the table has a column for the first and for the last byte of a needle, wherever the
needle stands, and these two make the hit. -/
def ReadsColumns (needle : Text) (l : FoldedLine) : Prop :=
  needle ≠ [] → ∀ k, needle <+: l.text.drop k → ∃ first last,
    l.columns[Text.byteLength (l.text.take k)]? = some first ∧
    l.columns[Text.byteLength (l.text.take k) + Text.byteLength needle - 1]? = some last ∧
    hitAt? needle (l.drop k) = some (first, last + 1)

section columns

variable {needle : Text} {l : FoldedLine} {c : Char × Nat} {j k : Nat}

@[simp] theorem columns_cons (c : Char × Nat) (l : FoldedLine) :
    columns (c :: l) = List.replicate c.1.utf8Size c.2 ++ columns l := List.flatMap_cons

@[simp] theorem text_cons (c : Char × Nat) (l : FoldedLine) : text (c :: l) = c.1 :: text l := rfl

/-- The bytes of a character all come from its column. -/
theorem getElem?_columns (h : l[k]? = some c) (hj : j < c.1.utf8Size) :
    l.columns[Text.byteLength (l.text.take k) + j]? = some c.2 := by
  induction l generalizing k with
  | nil => cases h
  | cons d l ih =>
    cases k with
    | zero =>
      obtain rfl : d = c := by simpa using h
      simp [List.getElem?_append_left, hj]
    | succ k =>
      have hlater := ih (by simpa using h)
      simp only [columns_cons, text_cons, List.take_succ_cons, Text.byteLength_cons, Nat.add_assoc]
      rw [List.getElem?_append_right (by simp), List.length_replicate, Nat.add_sub_cancel_left]
      exact hlater

/-- The last byte of a needle that stands somewhere is the last byte of its last character. -/
theorem byteLength_last (hne : needle ≠ []) (hstands : needle <+: l.text.drop k)
    (h : l[k + (needle.length - 1)]? = some c) :
    Text.byteLength (l.text.take k) + Text.byteLength needle - 1 =
      Text.byteLength (l.text.take (k + (needle.length - 1))) + (c.1.utf8Size - 1) := by
  have hpos := List.length_pos_iff.2 hne
  have hlast : l.text[k + (needle.length - 1)]? = some c.1 := by
    rw [text, List.getElem?_map, h, Option.map_some]
  have hneedle : l.text.take k ++ needle = l.text.take (k + needle.length) := by
    rw [List.take_add, ← List.prefix_iff_eq_take.1 hstands]
  have hsplit : l.text.take (k + needle.length) = l.text.take (k + (needle.length - 1)) ++ [c.1] := by
    rw [show k + needle.length = k + (needle.length - 1) + 1 by omega, List.take_add_one, hlast]
    rfl
  have hbytes := congrArg Text.byteLength (hneedle.trans hsplit)
  simp only [Text.byteLength_append, Text.byteLength_cons, Text.byteLength_nil] at hbytes
  have := c.1.utf8Size_pos
  omega

/-- Wherever a needle stands, the table gives the columns of the hit. -/
theorem readsColumns (needle : Text) (l : FoldedLine) : ReadsColumns needle l := by
  intro hne k hstands
  have hpos := List.length_pos_iff.2 hne
  have hlength := length_le_of_stands hstands
  rw [List.length_drop] at hlength
  obtain ⟨c, hc⟩ : ∃ c, l[k]? = some c :=
    ⟨_, List.getElem?_eq_getElem (by omega)⟩
  obtain ⟨d, hd⟩ : ∃ d, l[k + (needle.length - 1)]? = some d :=
    ⟨_, List.getElem?_eq_getElem (by omega)⟩
  refine ⟨c.2, d.2, ?_, ?_, ?_⟩
  · exact getElem?_columns hc c.1.utf8Size_pos
  · rw [byteLength_last hne hstands hd]
    exact getElem?_columns hd (Nat.sub_lt d.1.utf8Size_pos Nat.one_pos)
  · rw [hitAt?_drop_eq_some hne]
    exact ⟨hstands, by rw [hc, Option.map_some], by rw [hd, Option.map_some]⟩

end columns

/-! ## Stretches of a line -/

section stretch

variable {n : Normalizer} {needle : Text} {column k : Nat} {hit : Nat × Nat}

theorem ofTextFrom_append (n : Normalizer) (column : Nat) (x y : Text) :
    ofTextFrom n column (x ++ y) =
      ofTextFrom n column x ++ ofTextFrom n (column + x.length) y := by
  induction x generalizing column with
  | nil => rfl
  | cons c x ih =>
    simp only [List.cons_append, ofTextFrom, ih, List.append_assoc, List.length_cons]
    rw [Nat.add_assoc, Nat.add_comm 1]

theorem text_ofTextFrom (n : Normalizer) (column : Nat) (t : Text) :
    text (ofTextFrom n column t) = n.normalize t := by
  induction t generalizing column with
  | nil => rfl
  | cons c t ih =>
    have htail : (ofTextFrom n (column + 1) t).map Prod.fst = n.normalize t := ih (column + 1)
    simp [text, ofTextFrom, Normalizer.normalize, htail, Function.comp_def]

theorem lt_of_mem_ofTextFrom {t : Text} {c : Char × Nat} (h : c ∈ ofTextFrom n column t) :
    c.2 < column + t.length := by
  induction t generalizing column with
  | nil => cases h
  | cons d t ih =>
    rw [ofTextFrom, List.mem_append] at h
    rw [List.length_cons]
    rcases h with h | h
    · obtain ⟨e, -, rfl⟩ := List.mem_map.1 h
      simp only
      omega
    · have := ih h
      omega

/-- The columns of an occurrence are columns of the line. -/
theorem OccursAt.bounds {t : Text} (h : OccursAt needle (ofText n t) k hit) :
    1 ≤ hit.1 ∧ hit.2 ≤ t.length + 1 := by
  obtain ⟨c, hc, hfirst⟩ := Option.map_eq_some_iff.1 h.first
  obtain ⟨d, hd, hlast⟩ := Option.map_eq_some_iff.1 h.last
  have hle : 1 ≤ c.2 := column_le_of_mem (List.mem_of_getElem? hc)
  have hlt : d.2 < 1 + t.length := lt_of_mem_ofTextFrom (List.mem_of_getElem? hd)
  omega

/-- The stretch of a line that an occurrence covers folds to a text that contains the needle. -/
theorem OccursAt.infix_normalize {x y w : Text} (h : OccursAt needle (ofText n (x ++ y ++ w)) k hit)
    (hfirst : hit.1 = x.length + 1) (hlast : hit.2 = x.length + y.length + 1) :
    needle <:+: n.normalize y := by
  obtain ⟨c, hc, hcolumn⟩ := Option.map_eq_some_iff.1 h.first
  obtain ⟨d, hd, hstop⟩ := Option.map_eq_some_iff.1 h.last
  have hstands := h.stands
  rw [ofText, List.append_assoc, ofTextFrom_append, ofTextFrom_append] at hc hd hstands
  -- The folded line falls into what comes before the stretch, the stretch and what comes after.
  -- The first character of the needle is not before the stretch, and its last one is not after.
  have hbefore : (ofTextFrom n 1 x).length ≤ k := by
    by_contra hlt
    rw [List.getElem?_append_left (by omega)] at hc
    have := lt_of_mem_ofTextFrom (List.mem_of_getElem? hc)
    omega
  have hafter : k + (needle.length - 1) <
      (ofTextFrom n 1 x).length + (ofTextFrom n (1 + x.length) y).length := by
    by_contra hge
    rw [List.getElem?_append_right (by omega), List.getElem?_append_right (by omega)] at hd
    have := column_le_of_mem (List.mem_of_getElem? hd)
    omega
  have hlength : (n.normalize y).length = (ofTextFrom n (1 + x.length) y).length := by
    rw [← text_ofTextFrom n (1 + x.length) y, text, List.length_map]
  have hrest : needle <+: (n.normalize y).drop (k - (ofTextFrom n 1 x).length) ++ n.normalize w := by
    rw [text, List.map_append, List.map_append, List.drop_append,
      List.drop_eq_nil_of_le (by rwa [List.length_map]), List.nil_append, List.length_map] at hstands
    rw [← List.drop_append_of_le_length (by omega), ← text_ofTextFrom n (1 + x.length) y,
      ← text_ofTextFrom n (1 + x.length + y.length) w]
    exact hstands
  have hinside : needle <+: (n.normalize y).drop (k - (ofTextFrom n 1 x).length) :=
    List.prefix_of_prefix_length_le hrest (List.prefix_append _ _)
      (by rw [List.length_drop]; omega)
  exact hinside.isInfix.trans (List.drop_suffix _ _).isInfix

end stretch

end YamlListing.FoldedLine
