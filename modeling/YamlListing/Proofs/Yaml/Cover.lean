import YamlListing.Proofs.Text.Place

set_option autoImplicit false

/-! # Tokens that cover a text

`Tiles before text tokens` says that the tokens lie one after the other in `text`, which is read
after `before`, with nothing but blanks between them. Tilings of texts that follow each other can be
put together (`Tiles.append`), and that is how the lexer is shown to make one. What a tiling means
for the text as a whole is `IsCover`: every token is a stretch of the text, at the place that it
names, and every character outside of them is blank (`Tiles.isCover`). -/

namespace YamlListing.Yaml

open Unicode (isBlank)
open Text (byteLength positionAfter)

namespace Token

/-- Whether a token begins right after a text. -/
structure IsAt (token : Token) (before : Text) : Prop where
  offset : token.place.offset = byteLength before
  position : token.place.position = positionAfter before

/-- What every token has: some text, which no line feed ends, and before a value just a colon. -/
structure IsProper (token : Token) : Prop where
  raw_ne_nil : token.raw ≠ []
  getLast?_raw : token.raw.getLast? ≠ some '\n'
  raw_of_mappingValue : token.kind = .mappingValue → token.raw = [':']

theorem IsAt.stop {token : Token} {before : Text} (h : token.IsAt before) :
    token.stop = positionAfter (before ++ token.raw) := by
  rw [Token.stop, h.position, Text.advance_positionAfter]

end Token

/-- The tokens lie in a text one after the other, and between them there are only blanks. -/
inductive Tiles : Text → Text → List Token → Prop
  | nil {before text : Text} (h : ∀ c ∈ text, isBlank c = true) : Tiles before text []
  | cons {before gap after : Text} {token : Token} {tokens : List Token}
      (hgap : ∀ c ∈ gap, isBlank c = true) (hproper : token.IsProper)
      (hat : token.IsAt (before ++ gap)) (h : Tiles (before ++ gap ++ token.raw) after tokens) :
      Tiles before (gap ++ token.raw ++ after) (token :: tokens)

/-- The tokens cover a text without loss. -/
structure IsCover (text : Text) (tokens : List Token) : Prop where
  raw_ne_nil : ∀ token ∈ tokens, token.raw ≠ []
  /-- They begin at increasing offsets and do not overlap. -/
  increasing : tokens.Pairwise fun u v => u.place.offset < v.place.offset ∧
    u.place.offset + byteLength u.raw ≤ v.place.offset
  /-- Each is the stretch of the text that begins at its offset, and says the line and column of
      both ends. -/
  located : ∀ token ∈ tokens, ∃ before after, text = before ++ token.raw ++ after ∧
    token.place.offset = byteLength before ∧ token.place.position = positionAfter before ∧
    token.stop = positionAfter (before ++ token.raw)
  /-- Outside of them there are only blanks. -/
  isBlank : ∀ before c after, text = before ++ c :: after →
    (∀ token ∈ tokens, byteLength before < token.place.offset ∨
      token.place.offset + byteLength token.raw ≤ byteLength before) → isBlank c = true

namespace Tiles

variable {before text : Text} {tokens : List Token}

/-! ## Putting tilings together -/

theorem ofBlank {gap : Text} (hgap : ∀ c ∈ gap, isBlank c = true)
    (h : Tiles (before ++ gap) text tokens) : Tiles before (gap ++ text) tokens := by
  cases h with
  | nil hb => exact .nil (by simpa [or_imp, forall_and] using ⟨hgap, hb⟩)
  | @cons _ gap' after token tokens hgap' hproper hat h =>
      rw [← List.append_assoc, ← List.append_assoc]
      rw [List.append_assoc before] at hat h
      exact .cons (by simpa [or_imp, forall_and] using ⟨hgap, hgap'⟩) hproper hat h

theorem append {text' : Text} {tokens' : List Token} (h : Tiles before text tokens)
    (h' : Tiles (before ++ text) text' tokens') :
    Tiles before (text ++ text') (tokens ++ tokens') := by
  induction h with
  | nil hb => exact ofBlank hb h'
  | @cons before gap after token tokens hgap hproper hat _ ih =>
      rw [List.append_assoc _ after]
      refine .cons hgap hproper hat (ih ?_)
      simpa only [List.append_assoc] using h'

theorem single {token : Token} (hproper : token.IsProper) (hat : token.IsAt before) :
    Tiles before token.raw [token] := by
  have h : Tiles before ([] ++ token.raw ++ []) [token] :=
    .cons (by simp) hproper (by simpa using hat) (.nil (by simp))
  simpa using h

/-! ## What a tiling says -/

theorem isProper (h : Tiles before text tokens) : ∀ token ∈ tokens, token.IsProper := by
  induction h with
  | nil _ => simp
  | cons _ hproper _ _ ih => simpa using ⟨hproper, ih⟩

/-- Each token is a stretch of the text that begins where it says. -/
theorem exists_isAt (h : Tiles before text tokens) :
    ∀ token ∈ tokens, ∃ front back, text = front ++ token.raw ++ back ∧
      token.IsAt (before ++ front) := by
  induction h with
  | nil _ => simp
  | @cons before gap after token tokens _ _ hat _ ih =>
      intro u hu
      rcases List.mem_cons.1 hu with rfl | hu
      · exact ⟨gap, after, rfl, hat⟩
      · obtain ⟨front, back, rfl, hu⟩ := ih u hu
        refine ⟨gap ++ token.raw ++ front, back, by simp, ?_⟩
        simpa only [List.append_assoc] using hu

/-- Each token ends before the next begins, in bytes and in lines and columns. -/
theorem pairwise (h : Tiles before text tokens) :
    tokens.Pairwise fun u v => u.place.offset + byteLength u.raw ≤ v.place.offset ∧
      u.stop ≤ v.place.position := by
  induction h with
  | nil _ => exact List.Pairwise.nil
  | @cons before gap after token tokens _ _ hat h ih =>
      refine List.Pairwise.cons ?_ ih
      intro v hv
      obtain ⟨front, -, -, hv⟩ := h.exists_isAt v hv
      rw [hat.offset, hv.offset, hat.stop, hv.position]
      refine ⟨?_, Text.positionAfter_le_append _ _⟩
      simp only [Text.byteLength_append]
      omega

/-- No two tokens end at the same place. -/
theorem stop_pairwise (h : Tiles before text tokens) :
    tokens.Pairwise fun u v => u.stop < v.stop := by
  refine h.pairwise.imp_of_mem fun {u v} _ hv hle => ?_
  obtain ⟨front, -, -, hat⟩ := h.exists_isAt v hv
  refine Position.lt_of_le_of_lt hle.2 ?_
  rw [hat.position, hat.stop]
  exact Text.positionAfter_lt_append (h.isProper v hv).raw_ne_nil

/-- A character of the text is blank or inside a token. -/
theorem isBlank_or_mem (h : Tiles before text tokens) {front back : Text} {c : Char}
    (hc : text = front ++ c :: back) :
    isBlank c = true ∨ ∃ token ∈ tokens, ∃ start done rest, token.IsAt start ∧
      before ++ front = start ++ done ∧ token.raw = done ++ c :: rest := by
  induction h generalizing front with
  | nil hb => exact Or.inl (hb c (by rw [hc]; simp))
  | @cons before gap after token tokens hgap hproper hat _ ih =>
      rw [List.append_assoc] at hc
      rcases List.append_eq_append_iff.1 hc with ⟨done, rfl, hc₁⟩ | ⟨gap', hgap', hc₁⟩
      · rcases List.append_eq_append_iff.1 hc₁ with ⟨past, rfl, hc₂⟩ | ⟨rest, hraw, hc₂⟩
        · rcases ih hc₂ with hb | ⟨u, hu, start, done, rest, hat, hfront, hraw⟩
          · exact Or.inl hb
          · refine Or.inr ⟨u, List.mem_cons_of_mem _ hu, start, done, rest, hat, ?_, hraw⟩
            rw [← hfront]
            simp only [List.append_assoc]
        · cases rest with
          | nil =>
              -- The character is the first one after the token.
              have hfirst : after = [] ++ c :: back := by simpa using hc₂.symm
              rcases ih hfirst with hb | ⟨u, hu, start, done', rest, hat, hfront, hraw'⟩
              · exact Or.inl hb
              · refine Or.inr ⟨u, List.mem_cons_of_mem _ hu, start, done', rest, hat, ?_, hraw'⟩
                rw [← hfront, hraw]
                simp
          | cons d rest =>
              rw [List.cons_append] at hc₂
              obtain ⟨rfl, -⟩ := List.cons.inj hc₂
              exact Or.inr ⟨token, List.mem_cons_self .., _, done, rest, hat,
                by rw [List.append_assoc], hraw⟩
      · cases gap' with
        | nil =>
            -- The character is the first one of the token.
            obtain ⟨d, raw, hraw⟩ := List.exists_cons_of_ne_nil hproper.raw_ne_nil
            rw [hraw] at hc₁
            obtain ⟨rfl, -⟩ := List.cons.inj hc₁
            refine Or.inr ⟨token, List.mem_cons_self .., _, [], raw, hat, ?_, hraw⟩
            rw [hgap', List.append_nil, List.append_nil]
        | cons d gap' =>
            rw [List.cons_append] at hc₁
            obtain ⟨rfl, -⟩ := List.cons.inj hc₁
            exact Or.inl (hgap c (by rw [hgap']; simp))

/-- A tiling of a whole text covers it without loss. -/
theorem isCover (h : Tiles [] text tokens) : IsCover text tokens where
  raw_ne_nil token ht := (h.isProper token ht).raw_ne_nil
  increasing := by
    refine List.Pairwise.imp_of_mem ?_ h.pairwise
    intro u v hu _ huv
    have := Text.byteLength_pos (h.isProper u hu).raw_ne_nil
    exact ⟨by omega, huv.1⟩
  located token ht := by
    obtain ⟨front, back, htext, hat⟩ := h.exists_isAt token ht
    exact ⟨front, back, htext, hat.offset, hat.position, hat.stop⟩
  isBlank before c after hc hout := by
    rcases h.isBlank_or_mem hc with hb | ⟨token, ht, start, done, rest, hat, hstart, hraw⟩
    · exact hb
    · have hlen := congrArg byteLength hstart
      have hoff := hat.offset
      have hpos : 0 < c.utf8Size := c.utf8Size_pos
      have := hout token ht
      simp only [hraw, List.nil_append, Text.byteLength_append, Text.byteLength_cons] at hlen this
      omega

end Tiles

end YamlListing.Yaml
