import YamlListing.Proofs.Text.Stretch
import YamlListing.Proofs.Yaml.Lossless
import YamlListing.Yaml.Segment

set_option autoImplicit false

/-! # The segments of a text

Classifying tokens that tile a text gives segments that lie in it one after the other, and between
them there are only blanks (`ofText_isPartition`). The only ones without text are implicit nulls;
each sits at the end of a colon. -/

namespace YamlListing.Yaml

open Unicode (isBlank)
open Text (positionAfter spanOf)

namespace Segment

/-- Whether a segment is a stretch of a text that is read after `before`. -/
structure IsIn (before text : Text) (segment : Segment) : Prop where
  located : ∃ front back, text = front ++ segment.raw ++ back ∧
    segment.span = spanOf (before ++ front) segment.raw
  getLast?_raw : segment.raw.getLast? ≠ some '\n'
  category : segment.raw = [] → segment.category = .literalNullImplicit

/-- The segments divide a text: they lie in it in order, and what is outside of them is blank. -/
structure IsPartition (text : Text) (segments : List Segment) : Prop where
  isIn : ∀ segment ∈ segments, segment.IsIn [] text
  ordered : segments.Pairwise fun u v => u.span.stop ≤ v.span.start
  covers : ∀ front c back, text = front ++ c :: back → isBlank c = false →
    ∃ segment ∈ segments, segment.span.contains (positionAfter front) = true

section IsIn

variable {before text : Text} {segment : Segment}

theorem IsIn.append_left {gap : Text} (h : segment.IsIn (before ++ gap) text) :
    segment.IsIn before (gap ++ text) := by
  obtain ⟨⟨front, back, htext, hspan⟩, hlast, hcategory⟩ := h
  refine ⟨⟨gap ++ front, back, ?_, ?_⟩, hlast, hcategory⟩
  · rw [htext]
    simp only [List.append_assoc]
  · rw [hspan, List.append_assoc]

theorem IsIn.append_right (after : Text) (h : segment.IsIn before text) :
    segment.IsIn before (text ++ after) := by
  obtain ⟨⟨front, back, htext, hspan⟩, hlast, hcategory⟩ := h
  refine ⟨⟨front, back ++ after, ?_, hspan⟩, hlast, hcategory⟩
  rw [htext]
  simp only [List.append_assoc]

theorem IsIn.le_start (h : segment.IsIn before text) :
    positionAfter before ≤ segment.span.start := by
  obtain ⟨front, back, -, hspan⟩ := h.located
  rw [hspan]
  exact Text.positionAfter_le_spanOf_start before front segment.raw

theorem IsIn.stop_le (h : segment.IsIn before text) :
    segment.span.stop ≤ positionAfter (before ++ text) := by
  obtain ⟨front, back, htext, hspan⟩ := h.located
  rw [hspan, htext]
  exact Text.spanOf_stop_le_positionAfter before front segment.raw back

end IsIn

/-- Blanks at the end of a text make no difference. -/
theorem IsPartition.append_right {text gap : Text} {segments : List Segment}
    (h : IsPartition text segments) (hgap : ∀ c ∈ gap, isBlank c = true) :
    IsPartition (text ++ gap) segments where
  isIn segment hmem := (h.isIn segment hmem).append_right gap
  ordered := h.ordered
  covers front c back hc hblank := by
    rcases List.append_eq_append_iff.1 hc with ⟨past, -, hpast⟩ | ⟨rest, htext, hrest⟩
    · have hmem : c ∈ gap := by
        rw [hpast]
        exact List.mem_append_right _ (List.mem_cons_self ..)
      rw [hgap c hmem] at hblank
      cases hblank
    · cases rest with
      | nil =>
          have hmem : c ∈ gap := by
            rw [← List.nil_append gap, ← hrest]
            exact List.mem_cons_self ..
          rw [hgap c hmem] at hblank
          cases hblank
      | cons d rest =>
          obtain ⟨rfl, -⟩ := List.cons.inj hrest
          exact h.covers front c rest htext hblank

/-! ## The segments of a token -/

section ofToken

variable {before : Text} {token : Token} {previous : Option Token} {flow : Nat}
  {after : List Token} {segment : Segment}

theorem span_of_isAt (h : token.IsAt before) :
    Span.between token.place.position token.stop = spanOf before token.raw := by
  rw [h.position, h.stop, Span.between, if_pos (Text.positionAfter_le_append before token.raw),
    spanOf]

/-- A token has a segment of its own, and a colon without a value has an implicit null. -/
theorem mem_ofToken_iff : segment ∈ ofToken previous flow token after ↔
    segment = ⟨.between token.place.position token.stop, categoryOf previous token after,
      token.raw⟩ ∨
    (token.kind = .mappingValue ∧ isValueMissing previous token after (0 < flow) = true) ∧
      segment = implicitNull token := by
  rw [ofToken]
  split
  · next hnull => rw [List.mem_cons, List.mem_singleton, and_iff_right hnull]
  · next hnull =>
      rw [List.mem_singleton]
      exact ⟨Or.inl, fun h => h.resolve_right fun h => hnull h.1⟩

/-- Each segment of a token has its text and span, or is an implicit null after a colon. -/
theorem mem_ofToken (h : segment ∈ ofToken previous flow token after) :
    (segment.raw = token.raw ∧ segment.span = .between token.place.position token.stop) ∨
      (token.kind = .mappingValue ∧ segment = implicitNull token) := by
  rcases mem_ofToken_iff.1 h with rfl | ⟨⟨hkind, -⟩, rfl⟩
  · exact Or.inl ⟨rfl, rfl⟩
  · exact Or.inr ⟨hkind, rfl⟩

/-- One of the segments of a token has its span. -/
theorem exists_mem_ofToken (previous : Option Token) (flow : Nat) (token : Token)
    (after : List Token) : ∃ segment ∈ ofToken previous flow token after,
      segment.span = .between token.place.position token.stop := by
  refine ⟨⟨.between token.place.position token.stop, categoryOf previous token after, token.raw⟩,
    ?_, rfl⟩
  rw [ofToken]
  split
  · exact List.mem_cons_self ..
  · exact List.mem_singleton_self _

/-- An implicit null sits at the end of its colon. -/
theorem implicitNull_span (hproper : token.IsProper) (hkind : token.kind = .mappingValue) :
    (implicitNull token).span = .empty token.stop := by
  rw [Token.stop, hproper.raw_of_mappingValue hkind]
  rfl

theorem implicitNull_span_of_isAt (hproper : token.IsProper) (hat : token.IsAt before)
    (hkind : token.kind = .mappingValue) :
    (implicitNull token).span = spanOf (before ++ token.raw) [] := by
  rw [implicitNull_span hproper hkind, hat.stop, Text.spanOf_nil]

theorem isIn_of_mem_ofToken (hproper : token.IsProper) (hat : token.IsAt before)
    (h : segment ∈ ofToken previous flow token after) : segment.IsIn before token.raw := by
  rcases mem_ofToken h with ⟨hraw, hspan⟩ | ⟨hkind, rfl⟩
  · refine ⟨⟨[], [], ?_, ?_⟩, ?_, ?_⟩
    · rw [List.nil_append, List.append_nil, hraw]
    · rw [hspan, span_of_isAt hat, List.append_nil, hraw]
    · rw [hraw]
      exact hproper.getLast?_raw
    · intro hempty
      rw [hraw] at hempty
      exact absurd hempty hproper.raw_ne_nil
  · refine ⟨⟨token.raw, [], ?_, implicitNull_span_of_isAt hproper hat hkind⟩, nofun, fun _ => rfl⟩
    rw [List.append_nil]
    exact (List.append_nil token.raw).symm

theorem ofToken_pairwise (hproper : token.IsProper) (hat : token.IsAt before) :
    (ofToken previous flow token after).Pairwise fun u v => u.span.stop ≤ v.span.start := by
  rw [ofToken]
  split
  · next hnull =>
      rw [List.pairwise_pair, implicitNull_span_of_isAt hproper hat hnull.1, span_of_isAt hat]
      exact Position.le_refl _
  · exact List.pairwise_singleton _ _

end ofToken

/-! ## The segments of tokens that tile a text -/

section ofTokens

variable {before text : Text} {tokens : List Token}

theorem isIn_of_mem_ofTokensFrom (h : Tiles before text tokens) {previous : Option Token}
    {flow : Nat} {segment : Segment} (hmem : segment ∈ ofTokensFrom previous flow tokens) :
    segment.IsIn before text := by
  induction h generalizing previous flow with
  | nil _ => cases hmem
  | @cons before gap after token tokens _ hproper hat _ ih =>
      rw [ofTokensFrom, List.mem_append] at hmem
      rcases hmem with hmem | hmem
      · exact (isIn_of_mem_ofToken hproper hat hmem).append_left.append_right after
      · have hafter := ih hmem
        rw [List.append_assoc] at hafter
        exact hafter.append_left

theorem ofTokensFrom_pairwise (h : Tiles before text tokens) (previous : Option Token)
    (flow : Nat) :
    (ofTokensFrom previous flow tokens).Pairwise fun u v => u.span.stop ≤ v.span.start := by
  induction h generalizing previous flow with
  | nil _ => exact List.Pairwise.nil
  | @cons before gap after token tokens _ hproper hat h ih =>
      rw [ofTokensFrom, List.pairwise_append]
      refine ⟨ofToken_pairwise hproper hat, ih _ _, ?_⟩
      intro u hu v hv
      -- The end of the token lies between them.
      exact Position.le_trans (isIn_of_mem_ofToken hproper hat hu).stop_le
        (isIn_of_mem_ofTokensFrom h hv).le_start

theorem exists_mem_ofTokensFrom {token : Token} (h : token ∈ tokens) (previous : Option Token)
    (flow : Nat) : ∃ segment ∈ ofTokensFrom previous flow tokens,
      segment.span = .between token.place.position token.stop := by
  induction tokens generalizing previous flow with
  | nil => cases h
  | cons first tokens ih =>
      rw [ofTokensFrom]
      rcases List.mem_cons.1 h with rfl | h
      · obtain ⟨segment, hmem, hspan⟩ :=
          exists_mem_ofToken previous (flowAfter flow token.kind) token tokens
        exact ⟨segment, List.mem_append_left _ hmem, hspan⟩
      · obtain ⟨segment, hmem, hspan⟩ := ih h (some first) (flowAfter flow first.kind)
        exact ⟨segment, List.mem_append_right _ hmem, hspan⟩

theorem ofTokens_isPartition (h : Tiles [] text tokens) : IsPartition text (ofTokens tokens) where
  isIn _ hmem := isIn_of_mem_ofTokensFrom h hmem
  ordered := ofTokensFrom_pairwise h none 0
  covers front c back hc hblank := by
    rcases h.isBlank_or_mem hc with hb | ⟨token, hmem, start, done, rest, hat, hstart, hraw⟩
    · rw [hb] at hblank
      cases hblank
    · obtain ⟨segment, hsegment, hspan⟩ := exists_mem_ofTokensFrom hmem none 0
      refine ⟨segment, hsegment, ?_⟩
      rw [List.nil_append] at hstart
      rw [hspan, span_of_isAt hat, hraw, hstart]
      exact Text.contains_spanOf start done c rest

/-- Classifying a text divides it into segments. -/
theorem ofText_isPartition (t : Text) : IsPartition t (ofText t) :=
  ofTokens_isPartition (Lexer.tokenize_tiles t)

end ofTokens

end Segment

end YamlListing.Yaml
