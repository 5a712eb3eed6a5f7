import YamlListing.Proofs.Yaml.Run

set_option autoImplicit false

/-! # Where block scalars end

The lines of a block scalar are blank or content (`State.ReadsLines`). The first line with content has
to be deeper than the line of the header, and the ones after it at least as deep as it. So the
indentation of that first line says where the scalar ends (`State.endsLeftOf_iff`).

If the header is the value of a key, no line that begins at the column of the key or further left
should be part of the scalar. Content is compared with the indentation of the header's line and not
with the column of the key, and so a key behind entries of sequences lets lines in that do not
belong there. `HeaderLine.endsLeftOf_keyColumn_iff` says when. -/

namespace YamlListing.Yaml.Lexer

open Text (byteLength splitLines terminated)
open Unicode (isBlank)

/-! ## One line -/

section line

variable {s : State} {line : Line} {b : BlockScalar} {n : Nat}

/-- A line that no block scalar takes has no content of one. -/
theorem lexFresh_ne_blockContent (s : State) (line : Line) :
    ∀ step ∈ (lexFresh s line).1, step.token.kind ≠ .blockContent := by
  have hfree {indent : Nat} {s t : State} {steps : List Step} (h : Run indent s steps t) :
      ∀ step ∈ steps, step.token.kind ≠ .blockContent := by
    intro step hstep hkind
    have hfree := h.isFree step hstep
    rw [hkind] at hfree
    cases hfree
  rcases lexFresh_cases s line with hrun | ⟨place, kind, raw, steps, hstart, hsteps, hrun⟩
  · exact hfree hrun
  · have hne : kind ≠ .blockContent := by
      rcases (lineStart?_eq_some hstart).2.2 with rfl | rfl | rfl <;> decide
    rw [hsteps]
    exact List.forall_mem_cons.2 ⟨hne, hfree hrun⟩

/-- A line with tokens that are no content was lexed as if no scalar were being read. -/
theorem lexLine_of_ne_blockContent (hquote : s.quote = none) {step : Step}
    (hstep : step ∈ (lexLine s line).1) (hkind : step.token.kind ≠ .blockContent) :
    lexLine s line = lexFresh { s with block := none } line := by
  refine lexLine_eq_lexFresh hquote fun b hblock => ?_
  cases hblank : line.isBlank with
  | true =>
    rw [lexLine_of_isBlank hquote hblock hblank] at hstep
    cases hstep
  | false =>
    refine ⟨rfl, fun htakes => ?_⟩
    obtain ⟨⟨content, hcontent, hkind'⟩, -⟩ := lexLine_content hquote hblock hblank htakes
    rw [hcontent, List.mem_singleton] at hstep
    rw [hstep] at hkind
    exact hkind hkind'

/-- Whether a line is part of the block scalar that is being read: it is blank or content. -/
def State.ReadsInScalar (s : State) (line : Line) : Prop :=
  line.isBlank = true ∨ ∃ step, (lexLine s line).1 = [step] ∧ step.token.kind = .blockContent

theorem readsInScalar_iff (hquote : s.quote = none) (hblock : s.block = some b)
    (hblank : line.isBlank = false) : s.ReadsInScalar line ↔ b.Takes line.indent := by
  constructor
  · rintro (h | ⟨step, hstep, hkind⟩)
    · rw [hblank] at h
      cases h
    · refine Classical.byContradiction fun htakes => ?_
      have hmem : step ∈ (lexFresh { s with block := none } line).1 := by
        rw [← lexLine_end hquote hblock hblank htakes, hstep]
        exact List.mem_singleton_self step
      exact lexFresh_ne_blockContent _ _ step hmem hkind
  · intro htakes
    exact Or.inr (lexLine_content hquote hblock hblank htakes).1

end line

/-! ## Lines of a scalar -/

/-- A line that comes after others, the first of which has the given number and distance from the
    start. -/
def lineAfter (number offset : Nat) (front : List Text) (text : Text) : Line :=
  ⟨number + front.length, offset + byteLength (terminated front), text⟩

/-- Whether lines, the first of which has the given number and distance from the start, are all part
    of the block scalar that is being read. -/
def State.ReadsLines (s : State) (number offset : Nat) : List Text → Prop
  | [] => True
  | text :: rest =>
    let line : Line := ⟨number, offset, text⟩
    s.ReadsInScalar line ∧
      (lexLine s line).2.ReadsLines (number + 1) (offset + byteLength text + 1) rest

/-- The indentation of the first line that is not blank. -/
def firstIndent? : List Text → Option Nat
  | [] => none
  | text :: rest =>
    let line : Line := ⟨0, 0, text⟩
    if line.isBlank then firstIndent? rest else some line.indent

/-- Whether the block scalar that is being read ends at the first line, among the given ones, that
    begins at a column or further left: nothing of the line is content, and it is lexed as if no
    scalar were being read. -/
def State.EndsLeftOf (s : State) (number offset column : Nat) (lines : List Text) : Prop :=
  ∀ between text later, lines = between ++ text :: later → s.ReadsLines number offset between →
    let s' := s.after number offset between
    let line := lineAfter number offset between text
    line.isBlank = false → line.indent < column →
      (∀ step ∈ (lexLine s' line).1, step.token.kind ≠ .blockContent) ∧
        lexLine s' line = lexFresh { s' with block := none } line

section lines

variable {s : State} {b : BlockScalar} {number offset column i : Nat} {lines : List Text}

theorem firstIndent?_of_isBlank (line : Line) (h : line.isBlank = true) (rest : List Text) :
    firstIndent? (line.text :: rest) = firstIndent? rest :=
  if_pos h

theorem firstIndent?_of_content (line : Line) (h : line.isBlank = false) (rest : List Text) :
    firstIndent? (line.text :: rest) = some line.indent :=
  if_neg (ne_true_of_eq_false h)

theorem firstIndent?_append (front back : List Text) :
    firstIndent? (front ++ back) = (firstIndent? front).or (firstIndent? back) := by
  induction front with
  | nil => rfl
  | cons text front ih =>
    rw [List.cons_append, firstIndent?, firstIndent?]
    split
    · exact ih
    · rfl

/-- Blank lines come before the first line with content, and they change nothing. -/
theorem exists_firstContent (hquote : s.quote = none) (hblock : s.block = some b)
    (h : firstIndent? lines = some i) (number offset : Nat) : ∃ blanks text later,
      lines = blanks ++ text :: later ∧
      s.ReadsLines number offset blanks ∧ s.after number offset blanks = s ∧
      Line.isBlank ⟨0, 0, text⟩ = false ∧ Line.indent ⟨0, 0, text⟩ = i := by
  induction lines generalizing number offset with
  | nil => cases h
  | cons text lines ih =>
    cases hblank : Line.isBlank ⟨0, 0, text⟩ with
    | false =>
      rw [firstIndent?_of_content ⟨0, 0, text⟩ hblank] at h
      exact ⟨[], text, lines, rfl, trivial, rfl, hblank, Option.some.inj h⟩
    | true =>
      rw [firstIndent?_of_isBlank ⟨0, 0, text⟩ hblank] at h
      have hline : lexLine s ⟨number, offset, text⟩ = ([], s) :=
        lexLine_of_isBlank hquote hblock hblank
      obtain ⟨blanks, first, later, rfl, hreads, hafter, hfirst⟩ := ih h _ _
      refine ⟨text :: blanks, first, later, rfl, ⟨Or.inl hblank, ?_⟩, ?_, hfirst⟩
      · rw [hline]
        exact hreads
      · rw [State.after, hline]
        exact hafter

/-- Lines of a scalar keep it open, and the first with content fixes its indentation. -/
theorem after_of_readsLines (hquote : s.quote = none) (hblock : s.block = some b)
    (h : s.ReadsLines number offset lines) : (s.after number offset lines).quote = none ∧
      (s.after number offset lines).block =
        some ⟨b.parentIndent, b.contentIndent.or (firstIndent? lines)⟩ ∧
      (b.contentIndent = none → ∀ i ∈ firstIndent? lines, b.parentIndent < i) := by
  induction lines generalizing s b number offset with
  | nil =>
    refine ⟨hquote, ?_, nofun⟩
    rw [firstIndent?, Option.or_none]
    exact hblock
  | cons text lines ih =>
    obtain ⟨hline, hrest⟩ := h
    rw [State.after]
    cases hblank : Line.isBlank ⟨number, offset, text⟩ with
    | true =>
      rw [lexLine_of_isBlank hquote hblock hblank] at hrest ⊢
      rw [firstIndent?_of_isBlank _ hblank]
      exact ih hquote hblock hrest
    | false =>
      have htakes := (readsInScalar_iff hquote hblock hblank).1 hline
      obtain ⟨-, hquote', hblock'⟩ := lexLine_content hquote hblock hblank htakes
      obtain ⟨hquote'', hblock'', -⟩ := ih hquote' hblock' hrest
      rw [firstIndent?_of_content _ hblank]
      refine ⟨hquote'', ?_, fun hnone i hi => ?_⟩
      · rw [hblock'', Option.or_assoc, Option.some_or]
      · obtain rfl := Option.some.inj hi
        exact (takes_iff_of_none hnone _).1 htakes

/-- A scalar whose first line of content is deeper than the header's line, but not as deep as a
column, goes on to the left of that column; any other ends there. -/
theorem State.endsLeftOf_iff (hquote : s.quote = none) (hblock : s.block = some b)
    (hnone : b.contentIndent = none) : s.EndsLeftOf number offset column lines ↔
      ∀ i ∈ firstIndent? lines, ¬ (b.parentIndent < i ∧ i < column) := by
  constructor
  · rintro h i hi ⟨hparent, hcolumn⟩
    obtain ⟨blanks, text, later, rfl, hreads, hafter, hblank, rfl⟩ :=
      exists_firstContent hquote hblock hi number offset
    obtain ⟨hline, -⟩ := h blanks text later rfl hreads hblank hcolumn
    rw [hafter] at hline
    have hcontent : (lineAfter number offset blanks text).isBlank = false := hblank
    obtain ⟨⟨step, hstep, hkind⟩, -⟩ := lexLine_content hquote hblock hcontent
      ((takes_iff_of_none hnone _).2 hparent)
    refine hline step ?_ hkind
    rw [hstep]
    exact List.mem_singleton_self step
  · intro h between text later hlines hreads s' line hblank hcolumn
    obtain ⟨hquote', hblock', hdeep⟩ := after_of_readsLines hquote hblock hreads
    rw [hnone, Option.none_or] at hblock'
    have hend : lexLine s' line = lexFresh { s' with block := none } line := by
      refine lexLine_end hquote' hblock' hblank ?_
      cases hfirst : firstIndent? between with
      | none =>
        have hi : firstIndent? lines = some line.indent := by
          rw [hlines, firstIndent?_append, hfirst, Option.none_or]
          exact firstIndent?_of_content line hblank later
        rw [takes_iff_of_none rfl]
        exact fun hparent => h _ hi ⟨hparent, hcolumn⟩
      | some i =>
        have hi : firstIndent? lines = some i := by
          rw [hlines, firstIndent?_append, hfirst, Option.some_or]
        rw [takes_iff_of_some rfl]
        exact fun hle => h i hi ⟨hdeep hnone i hfirst, Nat.lt_of_le_of_lt hle hcolumn⟩
    refine ⟨?_, hend⟩
    rw [hend]
    exact lexFresh_ne_blockContent _ _

end lines

/-! ## The line of a header -/

/-- Whether a token begins a block scalar. -/
def isHeader : TokenKind → Bool
  | .blockLiteral | .blockFolded => true
  | _ => false

section header

variable {s : State} {line : Line} {steps front rest : List Step} {header first : Step}
  {indent : Nat}

theorem blockAfter_of_isHeader {kind : TokenKind} (h : isHeader kind = true)
    (block : Option BlockScalar) (raw : Text) :
    blockAfter indent block kind raw = some ⟨indent, State.headerIndent? indent raw⟩ := by
  cases kind with
  | blockLiteral | blockFolded => rfl
  | _ => cases h

theorem blockAfter_of_isFree {kind : TokenKind} (hfree : kind.isFree = true)
    (h : isHeader kind = false) (block : Option BlockScalar) (raw : Text) :
    blockAfter indent block kind raw = block := by
  cases kind with
  | blockLiteral | blockFolded => cases h
  | documentHeader | documentEnd => cases hfree
  | _ => rfl

theorem foldl_blockAfter (hfree : ∀ step ∈ rest, step.token.kind.isFree = true)
    (h : ∀ step ∈ rest, isHeader step.token.kind = false) (block : Option BlockScalar) :
    rest.foldl (fun block step => blockAfter indent block step.token.kind step.token.raw) block =
      block := by
  induction rest with
  | nil => rfl
  | cons step rest ih =>
    obtain ⟨hstepFree, hrestFree⟩ := List.forall_mem_cons.1 hfree
    obtain ⟨hstep, hrest⟩ := List.forall_mem_cons.1 h
    rw [List.foldl_cons, blockAfter_of_isFree hstepFree hstep]
    exact ih hrestFree hrest

/-- After a line it is the scalar of its last header that is being read. -/
theorem lexFresh_block (hsteps : (lexFresh s line).1 = front ++ header :: rest)
    (hheader : isHeader header.token.kind = true)
    (hrest : ∀ step ∈ rest, isHeader step.token.kind = false) : (lexFresh s line).2.block =
      some ⟨line.indent, State.headerIndent? line.indent header.token.raw⟩ := by
  have hrun {s t : State} {front : List Step} (h : Run line.indent s (front ++ header :: rest) t) :
      t.block = some ⟨line.indent, State.headerIndent? line.indent header.token.raw⟩ := by
    have hfree : ∀ step ∈ rest, step.token.kind.isFree = true := fun step hstep =>
      h.isFree step (List.mem_append_right front (List.mem_cons_of_mem header hstep))
    rw [h.block, List.foldl_append, List.foldl_cons, blockAfter_of_isHeader hheader,
      foldl_blockAfter hfree hrest]
  rcases lexFresh_cases s line with hlexed | ⟨place, kind, raw, steps, hstart, hfirst, hlexed⟩
  · rw [hsteps] at hlexed
    exact hrun hlexed
  · rw [hsteps] at hfirst
    cases front with
    | nil =>
      -- A directive or marker is no header.
      have hne : isHeader kind = false := by
        rcases (lineStart?_eq_some hstart).2.2 with rfl | rfl | rfl <;> rfl
      rw [(List.cons.inj hfirst).1] at hheader
      exact absurd (hne.symm.trans hheader) Bool.false_ne_true
    | cons head front =>
      rw [← (List.cons.inj hfirst).2] at hlexed
      exact hrun hlexed

/-! ## Where a line begins -/

theorem round_of_isBlank {c : Char} (h : isBlank c = true) (flow : Nat) (afterKey : Bool)
    (before : Option Char) (text : Text) : round flow afterKey before c text = .blank :=
  if_pos h

/-- The first token of what is left of a line stands behind the blanks in front. -/
theorem lexRest_column {ctx : LineContext} {cur : Cursor}
    (h : (lexRest ctx s cur).1 = first :: steps) :
    first.token.place.column = cur.column + (cur.rest.takeWhile isBlank).length := by
  induction s, cur using lexRest.induct ctx with
  | case1 s cur hrest =>
    rw [lexRest_nil hrest] at h
    cases h
  | case2 s cur c text hrest hround ih =>
    rw [lexRest_cons hrest, hround] at h
    have hskip : (cur.skip 1).rest = text := by rw [Cursor.skip, hrest]; rfl
    have hcolumn : (cur.skip 1).column = cur.column + 1 := by rw [Cursor.skip, hrest]; rfl
    rw [ih h, hskip, hcolumn, hrest, List.takeWhile_cons_of_pos (Round.blank_isBlank hround),
      List.length_cons]
    omega
  | case3 s cur c text hrest kind raw value hround steps' s' hresult ih =>
    have hc : ¬ isBlank c = true := fun hc => by
      rw [round_of_isBlank hc] at hround
      cases hround
    rw [lexRest_cons hrest, hround] at h
    obtain ⟨rfl, -⟩ := List.cons.inj h
    rw [hrest, List.takeWhile_cons_of_neg hc]
    rfl
  | case4 s cur c text hrest raw value hround =>
    have hc : ¬ isBlank c = true := fun hc => by
      rw [round_of_isBlank hc] at hround
      cases hround
    rw [lexRest_cons hrest, hround] at h
    obtain ⟨rfl, -⟩ := List.cons.inj h
    rw [hrest, List.takeWhile_cons_of_neg hc]
    rfl
  | case5 s cur c text hrest quote hround =>
    rw [lexRest_cons hrest, hround] at h
    cases h

theorem takeWhile_isBlank_of_lineStart? {t : Text} {found : TokenKind × Text}
    (h : lineStart? t = some found) : t.takeWhile isBlank = [] := by
  unfold lineStart? at h
  split at h
  · rfl
  · rfl
  · rfl
  · cases h

theorem lexFresh_column (h : (lexFresh s line).1 = first :: steps) :
    first.token.place.column = (line.text.takeWhile isBlank).length + 1 := by
  cases hstart : lineStart? line.text with
  | none =>
    rw [lexFresh_of_none hstart] at h
    rw [lexRest_column h, Nat.add_comm]
    rfl
  | some found =>
    rw [lexFresh_of_some hstart] at h
    obtain ⟨rfl, -⟩ := List.cons.inj h
    rw [takeWhile_isBlank_of_lineStart? hstart]
    rfl

/-- If a line begins with spaces and no other blanks, these are its indentation. -/
theorem indent_eq (h : ∀ c ∈ line.text.takeWhile isBlank, c = ' ') :
    line.indent = (line.text.takeWhile isBlank).length := by
  rw [Line.indent]
  generalize line.text = t at h
  induction t with
  | nil => rfl
  | cons c t ih =>
    cases hc : isBlank c with
    | true =>
      rw [List.takeWhile_cons_of_pos hc] at h ⊢
      obtain ⟨rfl, hrest⟩ := List.forall_mem_cons.1 h
      rw [List.takeWhile_cons_of_pos (by rfl), List.length_cons, List.length_cons, ih hrest]
    | false =>
      have hspace : ¬ (c == ' ') = true := by
        rw [beq_iff_eq]
        rintro rfl
        cases hc
      rw [List.takeWhile_cons_of_neg (p := (· == ' ')) hspace,
        List.takeWhile_cons_of_neg (ne_true_of_eq_false hc)]

end header

/-! ## Keys with block scalars -/

/-- What the line is lexed to that comes after the first lines of a text. -/
def lexAfter (front : List Text) (text : Text) : List Step × State :=
  lexLine (State.start.after 1 0 front) (lineAfter 1 0 front text)

/-- A line of a text with a key, which may stand behind entries of sequences, and as its value the
    header of a block scalar that names no indentation. No quote is open before the line or after
    it. -/
structure HeaderLine (t : Text) where
  front : List Text
  text : Text
  back : List Text
  entries : List Step
  key : List Step
  colon : Step
  properties : List Step
  header : Step
  rest : List Step
  splitLines_eq : splitLines t = front ++ text :: back
  steps_eq : (lexAfter front text).1 = entries ++ key ++ colon :: properties ++ header :: rest
  isEntry : ∀ step ∈ entries, step.token.kind = .sequenceEntry
  key_ne_nil : key ≠ []
  key_ne_entry : ∀ step ∈ key, step.token.kind ≠ .sequenceEntry
  isColon : colon.token.kind = .mappingValue
  isProperty : ∀ step ∈ properties, step.token.kind = .anchor ∨ step.token.kind = .tag
  header_isHeader : isHeader header.token.kind = true
  raw_isDigit : ∀ c ∈ header.token.raw, c.isDigit = false
  rest_isHeader : ∀ step ∈ rest, isHeader step.token.kind = false
  before_quote : (State.start.after 1 0 front).quote = none
  after_quote : (lexAfter front text).2.quote = none

namespace HeaderLine

variable {t : Text}

/-- The line of the header. -/
def line (x : HeaderLine t) : Line := lineAfter 1 0 x.front x.text

/-- The column at which the key begins. -/
def keyColumn (x : HeaderLine t) : Nat := (x.key.head x.key_ne_nil).token.place.column

/-- Whether the scalar ends at the first later line that begins at a column or further left. -/
def EndsLeftOf (x : HeaderLine t) (column : Nat) : Prop :=
  (lexAfter x.front x.text).2.EndsLeftOf (x.line.number + 1)
    (x.line.offset + byteLength x.text + 1) column x.back

theorem lexAfter_eq (x : HeaderLine t) : lexAfter x.front x.text =
    lexFresh { State.start.after 1 0 x.front with block := none } x.line := by
  have hmem : x.header ∈ (lexAfter x.front x.text).1 := by
    rw [x.steps_eq]
    exact List.mem_append_right _ List.mem_cons_self
  refine lexLine_of_ne_blockContent x.before_quote hmem fun hkind => ?_
  have hheader := x.header_isHeader
  rw [hkind] at hheader
  exact Bool.false_ne_true hheader

/-- The indentation of the header's line is all that the lexer keeps of it. -/
theorem block_eq (x : HeaderLine t) :
    (lexAfter x.front x.text).2.block = some ⟨x.line.indent, none⟩ := by
  have hsteps := x.steps_eq
  rw [x.lexAfter_eq] at hsteps ⊢
  rw [lexFresh_block hsteps x.header_isHeader x.rest_isHeader, State.headerIndent?,
    List.find?_eq_none.2 fun c hc => ne_true_of_eq_false (x.raw_isDigit c hc)]
  rfl

/-- A key that no entry comes before is the first thing on its line. -/
theorem keyColumn_eq (x : HeaderLine t) (h : x.entries = []) :
    x.keyColumn = (x.text.takeWhile isBlank).length + 1 := by
  have hsteps := x.steps_eq
  rw [x.lexAfter_eq, h, List.nil_append, ← List.cons_head_tail x.key_ne_nil] at hsteps
  exact lexFresh_column hsteps

/-- The scalar ends at the first line that begins at the column of its key or further left, unless
its first line with content does and is deeper than the line of the header. There is no such column
if the key is the first thing on its line and nothing but spaces comes before it. -/
theorem endsLeftOf_keyColumn_iff (x : HeaderLine t) :
    (x.EndsLeftOf x.keyColumn ↔
      ∀ i ∈ firstIndent? x.back, ¬ (x.line.indent < i ∧ i < x.keyColumn)) ∧
    (x.entries = [] → (∀ c ∈ x.text.takeWhile isBlank, c = ' ') → x.EndsLeftOf x.keyColumn) := by
  have hends : x.EndsLeftOf x.keyColumn ↔
      ∀ i ∈ firstIndent? x.back, ¬ (x.line.indent < i ∧ i < x.keyColumn) :=
    State.endsLeftOf_iff x.after_quote x.block_eq rfl
  refine ⟨hends, fun hentries hspaces => hends.2 fun i _ hi => ?_⟩
  have hindent : x.line.indent = (x.text.takeWhile isBlank).length := indent_eq hspaces
  rw [x.keyColumn_eq hentries, hindent] at hi
  omega

/-- A key in a sequence, on the first line of a text. -/
def inSequence (t : Text) (back : List Text)
    (h : splitLines t = ['-', ' ', 'a', ':', ' ', '|'] :: back) : HeaderLine t where
  front := []
  text := ['-', ' ', 'a', ':', ' ', '|']
  back := back
  entries := [⟨⟨.sequenceEntry, ['-'], ['-'], .blockStructure, ⟨1, 1, 0, 0, 0⟩⟩, 0⟩]
  key := [⟨⟨.scalar .plain, ['a'], ['a'], .none, ⟨1, 3, 2, 0, 0⟩⟩, 0⟩]
  colon := ⟨⟨.mappingValue, [':'], [':'], .blockStructure, ⟨1, 4, 3, 0, 0⟩⟩, 0⟩
  properties := []
  header := ⟨⟨.blockLiteral, ['|'], ['|'], .blockScalar, ⟨1, 6, 5, 0, 0⟩⟩, 0⟩
  rest := []
  splitLines_eq := h
  steps_eq := by decide +kernel
  isEntry := List.forall_mem_singleton.2 rfl
  key_ne_nil := List.cons_ne_nil _ _
  key_ne_entry := List.forall_mem_singleton.2 nofun
  isColon := rfl
  isProperty := List.forall_mem_nil _
  header_isHeader := rfl
  raw_isDigit := List.forall_mem_singleton.2 rfl
  rest_isHeader := List.forall_mem_nil _
  before_quote := rfl
  after_quote := by decide +kernel

/-- With content that is deeper than the key, the scalar ends where the next key begins. -/
theorem endsLeftOf_inSequence :
    let back : List Text := [[' ', ' ', ' ', 'x'], [' ', ' ', 'b', ':']]
    let x := inSequence (Text.joinLines (['-', ' ', 'a', ':', ' ', '|'] :: back)) back
      (by decide +kernel)
    x.keyColumn = 3 ∧ x.EndsLeftOf x.keyColumn := by
  intro back x
  have hfirst : firstIndent? x.back = some 3 := by decide
  have hcolumn : x.keyColumn = 3 := rfl
  refine ⟨hcolumn, x.endsLeftOf_keyColumn_iff.1.2 ?_⟩
  rintro i hi ⟨-, hlt⟩
  obtain rfl := Option.some.inj (hfirst.symm.trans hi)
  rw [hcolumn] at hlt
  exact Nat.lt_irrefl 3 hlt

/-- Without content the next key is taken for it. -/
theorem not_endsLeftOf_keyColumn :
    ¬ ∀ (t : Text) (x : HeaderLine t), x.EndsLeftOf x.keyColumn := by
  intro h
  let back : List Text := [[' ', ' ', 'b', ':', ' ', '1']]
  let t := Text.joinLines (['-', ' ', 'a', ':', ' ', '|'] :: back)
  let x := inSequence t back (by decide +kernel)
  obtain ⟨hline, -⟩ := h t x [] [' ', ' ', 'b', ':', ' ', '1'] [] rfl trivial (by decide)
    (by decide)
  refine hline ⟨⟨.blockContent, ['b', ':', ' ', '1'], ['b', ':', ' ', '1'], .none,
    ⟨2, 3, 9, 2, 0⟩⟩, 0⟩ ?_ rfl
  decide +kernel

end HeaderLine

end YamlListing.Yaml.Lexer
