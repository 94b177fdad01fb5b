import AskSql.Proofs.Schema.Annotations
import AskSql.Proofs.Schema.ColumnLine

/-!
# Annotations at the end of a column line

The annotations of a column stand in a block at the end of its line, behind the name and the type
(`Outline.BlockLine`). The reader takes them to start at the first bracket of the line that stands
outside quotes, so a type with brackets of its own, as array types have, takes part in them
(`Outline.BlockLine.seen`) : what stands in the type behind its first bracket is read with the
block, and the first annotation of the block is read as the end of the type
(`Outline.BlockLine.exists_seenMarks_eq`).

`Outline.BlockLine.column?_text` : the annotations that are read, for every type. Whatever stands in
the block, they are those of the block if and only if no bracket opens in the type.
-/

namespace AskSql.Outline

open Text

/-! ## Lines with a block -/

/-- What stands in a block of annotations : no quote is left open, and no bracket stands outside of
quotes. -/
structure Block where
  text : Text
  closed : insideAfter false text = false
  bracket_not_mem : '[' ∉ unquotedFrom false text ∧ ']' ∉ unquotedFrom false text

/-- The annotations in a block. -/
def Block.marks (b : Block) : List Text :=
  (splitUnquoted ',' b.text).map trim

/-- A column line with a block of annotations at its end : a name, a type, the block, and blanks
between them. Behind the block are nothing but commas and blanks. -/
structure BlockLine where
  indent : Text
  /-- The name as it stands on the line. -/
  written : Text
  name : Text
  gap : Text
  type : Text
  space : Text
  block : Block
  tail : Text
  isBlankText_indent : isBlankText indent = true
  writes : Writes written name
  isBlankText_gap : isBlankText gap = true
  gap_ne_nil : type ≠ [] → gap ≠ []
  quote_not_mem_type : '"' ∉ type
  isBlankText_space : isBlankText space = true
  tail_subset : ∀ c ∈ tail, isBlank c = true ∨ c = ','

namespace BlockLine

variable (l : BlockLine)

def text : Text :=
  l.indent ++ (l.written ++ (l.gap ++ (l.type ++ (l.space ++
    '[' :: (l.block.text ++ ']' :: l.tail)))))

/-- The line with another block. -/
def withBlock (b : Block) : BlockLine :=
  { l with block := b }

/-- The line without its type. -/
def untyped : BlockLine :=
  { l with type := [], gap_ne_nil := fun h => absurd rfl h, quote_not_mem_type := List.not_mem_nil }

/-- What the line is read as : the column of its name with the annotations of its block, and with
the foreign key that is read if the line has no type. -/
def ReadsBlock : Prop :=
  ∃ c, column? l.text = some c ∧ c.name = l.name ∧
    (c.primaryKey = true ↔ "PK".toList ∈ l.block.marks) ∧
    ∃ c', column? l.untyped.text = some c' ∧ c.foreignKey = c'.foreignKey

/-- What the annotations of the line are read from : everything between the first bracket that
opens and the last one that closes. -/
def seen : Text :=
  match breakAt? '[' l.type with
  | none => l.block.text
  | some (_, inner) => inner ++ (l.space ++ '[' :: l.block.text)

/-- The annotations that are read. -/
def seenMarks : List Text :=
  (splitUnquoted ',' l.seen).map trim

/-! ## What is read -/

theorem not_mem_gap {c : Char} (h : isBlank c = false) : c ∉ l.gap :=
  not_mem_of_isBlankText l.isBlankText_gap h

theorem not_mem_space {c : Char} (h : isBlank c = false) : c ∉ l.space :=
  not_mem_of_isBlankText l.isBlankText_space h

theorem stripColumnLine_text : ∃ tail, ']' ∉ unquotedFrom false tail ∧
    stripColumnLine l.text =
      l.written ++ (l.gap ++ (l.type ++ (l.space ++ '[' :: (l.block.text ++ ']' :: tail)))) := by
  have htail := stripEnd_isPrefix l.tail
  have hnot {d : Char} (hd : isBlank d = false) (hcomma : d ≠ ',') : d ∉ stripEnd l.tail := by
    intro hmem
    rcases l.tail_subset d (htail.subset hmem) with h | h
    · simp [h] at hd
    · exact hcomma h
  refine ⟨stripEnd l.tail, ?_, ?_⟩
  · rw [unquotedFrom_false_of_not_mem (hnot (by decide) (by decide))]
    exact hnot (by decide) (by decide)
  · have hend := stripEnd_append_cons
      (l.written ++ (l.gap ++ (l.type ++ (l.space ++ '[' :: l.block.text))))
      (show isBlank ']' = false by decide) (by decide) l.tail
    rw [text, l.writes.stripColumnLine_append l.isBlankText_indent]
    simpa using hend

/-- The line is divided at the first bracket that opens. Before it, behind the name, there is a
blank or nothing. -/
theorem exists_splitAnnotations_text : ∃ rest,
    splitAnnotations (stripColumnLine l.text) = (l.written ++ rest, l.seen) ∧
      ∀ c ∈ rest.head?, isBlank c = true := by
  obtain ⟨tail, htail, hstrip⟩ := l.stripColumnLine_text
  have hhead {s : Text} (hs : l.gap = [] → ∀ c ∈ s.head?, isBlank c = true) :
      ∀ c ∈ (l.gap ++ s).head?, isBlank c = true := by
    cases hgap : l.gap with
    | nil => exact hs hgap
    | cons d gap =>
      have hd : isBlank d = true :=
        List.all_eq_true.mp l.isBlankText_gap d (hgap ▸ List.mem_cons_self)
      simpa using hd
  rw [hstrip, seen]
  cases hbreak : breakAt? '[' l.type with
  | none =>
    have htype : '[' ∉ l.type := breakAt?_eq_none_iff.mp hbreak
    refine ⟨l.gap ++ (l.type ++ l.space), ?_, hhead fun hnil => ?_⟩
    · obtain ⟨hbracket, hclosed⟩ := l.writes.definition (l.gap ++ (l.type ++ l.space))
        (by simp [l.not_mem_gap, l.not_mem_space, isBlank, l.quote_not_mem_type])
        (by simp [l.not_mem_gap, l.not_mem_space, isBlank, htype])
      simpa using splitAnnotations_append hbracket hclosed l.block.closed htail
    · have hempty : l.type = [] := Classical.not_not.mp fun h => l.gap_ne_nil h hnil
      intro c hc
      rw [hempty, List.nil_append] at hc
      exact List.all_eq_true.mp l.isBlankText_space c (List.mem_of_head? hc)
  | some parts =>
    obtain ⟨before, inner⟩ := parts
    obtain ⟨htype, hbefore⟩ := breakAt?_eq_some hbreak
    have hquote : '"' ∉ before ∧ '"' ∉ inner := by simpa [htype] using l.quote_not_mem_type
    refine ⟨l.gap ++ before, ?_, hhead fun hnil => absurd hnil (l.gap_ne_nil (by simp [htype]))⟩
    obtain ⟨hbracket, hclosed⟩ := l.writes.definition (l.gap ++ before)
      (by simp [l.not_mem_gap, isBlank, hquote.1]) (by simp [l.not_mem_gap, isBlank, hbefore])
    have hinner : insideAfter false (inner ++ (l.space ++ '[' :: l.block.text)) = false := by
      rw [insideAfter_append, insideAfter_append, insideAfter_of_not_mem hquote.2,
        insideAfter_of_not_mem (l.not_mem_space (by decide)), insideAfter_cons]
      exact l.block.closed
    simpa [htype] using splitAnnotations_append hbracket hclosed hinner htail

theorem column?_text_eq :
    column? l.text =
      some ⟨l.name, l.seenMarks.contains "PK".toList, lastKey? l.seenMarks⟩ := by
  obtain ⟨rest, hsplit, hrest⟩ := l.exists_splitAnnotations_text
  rw [column?_of_splitAnnotations l.writes hsplit hrest, foldl_annotate, Bool.false_or]
  rfl

/-! ## Types with brackets -/

theorem seenMarks_of_not_mem (h : '[' ∉ l.type) : l.seenMarks = l.block.marks := by
  rw [seenMarks, seen, breakAt?_eq_none_iff.mpr h, Block.marks]

/-- A type with a bracket takes the first annotation of the block, whatever the block is. The ones
behind it are read. -/
theorem exists_seenMarks_eq (h : '[' ∈ l.type) :
    ∃ inner, ∀ b, ∃ joined, '[' ∈ joined ∧
      (l.withBlock b).seenMarks = inner ++ joined :: b.marks.tail := by
  obtain ⟨⟨before, inner⟩, hbreak⟩ : ∃ parts, breakAt? '[' l.type = some parts :=
    Option.ne_none_iff_exists'.mp fun hnone => breakAt?_eq_none_iff.mp hnone h
  obtain ⟨htype, -⟩ := breakAt?_eq_some hbreak
  have hinner : insideAfter false inner = false :=
    insideAfter_of_not_mem fun hmem => l.quote_not_mem_type (by simp [htype, hmem])
  have hquote : '"' ∉ l.space ++ ['['] := by simp [l.not_mem_space, isBlank]
  have hcomma : ',' ∉ l.space ++ ['['] := by simp [l.not_mem_space, isBlank]
  obtain ⟨pieces, last, hsplit⟩ := exists_splitUnquoted_append_append hinner hquote hcomma
  refine ⟨pieces.map trim, fun b => ?_⟩
  obtain ⟨first, hsplit⟩ := hsplit b.text
  refine ⟨trim (last ++ (l.space ++ ['['] ++ first)), mem_trim (by simp) (by decide), ?_⟩
  have hseen : (l.withBlock b).seen = inner ++ (l.space ++ ['['] ++ b.text) := by
    show (match breakAt? '[' l.type with | none => _ | some (_, inner) => _) = _
    rw [hbreak, List.append_assoc]
    rfl
  rw [seenMarks, hseen, hsplit, Block.marks]
  simp

/-- The block is read if its annotations and those that are read agree on the primary key and on the
last foreign key. -/
theorem readsBlock_iff :
    l.ReadsBlock ↔ ("PK".toList ∈ l.seenMarks ↔ "PK".toList ∈ l.block.marks) ∧
      lastKey? l.seenMarks = lastKey? l.block.marks := by
  have huntyped : l.untyped.seenMarks = l.block.marks :=
    l.untyped.seenMarks_of_not_mem List.not_mem_nil
  rw [ReadsBlock, l.column?_text_eq, l.untyped.column?_text_eq, huntyped]
  simp only [Option.some.injEq, exists_eq_left', List.contains_iff_mem, true_and]

/-- A block that marks a primary key is told apart from an empty one only if it is read. -/
theorem not_mem_type_of_forall_readsBlock (h : ∀ b, (l.withBlock b).ReadsBlock) : '[' ∉ l.type := by
  intro hmem
  obtain ⟨inner, hseen⟩ := l.exists_seenMarks_eq hmem
  have hread (b : Block) (hb : b.marks.tail = []) :
      "PK".toList ∈ inner ↔ "PK".toList ∈ b.marks := by
    obtain ⟨joined, hjoined, hmarks⟩ := hseen b
    have hne : "PK".toList ≠ joined := by
      rintro rfl
      exact absurd hjoined (by decide)
    have hprimary := ((l.withBlock b).readsBlock_iff.mp (h b)).1
    rw [hmarks, hb, List.mem_append, List.mem_singleton, or_iff_left hne] at hprimary
    exact hprimary
  have hmarked := hread ⟨"PK".toList, by decide, by decide⟩ (by decide)
  have hempty := hread ⟨[], by decide, by decide⟩ (by decide)
  exact absurd (hempty.mp (hmarked.mpr (by decide))) (by decide)

/-- What is read of a line with a block at its end is its name and the annotations between its first
opening bracket and its last closing one. They say what those of the block say if they agree with
them on the primary key and on the last foreign key, and they do so whatever the block is if and
only if the type has no bracket that opens. -/
theorem column?_text :
    column? l.text =
        some ⟨l.name, l.seenMarks.contains "PK".toList, lastKey? l.seenMarks⟩ ∧
      (l.ReadsBlock ↔ ("PK".toList ∈ l.seenMarks ↔ "PK".toList ∈ l.block.marks) ∧
        lastKey? l.seenMarks = lastKey? l.block.marks) ∧
      ((∀ b, (l.withBlock b).ReadsBlock) ↔ '[' ∉ l.type) := by
  refine ⟨l.column?_text_eq, l.readsBlock_iff, l.not_mem_type_of_forall_readsBlock, fun h b => ?_⟩
  have hmarks : (l.withBlock b).seenMarks = b.marks := (l.withBlock b).seenMarks_of_not_mem h
  rw [readsBlock_iff, hmarks]
  exact ⟨Iff.rfl, rfl⟩

/-- The line of a column of texts that is marked as the primary key. -/
def textArray : BlockLine where
  indent := "  ".toList
  written := quoteIdentifier "tags".toList
  name := "tags".toList
  gap := " ".toList
  type := "TEXT[]".toList
  space := " ".toList
  block := ⟨"PK".toList, by decide, by decide⟩
  tail := []
  isBlankText_indent := by decide
  writes := writes_quoteIdentifier _
  isBlankText_gap := by decide
  gap_ne_nil := fun _ => by decide
  quote_not_mem_type := by decide
  isBlankText_space := by decide
  tail_subset := by simp

/-- The brackets of an array type hide the first annotation behind it. -/
theorem column?_text_textArray :
    column? "  tags TEXT[] [PK]".toList = some ⟨"tags".toList, false, none⟩ ∧
      ¬ textArray.ReadsBlock := by
  obtain ⟨hcolumn, hreads, -⟩ := textArray.column?_text
  have htext : textArray.text = "  tags TEXT[] [PK]".toList := by decide
  have hseen : textArray.seenMarks = ["] [PK".toList] := by decide
  rw [htext, hseen] at hcolumn
  refine ⟨hcolumn.trans (by decide), fun h => ?_⟩
  have hprimary := (hreads.mp h).1
  rw [hseen] at hprimary
  exact absurd (hprimary.mpr (by decide)) (by decide)

/-- Only the annotations behind the first one are read. -/
example :
    column? "  owner INT[] [FK->users.id, PK],".toList = some ⟨"owner".toList, true, none⟩ := by
  decide

end BlockLine
end AskSql.Outline
