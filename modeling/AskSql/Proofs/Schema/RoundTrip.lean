import AskSql.Proofs.Schema.ColumnLine
import Mathlib.Data.List.TakeDrop

/-!
# Reading back annotated schema text

The text of a schema whose names and types keep to their lines (`Schema.Legible`) reads back as
the outlines of its tables, in order, and whatever is written behind it reads as if it stood
alone (`Schema.tables_annotated_append`).

A header is seen where a line starts only. The lines of columns start with a blank and the last
line of a table with `)`, so no header is seen in them (`Outline.headers_annotatedLines`), and
the body of a table is closed where its last line starts, since each line of a column is
balanced and leaves no quote open.
-/

namespace AskSql

open Text

/-- What can be read back of a table. -/
def Table.outline (t : Table) : Outline.Table :=
  ⟨t.name, t.columns.map (·.outline)⟩

/-- A table that can be read back. -/
structure Table.Legible (t : Table) : Prop where
  name : '\n' ∉ t.name
  columns : ∀ c ∈ t.columns, c.Legible

/-- A schema that can be read back. -/
def Schema.Legible (s : Schema) : Prop :=
  ∀ t ∈ s.tables, t.Legible

/-! ## The characters of a column line -/

theorem Text.mem_of_mem_doubleQuotes {c : Char} {s : Text} (h : c ∈ doubleQuotes s) : c ∈ s := by
  induction s with
  | nil => simp [doubleQuotes] at h
  | cons d s ih =>
    by_cases hd : d = '"'
    · subst hd
      simp only [doubleQuotes, if_true, List.mem_cons] at h ⊢
      exact h.elim Or.inl fun h => h.imp_right ih
    · simp only [doubleQuotes, hd, if_false, List.mem_cons] at h ⊢
      exact h.imp_right ih

/-- A name without a line break is written without one. -/
theorem Text.break_not_mem_quoteIdentifier {s : Text} (hs : '\n' ∉ s) :
    '\n' ∉ quoteIdentifier s := by
  intro h
  unfold quoteIdentifier at h
  split at h
  · exact hs h
  · simp only [List.cons_append, List.mem_cons, List.mem_append, List.not_mem_nil, or_false] at h
    rcases h with h | h | h
    · exact absurd h (by decide)
    · exact hs (mem_of_mem_doubleQuotes h)
    · exact absurd h (by decide)

namespace Column

/-- A column of whose names and type none has a line break. -/
structure KeepsToLine (c : Column) : Prop where
  name : '\n' ∉ c.name
  typeName : '\n' ∉ c.typeName
  targets : ∀ t ∈ c.targets, '\n' ∉ t.table ∧ '\n' ∉ t.column

theorem Legible.keepsToLine {c : Column} (h : c.Legible) : c.KeepsToLine :=
  ⟨h.name, h.typeName '\n' (by simp), h.targets⟩

section

variable {c : Column} (h : c.KeepsToLine)
include h

theorem KeepsToLine.break_not_mem_target {t : ForeignKeyTarget} (ht : t ∈ c.targets) :
    '\n' ∉ t.annotated := by
  obtain ⟨htable, hcolumn⟩ := h.targets t ht
  rw [ForeignKeyTarget.annotated_eq, List.mem_append, not_or, List.mem_cons, not_or]
  exact ⟨break_not_mem_quoteIdentifier htable, by decide, break_not_mem_quoteIdentifier hcolumn⟩

theorem KeepsToLine.break_not_mem_annotation {m : Text} (hm : m ∈ c.annotations) : '\n' ∉ m := by
  rcases of_mem_annotations hm with rfl | ⟨rfl, -⟩
  · decide
  · rw [keyMark, List.mem_append, not_or]
    refine ⟨by decide, fun hd => ?_⟩
    rcases mem_of_mem_join hd with hd | ⟨x, hx, hd⟩
    · exact absurd hd (by decide)
    · obtain ⟨t, ht, rfl⟩ := List.mem_map.mp hx
      exact h.break_not_mem_target ht hd

theorem KeepsToLine.break_not_mem_declaration : '\n' ∉ c.declaration := by
  rw [declaration, List.mem_append, not_or]
  refine ⟨break_not_mem_quoteIdentifier h.name, ?_⟩
  split
  · simp
  · simpa using h.typeName

theorem KeepsToLine.break_not_mem_annotated : '\n' ∉ c.annotated := by
  by_cases hnil : c.annotations = []
  · rw [annotated_of_nil hnil]
    exact h.break_not_mem_declaration
  · have hjoin : '\n' ∉ join ", ".toList c.annotations := by
      intro hd
      rcases mem_of_mem_join hd with hd | ⟨m, hm, hd⟩
      · exact absurd hd (by decide)
      · exact h.break_not_mem_annotation hm hd
    rw [annotated_of_ne_nil hnil]
    simpa using ⟨h.break_not_mem_declaration, hjoin⟩

end

section

variable {c : Column} (h : c.Legible)
include h

theorem Legible.insideAfter_annotated : insideAfter false c.annotated = false := by
  by_cases hnil : c.annotations = []
  · rw [annotated_of_nil hnil]
    exact h.insideAfter_declaration
  · have hjoin : insideAfter false (join ", ".toList c.annotations) = false :=
      insideAfter_join (by decide) fun m hm => (isMark_annotations c m hm).closed
    rw [annotated_of_ne_nil hnil, insideAfter_append, insideAfter_append,
      h.insideAfter_declaration]
    simpa [insideAfter_cons] using hjoin

omit h in
/-- No annotation shows a parenthesis. -/
theorem not_mem_unquoted_annotations {d : Char} (hd : d ∈ ['(', ')']) :
    d ∉ unquotedFrom false (join ", ".toList c.annotations) := by
  intro hmem
  rcases mem_unquoted_join (by decide) (fun m hm => (isMark_annotations c m hm).closed) hmem
    with hmem | ⟨m, hm, hmem⟩
  · simp at hd
    rcases hd with rfl | rfl <;> exact absurd hmem (by decide)
  · have hseen : d ∈ ['-', '>', '|', '.'] ∨ isIdentifierPart d = true := by
      rcases of_mem_annotations hm with rfl | ⟨rfl, -⟩
      · have hword : unquotedFrom false "PK".toList = ['P', 'K'] := by decide
        rw [hword, List.mem_pair] at hmem
        rcases hmem with rfl | rfl <;> decide
      · exact of_mem_unquoted_keyMark hmem
    simp at hd
    rcases hd with rfl | rfl <;> exact absurd hseen (by decide)

theorem Legible.balanced_declaration : Balanced (unquotedFrom false c.declaration) := by
  have hname : Balanced (unquotedFrom false (quoteIdentifier c.name)) :=
    balanced_of_not_mem (not_mem_unquoted_quoteIdentifier _ (by decide))
      (not_mem_unquoted_quoteIdentifier _ (by decide))
  have hquote : '"' ∉ c.typeName := h.typeName '"' (by simp)
  rw [declaration, unquotedFrom_append, insideAfter_quoteIdentifier]
  refine hname.append ?_
  split
  · exact balanced_of_not_mem (by simp [unquotedFrom]) (by simp [unquotedFrom])
  · rw [unquotedFrom_false_of_not_mem (by simpa using hquote)]
    exact Balanced.append (s := [' ']) (balanced_of_not_mem (by decide) (by decide)) h.balanced

/-- A column closes the parentheses that it opens. -/
theorem Legible.balanced_annotated : Balanced (unquotedFrom false c.annotated) := by
  by_cases hnil : c.annotations = []
  · rw [annotated_of_nil hnil]
    exact h.balanced_declaration
  · have hjoin : insideAfter false (join ", ".toList c.annotations) = false :=
      insideAfter_join (by decide) fun m hm => (isMark_annotations c m hm).closed
    rw [annotated_of_ne_nil hnil, unquotedFrom_append, unquotedFrom_append,
      insideAfter_append, h.insideAfter_declaration, List.append_assoc]
    refine h.balanced_declaration.append (balanced_of_not_mem ?_ ?_)
    · have := not_mem_unquoted_annotations (c := c) (d := '(') (by simp)
      simpa [unquotedFrom, insideAfter_cons, hjoin] using this
    · have := not_mem_unquoted_annotations (c := c) (d := ')') (by simp)
      simpa [unquotedFrom, insideAfter_cons, hjoin] using this

end
end Column

/-! ## The lines of a table -/

/-- A table of whose names and types none has a line break. -/
structure Table.KeepsToLines (t : Table) : Prop where
  name : '\n' ∉ t.name
  columns : ∀ c ∈ t.columns, c.KeepsToLine

theorem Table.Legible.keepsToLines {t : Table} (h : t.Legible) : t.KeepsToLines :=
  ⟨h.name, fun c hc => (h.columns c hc).keepsToLine⟩

namespace Column

/-- The line of the first column, with a comma behind it if there are others. -/
theorem annotatedLines_cons (c : Column) (rest : List Column) :
    ∃ tail, (tail = [] ∨ tail = [',']) ∧
      annotatedLines (c :: rest) =
        ' ' :: ' ' :: (c.annotated ++ tail) ++ '\n' :: annotatedLines rest := by
  cases rest with
  | nil => exact ⟨[], Or.inl rfl, by simp [annotatedLines]⟩
  | cons d rest => exact ⟨[','], Or.inr rfl, by simp [annotatedLines]⟩

variable {columns : List Column} (h : ∀ c ∈ columns, c.Legible)
include h

theorem insideAfter_annotatedLines : insideAfter false (annotatedLines columns) = false := by
  induction columns with
  | nil => rfl
  | cons c rest ih =>
    simp only [List.forall_mem_cons] at h
    obtain ⟨tail, htail, hlines⟩ := annotatedLines_cons c rest
    have hquote : '"' ∉ tail := by rcases htail with rfl | rfl <;> decide
    simp [hlines, insideAfter_cons, h.1.insideAfter_annotated, insideAfter_of_not_mem hquote,
      ih h.2]

theorem balanced_annotatedLines : Balanced (unquotedFrom false (annotatedLines columns)) := by
  induction columns with
  | nil => exact balanced_of_not_mem (by decide) (by decide)
  | cons c rest ih =>
    simp only [List.forall_mem_cons] at h
    obtain ⟨tail, htail, hlines⟩ := annotatedLines_cons c rest
    have hquote : '"' ∉ tail := by rcases htail with rfl | rfl <;> decide
    have hend : Balanced (tail ++ ['\n']) := by
      rcases htail with rfl | rfl <;> exact balanced_of_not_mem (by decide) (by decide)
    have hindent : Balanced [' ', ' '] := balanced_of_not_mem (by decide) (by decide)
    have := ((hindent.append h.1.balanced_annotated).append hend).append (ih h.2)
    simpa [hlines, unquotedFrom, insideAfter_cons, h.1.insideAfter_annotated,
      insideAfter_of_not_mem hquote, unquotedFrom_false_of_not_mem hquote] using this

/-- The lines of the columns read back. -/
theorem outline_columns_annotatedLines :
    Outline.columns (annotatedLines columns) = columns.map (·.outline) := by
  have hnil : Outline.column? [] = none := by decide
  induction columns with
  | nil => simp [Outline.columns, annotatedLines, lines, splitWhere, hnil]
  | cons c rest ih =>
    simp only [List.forall_mem_cons] at h
    obtain ⟨tail, htail, hlines⟩ := annotatedLines_cons c rest
    have hbreak : '\n' ∉ ' ' :: ' ' :: (c.annotated ++ tail) := by
      have := h.1.keepsToLine.break_not_mem_annotated
      rcases htail with rfl | rfl <;> simpa using this
    have ih := ih h.2
    rw [Outline.columns] at ih
    rw [Outline.columns, hlines, lines_append_break_of_not_mem hbreak, List.filterMap_cons,
      Outline.column?_annotated h.1 htail, ih, List.map_cons]

end Column

/-! ## Headers -/

namespace Outline

theorem headers_append_break {line : Text} (h : '\n' ∉ line) (t : Text) :
    headers (line ++ '\n' :: t) =
      (headerAt? (line ++ '\n' :: t)).toList ++ headers t := by
  have hbreaks : afterLineBreaks (line ++ '\n' :: t) = lineStarts t := by
    induction line with
    | nil => rfl
    | cons c line ih =>
      simp only [List.mem_cons, not_or] at h
      rw [List.cons_append, afterLineBreaks, if_neg (Ne.symm h.1), ih h.2]
  rw [headers, lineStarts, hbreaks, List.filterMap_cons]
  cases headerAt? (line ++ '\n' :: t) <;> rfl

theorem quotedName?_doubleQuotes {name : Text} (h : '\n' ∉ name) {rest : Text}
    (hrest : rest.head? ≠ some '"') :
    quotedName? (doubleQuotes name ++ '"' :: rest) = some (doubleQuotes name ++ ['"'], rest) := by
  induction name with
  | nil =>
    cases rest with
    | nil => rfl
    | cons c rest =>
      have hc : c ≠ '"' := by simpa using hrest
      simp [doubleQuotes, quotedName?, hc]
  | cons c name ih =>
    simp only [List.mem_cons, not_or] at h
    by_cases hc : c = '"'
    · simp [doubleQuotes, hc, quotedName?, ih h.2]
    · have : c ≠ '\n' := Ne.symm h.1
      simp [doubleQuotes, hc, quotedName?, ih h.2, this]

theorem headerName?_of_ne {c : Char} (hc : c ≠ '"') (s : Text) :
    headerName? (c :: s) =
      match (c :: s).takeWhile isBareNameChar with
      | [] => none
      | name => some (name, (c :: s).dropWhile isBareNameChar) := by
  unfold headerName?
  split
  · next heq => exact absurd (List.cons.inj heq).1 hc
  · rw [List.span_eq_takeWhile_dropWhile]
    cases (c :: s).takeWhile isBareNameChar <;> rfl

/-- A written name is read off the start of a header as it stands. -/
theorem headerName?_quoteIdentifier {name : Text} (h : '\n' ∉ name) (t : Text) :
    headerName? (quoteIdentifier name ++ ' ' :: t) = some (quoteIdentifier name, ' ' :: t) := by
  by_cases hplain : isPlainIdentifier name = true
  · rw [quoteIdentifier_of_plain hplain]
    have hbare : ∀ c ∈ name, isBareNameChar c = true := by
      intro c hc
      have hpart := forall_isIdentifierPart hplain c hc
      have hne : ∀ d, isIdentifierPart d = false → c ≠ d := fun d => ne_of_isIdentifierPart hpart
      simp only [isBareNameChar, isBlank_of_isIdentifierPart hpart, Bool.not_eq_true',
        Bool.or_eq_false_iff, beq_eq_false_iff_ne, Bool.false_or]
      exact ⟨⟨⟨⟨⟨hne _ (by decide), hne _ (by decide)⟩, hne _ (by decide)⟩, hne _ (by decide)⟩,
        hne _ (by decide)⟩, hne _ (by decide)⟩
    have htake : (name ++ ' ' :: t).takeWhile isBareNameChar = name := by
      rw [List.takeWhile_append_of_pos hbare]
      simp [isBareNameChar, isBlank]
    have hdrop : (name ++ ' ' :: t).dropWhile isBareNameChar = ' ' :: t := by
      rw [List.dropWhile_append_of_pos hbare]
      simp [isBareNameChar, isBlank]
    obtain ⟨c, s, rfl⟩ := List.exists_cons_of_ne_nil (ne_nil_of_isPlainIdentifier hplain)
    have hc : c ≠ '"' := ne_of_isIdentifierPart
      (forall_isIdentifierPart hplain c List.mem_cons_self) (by decide)
    rw [List.cons_append] at htake hdrop
    rw [List.cons_append, headerName?_of_ne hc, htake, hdrop]
  · rw [quoteIdentifier_of_not_plain (by simpa using hplain)]
    have hrest : (' ' :: t).head? ≠ some '"' := by simp
    have := quotedName?_doubleQuotes h hrest
    simp [headerName?, this]

theorem headerAt?_quoteIdentifier {name : Text} (h : '\n' ∉ name) (rest : Text) :
    headerAt? (quoteIdentifier name ++ ' ' :: '(' :: rest) = some (quoteIdentifier name, rest) := by
  rw [headerAt?, headerName?_quoteIdentifier h]
  rfl

/-- No header starts with a blank or a closing parenthesis. -/
theorem headerAt?_eq_none {c : Char} (hc : c = ' ' ∨ c = ')') (t : Text) :
    headerAt? (c :: t) = none := by
  have htake : (c :: t).takeWhile isBareNameChar = [] := by
    rcases hc with rfl | rfl <;> simp [isBareNameChar, isBlank]
  have hquote : c ≠ '"' := by rcases hc with rfl | rfl <;> decide
  rw [headerAt?, headerName?_of_ne hquote, htake]

/-- No header is seen in the lines of the columns. -/
theorem headers_annotatedLines {columns : List AskSql.Column}
    (h : ∀ c ∈ columns, c.KeepsToLine) (t : Text) :
    headers (AskSql.Column.annotatedLines columns ++ t) = headers t := by
  induction columns with
  | nil => rfl
  | cons c rest ih =>
    simp only [List.forall_mem_cons] at h
    obtain ⟨tail, htail, hlines⟩ := AskSql.Column.annotatedLines_cons c rest
    have hbreak : '\n' ∉ ' ' :: ' ' :: (c.annotated ++ tail) := by
      have := h.1.break_not_mem_annotated
      rcases htail with rfl | rfl <;> simpa using this
    have hsplit : AskSql.Column.annotatedLines (c :: rest) ++ t =
        (' ' :: ' ' :: (c.annotated ++ tail)) ++
          '\n' :: (AskSql.Column.annotatedLines rest ++ t) := by
      rw [hlines]
      simp
    rw [hsplit, headers_append_break hbreak, List.cons_append,
      headerAt?_eq_none (Or.inl rfl), ih h.2]
    rfl

/-! ## Tables -/

section Tables

variable {t : AskSql.Table} (rest : Text)

/-- The header of a written table is seen, and no other one up to its end. -/
theorem headers_annotated_append (h : t.KeepsToLines) :
    headers (t.annotated ++ rest) =
      (quoteIdentifier t.name,
        ('\n' :: AskSql.Column.annotatedLines t.columns) ++ ')' :: '\n' :: rest) ::
      headers rest := by
  have htext : t.annotated ++ rest =
      (quoteIdentifier t.name ++ [' ', '(']) ++ '\n' ::
        (AskSql.Column.annotatedLines t.columns ++ ([')'] ++ '\n' :: rest)) := by
    simp [AskSql.Table.annotated]
  have hbreak : '\n' ∉ quoteIdentifier t.name ++ [' ', '('] := by
    simpa using break_not_mem_quoteIdentifier h.name
  have hfirst := headerAt?_quoteIdentifier h.name
    ('\n' :: (AskSql.Column.annotatedLines t.columns ++ ([')'] ++ '\n' :: rest)))
  have hlast : headers ([')'] ++ '\n' :: rest) = headers rest := by
    rw [headers_append_break (by decide), List.singleton_append,
      headerAt?_eq_none (Or.inr rfl)]
    rfl
  rw [htext, headers_append_break hbreak, headers_annotatedLines h.columns, hlast]
  simp only [List.append_assoc, List.cons_append, List.nil_append] at hfirst ⊢
  rw [hfirst]
  rfl

/-- What stands between the parentheses of a written table. -/
theorem enclosedBody_annotatedLines {columns : List AskSql.Column}
    (h : ∀ c ∈ columns, c.Legible) :
    enclosedBody (('\n' :: AskSql.Column.annotatedLines columns) ++ ')' :: '\n' :: rest) =
      '\n' :: AskSql.Column.annotatedLines columns := by
  have hlines := AskSql.Column.balanced_annotatedLines h
  have hbreak : Balanced ['\n'] := balanced_of_not_mem (by decide) (by decide)
  refine enclosedBody_append_close _ ?_ ?_
  · simpa [insideAfter_cons] using AskSql.Column.insideAfter_annotatedLines h
  · simpa [unquotedFrom] using hbreak.append hlines

/-- A text that starts with a written table reads as that table and what the rest reads as. -/
theorem tables_table_annotated_append (h : t.Legible) :
    tables (t.annotated ++ rest) = t.outline :: tables rest := by
  have hcolumns : columns ('\n' :: AskSql.Column.annotatedLines t.columns) =
      t.columns.map (·.outline) := by
    have hbreak : lines ('\n' :: AskSql.Column.annotatedLines t.columns) =
        [] :: lines (AskSql.Column.annotatedLines t.columns) :=
      lines_append_break_of_not_mem List.not_mem_nil _
    have hnil : column? [] = none := by decide
    rw [columns, hbreak, List.filterMap_cons, hnil]
    exact AskSql.Column.outline_columns_annotatedLines h.columns
  simp only [tables, headers_annotated_append rest h.keepsToLines, List.map_cons,
    enclosedBody_annotatedLines rest h.columns, hcolumns, unquote_quoteIdentifier]
  rfl

end Tables

/-- Written tables read back in order, whatever stands behind them. -/
theorem tables_flatMap_annotated_append {written : List AskSql.Table}
    (h : ∀ t ∈ written, t.Legible) (rest : Text) :
    tables (written.flatMap (·.annotated) ++ rest) =
      written.map (·.outline) ++ tables rest := by
  induction written with
  | nil => rfl
  | cons t written ih =>
    simp only [List.forall_mem_cons] at h
    rw [List.flatMap_cons, List.append_assoc, tables_table_annotated_append _ h.1, ih h.2]
    rfl

end Outline

/-! ## Schemas -/

/-- The text of a schema reads as the outlines of its tables. -/
theorem Schema.tables_annotated {s : Schema} (h : s.Legible) :
    Outline.tables s.annotated = s.tables.map (·.outline) := by
  have hnil : Outline.tables [] = [] := by decide
  have := Outline.tables_flatMap_annotated_append h []
  rwa [List.append_nil, hnil, List.append_nil] at this

/-- A text that starts with a written schema reads as the outlines of its tables and what the
rest of the text reads as. -/
theorem Schema.tables_annotated_append {s : Schema} (h : s.Legible) (rest : Text) :
    Outline.tables (s.annotated ++ rest) =
      s.tables.map (·.outline) ++ Outline.tables rest :=
  Outline.tables_flatMap_annotated_append h rest

/-- Names made of what the text is taken apart at, in front of a text that goes on like a
column. -/
theorem Schema.tables_annotated_append_of_delimiters :
    let first : Column :=
      { name := [], typeName := "DECIMAL(10, 2)".toList, size := 10, nullable := false,
        primaryKey := true, targets := [⟨"b.c|d".toList, "]\"".toList⟩, ⟨[], []⟩] }
    let second : Column :=
      { name := "x (".toList, typeName := [], size := 0, nullable := true,
        primaryKey := false, targets := [] }
    let rest := "  y [PK]\nz (\n  w\n".toList
    Outline.tables ((Schema.mk [⟨"a\" (,[PK]".toList, [first, second]⟩]).annotated ++ rest) =
      ⟨"a\" (,[PK]".toList,
        [⟨[], true, some ⟨"b.c|d".toList, "]\"".toList⟩⟩, ⟨"x (".toList, false, none⟩]⟩ ::
      Outline.tables rest := by
  intro first second rest
  refine Schema.tables_annotated_append (fun t ht => ?_) rest
  obtain rfl := List.mem_singleton.mp ht
  refine ⟨by decide, fun c hc => ?_⟩
  rcases List.mem_pair.mp hc with rfl | rfl
  · exact ⟨by decide, by simp [first], by decide, by decide, by decide⟩
  · exact ⟨by decide, by simp [second], by decide, by decide, by decide⟩

end AskSql
