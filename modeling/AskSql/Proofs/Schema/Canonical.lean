import AskSql.Proofs.Schema.TableNames
import Mathlib.Data.List.Forall2

/-!
# The canonical form of a schema text

A reader of schema text makes something of any text, be it malformed, without an end or with quotes
that are never closed. What it finds is made of the characters of single lines, and a target that it
finds has two parts (`Outline.column?_drawnFrom`). So a schema that says what was read and nothing
else (`Schema.Restates`) can always be read back.

`Outline.tables_of_restates` : the text of such a schema reads as the text it was read from. It is
the same text again when this is repeated.
-/

namespace AskSql

open Text

/-! ## What can be read -/

namespace Outline

/-- The names of a column are made of characters of a line, and its target has two parts. -/
structure Column.DrawnFrom (line : Text) (c : Outline.Column) : Prop where
  name : c.name ⊆ line
  table : ∀ t ∈ c.foreignKey, t.table ⊆ line ∧ t.table ≠ []
  column : ∀ t ∈ c.foreignKey, t.column ⊆ line ∧ t.column ≠ []

theorem target?_eq_some {written : Text} {t : ForeignKeyTarget} (h : target? written = some t) :
    (t.table ⊆ written ∧ t.table ≠ []) ∧ t.column ⊆ written ∧ t.column ≠ [] := by
  rw [target?] at h
  split at h
  · cases h
  · next table column hbreak =>
    obtain ⟨c, hwritten⟩ := breakUnquoted?_eq_some hbreak
    have htable : table ⊆ written := fun d hd => trim_subset written (by simp [hwritten, hd])
    have hcolumn : column ⊆ written := fun d hd => trim_subset written (by simp [hwritten, hd])
    dsimp only at h
    split at h
    · cases h
    · next hparts =>
      obtain rfl := Option.some.inj h
      simp only [Bool.or_eq_true, List.isEmpty_iff, not_or] at hparts
      exact ⟨⟨fun d hd => htable (mem_of_mem_unquote hd), hparts.1⟩,
        fun d hd => hcolumn (mem_of_mem_unquote hd), hparts.2⟩

/-- An annotation adds nothing that is not on the line. -/
theorem Column.DrawnFrom.annotate {line mark : Text} {c : Outline.Column} (h : c.DrawnFrom line)
    (hmark : mark ⊆ line) : (c.annotate mark).DrawnFrom line := by
  unfold Column.annotate
  split
  · exact ⟨h.name, h.table, h.column⟩
  · split
    · next targets hdrop =>
      have htargets : targets ⊆ mark := by
        unfold dropPrefix? at hdrop
        split at hdrop
        · obtain rfl := Option.some.inj hdrop
          exact List.drop_subset _ _
        · cases hdrop
      have hparts : ∀ t ∈ (splitUnquoted '|' targets).head?.bind target?,
          (t.table ⊆ line ∧ t.table ≠ []) ∧ t.column ⊆ line ∧ t.column ≠ [] := by
        intro t ht
        obtain ⟨first, hfirst, htarget⟩ := Option.bind_eq_some_iff.mp ht
        have hfirst' : first ⊆ targets :=
          subset_of_mem_splitUnquotedFrom (List.mem_of_head? hfirst)
        have hline : first ⊆ line := fun d hd => hmark (htargets (hfirst' hd))
        obtain ⟨⟨htable, htable'⟩, hcolumn, hcolumn'⟩ := target?_eq_some htarget
        exact ⟨⟨fun d hd => hline (htable hd), htable'⟩, fun d hd => hline (hcolumn hd), hcolumn'⟩
      exact ⟨h.name, fun t ht => (hparts t ht).1, fun t ht => (hparts t ht).2⟩
    · exact h

theorem Column.DrawnFrom.foldl_annotate {line : Text} {c : Outline.Column} {marks : List Text}
    (h : c.DrawnFrom line) (hmarks : ∀ m ∈ marks, m ⊆ line) :
    (marks.foldl Column.annotate c).DrawnFrom line := by
  induction marks generalizing c with
  | nil => exact h
  | cons m marks ih =>
    obtain ⟨hm, hmarks⟩ := List.forall_mem_cons.mp hmarks
    exact ih (h.annotate hm) hmarks

theorem splitAnnotations_subset (line : Text) :
    (splitAnnotations line).1 ⊆ line ∧ (splitAnnotations line).2 ⊆ line := by
  have hnone : line ⊆ line ∧ ([] : Text) ⊆ line := ⟨fun _ h => h, List.nil_subset line⟩
  unfold splitAnnotations
  split
  · exact hnone
  · next definition rest hbreak =>
    obtain ⟨c, rfl⟩ := breakUnquoted?_eq_some hbreak
    split
    · next annotations hlast =>
      have hrest := (beforeLastUnquoted?_isPrefix hlast).subset
      exact ⟨List.subset_append_left _ _, fun d hd => by simp [hrest hd]⟩
    · exact hnone

/-- What is read off a line stands on the line. -/
theorem column?_drawnFrom {line : Text} {c : Outline.Column} (h : column? line = some c) :
    c.DrawnFrom line := by
  have hstrip : stripColumnLine line ⊆ line := fun d hd =>
    trim_subset line ((dropEndWhile_isPrefix _ _).subset ((dropEndWhile_isPrefix _ _).subset hd))
  obtain ⟨hdefinition, hannotations⟩ := splitAnnotations_subset (stripColumnLine line)
  rw [column?] at h
  generalize splitAnnotations (stripColumnLine line) = parts at h hdefinition hannotations
  obtain ⟨definition, annotations⟩ := parts
  have hstart : trimStart definition ⊆ line := fun d hd =>
    hstrip (hdefinition ((List.dropWhile_suffix isBlank).subset hd))
  cases hwords : trimStart definition with
  | nil =>
    simp only [hwords] at h
    cases h
  | cons first rest =>
    rw [hwords] at hstart
    simp only [hwords] at h
    obtain rfl := Option.some.inj h
    have hspan := spanUnquoted_append_eq isBlank false (first :: rest)
    refine Column.DrawnFrom.foldl_annotate ⟨fun d hd => hstart ?_, by simp, by simp⟩ fun m hm => ?_
    · rw [← hspan]
      exact List.mem_append_left _ (mem_of_mem_unquote hd)
    · obtain ⟨piece, hpiece, rfl⟩ := List.mem_map.mp hm
      exact fun d hd => hstrip (hannotations
        (subset_of_mem_splitUnquotedFrom hpiece (trim_subset piece hd)))

theorem break_not_mem_name_of_mem_tables {text : Text} {t : Outline.Table}
    (h : t ∈ tables text) : '\n' ∉ t.name := by
  refine break_not_mem_of_mem_namesOn (s := text) ?_
  rw [← map_unquote_headers]
  obtain ⟨header, hheader, rfl⟩ := List.mem_map.mp h
  exact List.mem_map.mpr ⟨header, hheader, rfl⟩

/-- A column that is read comes from one line. -/
theorem exists_drawnFrom_of_mem_tables {text : Text} {t : Outline.Table} {c : Outline.Column}
    (h : t ∈ tables text) (hc : c ∈ t.columns) : ∃ line, '\n' ∉ line ∧ c.DrawnFrom line := by
  obtain ⟨header, -, rfl⟩ := List.mem_map.mp h
  obtain ⟨line, hline, hcolumn⟩ := List.mem_filterMap.mp hc
  exact ⟨line, break_not_mem_of_mem_lines hline, column?_drawnFrom hcolumn⟩

end Outline

/-! ## Restatements -/

/-- A column without a type, and without a target but the one that can be read back. -/
structure Column.IsPlain (c : Column) : Prop where
  typeName : c.typeName = []
  targets : c.targets = c.targets.head?.toList

/-- A schema that says what an outline says, and nothing else. -/
structure Schema.Restates (s : Schema) (outline : List Outline.Table) : Prop where
  outline : s.tables.map (·.outline) = outline
  plain : ∀ t ∈ s.tables, ∀ c ∈ t.columns, c.IsPlain

/-- The column that restates an outline. -/
def Outline.Column.restated (c : Outline.Column) : AskSql.Column where
  name := c.name
  typeName := []
  size := 0
  nullable := true
  primaryKey := c.primaryKey
  targets := c.foreignKey.toList

/-- The table that restates an outline. -/
def Outline.Table.restated (t : Outline.Table) : AskSql.Table :=
  ⟨t.name, t.columns.map (·.restated)⟩

/-- There is a schema to any outline that restates it. -/
theorem Schema.restates_restated (outline : List Outline.Table) :
    (Schema.mk (outline.map (·.restated))).Restates outline := by
  have hcolumn (c : Outline.Column) : c.restated.outline = c := by
    obtain ⟨name, primaryKey, foreignKey⟩ := c
    cases foreignKey <;> rfl
  have htable (t : Outline.Table) : t.restated.outline = t := by
    simp [Outline.Table.restated, Table.outline, Function.comp_def, hcolumn]
  refine ⟨by simp [Function.comp_def, htable], fun t ht c hc => ?_⟩
  obtain ⟨o, -, rfl⟩ := List.mem_map.mp ht
  obtain ⟨column, -, rfl⟩ := List.mem_map.mp hc
  refine ⟨rfl, ?_⟩
  show column.foreignKey.toList = column.foreignKey.toList.head?.toList
  cases column.foreignKey <;> rfl

theorem Column.IsPlain.annotated_eq {c : Column} (h : c.IsPlain) :
    c.annotated = c.outline.restated.annotated := by
  obtain ⟨name, typeName, size, nullable, primaryKey, targets⟩ := c
  obtain ⟨rfl, htargets⟩ := h
  cases targets with
  | nil => rfl
  | cons target rest =>
    obtain rfl : rest = [] := by simpa using htargets
    rfl

/-- The lines of columns tell nothing but what the columns tell one by one. -/
theorem Column.annotatedLines_congr {columns columns' : List Column}
    (h : List.Forall₂ (fun c c' => c.annotated = c'.annotated) columns columns') :
    annotatedLines columns = annotatedLines columns' := by
  induction h with
  | nil => rfl
  | cons hc hrest ih =>
    cases hrest with
    | nil => simp only [annotatedLines, hc]
    | cons => simp only [annotatedLines, hc] at ih ⊢; rw [ih]

/-- A schema that restates an outline is written in one way only. -/
theorem Schema.Restates.annotated_eq {s : Schema} {outline : List Outline.Table}
    (h : s.Restates outline) :
    s.annotated = (Schema.mk (outline.map (·.restated))).annotated := by
  obtain ⟨rfl, hplain⟩ := h
  simp only [Schema.annotated, List.map_map, List.flatMap_map]
  refine List.flatMap_congr fun t ht => ?_
  have hlines : Column.annotatedLines t.columns =
      Column.annotatedLines (t.columns.map fun c => c.outline.restated) := by
    refine Column.annotatedLines_congr (List.forall₂_map_right_iff.mpr ?_)
    exact List.forall₂_same.mpr fun c hc => (hplain t ht c hc).annotated_eq
  simp only [Table.annotated, hlines, Function.comp_apply, Outline.Table.restated, Table.outline,
    List.map_map, Function.comp_def]

/-- What restates an outline that was read can be read back. -/
theorem Schema.Restates.legible {s : Schema} {text : Text} (h : s.Restates (Outline.tables text)) :
    s.Legible := by
  intro t ht
  have houtline : t.outline ∈ Outline.tables text := by
    rw [← h.outline]
    exact List.mem_map_of_mem ht
  refine ⟨Outline.break_not_mem_name_of_mem_tables houtline, fun c hc => ?_⟩
  obtain ⟨htype, htargets⟩ := h.plain t ht c hc
  obtain ⟨line, hline, hdrawn⟩ :=
    Outline.exists_drawnFrom_of_mem_tables houtline (List.mem_map_of_mem hc)
  have hfirst (target : ForeignKeyTarget) (htarget : target ∈ c.targets) :
      target ∈ c.outline.foreignKey := by
    rw [htargets] at htarget
    simpa [Column.outline] using htarget
  refine ⟨fun hd => hline (hdrawn.name hd), by simp [htype], ?_, fun target htarget => ?_,
    fun target htarget => ?_⟩
  · rw [htype]
    exact balanced_of_not_mem List.not_mem_nil List.not_mem_nil
  · obtain ⟨htable, -⟩ := hdrawn.table target (hfirst target htarget)
    obtain ⟨hcolumn, -⟩ := hdrawn.column target (hfirst target htarget)
    exact ⟨fun hd => hline (htable hd), fun hd => hline (hcolumn hd)⟩
  · exact ⟨(hdrawn.table target htarget).2, (hdrawn.column target htarget).2⟩

/-- Whatever a text holds, the text of a schema that says what was read in it, and nothing else,
reads as the text does. It is a form that stays : a schema that says what is read in it is written
the same. -/
theorem Outline.tables_of_restates {text : Text} {s : Schema} (h : s.Restates (tables text)) :
    tables s.annotated = tables text ∧
      ∀ s' : Schema, s'.Restates (tables s.annotated) → s'.annotated = s.annotated := by
  have hread : tables s.annotated = tables text := by
    rw [Schema.tables_annotated h.legible, h.outline]
  refine ⟨hread, fun s' h' => ?_⟩
  rw [h'.annotated_eq, hread, ← h.annotated_eq]

/-- A quote that is never closed hides the end of the first table, so the header of the second one
is a column of it, too; a target without a table is passed over, and one name is empty. -/
theorem Outline.tables_of_restates_of_open_quote :
    let text := ("\"a\"\"b\" (\r\n  \"\" INT [PK, FK->\"\".x, FK-> u . \"v|w\" |z],\n".toList ++
      "  it's\"not closed\n  ) [PK]\nc (".toList)
    tables text =
        [⟨"a\"b".toList,
          [⟨[], true, some ⟨"u".toList, "v|w".toList⟩⟩, ⟨"it's\"not closed".toList, false, none⟩,
            ⟨")".toList, true, none⟩, ⟨"c".toList, false, none⟩]⟩, ⟨"c".toList, []⟩] ∧
      ∃ s : Schema, s.Restates (tables text) ∧ tables s.annotated = tables text := by
  intro text
  have hrestates := Schema.restates_restated (tables text)
  exact ⟨by decide, _, hrestates, (tables_of_restates hrestates).1⟩

end AskSql
