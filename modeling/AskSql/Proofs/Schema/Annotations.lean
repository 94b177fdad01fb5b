import AskSql.Composer
import AskSql.Proofs.Text.Scanning

/-!
# Annotations of columns

The annotations on a column line are taken in order. One that marks the primary key is never taken
back, and one that names a foreign key takes the place of all before it, whether or not its first
alternative is a target (`Outline.foldl_annotate`). So it is the last annotation of a foreign key
that counts, for the column and for the joins over it (`Outline.column?_eq_lastKey?`). It is the
first target that the line names only if none is named at all or the last annotation names it, too
(`Outline.lastKey?_eq_firstKey?_iff`).
-/

namespace AskSql

open Text

namespace Outline

variable {marks : List Text}

/-! ## What an annotation says -/

/-- What an annotation says of a foreign key : nothing, or its first alternative, if that is a
target. -/
def key? (mark : Text) : Option (Option ForeignKeyTarget) :=
  (dropPrefix? "FK->".toList mark).map fun targets =>
    (splitUnquoted '|' targets).head?.bind target?

/-- What annotations say of foreign keys, in order. -/
def keys (marks : List Text) : List (Option ForeignKeyTarget) :=
  marks.filterMap key?

/-- The first target that annotations name. -/
def firstKey? (marks : List Text) : Option ForeignKeyTarget :=
  (keys marks).findSome? id

/-- The target that the last annotation of a foreign key names. -/
def lastKey? (marks : List Text) : Option ForeignKeyTarget :=
  (keys marks).getLast?.getD none

theorem annotate_eq (c : Column) (mark : Text) :
    c.annotate mark =
      ⟨c.name, c.primaryKey || mark == "PK".toList, (key? mark).getD c.foreignKey⟩ := by
  have hprimary : key? "PK".toList = none := by decide
  by_cases hmark : mark = "PK".toList
  · rw [Column.annotate, if_pos hmark, hmark, hprimary]
    simp
  · rw [Column.annotate, if_neg hmark, key?, beq_eq_false_iff_ne.mpr hmark, Bool.or_false]
    cases dropPrefix? "FK->".toList mark <;> rfl

/-- Of the annotations that name a foreign key, the last one counts. -/
theorem foldl_annotate (marks : List Text) (c : Column) :
    marks.foldl Column.annotate c =
      ⟨c.name, c.primaryKey || marks.contains "PK".toList,
        (keys marks).getLast?.getD c.foreignKey⟩ := by
  induction marks generalizing c with
  | nil => simp [keys]
  | cons mark marks ih =>
    have hprimary : (c.primaryKey || mark == "PK".toList || marks.contains "PK".toList) =
        (c.primaryKey || (mark :: marks).contains "PK".toList) := by
      rw [List.contains_cons, Bool.or_assoc, Bool.beq_comm]
    have hkey : (keys marks).getLast?.getD ((key? mark).getD c.foreignKey) =
        (keys (mark :: marks)).getLast?.getD c.foreignKey := by
      cases hmark : key? mark with
      | none => simp [keys, hmark]
      | some key => simp [keys, hmark, List.getLast?_cons]
    rw [List.foldl_cons, ih, annotate_eq, hprimary, hkey]

theorem firstKey?_eq_none_iff : firstKey? marks = none ↔ ∀ t, some t ∉ keys marks := by
  simp only [firstKey?, List.findSome?_eq_none_iff, id_eq]
  constructor
  · intro h t ht
    simpa using h _ ht
  · rintro h (- | t) hkey
    · rfl
    · exact absurd hkey (h t)

/-- The last annotation of a foreign key names the first target that is named, unless it names
another one or none. -/
theorem lastKey?_eq_firstKey?_iff (marks : List Text) :
    lastKey? marks = firstKey? marks ↔
      (∀ t, some t ∉ keys marks) ∨
        ∃ t, (keys marks).getLast? = some (some t) ∧ firstKey? marks = some t := by
  cases hlast : (keys marks).getLast? with
  | none =>
    have hnone : ∀ t, some t ∉ keys marks := by simp [List.getLast?_eq_none_iff.mp hlast]
    simp only [lastKey?, hlast, Option.getD_none, firstKey?_eq_none_iff.mpr hnone, true_iff]
    exact Or.inl hnone
  | some key =>
    cases key with
    | none =>
      rw [lastKey?, hlast, ← firstKey?_eq_none_iff]
      simp [eq_comm]
    | some t =>
      have hmem : ¬ ∀ t, some t ∉ keys marks := fun h => h t (List.mem_of_getLast? hlast)
      simp [lastKey?, hlast, hmem, eq_comm]

/-! ## The column on a line -/

/-- The annotations on a column line. -/
def marksOn (line : Text) : List Text :=
  (splitUnquoted ',' (splitAnnotations (stripColumnLine line)).2).map trim

/-- The name of the column on a line. -/
def columnName? (line : Text) : Option Text :=
  match trimStart (splitAnnotations (stripColumnLine line)).1 with
  | [] => none
  | definition => some (unquote (spanUnquoted isBlank false definition).1)

theorem column?_eq (line : Text) :
    column? line = (columnName? line).map fun name =>
      ⟨name, (marksOn line).contains "PK".toList, lastKey? (marksOn line)⟩ := by
  unfold column? columnName?
  dsimp only
  cases trimStart (splitAnnotations (stripColumnLine line)).1 with
  | nil => rfl
  | cons c definition => simp [foldl_annotate, marksOn, lastKey?]

/-! ## Joins -/

/-- The join condition that a column line of the table `source` gives, if a foreign key leads from
it to `target`. -/
def linkOn? (source target line : Text) : Option Equality :=
  (columnName? line).bind fun name =>
    (lastKey? (marksOn line)).bind fun key =>
      if equalsIgnoringCase key.table target then
        some ⟨⟨some source, name⟩, ⟨some target, key.column⟩⟩
      else none

/-- A join goes over the first line of the first table of its name that gives a condition. -/
theorem keyBetween?_tables (schemaText source target : Text) :
    Composer.keyBetween? (tables schemaText) source target =
      ((headers schemaText).find? (unquote ·.1 == source)).bind fun header =>
        (lines (enclosedBody header.2)).findSome? (linkOn? source target) := by
  have hfind : (tables schemaText).find? (·.name == source) =
      ((headers schemaText).find? (unquote ·.1 == source)).map fun header =>
        ⟨unquote header.1, columns (enclosedBody header.2)⟩ := by
    rw [tables, List.find?_map]
    rfl
  rw [Composer.keyBetween?, hfind]
  cases (headers schemaText).find? (unquote ·.1 == source) with
  | none => rfl
  | some header =>
    simp only [Option.map_some, Option.bind_some, columns]
    rw [← List.head?_filterMap, List.filterMap_filterMap, List.head?_filterMap]
    refine congrArg (List.findSome? · _) (funext fun line => ?_)
    rw [column?_eq, linkOn?]
    cases columnName? line with
    | none => rfl
    | some name => cases lastKey? (marksOn line) <;> rfl

/-- The foreign key of a column is the one that the last annotation of a foreign key names, if its
first alternative is a target, and none otherwise. That is the first target on the line if and only
if there is none or the last annotation names it. Joins are inferred from the same key. -/
theorem column?_eq_lastKey? (line : Text) :
    column? line = (columnName? line).map (fun name =>
        ⟨name, (marksOn line).contains "PK".toList, lastKey? (marksOn line)⟩) ∧
      (lastKey? (marksOn line) = firstKey? (marksOn line) ↔
        (∀ t, some t ∉ keys (marksOn line)) ∨
          ∃ t, (keys (marksOn line)).getLast? = some (some t) ∧
            firstKey? (marksOn line) = some t) ∧
      ∀ schemaText source target,
        Composer.keyBetween? (tables schemaText) source target =
          ((headers schemaText).find? (unquote ·.1 == source)).bind fun header =>
            (lines (enclosedBody header.2)).findSome? (linkOn? source target) :=
  ⟨column?_eq line, lastKey?_eq_firstKey?_iff _, keyBetween?_tables⟩

/-- A second annotation of a foreign key replaces the first one, and erases it if it names no
target. -/
example :
    (column? "user_id INT [FK->users.id, FK->accounts.id]".toList).map (·.foreignKey) =
        some (some ⟨"accounts".toList, "id".toList⟩) ∧
      (column? "user_id INT [FK->users.id, FK->accounts]".toList).map (·.foreignKey) =
        some none := by
  decide

end Outline
end AskSql
