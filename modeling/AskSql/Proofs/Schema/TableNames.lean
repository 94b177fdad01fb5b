import AskSql.Proofs.Schema.RoundTrip

/-!
# The table names of a written schema

Headers are looked for line by line, and a name keeps its line breaks when it is written. So a
table whose name has a line break is lost, and what a break in a name or in a type puts at the
start of a line may be taken for a table (`Table.strayNames`).

`Schema.tableNames_annotated` : nothing else is lost, and nothing else is made up. The names
that are read are those without a line break, in order and each once, with the stray names of
a table behind its own, and of a schema without line breaks they are the names of the tables.
-/

namespace AskSql

open Text

/-! ## Breaks -/

theorem Text.doubleQuotes_append (s t : Text) :
    doubleQuotes (s ++ t) = doubleQuotes s ++ doubleQuotes t := by
  induction s with
  | nil => rfl
  | cons c s ih =>
    by_cases hc : c = '"'
    · simp [doubleQuotes, hc, ih]
    · simp [doubleQuotes, hc, ih]

theorem Text.mem_of_mem_collapseQuotes {c : Char} {s : Text} (h : c ∈ collapseQuotes s) :
    c ∈ s := by
  fun_induction collapseQuotes s with
  | case1 s ih =>
    rcases List.mem_cons.mp h with rfl | h
    · exact List.mem_cons_self
    · exact List.mem_cons_of_mem _ (List.mem_cons_of_mem _ (ih h))
  | case2 d s _ ih =>
    rcases List.mem_cons.mp h with rfl | h
    · exact List.mem_cons_self
    · exact List.mem_cons_of_mem _ (ih h)
  | case3 => cases h

/-- A name has no characters that its written form has not. -/
theorem Text.mem_of_mem_unquote {c : Char} {s : Text} (h : c ∈ unquote s) : c ∈ s := by
  unfold unquote at h
  split at h
  · next s' heq =>
    refine trim_subset s ?_
    rw [heq]
    split at h
    · exact List.mem_cons_of_mem _ (List.dropLast_subset _ (mem_of_mem_collapseQuotes h))
    · exact h
  · exact trim_subset s h

/-! ## Names, line by line -/

namespace Outline

/-- The name of the table that starts on a line. -/
def nameOn? (line : Text) : Option Text :=
  (headerAt? line).map fun (name, _) => unquote name

/-- The names of the tables that start on the lines of a text, repetitions included. -/
def namesOn (s : Text) : List Text :=
  (lines s).filterMap nameOn?

/-! A header ends where its line ends, whatever is on the lines behind it. -/

theorem quotedName?_append_break {line : Text} (h : '\n' ∉ line) (t : Text) :
    quotedName? (line ++ '\n' :: t) =
      (quotedName? line).map fun (name, rest) => (name, rest ++ '\n' :: t) := by
  fun_induction quotedName? line with
  | case1 s ih =>
    simp only [List.mem_cons, not_or] at h
    simp [quotedName?, ih h.2.2, Function.comp_def]
  | case2 s hne =>
    cases s with
    | nil => simp [quotedName?]
    | cons d s =>
      have hd : d ≠ '"' := by
        rintro rfl
        exact hne s rfl rfl
      simp [quotedName?, hd]
  | case3 s => simp at h
  | case4 c s hne hquote hbreak ih =>
    simp only [List.mem_cons, not_or] at h
    simp [quotedName?, hquote, hbreak, ih h.2, Function.comp_def]
  | case5 => simp [quotedName?]

theorem headerName?_append_break {line : Text} (h : '\n' ∉ line) (t : Text) :
    headerName? (line ++ '\n' :: t) =
      (headerName? line).map fun (name, rest) => (name, rest ++ '\n' :: t) := by
  cases line with
  | nil =>
    have htake : ('\n' :: t).takeWhile isBareNameChar = [] := by simp [isBareNameChar, isBlank]
    rw [List.nil_append, headerName?_of_ne (by decide), htake]
    rfl
  | cons c line =>
    by_cases hc : c = '"'
    · subst hc
      simp only [List.mem_cons, not_or] at h
      rw [List.cons_append, headerName?, quotedName?_append_break h.2]
      simp [headerName?, Function.comp_def]
    · have hbreak : isBareNameChar '\n' = false := by decide
      have htake := takeWhile_append_cons (c :: line) hbreak t
      have hdrop := dropWhile_append_cons (c :: line) hbreak t
      rw [List.cons_append] at htake hdrop ⊢
      rw [headerName?_of_ne hc, headerName?_of_ne hc, htake, hdrop]
      cases (c :: line).takeWhile isBareNameChar <;> rfl

theorem headerAt?_append_break {line : Text} (h : '\n' ∉ line) (t : Text) :
    headerAt? (line ++ '\n' :: t) =
      (headerAt? line).map fun (name, rest) => (name, rest ++ '\n' :: t) := by
  rw [headerAt?, headerAt?, headerName?_append_break h]
  cases headerName? line with
  | none => rfl
  | some header =>
    rcases header with ⟨name, - | ⟨c, - | ⟨d, rest⟩⟩⟩
    · rfl
    · by_cases hc : c = ' '
      · subst hc
        rfl
      · simp [hc]
    · by_cases hc : c = ' '
      · by_cases hd : d = '('
        · subst hc hd
          rfl
        · simp [hd]
      · simp [hc]

theorem afterLineBreaks_of_not_mem {s : Text} (h : '\n' ∉ s) : afterLineBreaks s = [] := by
  induction s with
  | nil => rfl
  | cons c s ih =>
    simp only [List.mem_cons, not_or] at h
    rw [afterLineBreaks, if_neg (Ne.symm h.1), ih h.2]

/-- The headers of a text stand each on a line of its own. -/
theorem map_unquote_headers (s : Text) :
    (headers s).map (fun (name, _) => unquote name) = namesOn s := by
  induction s using line_induction with
  | last s h =>
    rw [headers, lineStarts, afterLineBreaks_of_not_mem h, namesOn, lines_of_not_mem h,
      List.filterMap_cons, List.filterMap_cons, nameOn?]
    cases headerAt? s <;> rfl
  | next line t h ih =>
    rw [headers_append_break h, namesOn, lines_append_break_of_not_mem h,
      headerAt?_append_break h, List.map_append, ih, List.filterMap_cons, nameOn?]
    cases headerAt? line <;> rfl

/-- Table names are read line by line. -/
theorem tableNames_eq (s : Text) : tableNames s = distinct (namesOn s) := by
  rw [tableNames, map_unquote_headers]

theorem namesOn_append_break (s t : Text) : namesOn (s ++ '\n' :: t) = namesOn s ++ namesOn t := by
  rw [namesOn, lines_append_break, List.filterMap_append]
  rfl

/-- Where a quote is written doubled only, no name is closed. -/
theorem quotedName?_doubleQuotes_eq_none (s : Text) : quotedName? (doubleQuotes s) = none := by
  induction s with
  | nil => rfl
  | cons c s ih =>
    by_cases hc : c = '"'
    · simp [doubleQuotes, hc, quotedName?, ih]
    · simp [doubleQuotes, hc, quotedName?, ih]

/-! A name that is read stands on one line. -/

theorem quotedName?_eq_some {s name rest : Text} (h : quotedName? s = some (name, rest)) :
    s = name ++ rest := by
  fun_induction quotedName? s generalizing name with
  | case1 s ih =>
    simp only [Option.map_eq_some_iff] at h
    obtain ⟨⟨n, r⟩, hn, heq⟩ := h
    obtain ⟨rfl, rfl⟩ := Prod.mk.inj heq
    simp [ih hn]
  | case2 s =>
    obtain ⟨rfl, rfl⟩ := Prod.mk.inj (Option.some.inj h)
    rfl
  | case3 => cases h
  | case4 c s _ _ _ ih =>
    simp only [Option.map_eq_some_iff] at h
    obtain ⟨⟨n, r⟩, hn, heq⟩ := h
    obtain ⟨rfl, rfl⟩ := Prod.mk.inj heq
    simp [ih hn]
  | case5 => cases h

theorem headerName?_eq_some {s name rest : Text} (h : headerName? s = some (name, rest)) :
    s = name ++ rest := by
  cases s with
  | nil => cases h
  | cons c s =>
    by_cases hc : c = '"'
    · subst hc
      simp only [headerName?, Option.map_eq_some_iff] at h
      obtain ⟨⟨n, r⟩, hn, heq⟩ := h
      obtain ⟨rfl, rfl⟩ := Prod.mk.inj heq
      rw [quotedName?_eq_some hn]
      rfl
    · rw [headerName?_of_ne hc] at h
      split at h
      · cases h
      · obtain ⟨rfl, rfl⟩ := Prod.mk.inj (Option.some.inj h)
        exact List.takeWhile_append_dropWhile.symm

theorem break_not_mem_of_nameOn? {line name : Text} (h : '\n' ∉ line)
    (hname : nameOn? line = some name) : '\n' ∉ name := by
  obtain ⟨⟨written, rest⟩, hheader, rfl⟩ := Option.map_eq_some_iff.mp hname
  obtain ⟨rest', hwritten⟩ : ∃ rest', headerName? line = some (written, rest') := by
    unfold headerAt? at hheader
    split at hheader
    · next hwritten =>
      obtain ⟨rfl, -⟩ := Prod.mk.inj (Option.some.inj hheader)
      exact ⟨_, hwritten⟩
    · cases hheader
  intro hbreak
  refine h ?_
  rw [headerName?_eq_some hwritten]
  exact List.mem_append_left _ (mem_of_mem_unquote hbreak)

theorem break_not_mem_of_mem_namesOn {s name : Text} (h : name ∈ namesOn s) : '\n' ∉ name := by
  obtain ⟨line, hline, hname⟩ := List.mem_filterMap.mp h
  exact break_not_mem_of_nameOn? (break_not_mem_of_mem_lines hline) hname

end Outline

/-! ## Tables -/

namespace Table

variable (t : Table)

/-- The names that are read off the lines of a table but the first. -/
def strayNames : List Text :=
  (lines t.annotated).tail.filterMap Outline.nameOn?

/-- The names that are read off a table. -/
def seenNames : List Text :=
  (if '\n' ∈ t.name then [] else [t.name]) ++ t.strayNames

/-- The first line of a table tells its name, unless the name has a line break. -/
theorem exists_lines_annotated :
    ∃ line rest, lines t.annotated = line :: rest ∧
      Outline.nameOn? line = if '\n' ∈ t.name then none else some t.name := by
  by_cases h : '\n' ∈ t.name
  · obtain ⟨start, name, hname, hstart⟩ := List.eq_append_cons_of_mem h
    have hplain : isPlainIdentifier t.name = false := by
      rw [← Bool.not_eq_true]
      exact fun hplain => not_mem_of_isPlainIdentifier hplain (by decide) h
    have hline : '\n' ∉ '"' :: doubleQuotes start := by
      simpa using fun hmem => hstart (mem_of_mem_doubleQuotes hmem)
    have htext : t.annotated = '"' :: doubleQuotes start ++ '\n' ::
        (doubleQuotes name ++ ('"' :: " (\n".toList) ++ Column.annotatedLines t.columns ++
          ")\n".toList) := by
      rw [annotated, quoteIdentifier_of_not_plain hplain, hname, doubleQuotes_append]
      simp [doubleQuotes]
    refine ⟨_, _, by rw [htext, lines_append_break_of_not_mem hline], ?_⟩
    rw [if_pos h, Outline.nameOn?, Outline.headerAt?, Outline.headerName?,
      Outline.quotedName?_doubleQuotes_eq_none]
    rfl
  · have hline : '\n' ∉ quoteIdentifier t.name ++ [' ', '('] := by
      simpa using break_not_mem_quoteIdentifier h
    have htext : t.annotated = quoteIdentifier t.name ++ [' ', '('] ++ '\n' ::
        (Column.annotatedLines t.columns ++ ")\n".toList) := by
      simp [annotated]
    refine ⟨_, _, by rw [htext, lines_append_break_of_not_mem hline], ?_⟩
    rw [if_neg h, Outline.nameOn?, Outline.headerAt?_quoteIdentifier h]
    exact congrArg some (unquote_quoteIdentifier t.name)

theorem namesOn_annotated : Outline.namesOn t.annotated = t.seenNames := by
  obtain ⟨line, rest, hlines, hname⟩ := t.exists_lines_annotated
  rw [Outline.namesOn, seenNames, strayNames, hlines, List.filterMap_cons, hname]
  by_cases h : '\n' ∈ t.name
  · simp [h]
  · simp [h]

theorem exists_annotated_eq_append_break : ∃ s, t.annotated = s ++ ['\n'] :=
  ⟨quoteIdentifier t.name ++ " (\n".toList ++ Column.annotatedLines t.columns ++ [')'], by
    simp [annotated]⟩

/-- What stands behind a table has no part in the names that are read off it. -/
theorem namesOn_annotated_append (rest : Text) :
    Outline.namesOn (t.annotated ++ rest) = t.seenNames ++ Outline.namesOn rest := by
  obtain ⟨s, hs⟩ := t.exists_annotated_eq_append_break
  have hnil : Outline.namesOn [] = [] := by decide
  rw [← namesOn_annotated, hs, List.append_assoc, List.singleton_append,
    Outline.namesOn_append_break, Outline.namesOn_append_break, hnil, List.append_nil]

/-- A table without line breaks has no stray names. -/
theorem KeepsToLines.seenNames_eq {t : Table} (h : t.KeepsToLines) : t.seenNames = [t.name] := by
  have hheaders := Outline.headers_annotated_append [] h
  have hnil : Outline.headers [] = [] := by decide
  rw [← namesOn_annotated, ← Outline.map_unquote_headers, ← List.append_nil t.annotated, hheaders,
    hnil]
  exact congrArg (fun name => [name]) (unquote_quoteIdentifier t.name)

end Table

/-! ## Schemas -/

/-- A schema of whose names and types none has a line break. -/
def Schema.KeepsToLines (s : Schema) : Prop :=
  ∀ t ∈ s.tables, t.KeepsToLines

theorem Schema.namesOn_annotated (s : Schema) :
    Outline.namesOn s.annotated = s.tables.flatMap (·.seenNames) := by
  obtain ⟨tables⟩ := s
  induction tables with
  | nil => decide
  | cons t tables ih =>
    have htext : (Schema.mk (t :: tables)).annotated =
        t.annotated ++ (Schema.mk tables).annotated := rfl
    rw [htext, t.namesOn_annotated_append, ih]
    rfl

theorem Schema.KeepsToLines.flatMap_seenNames {s : Schema} (h : s.KeepsToLines) :
    s.tables.flatMap (·.seenNames) = s.tableNames := by
  rw [Schema.tableNames, ← List.flatMap_singleton' (s.tables.map _), List.flatMap_map]
  exact List.flatMap_congr fun t ht => (h t ht).seenNames_eq

/-- The names that are read off a written schema are those of the tables without a line break
in it, with the stray names of a table behind its own. So a table is lost if and only if its
name has a line break, and of a schema without line breaks nothing is lost or made up. -/
theorem Schema.tableNames_annotated (s : Schema) :
    Outline.tableNames s.annotated = distinct (s.tables.flatMap (·.seenNames)) ∧
      (∀ t ∈ s.tables, t.name ∈ Outline.tableNames s.annotated ↔ '\n' ∉ t.name) ∧
      (s.KeepsToLines → Outline.tableNames s.annotated = distinct s.tableNames) := by
  have hnames : Outline.tableNames s.annotated = distinct (s.tables.flatMap (·.seenNames)) := by
    rw [Outline.tableNames_eq, s.namesOn_annotated]
  refine ⟨hnames, fun t ht => ⟨fun hmem => ?_, fun hbreak => ?_⟩, fun h => ?_⟩
  · rw [Outline.tableNames_eq, mem_distinct] at hmem
    exact Outline.break_not_mem_of_mem_namesOn hmem
  · rw [hnames, mem_distinct, List.mem_flatMap]
    exact ⟨t, ht, by simp [Table.seenNames, hbreak]⟩
  · rw [hnames, h.flatMap_seenNames]

/-- A column is taken for a table, and a table is lost. -/
example :
    let column : Column := ⟨"x\ny (".toList, "INT".toList, 0, true, false, []⟩
    Outline.tableNames (Schema.mk [⟨"a".toList, [column]⟩, ⟨"b\nc".toList, []⟩]).annotated =
      ["a".toList, "y".toList] := by
  decide

end AskSql
