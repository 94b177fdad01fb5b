import AskSql.Composer
import AskSql.Proofs.Schema.TableNames
import AskSql.Proofs.Text.Replacing

/-!
# Line breaks of schema text

Schema text is read alike whether its lines end with a line break or with a carriage return and a
line break, be it written by the library or malformed, with quotes or parentheses that are never
closed (`compose_withReturns`).

A carriage return is no quote, no parenthesis and no line break, so what a scanner finds in a text
with carriage returns is what it finds without them, at the place where that stands now : each
scanner commutes with `withReturns`. The carriage returns that reach a header or a column line
stand at the end of the line, where a header has been read already and a column line is trimmed.
-/

namespace AskSql

namespace Text

/-- A text with a carriage return in front of every line break. -/
def withReturns (s : Text) : Text :=
  replaceAll "\n".toList "\r\n".toList s

variable {p : Char → Bool} {c : Char}

theorem withReturns_nil : withReturns [] = [] := rfl

/-- A carriage return comes in front of a line break. -/
theorem withReturns_cons_break (s : Text) :
    withReturns ('\n' :: s) = '\r' :: '\n' :: withReturns s :=
  replaceAll_append (List.cons_ne_nil '\n' []) _ s

/-- Any other character stays as it is. -/
theorem withReturns_cons (h : c ≠ '\n') (s : Text) : withReturns (c :: s) = c :: withReturns s := by
  refine replaceAll_cons ?_ _
  simpa using Ne.symm h

theorem withReturns_of_not_mem {s : Text} (h : '\n' ∉ s) : withReturns s = s :=
  replaceAll_eq_self (by simpa [List.singleton_infix_iff] using h) _

/-- The carriage returns of a text stand each in front of its line break. -/
theorem withReturns_append_break (line t : Text) :
    withReturns (line ++ '\n' :: t) = withReturns line ++ '\r' :: '\n' :: withReturns t := by
  induction line with
  | nil => exact withReturns_cons_break t
  | cons c line ih =>
    by_cases hc : c = '\n'
    · rw [hc, List.cons_append, withReturns_cons_break, ih, withReturns_cons_break]
      rfl
    · rw [List.cons_append, withReturns_cons hc, ih, withReturns_cons hc, List.cons_append]

/-! ## Scanners of texts -/

section While

variable (hbreak : p '\n' = false) (hreturn : p '\r' = false)
include hbreak hreturn

/-- What is taken up to a line break is the same. -/
theorem takeWhile_withReturns (s : Text) : (withReturns s).takeWhile p = s.takeWhile p := by
  induction s with
  | nil => rfl
  | cons c s ih =>
    by_cases hc : c = '\n'
    · subst hc
      simp [withReturns_cons_break, hbreak, hreturn]
    · simp only [withReturns_cons hc, List.takeWhile_cons, ih]

theorem dropWhile_withReturns (s : Text) :
    (withReturns s).dropWhile p = withReturns (s.dropWhile p) := by
  induction s with
  | nil => rfl
  | cons c s ih =>
    by_cases hc : c = '\n'
    · subst hc
      simp [withReturns_cons_break, hbreak, hreturn]
    · simp only [withReturns_cons hc, List.dropWhile_cons, ih]
      split
      · rfl
      · rw [withReturns_cons hc]

end While

/-- The parentheses of a text are where they are without carriage returns. -/
theorem enclosedFrom_withReturns (inside : Bool) (depth : Nat) (s : Text) :
    enclosedFrom inside depth (withReturns s) = withReturns (enclosedFrom inside depth s) := by
  induction s generalizing inside depth with
  | nil => rfl
  | cons c s ih =>
    by_cases hc : c = '\n'
    · subst hc
      cases inside <;> simp [withReturns_cons_break, enclosedFrom, ih]
    by_cases hquote : c = '"'
    · simp [withReturns_cons, enclosedFrom, hquote, ih]
    cases inside with
    | true => simp [withReturns_cons hc, enclosedFrom, hquote, ih]
    | false =>
      by_cases hopen : c = '('
      · simp [withReturns_cons, enclosedFrom, hopen, ih]
      by_cases hclose : c = ')'
      · cases depth <;> simp [withReturns_cons, withReturns_nil, enclosedFrom, hclose, ih]
      · simp [withReturns_cons hc, enclosedFrom, hquote, hopen, hclose, ih]

end Text

namespace Outline

open Text

/-! ## Headers -/

theorem quotedName?_withReturns (s : Text) :
    quotedName? (withReturns s) =
      (quotedName? s).map fun (name, rest) => (name, withReturns rest) := by
  fun_induction quotedName? s with
  | case1 s ih => simp [withReturns_cons, quotedName?, ih, Function.comp_def]
  | case2 s hne =>
    rw [withReturns_cons (by decide)]
    cases s with
    | nil => rfl
    | cons d s =>
      have hd : d ≠ '"' := by
        rintro rfl
        exact hne s rfl rfl
      by_cases hbreak : d = '\n'
      · simp [hbreak, withReturns_cons_break, quotedName?]
      · simp [withReturns_cons hbreak, quotedName?, hd]
  | case3 s => simp [withReturns_cons_break, quotedName?]
  | case4 c s _ hquote hbreak ih =>
    simp [withReturns_cons hbreak, quotedName?, hquote, hbreak, ih, Function.comp_def]
  | case5 => rfl

theorem headerName?_withReturns (s : Text) :
    headerName? (withReturns s) =
      (headerName? s).map fun (name, rest) => (name, withReturns rest) := by
  have hbreak : isBareNameChar '\n' = false := by decide
  have hreturn : isBareNameChar '\r' = false := by decide
  cases s with
  | nil => rfl
  | cons c s =>
    by_cases hquote : c = '"'
    · subst hquote
      rw [withReturns_cons (by decide), headerName?, headerName?, quotedName?_withReturns]
      simp [Function.comp_def]
    · obtain ⟨d, t, hreturns, hd⟩ : ∃ d t, withReturns (c :: s) = d :: t ∧ d ≠ '"' := by
        by_cases hc : c = '\n'
        · exact ⟨_, _, by rw [hc, withReturns_cons_break], by decide⟩
        · exact ⟨_, _, withReturns_cons hc s, hquote⟩
      rw [headerName?_of_ne hquote, hreturns, headerName?_of_ne hd, ← hreturns,
        takeWhile_withReturns hbreak hreturn, dropWhile_withReturns hbreak hreturn]
      cases (c :: s).takeWhile isBareNameChar <;> rfl

/-- A header is read as it is without carriage returns. -/
theorem headerAt?_withReturns (s : Text) :
    headerAt? (withReturns s) =
      (headerAt? s).map fun (name, rest) => (name, withReturns rest) := by
  rw [headerAt?, headerAt?, headerName?_withReturns]
  cases headerName? s with
  | none => rfl
  | some header =>
    -- What opens a table is no line break, so it stands right behind the name in both texts.
    rcases header with ⟨name, - | ⟨c, - | ⟨d, rest⟩⟩⟩
    · rfl
    · by_cases hc : c = '\n'
      · simp [hc, withReturns_cons_break]
      · simp [withReturns_cons hc, withReturns_nil]
    · by_cases hc : c = ' '
      · by_cases hd : d = '('
        · simp [hc, hd, withReturns_cons]
        · by_cases hbreak : d = '\n'
          · simp [hc, hbreak, withReturns_cons, withReturns_cons_break]
          · simp [hc, withReturns_cons, hbreak, hd]
      · by_cases hbreak : c = '\n'
        · simp [hbreak, withReturns_cons_break]
        · simp [withReturns_cons hbreak, hc]

/-- The lines of a text start where they do without carriage returns. -/
theorem lineStarts_withReturns (s : Text) :
    lineStarts (withReturns s) = (lineStarts s).map withReturns := by
  have hafter : afterLineBreaks (withReturns s) = (afterLineBreaks s).map withReturns := by
    induction s with
    | nil => rfl
    | cons c s ih =>
      by_cases hc : c = '\n'
      · subst hc
        simp [withReturns_cons_break, afterLineBreaks, ih]
      · rw [withReturns_cons hc, afterLineBreaks, afterLineBreaks, if_neg hc, if_neg hc, ih]
  rw [lineStarts, lineStarts, hafter, List.map_cons]

/-- The headers of a text are seen with carriage returns as without. -/
theorem headers_withReturns (s : Text) :
    headers (withReturns s) = (headers s).map fun (name, rest) => (name, withReturns rest) := by
  rw [headers, headers, lineStarts_withReturns, List.filterMap_map, List.map_filterMap]
  exact List.filterMap_congr fun start _ => headerAt?_withReturns start

/-! ## Columns -/

/-- A carriage return at the end of a line is trimmed off. -/
theorem column?_append_return (line : Text) : column? (line ++ ['\r']) = column? line := by
  have hstrip : stripColumnLine (line ++ ['\r']) = stripColumnLine line := by
    rw [stripColumnLine, trim_append_blank rfl, stripColumnLine]
  rw [column?, column?, hstrip]

/-- The columns in a body are the same. -/
theorem columns_withReturns (body : Text) : columns (withReturns body) = columns body := by
  induction body using line_induction with
  | last line h => rw [withReturns_of_not_mem h]
  | next line t h ih =>
    have hline : '\n' ∉ line ++ ['\r'] := by simpa using h
    have htext : withReturns (line ++ '\n' :: t) = (line ++ ['\r']) ++ '\n' :: withReturns t := by
      rw [withReturns_append_break, withReturns_of_not_mem h, List.append_assoc]
      rfl
    rw [columns] at ih ⊢
    rw [htext, lines_append_break_of_not_mem hline, List.filterMap_cons, column?_append_return, ih,
      columns, columns, lines_append_break_of_not_mem h, List.filterMap_cons]

/-! ## Tables -/

theorem tables_withReturns (s : Text) : tables (withReturns s) = tables s := by
  simp only [tables, headers_withReturns, List.map_map, Function.comp_def, enclosedBody,
    enclosedFrom_withReturns, columns_withReturns]

theorem tableNames_withReturns (s : Text) : tableNames (withReturns s) = tableNames s := by
  simp only [tableNames, headers_withReturns, List.map_map, Function.comp_def]

end Outline

/-- Carriage returns in front of the line breaks of a schema text change nothing of what is read in
it, and nothing of what is composed from it. -/
theorem compose_withReturns (request schemaText : Text) :
    Outline.tableNames (Text.withReturns schemaText) = Outline.tableNames schemaText ∧
      Outline.tables (Text.withReturns schemaText) = Outline.tables schemaText ∧
      compose request (Text.withReturns schemaText) = compose request schemaText := by
  refine ⟨Outline.tableNames_withReturns _, Outline.tables_withReturns _, ?_⟩
  simp only [compose, Outline.tables_withReturns]

end AskSql
