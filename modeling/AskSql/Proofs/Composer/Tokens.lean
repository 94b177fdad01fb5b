import AskSql.Composer
import AskSql.Proofs.Sql.Lexing
import AskSql.Proofs.Text.Quoted

/-!
# Composed statements and their tokens

A name keeps to itself when a statement is read : whatever it holds, its written form is one
word (`Sql.Tokens.quoteIdentifier`), as long as what comes behind it neither goes on with it nor
starts with a quote. So the tokens of a statement can be told from its parts (`Select.tokens`),
and a hostile name changes the value of one word and nothing else (`Select.tokens_sql`).
-/

namespace AskSql

open Text

namespace Sql

/-! ## Steps -/

/-- The word that a written name is read as. -/
def Token.ofName (name : Text) : Token :=
  .word name (if isPlainIdentifier name then none else some '"')

/-- The characters that come behind a name in a composed statement. -/
def isBoundary (c : Char) : Bool :=
  c ∈ [' ', '.', ',', ';', '(']

/-- A name ends in front of the text. -/
def EndsName (s : Text) : Prop :=
  ∃ c rest, s = c :: rest ∧ isBoundary c = true

section

variable {c : Char} {s : Text}

theorem endsName_cons (hc : isBoundary c = true) (s : Text) : EndsName (c :: s) :=
  ⟨c, s, rfl, hc⟩

theorem isLetter_of_isAsciiLetter (h : isAsciiLetter c = true) : isLetter c = true := by
  have := isAsciiLetter_iff.mp h
  rw [isLetter, if_pos (by omega), h]

theorem continuesName_of_isIdentifierPart (h : isIdentifierPart c = true) :
    Dialect.general.continuesName c = true := by
  simp only [isIdentifierPart, Bool.or_eq_true] at h
  rcases h with (h | h) | h
  · simp [Dialect.general, isLetter_of_isAsciiLetter h]
  · simp [Dialect.general, h]
  · simp [Dialect.general, h]

theorem continuesName_of_isBoundary (h : isBoundary c = true) :
    Dialect.general.continuesName c = false := by
  simp only [isBoundary, decide_eq_true_eq, List.mem_cons, List.not_mem_nil, or_false] at h
  rcases h with rfl | rfl | rfl | rfl | rfl <;> decide

/-- No operator starts with a character of a name. -/
theorem operatorAt?_of_isIdentifierPart (h : isIdentifierPart c = true) :
    operatorAt? .general (c :: s) = none := by
  have hheads : operators.all
      (fun operator => operator.head?.any fun d => !isIdentifierPart d) = true := by decide
  have hslash : "//".toList.isPrefixOf (c :: s) = false := by
    have := ne_of_isIdentifierPart h (d := '/') (by decide)
    simp [List.isPrefixOf, Ne.symm this]
  rw [operatorAt?, hslash, Bool.and_false, if_neg (by decide), List.find?_eq_none]
  intro operator hoperator hmem
  have hhead := List.all_eq_true.mp hheads operator hoperator
  rcases operator with - | ⟨d, operator⟩
  · simp at hhead
  · obtain ⟨rfl, -⟩ : d = c ∧ operator.isPrefixOf s = true := by
      simpa [List.isPrefixOf] using hmem
    simp [h] at hhead

theorem isAsciiDigit_of_isIdentifierStart (h : isIdentifierStart c = true) :
    isAsciiDigit c = false := by
  simp only [isIdentifierStart, Bool.or_eq_true, beq_iff_eq] at h
  rw [← Bool.not_eq_true, isAsciiDigit_iff]
  rcases h with h | rfl
  · have := isAsciiLetter_iff.mp h
    omega
  · decide

/-- A written name does not start with a digit. -/
theorem isAsciiDigit_head_quoteIdentifier (name : Text) :
    ∀ c ∈ (quoteIdentifier name ++ s).head?, isAsciiDigit c = false := by
  by_cases hname : isPlainIdentifier name = true
  · rw [quoteIdentifier_of_plain hname]
    rcases name with - | ⟨c, name⟩
    · simp [isPlainIdentifier] at hname
    · simp only [isPlainIdentifier, Bool.and_eq_true] at hname
      simpa using isAsciiDigit_of_isIdentifierStart hname.1
  · rw [quoteIdentifier_of_not_plain (by simpa using hname)]
    simp [isAsciiDigit]

theorem prefixedStep_of_head (hs : ∀ d ∈ s.head?, d ∉ ['\x27', '"', '&']) :
    prefixedStep .general c s = nameStep .general [c] s := by
  unfold prefixedStep
  split
  · exact absurd (hs '\x27' rfl) (by decide)
  · exact absurd (hs '"' rfl) (by decide)
  · exact absurd (hs '&' rfl) (by decide)
  · rfl

/-- A character that starts an identifier starts a name, unless it belongs to a literal. -/
theorem step_of_isIdentifierStart (h : isIdentifierStart c = true)
    (hs : ∀ d ∈ s.head?, d ∉ ['\x27', '"', '&']) :
    step .general c s = nameStep .general [c] s := by
  have hpart := isIdentifierPart_of_isIdentifierStart h
  have hne (d : Char) (hd : isIdentifierPart d = false) : c ≠ d := ne_of_isIdentifierPart hpart hd
  have hspace : ¬ (c = ' ' ∨ c = '\t' ∨ c = '\n') := by
    rintro (rfl | rfl | rfl) <;> exact absurd hpart (by decide)
  rw [step, if_neg hspace, if_neg (hne '\r' (by decide))]
  split
  · exact prefixedStep_of_head hs
  have hclose : Dialect.general.closingQuote? c = none :=
    if_neg (not_or.mpr ⟨hne '"' (by decide), hne '\x60' (by decide)⟩)
  have hstarts : Dialect.general.startsName c = true := by
    simp only [isIdentifierStart, Bool.or_eq_true] at h
    rcases h with h | h
    · simp [Dialect.general, isLetter_of_isAsciiLetter h]
    · simp [Dialect.general, h]
  rw [if_neg (hne '\x27' (by decide)), hclose]
  simp only [isAsciiDigit_of_isIdentifierStart h, Bool.false_eq_true, hne '.' (by decide),
    hne '-' (by decide), hne '/' (by decide), hne '@' (by decide), hne '#' (by decide), hne '?' (by decide),
    or_self, false_and, if_false, operatorAt?_of_isIdentifierPart hpart, hstarts, if_true]

/-- Doubled quotes are read as the quotes that they stand for. -/
theorem quotedRest?_doubleQuotes (name : Text) (hs : s.head? ≠ some '"') :
    quotedRest? '"' false (doubleQuotes name ++ '"' :: s) =
      some (name, (doubleQuotes name).length + 1) := by
  induction name with
  | nil =>
    rcases s with - | ⟨d, s⟩
    · rfl
    · have hd : d ≠ '"' := by simpa using hs
      simp [doubleQuotes, quotedRest?, hd]
  | cons c name ih =>
    by_cases hc : c = '"'
    · simp [doubleQuotes, hc, quotedRest?, ih, Rest.cons]
    · have hcons : doubleQuotes name ++ '"' :: s ≠ [] := by simp
      obtain ⟨d, rest, hrest⟩ := List.exists_cons_of_ne_nil hcons
      rw [hrest] at ih
      rw [doubleQuotes, if_neg hc, List.cons_append, hrest, quotedRest?, if_neg hc,
        Bool.false_and, if_neg (by decide), ih]
      simp [Rest.cons, Nat.add_comm]

end

/-! ## Names and what stands between them -/

namespace Tokens

variable {s : Text} {ts : List Token}

/-- An identifier is one word. -/
theorem identifier {name : Text} (hname : isPlainIdentifier name = true)
    (hs : EndsName s) (h : Tokens .general s ts) :
    Tokens .general (name ++ s) (.word name none :: ts) := by
  obtain ⟨e, rest, rfl, he⟩ := hs
  rcases name with - | ⟨c, name⟩
  · simp [isPlainIdentifier] at hname
  have hparts := forall_isIdentifierPart hname
  simp only [isPlainIdentifier, Bool.and_eq_true] at hname
  have hhead : ∀ d ∈ (name ++ e :: rest).head?, d ∉ ['\x27', '"', '&'] := by
    intro d hd hquote
    have hd : isIdentifierPart d = true ∨ isBoundary d = true := by
      rcases name with - | ⟨x, name⟩
      · obtain rfl : e = d := by simpa using hd
        exact Or.inr he
      · obtain rfl : x = d := by simpa using hd
        exact Or.inl (hparts x (by simp))
    simp only [List.mem_cons, List.not_mem_nil, or_false] at hquote
    rcases hquote with rfl | rfl | rfl <;> exact absurd hd (by decide)
  have htake : (name ++ e :: rest).takeWhile Dialect.general.continuesName = name := by
    have hname : ∀ d ∈ name, Dialect.general.continuesName d = true := fun d hd =>
      continuesName_of_isIdentifierPart (hparts d (List.mem_cons_of_mem c hd))
    rw [List.takeWhile_append_of_pos hname,
      List.takeWhile_cons_of_neg (by simp [continuesName_of_isBoundary he]), List.append_nil]
  have hstep : step .general c (name ++ e :: rest) = .ok (.word (c :: name) none, name.length) := by
    rw [step_of_isIdentifierStart hname.1 hhead, nameStep, htake]
    simp
  have hdrop : (name ++ e :: rest).drop name.length = e :: rest := List.drop_left
  exact .cons hstep (hdrop.symm ▸ h : Tokens .general ((name ++ e :: rest).drop name.length) ts)

theorem quoted (name : Text) (hs : s.head? ≠ some '"') (h : Tokens .general s ts) :
    Tokens .general ('"' :: doubleQuotes name ++ '"' :: s) (.word name (some '"') :: ts) := by
  have hstep : step .general '"' (doubleQuotes name ++ '"' :: s) =
      .ok (.word name (some '"'), (doubleQuotes name).length + 1) := by
    have hclose : Dialect.general.closingQuote? '"' = some '"' := rfl
    rw [step, if_neg (by decide), if_neg (by decide), if_neg (by decide), if_neg (by decide)]
    simp only [hclose, quotedRest?_doubleQuotes name hs]
  refine .cons hstep ?_
  simpa using h

/-- A written name is one word, whatever the name holds. -/
theorem quoteIdentifier (name : Text) (hs : EndsName s)
    (h : Tokens .general s ts) :
    Tokens .general (quoteIdentifier name ++ s) (.ofName name :: ts) := by
  by_cases hname : isPlainIdentifier name = true
  · rw [quoteIdentifier_of_plain hname, Token.ofName, if_pos hname]
    exact identifier hname hs h
  · have hquote : s.head? ≠ some '"' := by
      obtain ⟨c, rest, rfl, hc⟩ := hs
      rintro ⟨rfl⟩
      exact absurd hc (by decide)
    rw [quoteIdentifier_of_not_plain (by simpa using hname), Token.ofName, if_neg hname]
    simpa using quoted name hquote h

theorem space (h : Tokens .general s ts) : Tokens .general (' ' :: s) (.blank :: ts) :=
  .cons rfl h

/-- A punctuation mark is a token of its own. -/
theorem mark {c : Char} (hc : c ∈ ['(', ')', '*', ',', ';']) (h : Tokens .general s ts) :
    Tokens .general (c :: s) (.symbol [c] :: ts) := by
  refine .cons (n := 0) ?_ h
  simp only [List.mem_cons, List.not_mem_nil, or_false] at hc
  rcases hc with rfl | rfl | rfl | rfl | rfl <;> rfl

/-- A dot is a token of its own where no number starts with it. -/
theorem dot (hs : ∀ c ∈ s.head?, isAsciiDigit c = false) (h : Tokens .general s ts) :
    Tokens .general ('.' :: s) (.symbol ['.'] :: ts) := by
  have hnumber : numberAt ('.' :: s) = (.symbol ['.'], 1) := by
    have hfraction : s.takeWhile isAsciiDigit = [] := by
      rcases s with - | ⟨c, s⟩
      · rfl
      · exact List.takeWhile_cons_of_neg (by simp [hs c rfl])
    have hwhole : ('.' :: s).takeWhile isAsciiDigit = [] :=
      List.takeWhile_cons_of_neg (by decide)
    simp [numberAt, hwhole, hfraction]
  have hstep : step .general '.' s = .ok (.symbol ['.'], 0) := by
    change Except.ok ((numberAt ('.' :: s)).1, (numberAt ('.' :: s)).2 - 1) = _
    rw [hnumber]
    rfl
  exact .cons hstep h

theorem equals (h : Tokens .general s ts) :
    Tokens .general ('=' :: ' ' :: s) (.symbol ['='] :: .blank :: ts) :=
  .cons rfl (.cons rfl h)

/-- A keyword with blanks around it. -/
theorem keyword (k : String) (hk : isPlainIdentifier k.toList = true)
    (h : Tokens .general s ts) :
    Tokens .general (' ' :: (k.toList ++ ' ' :: s))
      (.blank :: .word k.toList none :: .blank :: ts) :=
  .space (.identifier hk (endsName_cons (by decide) _) (.space h))

end Tokens
end Sql

/-! ## Statements -/

open Sql

/-- The tokens of a column name. -/
def ColumnName.tokens (c : ColumnName) : List Token :=
  (match c.table with
    | some table => [.ofName table, .symbol ['.']]
    | none => []) ++ [.ofName c.column]

/-- The tokens of a condition. -/
def Equality.tokens (e : Equality) : List Token :=
  e.left.tokens ++ [.blank, .symbol ['='], .blank] ++ e.right.tokens

/-- The tokens of `COUNT(*)`. -/
def countTokens : List Token :=
  [.word "COUNT".toList none, .symbol ['('], .symbol ['*'], .symbol [')']]

/-- The tokens of a projection. -/
def Projection.tokens : Projection → List Token
  | .everything => [.symbol ['*']]
  | .allOf tables =>
    [.symbol [','], .blank].intercalate
      (tables.map fun t => [.ofName t, .symbol ['.'], .symbol ['*']])
  | .count none => countTokens
  | .count (some name) =>
    countTokens ++ [.blank, .word "AS".toList none, .blank, .word name none]

/-- The tokens of a join. -/
def Join.tokens (j : Join) : List Token :=
  [.blank, .word "JOIN".toList none, .blank, .ofName j.table, .blank, .word "ON".toList none,
    .blank] ++ j.on.tokens

/-- The tokens of a statement, the semicolon at its end left out. -/
def Select.tokens (q : Select) : List Token :=
  [.word "SELECT".toList none, .blank] ++ q.projection.tokens ++
    [.blank, .word "FROM".toList none, .blank, .ofName q.source] ++
    match q.join? with
    | some j => j.tokens
    | none => []

section

variable {s : Text} {ts : List Token}

theorem ColumnName.tokens_append (c : ColumnName)
    (hs : EndsName s) (h : Tokens .general s ts) :
    Tokens .general (c.sql ++ s) (c.tokens ++ ts) := by
  have hcolumn := Tokens.quoteIdentifier c.column hs h
  rcases c with ⟨- | table, column⟩
  · exact hcolumn
  · have hdot := Tokens.dot (isAsciiDigit_head_quoteIdentifier column) hcolumn
    have := Tokens.quoteIdentifier table (endsName_cons (by decide) _) hdot
    simpa [ColumnName.sql, ColumnName.tokens] using this

theorem Equality.tokens_append (e : Equality)
    (hs : EndsName s) (h : Tokens .general s ts) :
    Tokens .general (e.sql ++ s) (e.tokens ++ ts) := by
  have hright := Tokens.space (Tokens.equals (e.right.tokens_append hs h))
  have := e.left.tokens_append (endsName_cons (by decide) _) hright
  simpa [Equality.sql, Equality.tokens] using this

theorem Join.sql_eq (j : Join) :
    j.sql =
      ' ' :: ("JOIN".toList ++ ' ' ::
        (quoteIdentifier j.table ++ ' ' :: ("ON".toList ++ ' ' :: j.on.sql))) := by
  have hsql : j.sql =
      " JOIN ".toList ++ quoteIdentifier j.table ++ " ON ".toList ++ j.on.sql := rfl
  simp [hsql]

theorem Join.tokens_append (j : Join)
    (hs : EndsName s) (h : Tokens .general s ts) :
    Tokens .general (j.sql ++ s) (j.tokens ++ ts) := by
  have hon := Tokens.keyword "ON" (by decide) (j.on.tokens_append hs h)
  have htable := Tokens.quoteIdentifier j.table (endsName_cons (by decide) _) hon
  have := Tokens.keyword "JOIN" (by decide) htable
  simpa [Join.sql_eq, Join.tokens] using this

theorem tokens_count_append (h : Tokens .general s ts) :
    Tokens .general ("COUNT(*)".toList ++ s) (countTokens ++ ts) :=
  .identifier (by decide : isPlainIdentifier "COUNT".toList = true) (endsName_cons (by decide) _)
    (.mark (by decide) (.mark (by decide) (.mark (by decide) h)))

theorem tokens_allOf_append (tables : List Text) (h : Tokens .general s ts) :
    Tokens .general ((Projection.allOf tables).sql ++ s)
      ((Projection.allOf tables).tokens ++ ts) := by
  induction tables with
  | nil => exact h
  | cons t tables ih =>
    have hone {s : Text} {ts : List Token} (h : Tokens .general s ts) :
        Tokens .general (quoteIdentifier t ++ ".*".toList ++ s)
          ([.ofName t, .symbol ['.'], .symbol ['*']] ++ ts) := by
      have hdot := Tokens.dot (by simp [isAsciiDigit]) (.mark (c := '*') (by decide) h)
      simpa using Tokens.quoteIdentifier t (endsName_cons (by decide) _) hdot
    cases tables with
    | nil => exact hone h
    | cons u tables =>
      have := hone (Tokens.mark (c := ',') (by decide) (.space ih))
      have hsql : (Projection.allOf (t :: u :: tables)).sql =
          quoteIdentifier t ++ ".*".toList ++ ", ".toList ++ (Projection.allOf (u :: tables)).sql :=
        rfl
      rw [hsql]
      simpa [Projection.tokens] using this

/-- The alias of a count is written as it stands, so it has to be an identifier. -/
def Projection.HasPlainAlias : Projection → Prop
  | .count (some name) => isPlainIdentifier name = true
  | _ => True

theorem Projection.tokens_append {p : Projection} (hp : p.HasPlainAlias)
    (hs : EndsName s) (h : Tokens .general s ts) :
    Tokens .general (p.sql ++ s) (p.tokens ++ ts) := by
  match p with
  | .everything => exact .mark (by decide) h
  | .allOf tables => exact tokens_allOf_append tables h
  | .count none => exact tokens_count_append h
  | .count (some name) =>
    have halias := Tokens.keyword "AS" (by decide) (.identifier hp hs h)
    have hsql : (Projection.count (some name)).sql = "COUNT(*) AS ".toList ++ name := rfl
    rw [hsql]
    simpa [Projection.tokens] using tokens_count_append halias

/-- A statement is read as the tokens of its parts and one semicolon. -/
theorem Select.tokens_sql {q : Select} (hq : q.projection.HasPlainAlias) :
    Tokens .general q.sql (q.tokens ++ [.semicolon]) := by
  have hend : Tokens .general [';'] [.semicolon] := .cons rfl .nil
  have hsource {s : Text} {ts : List Token}
      (hs : EndsName s) (h : Tokens .general s ts) :
      Tokens .general ("SELECT ".toList ++ q.projection.sql ++ " FROM ".toList ++
          quoteIdentifier q.source ++ s)
        ([.word "SELECT".toList none, .blank] ++ q.projection.tokens ++
          [.blank, .word "FROM".toList none, .blank, .ofName q.source] ++ ts) := by
    have hfrom := Tokens.keyword "FROM" (by decide) (.quoteIdentifier q.source hs h)
    have hprojection := Projection.tokens_append hq (endsName_cons (by decide) _) hfrom
    have hselect := Tokens.identifier (by decide : isPlainIdentifier "SELECT".toList = true)
      (endsName_cons (by decide) _) (.space hprojection)
    simpa using hselect
  rcases q with ⟨projection, source, - | j⟩
  · have hsql : (⟨projection, source, none⟩ : Select).sql = "SELECT ".toList ++ projection.sql ++
        " FROM ".toList ++ quoteIdentifier source ++ [] ++ [';'] := rfl
    rw [hsql]
    simpa [Select.tokens] using hsource (endsName_cons (by decide) _) hend
  · have hsql : (⟨projection, source, some j⟩ : Select).sql = "SELECT ".toList ++ projection.sql ++
        " FROM ".toList ++ quoteIdentifier source ++ j.sql ++ [';'] := rfl
    have hboundary : EndsName (j.sql ++ [';']) := by
      rw [Join.sql_eq]
      exact endsName_cons (by decide) _
    have hjoin := j.tokens_append (endsName_cons (by decide) _) hend
    rw [hsql]
    simpa [Select.tokens] using hsource hboundary hjoin

end

/-! ## One statement -/

theorem ColumnName.semicolon_not_mem_tokens (c : ColumnName) : .semicolon ∉ c.tokens := by
  rcases c with ⟨- | table, column⟩ <;> simp [tokens, Token.semicolon, Token.ofName]

theorem Projection.semicolon_not_mem_tokens (p : Projection) : .semicolon ∉ p.tokens := by
  match p with
  | .everything => simp [tokens, Token.semicolon]
  | .count none => simp [tokens, countTokens, Token.semicolon]
  | .count (some name) => simp [tokens, countTokens, Token.semicolon]
  | .allOf tables =>
    induction tables with
    | nil => simp [tokens]
    | cons t tables ih =>
      cases tables with
      | nil => simp [tokens, Token.semicolon, Token.ofName]
      | cons u tables =>
        simp only [tokens, List.map_cons, List.intercalate_cons_cons, List.mem_append] at ih ⊢
        rintro ((h | h) | h)
        · simp [Token.semicolon, Token.ofName] at h
        · simp [Token.semicolon] at h
        · exact ih h

theorem Select.semicolon_not_mem_tokens (q : Select) : .semicolon ∉ q.tokens := by
  have hprojection := q.projection.semicolon_not_mem_tokens
  rcases q with ⟨projection, source, - | ⟨table, left, right⟩⟩
  · simp_all [tokens, Token.semicolon, Token.ofName]
  · have hleft := left.semicolon_not_mem_tokens
    have hright := right.semicolon_not_mem_tokens
    simp_all [tokens, Join.tokens, Equality.tokens, Token.semicolon, Token.ofName]

theorem Composer.hasPlainAlias_select (tables : List Outline.Table) (intent : Intent) :
    (select tables intent).projection.HasPlainAlias := by
  have hcount (wantsCount : Bool) {p : Projection} (hp : p.HasPlainAlias) :
      (if wantsCount then .count (some countAlias) else p).HasPlainAlias := by
    have halias : isPlainIdentifier countAlias = true := by decide
    cases wantsCount
    · exact hp
    · exact halias
  unfold select
  split
  · unfold singleTable
    cases intent.wantsCount <;> trivial
  · exact hcount _ trivial
  · split
    · exact hcount _ trivial
    · exact hcount _ trivial

/-- The statement that the composer writes. -/
def Composer.statement (request schemaText : Text) : Select :=
  if isBlankText request then singleTable placeholderTable false none
  else
    let tables := Outline.tables schemaText
    select tables (Intent.detect request tables)

theorem compose_eq_sql (request schemaText : Text) :
    compose request schemaText = (Composer.statement request schemaText).sql := by
  unfold compose Composer.statement
  split <;> rfl

theorem Composer.hasPlainAlias_statement (request schemaText : Text) :
    (statement request schemaText).projection.HasPlainAlias := by
  unfold statement
  split
  · trivial
  · exact hasPlainAlias_select _ _

/-- Whatever the request and the schema text, what the composer writes is a statement whose
alias, if it has one, is an identifier. -/
theorem exists_compose_eq_sql (request schemaText : Text) :
    ∃ q : Select, q.projection.HasPlainAlias ∧ compose request schemaText = q.sql :=
  ⟨_, Composer.hasPlainAlias_statement request schemaText, compose_eq_sql request schemaText⟩

end AskSql
