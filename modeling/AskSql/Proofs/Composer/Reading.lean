import AskSql.Proofs.Composer.Tokens

/-!
# Reading statements back

A reader of composed statements that knows them by their tokens only (`Select.read?`). Which
word is a name is told by its place, so a name may be spelled like a keyword, and the value of
the word is the name.

`Select.read?_tokens` : the tokens of a statement read as that statement. So a statement is
told from its text (`Select.sql_eq_iff`), and no name in it can pass for something else.
-/

namespace AskSql

open Text Sql

/-! ## The reader -/

namespace Sql

/-- The tokens behind the expected ones. -/
def skip? (expected tokens : List Token) : Option (List Token) :=
  if expected <+: tokens then some (tokens.drop expected.length) else none

/-- The name at the start and the tokens behind it. -/
def name? : List Token → Option (Text × List Token)
  | .word name _ :: rest => some (name, rest)
  | _ => none

/-- A word without quotes. -/
def bareWord (k : String) : Token := .word k.toList none

end Sql

/-- The column name at the start, with its table if a dot follows the first name. -/
def ColumnName.read? (tokens : List Token) : Option (ColumnName × List Token) := do
  let (first, tokens) ← name? tokens
  match skip? [.symbol ['.']] tokens with
  | none => return (⟨none, first⟩, tokens)
  | some tokens =>
    let (second, tokens) ← name? tokens
    return (⟨some first, second⟩, tokens)

/-- The condition at the start. -/
def Equality.read? (tokens : List Token) : Option (Equality × List Token) := do
  let (left, tokens) ← ColumnName.read? tokens
  let tokens ← skip? [.symbol ['=']] tokens
  let (right, tokens) ← ColumnName.read? tokens
  return (⟨left, right⟩, tokens)

/-- The join at the start. -/
def Join.read? (tokens : List Token) : Option (Join × List Token) := do
  let tokens ← skip? [bareWord "JOIN"] tokens
  let (table, tokens) ← name? tokens
  let tokens ← skip? [bareWord "ON"] tokens
  let (on, tokens) ← Equality.read? tokens
  return (⟨table, on⟩, tokens)

/-- The tables at the start, each with a dot and a star behind it and commas between them. -/
def Projection.readTables? : List Token → Option (List Text × List Token)
  | .word table _ :: .symbol ['.'] :: .symbol ['*'] :: .symbol [','] :: rest =>
    (readTables? rest).map fun (tables, rest) => (table :: tables, rest)
  | .word table _ :: .symbol ['.'] :: .symbol ['*'] :: rest => some ([table], rest)
  | _ => none

/-- The projection at the start. -/
def Projection.read? (tokens : List Token) : Option (Projection × List Token) :=
  match skip? [.symbol ['*']] tokens, skip? countTokens tokens with
  | some tokens, _ => some (.everything, tokens)
  | none, some tokens =>
    match skip? [bareWord "AS"] tokens with
    | none => some (.count none, tokens)
    | some tokens => (name? tokens).map fun (name, tokens) => (.count (some name), tokens)
  | none, none => (readTables? tokens).map fun (tables, tokens) => (.allOf tables, tokens)

/-- The statement that is written with the tokens, if there is one. Blanks do not count. -/
def Select.read? (tokens : List Token) : Option Select := do
  let tokens ← skip? [bareWord "SELECT"] (tokens.filter (!·.isBlank))
  let (projection, tokens) ← Projection.read? tokens
  let tokens ← skip? [bareWord "FROM"] tokens
  let (source, tokens) ← name? tokens
  if tokens = [.semicolon] then
    return ⟨projection, source, none⟩
  else
    let (join, tokens) ← Join.read? tokens
    if tokens = [.semicolon] then return ⟨projection, source, some join⟩ else none

/-! ## Parts -/

namespace Sql

variable {expected tokens : List Token}

@[simp] theorem skip?_append (expected tokens : List Token) :
    skip? expected (expected ++ tokens) = some tokens := by
  simp [skip?]

theorem skip?_eq_none (h : ¬ expected <+: tokens) : skip? expected tokens = none :=
  if_neg h

@[simp] theorem name?_ofName (name : Text) (tokens : List Token) :
    name? (.ofName name :: tokens) = some (name, tokens) := rfl

end Sql

variable {tokens : List Token}

/-- A column name reads back where no dot follows. -/
theorem ColumnName.read?_append (c : ColumnName) (h : tokens.head? ≠ some (.symbol ['.'])) :
    ColumnName.read? (c.tokens ++ tokens) = some (c, tokens) := by
  have hnone : skip? [.symbol ['.']] tokens = none := by
    refine skip?_eq_none ?_
    rintro ⟨rest, rfl⟩
    exact h rfl
  rcases c with ⟨- | table, column⟩
  · simp [ColumnName.read?, ColumnName.tokens, hnone]
  · have hdot := skip?_append [.symbol ['.']] (.ofName column :: tokens)
    simp only [List.singleton_append] at hdot
    simp [ColumnName.read?, ColumnName.tokens, hdot]

theorem ColumnName.filter_tokens (c : ColumnName) : c.tokens.filter (!·.isBlank) = c.tokens := by
  rcases c with ⟨- | table, column⟩ <;> rfl

theorem Equality.filter_tokens (e : Equality) :
    e.tokens.filter (!·.isBlank) = e.left.tokens ++ .symbol ['='] :: e.right.tokens := by
  have hequals : [Token.blank, .symbol ['='], .blank].filter (!·.isBlank) = [.symbol ['=']] := rfl
  rw [tokens, List.filter_append, List.filter_append, hequals, e.left.filter_tokens,
    e.right.filter_tokens, List.append_assoc]
  rfl

theorem Equality.read?_append (e : Equality) (h : tokens.head? ≠ some (.symbol ['.'])) :
    Equality.read? (e.tokens.filter (!·.isBlank) ++ tokens) = some (e, tokens) := by
  have hdot : (.symbol ['='] :: (e.right.tokens ++ tokens)).head? ≠ some (.symbol ['.']) := by
    simp
  have hleft := e.left.read?_append hdot
  have hequals := skip?_append [.symbol ['=']] (e.right.tokens ++ tokens)
  rw [List.singleton_append] at hequals
  rw [filter_tokens, List.append_assoc, List.cons_append, read?, hleft]
  simp only [Option.bind_eq_bind, Option.bind_some, hequals, e.right.read?_append h]
  rfl

theorem Join.read?_append (j : Join) (h : tokens.head? ≠ some (.symbol ['.'])) :
    Join.read? (j.tokens.filter (!·.isBlank) ++ tokens) = some (j, tokens) := by
  have htokens : j.tokens.filter (!·.isBlank) ++ tokens =
      [bareWord "JOIN"] ++ .ofName j.table :: ([bareWord "ON"] ++
        (j.on.tokens.filter (!·.isBlank) ++ tokens)) := by
    simp [Join.tokens, Token.isBlank, Token.ofName, bareWord]
  rw [htokens, read?, skip?_append]
  simp only [Option.bind_eq_bind, Option.bind_some, name?_ofName, skip?_append,
    j.on.read?_append h]
  rfl

theorem Projection.readTables?_append {tables : List Text} (hne : tables ≠ [])
    (h : tokens.head? ≠ some (.symbol [','])) :
    readTables? ((allOf tables).tokens.filter (!·.isBlank) ++ tokens) = some (tables, tokens) := by
  induction tables with
  | nil => exact absurd rfl hne
  | cons t tables ih =>
    cases tables with
    | nil =>
      have htokens : (allOf [t]).tokens.filter (!·.isBlank) ++ tokens =
          .ofName t :: .symbol ['.'] :: .symbol ['*'] :: tokens := rfl
      rw [htokens, Token.ofName, readTables?]
      rintro rest rfl
      exact h rfl
    | cons u tables =>
      have htokens : (allOf (t :: u :: tables)).tokens.filter (!·.isBlank) ++ tokens =
          .ofName t :: .symbol ['.'] :: .symbol ['*'] :: .symbol [','] ::
            ((allOf (u :: tables)).tokens.filter (!·.isBlank) ++ tokens) := by
        simp [Projection.tokens, Token.isBlank, Token.ofName]
      rw [htokens, Token.ofName, readTables?, ih (List.cons_ne_nil u tables)]
      rfl

/-- A projection reads back in front of the word that follows it. -/
theorem Projection.read?_append {p : Projection} (hp : p ≠ .allOf []) (tokens : List Token) :
    Projection.read? (p.tokens.filter (!·.isBlank) ++ bareWord "FROM" :: tokens) =
      some (p, bareWord "FROM" :: tokens) := by
  have hfilter : countTokens.filter (!·.isBlank) = countTokens := rfl
  have hstar (rest : List Token) : skip? [.symbol ['*']] (countTokens ++ rest) = none :=
    skip?_eq_none (by simp [countTokens])
  cases p with
  | everything => rfl
  | allOf tables =>
    rcases tables with - | ⟨t, tables⟩
    · exact absurd rfl hp
    have hcomma : (bareWord "FROM" :: tokens).head? ≠ some (.symbol [',']) := by simp [bareWord]
    have htables := readTables?_append (List.cons_ne_nil t tables) hcomma
    obtain ⟨rest, hrest⟩ : ∃ rest, (allOf (t :: tables)).tokens.filter (!·.isBlank) ++
        bareWord "FROM" :: tokens = .ofName t :: .symbol ['.'] :: rest := by
      cases tables <;> exact ⟨_, rfl⟩
    have hstar : skip? [.symbol ['*']] (.ofName t :: .symbol ['.'] :: rest) = none :=
      skip?_eq_none (by simp [Token.ofName])
    have hcount : skip? countTokens (.ofName t :: .symbol ['.'] :: rest) = none :=
      skip?_eq_none (by simp [countTokens])
    rw [hrest] at htables ⊢
    simp only [read?, hstar, hcount, htables]
    rfl
  | count alias? =>
    cases alias? with
    | none =>
      have hnone : skip? [bareWord "AS"] (bareWord "FROM" :: tokens) = none :=
        skip?_eq_none (by simp [bareWord])
      simp only [read?, Projection.tokens, hfilter, hstar, skip?_append, hnone]
    | some name =>
      have htokens : (Projection.count (some name)).tokens.filter (!·.isBlank) ++
          bareWord "FROM" :: tokens =
            countTokens ++ ([bareWord "AS"] ++ .word name none :: bareWord "FROM" :: tokens) := rfl
      rw [htokens]
      simp only [read?, hstar, skip?_append]
      rfl

/-! ## Statements -/

theorem Select.read?_of_filter_tokens {projection : Projection} (hp : projection ≠ .allOf [])
    (source : Text) {tokens rest : List Token}
    (htokens : tokens.filter (!·.isBlank) = [bareWord "SELECT"] ++
      (projection.tokens.filter (!·.isBlank) ++ bareWord "FROM" :: .ofName source :: rest)) :
    Select.read? tokens =
      if rest = [.semicolon] then some ⟨projection, source, none⟩
      else (Join.read? rest).bind fun (join, rest) =>
        if rest = [.semicolon] then some ⟨projection, source, some join⟩ else none := by
  have hfrom := skip?_append [bareWord "FROM"] (.ofName source :: rest)
  rw [List.singleton_append] at hfrom
  rw [read?, htokens, skip?_append]
  simp only [Option.bind_eq_bind, Option.bind_some, Projection.read?_append hp, hfrom,
    name?_ofName]
  rfl

/-- The tokens of a statement read as that statement, whatever names it has. -/
theorem Select.read?_tokens {q : Select} (hq : q.projection ≠ .allOf []) :
    Select.read? (q.tokens ++ [.semicolon]) = some q := by
  rcases q with ⟨projection, source, - | j⟩
  · have htokens : (Select.tokens ⟨projection, source, none⟩ ++ [Token.semicolon]).filter
        (!·.isBlank) = [bareWord "SELECT"] ++ (projection.tokens.filter (!·.isBlank) ++
          bareWord "FROM" :: .ofName source :: [.semicolon]) := by
      simp [Select.tokens, Token.isBlank, Token.ofName, Token.semicolon, bareWord]
    rw [read?_of_filter_tokens hq source htokens, if_pos rfl]
  · have htokens : (Select.tokens ⟨projection, source, some j⟩ ++ [Token.semicolon]).filter
        (!·.isBlank) = [bareWord "SELECT"] ++ (projection.tokens.filter (!·.isBlank) ++
          bareWord "FROM" :: .ofName source ::
            (j.tokens.filter (!·.isBlank) ++ [.semicolon])) := by
      simp [Select.tokens, Token.isBlank, Token.ofName, Token.semicolon, bareWord]
    have hdot : [Token.semicolon].head? ≠ some (.symbol ['.']) := by simp [Token.semicolon]
    have hjoin := j.read?_append hdot
    have hne : j.tokens.filter (!·.isBlank) ++ [.semicolon] ≠ [.semicolon] := by
      simp [Join.tokens, Token.isBlank]
    rw [read?_of_filter_tokens hq source htokens, if_neg hne, hjoin, Option.bind_some]
    exact if_pos rfl

/-! ## Unambiguity -/

/-- A projection that its text tells : where it is one of columns it names a table, and an alias
is a plain identifier, as it is written without quotes. -/
structure Projection.IsTold (p : Projection) : Prop where
  namesTable : p ≠ .allOf []
  hasPlainAlias : p.HasPlainAlias

/-- A statement is what its text reads as. -/
theorem Select.exists_read?_eq {q : Select} (hq : q.projection.IsTold) :
    ∃ tokens, tokenize .general q.sql = .ok tokens ∧ Select.read? tokens = some q :=
  ⟨_, tokenize_eq_ok_iff.mpr (Select.tokens_sql hq.hasPlainAlias), read?_tokens hq.namesTable⟩

/-- Two statements have one text only if they are the same, whatever names they hold. -/
theorem Select.sql_eq_iff {q r : Select} (hq : q.projection.IsTold) (hr : r.projection.IsTold) :
    q.sql = r.sql ↔ q = r := by
  constructor
  · intro hsql
    obtain ⟨tokens, htokens, hread⟩ := Select.exists_read?_eq hq
    obtain ⟨tokens', htokens', hread'⟩ := Select.exists_read?_eq hr
    rw [hsql, htokens'] at htokens
    obtain rfl := Except.ok.inj htokens
    exact Option.some.inj (hread.symm.trans hread')
  · rintro rfl
    rfl

/-- A dot in a name is told from the dot behind a table, and a join in a name from a join. -/
theorem Select.sql_ne_of_dotted_name :
    let projection : Projection := .allOf ["a.*, b".toList, "c".toList]
    let dotted : Select := ⟨projection, "c".toList,
      some ⟨"d JOIN e".toList, ⟨none, "a.b".toList⟩, ⟨some "\"".toList, []⟩⟩⟩
    let qualified : Select := ⟨projection, "c".toList,
      some ⟨"d JOIN e".toList, ⟨some "a".toList, "b".toList⟩, ⟨some "\"".toList, []⟩⟩⟩
    projection.IsTold ∧ (dotted.sql = qualified.sql ↔ dotted = qualified) ∧
      dotted.sql ≠ qualified.sql := by
  intro projection dotted qualified
  have htold : projection.IsTold := ⟨by decide, trivial⟩
  have hiff := Select.sql_eq_iff (q := dotted) (r := qualified) htold htold
  exact ⟨htold, hiff, fun h => absurd (hiff.mp h) (by decide)⟩

end AskSql
