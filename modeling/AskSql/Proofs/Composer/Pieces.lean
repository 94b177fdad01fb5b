import AskSql.Proofs.Database.Pieces
import AskSql.Select

/-!
# Composed statements and their pieces

The pieces that the database cuts a composed statement into, told from the parts of the statement
(`Select.pieces`). Each name is one piece of its own, unless it holds a zero character, with which
the statement breaks off (`Select.pieces_sql`).
-/

namespace AskSql

open Text Database

/-! ## Pieces of the parts -/

/-- A column name in front of some pieces. -/
def ColumnName.pieces (c : ColumnName) (gap : Text) (ps : List Piece) : List Piece :=
  match c.table with
  | some table => namePieces table [] (.ofMark '.' [] :: namePieces c.column gap ps)
  | none => namePieces c.column gap ps

/-- A condition in front of some pieces. -/
def Equality.pieces (e : Equality) (ps : List Piece) : List Piece :=
  e.left.pieces [' '] (.ofMark '=' [' '] :: e.right.pieces [] ps)

/-- A projection of all columns of some tables in front of some pieces. -/
def allOfPieces : List Text → List Piece → List Piece
  | [], ps => ps
  | [t], ps => namePieces t [] (.ofMark '.' [] :: .ofMark '*' [' '] :: ps)
  | t :: u :: tables, ps =>
    namePieces t [] (.ofMark '.' [] :: .ofMark '*' [] :: .ofMark ',' [' '] ::
      allOfPieces (u :: tables) ps)

/-- A count in front of some pieces. -/
def countPieces (ps : List Piece) : List Piece :=
  .ofWord "COUNT".toList [] :: .ofMark '(' [] :: .ofMark '*' [] :: .ofMark ')' [' '] :: ps

/-- A projection in front of some pieces. -/
def Projection.pieces (ps : List Piece) : Projection → List Piece
  | .everything => .ofMark '*' [' '] :: ps
  | .allOf tables => allOfPieces tables ps
  | .count none => countPieces ps
  | .count (some name) =>
    countPieces (.ofWord "AS".toList [' '] :: .ofWord name [' '] :: ps)

/-- A join in front of some pieces. -/
def Join.pieces (j : Join) (ps : List Piece) : List Piece :=
  .ofWord "JOIN".toList [' '] ::
    namePieces j.table [' '] (.ofWord "ON".toList [' '] :: j.on.pieces ps)

/-- What is selected from, up to the end of the statement. -/
def Select.sourcePieces (q : Select) : List Piece :=
  match q.join? with
  | some j => namePieces q.source [' '] (j.pieces [.ofMark ';' []])
  | none => namePieces q.source [] [.ofMark ';' []]

/-- The pieces of a statement. -/
def Select.pieces (q : Select) : List Piece :=
  .ofWord "SELECT".toList [' '] ::
    q.projection.pieces (.ofWord "FROM".toList [' '] :: q.sourcePieces)

/-! ## Cutting the parts -/

section

variable {c : Char} {s : Text} {ps : List Piece}

theorem startsPiece_cons (hc : isSpace c = false ∧ c ∉ ['-', '/', '\uFEFF']) (s : Text) :
    StartsPiece (c :: s) := by
  simpa [StartsPiece] using hc

theorem startsPiece_quoteIdentifier (name s : Text) :
    StartsPiece (quoteIdentifier name ++ s) := by
  obtain ⟨c, t, heq, hc⟩ := exists_quoteIdentifier_eq_cons name
  rw [heq]
  refine startsPiece_cons ?_ (t ++ s)
  rcases hc with rfl | hc
  · decide
  · have hne (d : Char) (hd : isIdentifierPart d = false) : c ≠ d := ne_of_isIdentifierPart hc hd
    simp [isSpace, hne ' ' (by decide), hne '\t' (by decide), hne '\n' (by decide),
      hne '\x0c' (by decide), hne '\r' (by decide), hne '-' (by decide), hne '/' (by decide),
      hne '\uFEFF' (by decide)]

theorem startsPiece_keyword (k : String) (hk : isPlainIdentifier k.toList = true) (s : Text) :
    StartsPiece (k.toList ++ s) := by
  rw [← quoteIdentifier_of_plain hk]
  exact startsPiece_quoteIdentifier _ s

/-- A keyword with a blank behind it. -/
theorem cuts_keyword (k : String) (hk : isPlainIdentifier k.toList = true)
    (hs : StartsPiece s) (h : Cuts s ps) :
    Cuts (k.toList ++ ' ' :: s) (.ofWord k.toList [' '] :: ps) := by
  exact Cuts.word hk isGap_space hs (Sql.endsName_cons (by decide) s) h

/-- A name with a blank behind it. -/
theorem cuts_name_space (name : Text) (hs : StartsPiece s) (h : Cuts s ps) :
    Cuts (quoteIdentifier name ++ ' ' :: s) (namePieces name [' '] ps) := by
  exact Cuts.name name isGap_space hs (Sql.endsName_cons (by decide) s) h

/-- A name with nothing between it and what comes behind it. -/
theorem cuts_name (name : Text) (hs : StartsPiece s) (hend : Sql.EndsName s) (h : Cuts s ps) :
    Cuts (quoteIdentifier name ++ s) (namePieces name [] ps) :=
  Cuts.name name isGap_nil hs hend h

/-- A mark with nothing between it and what comes behind it. -/
theorem cuts_mark {c : Char} (hc : c ∈ ['(', ')', '*', ',', ';']) (hs : StartsPiece s)
    (h : Cuts s ps) : Cuts (c :: s) (.ofMark c [] :: ps) :=
  Cuts.mark hc isGap_nil hs h

theorem cuts_mark_space {c : Char} (hc : c ∈ ['(', ')', '*', ',', ';']) (hs : StartsPiece s)
    (h : Cuts s ps) : Cuts (c :: ' ' :: s) (.ofMark c [' '] :: ps) := by
  exact Cuts.mark hc isGap_space hs h

theorem ColumnName.startsPiece_sql (c : ColumnName) (s : Text) : StartsPiece (c.sql ++ s) := by
  rcases c with ⟨- | table, column⟩
  · exact startsPiece_quoteIdentifier column s
  · have := startsPiece_quoteIdentifier table ('.' :: (quoteIdentifier column ++ s))
    simpa [ColumnName.sql] using this

/-- A column name in front of a text. -/
theorem ColumnName.cuts_append (c : ColumnName) {gap : Text} (hgap : IsGap gap)
    (hs : StartsPiece s) (hend : Sql.EndsName (gap ++ s)) (h : Cuts s ps) :
    Cuts (c.sql ++ (gap ++ s)) (c.pieces gap ps) := by
  have hcolumn := Cuts.name c.column hgap hs hend h
  rcases c with ⟨- | table, column⟩
  · exact hcolumn
  · have hdot := Cuts.dot (Sql.isAsciiDigit_head_quoteIdentifier column)
      (startsPiece_quoteIdentifier column _) hcolumn
    have := cuts_name table (startsPiece_cons (by decide) _) (Sql.endsName_cons (by decide) _) hdot
    simpa [ColumnName.sql, ColumnName.pieces] using this

theorem Equality.cuts_append (e : Equality) (hs : StartsPiece s) (hend : Sql.EndsName s)
    (h : Cuts s ps) : Cuts (e.sql ++ s) (e.pieces ps) := by
  have hright := e.right.cuts_append isGap_nil hs hend h
  have hequals := Cuts.equals (e.right.startsPiece_sql s) hright
  have := e.left.cuts_append isGap_space (startsPiece_cons (by decide) _)
    (Sql.endsName_cons (by decide) _) hequals
  simpa [Equality.sql, Equality.pieces] using this

theorem Join.cuts_append (j : Join) (hs : StartsPiece s) (hend : Sql.EndsName s)
    (h : Cuts s ps) :
    Cuts ("JOIN".toList ++ ' ' :: (quoteIdentifier j.table ++ ' ' ::
      ("ON".toList ++ ' ' :: (j.on.sql ++ s)))) (j.pieces ps) := by
  have hstart : StartsPiece (j.on.sql ++ s) := by
    have := j.on.left.startsPiece_sql (" = ".toList ++ (j.on.right.sql ++ s))
    simpa [Equality.sql] using this
  have hon := cuts_keyword "ON" (by decide) hstart (j.on.cuts_append hs hend h)
  have htable := cuts_name_space j.table (startsPiece_keyword "ON" (by decide) _) hon
  exact cuts_keyword "JOIN" (by decide) (startsPiece_quoteIdentifier j.table _) htable

/-! ## Projections -/

theorem cuts_count_append (hs : StartsPiece s) (h : Cuts s ps) :
    Cuts ("COUNT(*)".toList ++ ' ' :: s) (countPieces ps) := by
  have hclose := cuts_mark_space (c := ')') (by decide) hs h
  have hstar := cuts_mark (c := '*') (by decide) (startsPiece_cons (by decide) _) hclose
  have hopen := cuts_mark (c := '(') (by decide) (startsPiece_cons (by decide) _) hstar
  exact Cuts.word (by decide : isPlainIdentifier "COUNT".toList = true) isGap_nil
    (startsPiece_cons (by decide) _) (Sql.endsName_cons (by decide) _) hopen

theorem startsPiece_allOf (t : Text) (tables : List Text) (s : Text) :
    StartsPiece ((Projection.allOf (t :: tables)).sql ++ s) := by
  cases tables with
  | nil =>
    have hsql : (Projection.allOf [t]).sql = quoteIdentifier t ++ ".*".toList := rfl
    rw [hsql, List.append_assoc]
    exact startsPiece_quoteIdentifier t _
  | cons u tables =>
    have hsql : (Projection.allOf (t :: u :: tables)).sql =
        quoteIdentifier t ++ ".*".toList ++ ", ".toList ++ (Projection.allOf (u :: tables)).sql :=
      rfl
    rw [hsql, List.append_assoc, List.append_assoc, List.append_assoc]
    exact startsPiece_quoteIdentifier t _

theorem cuts_allOf_append {tables : List Text} (hne : tables ≠ []) (hs : StartsPiece s)
    (h : Cuts s ps) :
    Cuts ((Projection.allOf tables).sql ++ ' ' :: s) (allOfPieces tables ps) := by
  induction tables with
  | nil => exact absurd rfl hne
  | cons t tables ih =>
    -- the table, its dot and the star behind it, in front of what follows the star
    have hone {s : Text} {ps : List Piece} (hstar : Cuts ('*' :: s) ps) :
        Cuts (quoteIdentifier t ++ ".*".toList ++ s) (namePieces t [] (.ofMark '.' [] :: ps)) := by
      have hdot := Cuts.dot (by simp [isAsciiDigit]) (startsPiece_cons (by decide) _) hstar
      have := cuts_name t (startsPiece_cons (by decide) _) (Sql.endsName_cons (by decide) _) hdot
      simpa using this
    cases tables with
    | nil => exact hone (cuts_mark_space (by decide) hs h)
    | cons u tables =>
      have hrest := ih (List.cons_ne_nil u tables)
      have hcomma := cuts_mark_space (c := ',') (by decide)
        (startsPiece_allOf u tables (' ' :: s)) hrest
      have := hone (cuts_mark (by decide) (startsPiece_cons (by decide) _) hcomma)
      have hsql : (Projection.allOf (t :: u :: tables)).sql =
          quoteIdentifier t ++ ".*".toList ++ ", ".toList ++ (Projection.allOf (u :: tables)).sql :=
        rfl
      rw [hsql]
      simpa [allOfPieces] using this

/-- A projection of columns names a table. -/
def Projection.NamesTable (p : Projection) : Prop :=
  p ≠ .allOf []

theorem Projection.startsPiece_sql {p : Projection} (hp : p.NamesTable) (s : Text) :
    StartsPiece (p.sql ++ s) := by
  match p with
  | .everything => exact startsPiece_cons (by decide) s
  | .allOf [] => exact absurd rfl hp
  | .allOf (t :: tables) => exact startsPiece_allOf t tables s
  | .count none => exact startsPiece_cons (by decide) _
  | .count (some name) => exact startsPiece_cons (by decide) _

theorem Projection.cuts_append {p : Projection} (hp : p.NamesTable) (halias : p.HasPlainAlias)
    (hs : StartsPiece s) (h : Cuts s ps) : Cuts (p.sql ++ ' ' :: s) (p.pieces ps) := by
  match p with
  | .everything => exact cuts_mark_space (by decide) hs h
  | .allOf tables => exact cuts_allOf_append (fun hnil => hp (hnil ▸ rfl)) hs h
  | .count none => exact cuts_count_append hs h
  | .count (some name) =>
    have hname := Cuts.word halias isGap_space hs (Sql.endsName_cons (by decide) _) h
    have hstart : StartsPiece (name ++ ([' '] ++ s)) := by
      rw [← quoteIdentifier_of_plain halias]
      exact startsPiece_quoteIdentifier name _
    have has := cuts_keyword "AS" (by decide) hstart hname
    have := cuts_count_append (startsPiece_keyword "AS" (by decide) _) has
    have hsql : (Projection.count (some name)).sql = "COUNT(*) AS ".toList ++ name := rfl
    rw [hsql]
    simpa [Projection.pieces] using this

/-! ## Statements -/

/-- A statement is cut into the pieces of its parts. -/
theorem Select.cuts_sql {q : Select} (hq : q.projection.NamesTable)
    (halias : q.projection.HasPlainAlias) : Cuts q.sql q.pieces := by
  have hend : Cuts [';'] [.ofMark ';' []] := cuts_mark (by decide) (by simp [StartsPiece]) .nil
  have hselect {s : Text} {ps : List Piece} (h : Cuts (quoteIdentifier q.source ++ s) ps) :
      Cuts ("SELECT ".toList ++ q.projection.sql ++ " FROM ".toList ++
          quoteIdentifier q.source ++ s)
        (.ofWord "SELECT".toList [' '] ::
          q.projection.pieces (.ofWord "FROM".toList [' '] :: ps)) := by
    have hfrom := cuts_keyword "FROM" (by decide) (startsPiece_quoteIdentifier q.source s) h
    have hprojection := Projection.cuts_append hq halias (startsPiece_keyword "FROM" (by decide) _)
      hfrom
    have := cuts_keyword "SELECT" (by decide) (Projection.startsPiece_sql hq _) hprojection
    simpa using this
  rcases q with ⟨projection, source, - | j⟩
  · have hsource := cuts_name source (startsPiece_cons (by decide) _)
      (Sql.endsName_cons (by decide) _) hend
    have hsql : (⟨projection, source, none⟩ : Select).sql = "SELECT ".toList ++ projection.sql ++
        " FROM ".toList ++ quoteIdentifier source ++ [] ++ [';'] := rfl
    rw [hsql]
    simpa [Select.pieces, Select.sourcePieces] using hselect hsource
  · have hjoin := j.cuts_append (startsPiece_cons (by decide) _)
      (Sql.endsName_cons (by decide) _) hend
    have hsource := cuts_name_space source (startsPiece_keyword "JOIN" (by decide) _) hjoin
    have hsql : (⟨projection, source, some j⟩ : Select).sql = "SELECT ".toList ++ projection.sql ++
        " FROM ".toList ++ quoteIdentifier source ++ j.sql ++ [';'] := rfl
    rw [hsql, Join.sql_eq]
    simpa [Select.pieces, Select.sourcePieces] using hselect hsource

theorem Select.pieces_sql {q : Select} (hq : q.projection.NamesTable)
    (halias : q.projection.HasPlainAlias) : Database.pieces q.sql = q.pieces :=
  (Select.cuts_sql hq halias).pieces_eq (startsPiece_cons (by decide) _)

end

end AskSql
