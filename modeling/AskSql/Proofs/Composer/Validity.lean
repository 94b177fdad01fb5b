import AskSql.Database.Run
import AskSql.Proofs.Composer.Confinement
import AskSql.Proofs.Composer.Pieces
import AskSql.Proofs.Database.Reading

/-!
# When the database can read a composed statement

A name that is a plain identifier stands bare in a composed statement, whether or not the grammar
of the database keeps the word for itself. The words that are kept depend on the place: those that
begin an operand, such as `CURRENT_DATE`, are names after `FROM` and `JOIN` and behind a dot, but
not in front of one.

`compose_read_iff_isSayable` : a composed statement is read as the query that it stands for if
each name can be written where it stands (`Select.IsSayable`), and not run at all otherwise. Where
all names can, the pieces are read part by part. At the first name that cannot, the reader stops.
-/

namespace AskSql

open Text Database Reader Grammar Rules

/-! ## Names that can be said -/

/-- A name can be written in a place that keeps the given words: it is none of them, or stands
between quotes and holds no zero character. -/
def Database.IsSayable (words : List String) (name : Text) : Prop :=
  if isPlainIdentifier name then (Token.word name).isAmong words = false else '\x00' ∉ name

/-- A column name can be written, with its table if it has one. -/
structure ColumnName.IsSayable (c : ColumnName) : Prop where
  table : ∀ t ∈ c.table, Database.IsSayable (reserved ++ operandWords) t
  column : Database.IsSayable reserved c.column

/-- All names in a statement can be written where they stand. -/
structure Select.IsSayable (q : Select) : Prop where
  projection : ∀ t ∈ q.projection.tables, Database.IsSayable (reserved ++ operandWords) t
  source : Database.IsSayable reserved q.source
  join : ∀ j ∈ q.join?, Database.IsSayable reserved j.table ∧ j.on.left.IsSayable ∧
    j.on.right.IsSayable

instance (words : List String) (name : Text) : Decidable (Database.IsSayable words name) :=
  inferInstanceAs (Decidable
    (if isPlainIdentifier name then (Token.word name).isAmong words = false else '\x00' ∉ name))

instance (c : ColumnName) : Decidable c.IsSayable :=
  decidable_of_iff (_ ∧ _) ⟨fun h => ⟨h.1, h.2⟩, fun h => ⟨h.table, h.column⟩⟩

instance (q : Select) : Decidable q.IsSayable :=
  decidable_of_iff (_ ∧ _ ∧ _)
    ⟨fun h => ⟨h.1, h.2.1, h.2.2⟩, fun h => ⟨h.projection, h.source, h.join⟩⟩

section

variable {words : List String} {name : Text}

theorem exists_namePieces_of_isSayable (h : Database.IsSayable words name) (gap : Text)
    (ps : List Piece) : ∃ p, namePieces name gap ps = p :: ps ∧ p.token.IsName words name := by
  unfold Database.IsSayable at h
  unfold namePieces
  split at h
  · next hplain => exact ⟨_, if_pos hplain, .inl ⟨rfl, h⟩⟩
  · next hplain => exact ⟨_, by rw [if_neg hplain, if_neg h], .inr ⟨'"', rfl⟩⟩

theorem exists_namePieces_of_not_isSayable (h : ¬ Database.IsSayable words name) (gap : Text)
    (ps : List Piece) : ∃ p qs, namePieces name gap ps = p :: qs ∧ p.token.IsKept words ∧
      (p.token ≠ .wrong → qs = ps) := by
  unfold Database.IsSayable at h
  unfold namePieces
  split at h
  · next hplain =>
    exact ⟨_, ps, if_pos hplain, .inr ⟨name, rfl, by simpa [Piece.ofWord] using h⟩, fun _ => rfl⟩
  · next hplain =>
    rw [Classical.not_not] at h
    exact ⟨_, [], by rw [if_neg hplain, if_pos h], .inl rfl, fun hne => absurd rfl hne⟩

end

/-! ## Columns and conditions -/

section

variable {t c : Text} {next : Piece} {ps : List Piece}

/-- The columns that are compared, as an expression. -/
def Equality.expr (e : Equality) : Expr :=
  .binary (.compare .equal) (.name false (e.left.table.toList ++ [e.left.column]))
    (.name false (e.right.table.toList ++ [e.right.column]))

theorem rules_expr_dot (depth level : Nat) (ps : List Piece) :
    (rules depth).expr level (Piece.ofMark '.' [] :: ps) =
      .error (.stuck (Piece.ofMark '.' [] :: ps)) :=
  rules_expr_of_isEnd (.inr rfl) depth level ps

theorem ColumnName.signed_pieces (r : Rules) (h : ColumnName.IsSayable ⟨some t, c⟩) (gap : Text)
    (hnext : next.token.isSymbol "." = false) (ps : List Piece) :
    r.signed (ColumnName.pieces ⟨some t, c⟩ gap (next :: ps)) =
      .ok (.name false [t, c], next :: ps) := by
  obtain ⟨q, hq, hcolumn⟩ := exists_namePieces_of_isSayable h.column gap (next :: ps)
  obtain ⟨p, hp, htable⟩ := exists_namePieces_of_isSayable (h.table t rfl) []
    (Piece.ofMark '.' [] :: q :: next :: ps)
  simp only [pieces, hq, hp]
  exact signed_of_isName r htable rfl hcolumn hnext ps

theorem ColumnName.stops_signed_pieces (depth : Nat) (h : ¬ ColumnName.IsSayable ⟨some t, c⟩)
    (gap : Text) (ps : List Piece) :
    Stops (rules depth).signed (ColumnName.pieces ⟨some t, c⟩ gap ps) := by
  by_cases htable : Database.IsSayable (reserved ++ operandWords) t
  · have hcolumn : ¬ Database.IsSayable reserved c := fun hc =>
      h ⟨fun _ ht => Option.some.inj ht ▸ htable, hc⟩
    obtain ⟨q, qs, hq, hkept, -⟩ := exists_namePieces_of_not_isSayable hcolumn gap ps
    obtain ⟨p, hp, hname⟩ := exists_namePieces_of_isSayable htable []
      (Piece.ofMark '.' [] :: q :: qs)
    simp only [pieces, hq, hp]
    exact stops_signed_of_column _ hname rfl hkept qs
  · obtain ⟨p, qs, hp, hkept, hqs⟩ := exists_namePieces_of_not_isSayable htable []
      (Piece.ofMark '.' [] :: namePieces c gap ps)
    simp only [pieces, hp]
    exact stops_signed (rules_expr_dot depth) rfl hkept hqs

/-- A condition between columns of tables. -/
structure Equality.IsQualified (e : Equality) : Prop where
  left : e.left.table.isSome
  right : e.right.table.isSome

variable {e : Equality}

theorem Equality.expression_pieces (he : e.IsQualified) (hleft : e.left.IsSayable)
    (hright : e.right.IsSayable) (hnext : next.token = .symbol [';']) (depth : Nat)
    (ps : List Piece) :
    (rules (depth + 1)).expression 0 (e.pieces (next :: ps)) = .ok (e.expr, next :: ps) := by
  obtain ⟨⟨- | t, c⟩, ⟨- | u, d⟩⟩ := e
  · cases he.left
  · cases he.left
  · cases he.right
  have hend : next.token.IsEnd := .inl hnext
  have hdot : next.token.isSymbol "." = false := by rw [hnext]; rfl
  have hb : (rules depth).expression 5 (ColumnName.pieces ⟨some u, d⟩ [] (next :: ps)) =
      .ok (.name false [u, d], next :: ps) :=
    expression_of_signed _ (ColumnName.signed_pieces _ hright [] hdot ps) hend 5
  have hequals : (Piece.ofMark '=' [' ']).token.isSymbol "." = false := rfl
  have ha := ColumnName.signed_pieces (rules (depth + 1)) hleft [' '] hequals
    (ColumnName.pieces ⟨some u, d⟩ [] (next :: ps))
  exact expression_of_equality _ ha rfl hb hend

theorem Equality.stops_expression_pieces (he : e.IsQualified)
    (h : ¬ (e.left.IsSayable ∧ e.right.IsSayable)) (depth : Nat) (ps : List Piece) :
    Stops ((rules (depth + 1)).expression 0) (e.pieces ps) := by
  obtain ⟨⟨- | t, c⟩, ⟨- | u, d⟩⟩ := e
  · cases he.left
  · cases he.left
  · cases he.right
  by_cases hleft : ColumnName.IsSayable ⟨some t, c⟩
  · have hright : ¬ ColumnName.IsSayable ⟨some u, d⟩ := fun hright => h ⟨hleft, hright⟩
    have hequals : (Piece.ofMark '=' [' ']).token.isSymbol "." = false := rfl
    have ha := ColumnName.signed_pieces (rules (depth + 1)) hleft [' '] hequals
      (ColumnName.pieces ⟨some u, d⟩ [] ps)
    have hb : Stops ((rules depth).expression 5) (ColumnName.pieces ⟨some u, d⟩ [] ps) :=
      stops_expression _ (ColumnName.stops_signed_pieces depth hright [] ps) 5
    exact stops_expression_of_right _ ha rfl hb
  · exact stops_expression _ (ColumnName.stops_signed_pieces (depth + 1) hleft [' '] _) 0

/-! ## Items -/

/-- What a projection takes from each row. -/
def Projection.items : Projection → List Item
  | .everything => [.all]
  | .allOf tables => tables.map .allOf
  | .count alias? =>
    [.expr (.call "COUNT".toList (.star none false)) alias? "COUNT(*)".toList]

theorem rules_any_count (hnext : next.token = .word "FROM".toList ∨ next.token = .word "AS".toList)
    (depth : Nat) (ps : List Piece) :
    (rules (depth + 1)).any (countPieces (next :: ps)) =
      .ok (.call "COUNT".toList (.star none false), next :: ps) := by
  have hsigned : (rules depth).signed (countPieces (next :: ps)) =
      .ok (.call "COUNT".toList (.star none false), next :: ps) := by
    refine signed_of_star _ rfl (by decide) rfl rfl rfl ?_ ?_ ps <;>
      rcases hnext with h | h <;> rw [h] <;> decide
  exact expression_of_follows _ hsigned hnext 0

/-- The pieces of a projection are read as its items, up to the word `FROM`. -/
theorem commaSeparated_allOfPieces (r : Rules) {tables : List Text} (hne : tables ≠ [])
    (h : ∀ t ∈ tables, Database.IsSayable (reserved ++ operandWords) t)
    (hnext : next.token.isSymbol "," = false) {fuel : Nat} (hfuel : tables.length ≤ fuel)
    (ps : List Piece) :
    commaSeparated r.item fuel (allOfPieces tables (next :: ps)) =
      .ok (tables.map .allOf, next :: ps) := by
  induction tables generalizing fuel with
  | nil => exact absurd rfl hne
  | cons t tables ih =>
    obtain ⟨fuel, rfl⟩ : ∃ n, fuel = n + 1 := ⟨fuel - 1, by simp at hfuel; omega⟩
    have ht := h t List.mem_cons_self
    cases tables with
    | nil =>
      obtain ⟨p, hp, hname⟩ := exists_namePieces_of_isSayable ht []
        (.ofMark '.' [] :: .ofMark '*' [' '] :: next :: ps)
      simp only [allOfPieces, hp]
      exact commaSeparated_last (item_of_isName r hname rfl rfl (next :: ps)) hnext fuel
    | cons u tables =>
      have hrest := ih (List.cons_ne_nil u tables) (fun v hv => h v (List.mem_cons_of_mem t hv))
        (by simpa using hfuel)
      obtain ⟨p, hp, hname⟩ := exists_namePieces_of_isSayable ht []
        (.ofMark '.' [] :: .ofMark '*' [] :: .ofMark ',' [' '] ::
          allOfPieces (u :: tables) (next :: ps))
      simp only [allOfPieces, hp]
      exact commaSeparated_cons (item_of_isName r hname rfl rfl _) rfl hrest

theorem length_le_allOfPieces {tables : List Text}
    (h : ∀ t ∈ tables, Database.IsSayable (reserved ++ operandWords) t) (ps : List Piece) :
    tables.length ≤ (allOfPieces tables ps).length := by
  fun_induction allOfPieces tables ps with
  | case1 ps => exact Nat.zero_le _
  | case2 t ps =>
    obtain ⟨p, hp, -⟩ := exists_namePieces_of_isSayable (h t List.mem_cons_self) []
      (.ofMark '.' [] :: .ofMark '*' [' '] :: ps)
    rw [hp]
    simp
  | case3 t u tables ps ih =>
    obtain ⟨p, hp, -⟩ := exists_namePieces_of_isSayable (h t List.mem_cons_self) []
      (.ofMark '.' [] :: .ofMark '*' [] :: .ofMark ',' [' '] :: allOfPieces (u :: tables) ps)
    have hle := ih fun v hv => h v (List.mem_cons_of_mem t hv)
    rw [hp]
    simp only [List.length_cons] at hle ⊢
    omega

theorem exists_allOfPieces_eq (t : Text) (tables : List Text) (ps : List Piece) :
    ∃ rest, allOfPieces (t :: tables) ps = namePieces t [] (.ofMark '.' [] :: rest) := by
  cases tables with
  | nil => exact ⟨_, rfl⟩
  | cons u tables => exact ⟨_, rfl⟩

/-- Where a table is named by a word that is kept, the projection is not read to its end. -/
theorem stops_allOfPieces (depth : Nat) {tables : List Text}
    (h : ¬ ∀ t ∈ tables, Database.IsSayable (reserved ++ operandWords) t) (fuel : Nat)
    (ps : List Piece) :
    Stops (commaSeparated (rules (depth + 1)).item fuel) (allOfPieces tables ps) := by
  induction tables generalizing fuel with
  | nil => simp at h
  | cons t tables ih =>
    by_cases ht : Database.IsSayable (reserved ++ operandWords) t
    · have hrest : ¬ ∀ v ∈ tables, Database.IsSayable (reserved ++ operandWords) v := fun hall =>
        h (List.forall_mem_cons.mpr ⟨ht, hall⟩)
      cases fuel with
      | zero => exact .of_error rfl
      | succ fuel =>
        cases tables with
        | nil => simp at hrest
        | cons u tables =>
          obtain ⟨p, hp, hname⟩ := exists_namePieces_of_isSayable ht []
            (.ofMark '.' [] :: .ofMark '*' [] :: .ofMark ',' [' '] :: allOfPieces (u :: tables) ps)
          simp only [allOfPieces, hp]
          exact stops_commaSeparated_cons (item_of_isName _ hname rfl rfl _) rfl (ih hrest fuel)
    · have hstops (rest : List Piece) :
          Stops (rules (depth + 1)).item (namePieces t [] (.ofMark '.' [] :: rest)) := by
        obtain ⟨p, qs, hp, hkept, hqs⟩ := exists_namePieces_of_not_isSayable ht []
          (.ofMark '.' [] :: rest)
        rw [hp]
        refine stops_item _ hkept ?_
        exact stops_expression _ (stops_signed (rules_expr_dot depth) rfl hkept hqs) 0
      obtain ⟨rest, hrest⟩ := exists_allOfPieces_eq t tables ps
      exact hrest ▸ stops_commaSeparated (hstops rest) fuel

theorem called_of_from (hnext : next.token = .word "FROM".toList) (ps : List Piece) :
    called (next :: ps) = .ok (none, next :: ps) := by
  have has : next.token.isKeyword "AS" = false := by rw [hnext]; decide
  have hbare : (looseNameOf? (reserved ++ joining ++ ["INDEXED"]) next.token).isSome = false := by
    rw [hnext]
    decide
  have hnone : seesBareName (next :: ps) = .ok (false, next :: ps) := by
    rw [seesBareName_cons, hbare]
  simp [called, has, hnone]

theorem called_of_as {as : Piece} (has : as.token = .word "AS".toList)
    (hnext : next.token.IsName reserved t) (ps : List Piece) :
    called (as :: next :: ps) = .ok (some t, ps) := by
  have hkeyword : as.token.isKeyword "AS" = true := by rw [has]; decide
  simp [called, hkeyword, name_cons hnext]

/-- A count, with what it is called. -/
theorem list_item_countPieces {label : Option Text} {q : Piece} {qs : List Piece}
    (hnext : next.token = .word "FROM".toList ∨ next.token = .word "AS".toList)
    (hcalled : called (next :: ps) = .ok (label, q :: qs)) (hq : q.token.isSymbol "," = false)
    (depth : Nat) :
    list (rules (depth + 1)).item (countPieces (next :: ps)) =
      .ok ((Projection.count label).items, q :: qs) := by
  have hpieces : countPieces (next :: ps) = countPieces [] ++ next :: ps := rfl
  have hitem := item_of_any (rules (depth + 1)) rfl rfl hpieces (rules_any_count hnext depth ps)
    hcalled
  exact commaSeparated_last hitem hq _

/-- A projection is read as its items, up to the word `FROM`. -/
theorem Projection.list_item_pieces {projection : Projection} (hnames : projection.NamesTable)
    (halias : ∀ name, projection = .count (some name) → name = Composer.countAlias)
    (h : ∀ t ∈ projection.tables, Database.IsSayable (reserved ++ operandWords) t)
    (hnext : next.token = .word "FROM".toList) (depth : Nat) (ps : List Piece) :
    list (rules (depth + 1)).item (projection.pieces (next :: ps)) =
      .ok (projection.items, next :: ps) := by
  have hcomma : next.token.isSymbol "," = false := by rw [hnext]; rfl
  match projection with
  | .everything => exact commaSeparated_last (item_of_star _ rfl (next :: ps)) hcomma _
  | .allOf tables =>
    have hne : tables ≠ [] := fun hnil => hnames (hnil ▸ rfl)
    have hlength := length_le_allOfPieces h (next :: ps)
    exact commaSeparated_allOfPieces _ hne h hcomma (Nat.le_succ_of_le hlength) ps
  | .count none =>
    exact list_item_countPieces (.inl hnext) (called_of_from hnext ps) hcomma depth
  | .count (some name) =>
    obtain rfl := halias name rfl
    have hname : (Piece.ofWord Composer.countAlias [' ']).token.IsName reserved
        Composer.countAlias := .inl ⟨rfl, by decide⟩
    exact list_item_countPieces (.inr rfl) (called_of_as rfl hname (next :: ps)) hcomma depth

/-- The first piece of a projection is no word that says which rows count. -/
theorem Projection.exists_pieces_eq_cons {projection : Projection}
    (hnames : projection.NamesTable)
    (h : ∀ t ∈ projection.tables, Database.IsSayable (reserved ++ operandWords) t)
    (ps : List Piece) : ∃ q qs, projection.pieces ps = q :: qs ∧
      q.token.isKeyword "DISTINCT" = false ∧ q.token.isKeyword "ALL" = false := by
  match projection with
  | .everything => exact ⟨_, _, rfl, rfl, rfl⟩
  | .allOf [] => exact absurd rfl hnames
  | .allOf (t :: tables) =>
    obtain ⟨rest, hrest⟩ := exists_allOfPieces_eq t tables ps
    obtain ⟨q, hq, hname⟩ := exists_namePieces_of_isSayable (h t List.mem_cons_self) []
      (.ofMark '.' [] :: rest)
    exact ⟨q, _, hrest.trans hq, hname.isKeyword_eq (by decide), hname.isKeyword_eq (by decide)⟩
  | .count none => exact ⟨_, _, rfl, by decide, by decide⟩
  | .count (some name) => exact ⟨_, _, rfl, by decide, by decide⟩

end

/-! ## Sources -/

/-- What the composer says of its statements. -/
structure Select.IsComposed (q : Select) : Prop where
  namesTable : q.projection.NamesTable
  counted : ∀ name, q.projection = .count (some name) → name = Composer.countAlias
  qualified : ∀ j ∈ q.join?, j.on.IsQualified

/-- The sources of a statement. -/
def Select.sources (q : Select) : List Joined :=
  .joined {} (.table none q.source) none none [] ::
    match q.join? with
    | some j => [.joined {} (.table none j.table) none (some j.on.expr) []]
    | none => []

section

variable {q : Select}

theorem Select.sources_pieces (hq : q.IsComposed) (h : q.IsSayable) (depth : Nat) :
    (rules (depth + 3)).sources q.sourcePieces = .ok (q.sources, [.ofMark ';' []]) := by
  have hend : (Piece.ofMark ';' []).token.IsEnd := .inl rfl
  rcases q with ⟨projection, source, - | j⟩
  · obtain ⟨p, hp, hname⟩ := exists_namePieces_of_isSayable h.source [] [.ofMark ';' []]
    simp only [sourcePieces, hp]
    exact moreSources_first _ hname (.inl rfl) (moreSources_of_isEnd _ hend _ [])
  · obtain ⟨htable, hleft, hright⟩ := h.join j rfl
    obtain ⟨t, ht, htable⟩ := exists_namePieces_of_isSayable htable [' ']
      (.ofWord "ON".toList [' '] :: j.on.pieces [.ofMark ';' []])
    obtain ⟨p, hp, hname⟩ :=
      exists_namePieces_of_isSayable h.source [' '] (j.pieces [.ofMark ';' []])
    have hon := Equality.expression_pieces (hq.qualified j rfl) hleft hright
      (rfl : (Piece.ofMark ';' []).token = _) depth []
    have hpieces : sourcePieces ⟨projection, source, some j⟩ = p :: .ofWord "JOIN".toList [' '] ::
        t :: .ofWord "ON".toList [' '] :: j.on.pieces [.ofMark ';' []] :=
      hp.trans (by rw [Join.pieces, ht])
    rw [hpieces]
    refine moreSources_first _ hname (.inr rfl) ?_
    exact moreSources_join _ rfl htable rfl hon hend

theorem Select.stops_sources_pieces (hq : q.IsComposed) (depth : Nat)
    (h : ¬ (Database.IsSayable reserved q.source ∧ ∀ j ∈ q.join?,
      Database.IsSayable reserved j.table ∧ j.on.left.IsSayable ∧ j.on.right.IsSayable)) :
    Stops (rules (depth + 3)).sources q.sourcePieces := by
  by_cases hsource : Database.IsSayable reserved q.source
  · rcases q with ⟨projection, source, - | j⟩
    · exact absurd ⟨hsource, fun j hj => absurd hj (by simp)⟩ h
    · obtain ⟨p, hp, hname⟩ :=
        exists_namePieces_of_isSayable hsource [' '] (j.pieces [.ofMark ';' []])
      have hpieces : sourcePieces ⟨projection, source, some j⟩ =
          p :: j.pieces [.ofMark ';' []] := hp
      rw [hpieces]
      refine stops_moreSources_first _ hname rfl ?_
      by_cases htable : Database.IsSayable reserved j.table
      · have hon : ¬ (j.on.left.IsSayable ∧ j.on.right.IsSayable) := fun hon =>
          h ⟨hsource, fun k hk => Option.some.inj hk ▸ ⟨htable, hon⟩⟩
        obtain ⟨t, ht, htable⟩ := exists_namePieces_of_isSayable htable [' ']
          (.ofWord "ON".toList [' '] :: j.on.pieces [.ofMark ';' []])
        rw [Join.pieces, ht]
        refine stops_moreSources_join _ rfl htable rfl ?_ _
        exact Equality.stops_expression_pieces (hq.qualified j rfl) hon depth _
      · obtain ⟨t, us, ht, hkept, -⟩ := exists_namePieces_of_not_isSayable htable [' ']
          (.ofWord "ON".toList [' '] :: j.on.pieces [.ofMark ';' []])
        rw [Join.pieces, ht]
        exact stops_moreSources_join_of_isKept _ rfl hkept _ _
  · have hkept (gap : Text) (ps : List Piece) :
        Stops (rules (depth + 3)).sources (namePieces q.source gap ps) := by
      obtain ⟨p, us, hp, hkept, -⟩ := exists_namePieces_of_not_isSayable hsource gap ps
      rw [hp]
      exact stops_moreSources_of_isKept _ hkept _ _
    rcases q with ⟨projection, source, - | j⟩
    · exact hkept [] _
    · exact hkept [' '] _

end

/-! ## Statements -/

section

variable {q : Select}

/-- The one selection of a statement. -/
def Select.part (q : Select) : Part :=
  ⟨.select false q.projection.items q.sources none [] none, [], none, none⟩

/-- A statement as a query of the database. -/
def Select.query (q : Select) : Query :=
  .query [] q.part.core [] [] none none

theorem Select.part_pieces (hq : q.IsComposed) (h : q.IsSayable) (depth : Nat) :
    (rules (depth + 3)).part q.pieces = .ok (q.part, [.ofMark ';' []]) := by
  have hitems := Projection.list_item_pieces hq.namesTable hq.counted h.projection
    (rfl : (Piece.ofWord "FROM".toList [' ']).token = _) (depth + 2) q.sourcePieces
  obtain ⟨first, rest, hfirst, hdistinct, hall⟩ := Projection.exists_pieces_eq_cons hq.namesTable
    h.projection (.ofWord "FROM".toList [' '] :: q.sourcePieces)
  have hclauses := clauses_of_from (rules (depth + 3))
    (rfl : (Piece.ofWord "FROM".toList [' ']).token = _) (sources_pieces hq h depth) (.inl rfl)
    false q.projection.items
  rw [pieces, hfirst]
  rw [hfirst] at hitems
  exact part_of_select _ rfl hdistinct hall hitems hclauses

theorem Select.stops_part_of_projection
    (h : ¬ ∀ t ∈ q.projection.tables, Database.IsSayable (reserved ++ operandWords) t)
    (depth : Nat) : Stops (rules (depth + 2)).part q.pieces := by
  obtain ⟨t, tables, ht⟩ : ∃ t tables, q.projection = .allOf (t :: tables) := by
    rcases hq : q.projection with - | ⟨- | ⟨t, tables⟩⟩ | alias?
    · simp [hq, Projection.tables] at h
    · simp [hq, Projection.tables] at h
    · exact ⟨t, tables, rfl⟩
    · simp [hq, Projection.tables] at h
  rw [ht] at h
  have hitems := stops_allOfPieces (depth + 1) h
  obtain ⟨rest, hrest⟩ := exists_allOfPieces_eq t tables
    (.ofWord "FROM".toList [' '] :: q.sourcePieces)
  have hpieces : q.pieces = .ofWord "SELECT".toList [' '] ::
      namePieces t [] (.ofMark '.' [] :: rest) := by
    rw [pieces, ht, ← hrest]
    rfl
  rw [hpieces]
  by_cases hsayable : Database.IsSayable (reserved ++ operandWords) t
  · obtain ⟨p, hp, hname⟩ := exists_namePieces_of_isSayable hsayable [] (.ofMark '.' [] :: rest)
    rw [hp] at hrest ⊢
    refine stops_part_of_items _ rfl (hrest ▸ hitems _ _) fun hword => ?_
    rw [hname.isKeyword_eq (by decide), hname.isKeyword_eq (by decide)] at hword
    exact absurd hword (by decide)
  · obtain ⟨p, us, hp, hkept, hus⟩ :=
      exists_namePieces_of_not_isSayable hsayable [] (.ofMark '.' [] :: rest)
    rw [hp] at hrest ⊢
    refine stops_part_of_items _ rfl (hrest ▸ hitems _ _) fun hword => ?_
    -- what is left behind the word starts with a dot
    rw [hus fun hwrong => by simp [hwrong, Token.isKeyword] at hword]
    exact stops_commaSeparated (.of_error (item_of_dot _ rfl (rules_expr_dot (depth + 2) 0 rest))) _

theorem Select.stops_part (hq : q.IsComposed) (h : ¬ q.IsSayable) (depth : Nat) :
    Stops (rules (depth + 3)).part q.pieces := by
  by_cases hprojection : ∀ t ∈ q.projection.tables,
      Database.IsSayable (reserved ++ operandWords) t
  · have hsources : Stops (rules (depth + 3)).sources q.sourcePieces :=
      stops_sources_pieces hq depth fun hsources => h ⟨hprojection, hsources.1, hsources.2⟩
    have hitems := Projection.list_item_pieces hq.namesTable hq.counted hprojection
      (rfl : (Piece.ofWord "FROM".toList [' ']).token = _) (depth + 2) q.sourcePieces
    obtain ⟨first, rest, hfirst, hdistinct, hall⟩ := Projection.exists_pieces_eq_cons
      hq.namesTable hprojection (.ofWord "FROM".toList [' '] :: q.sourcePieces)
    rw [pieces, hfirst]
    rw [hfirst] at hitems
    refine stops_part_of_clauses _ rfl hdistinct hall hitems ?_
    exact stops_clauses_of_from _ rfl hsources false q.projection.items
  · exact stops_part_of_projection hprojection (depth + 1)

theorem namePieces_ne_nil (name gap : Text) (ps : List Piece) : namePieces name gap ps ≠ [] := by
  fun_cases namePieces name gap ps <;> simp

theorem Projection.pieces_ne_nil {projection : Projection} (hnames : projection.NamesTable)
    (ps : List Piece) : projection.pieces ps ≠ [] := by
  match projection with
  | .everything => exact List.cons_ne_nil _ _
  | .allOf [] => exact absurd rfl hnames
  | .allOf (t :: tables) =>
    obtain ⟨rest, hrest⟩ := exists_allOfPieces_eq t tables ps
    exact fun hnil => namePieces_ne_nil t [] _ (hrest.symm.trans hnil)
  | .count none => exact List.cons_ne_nil _ _
  | .count (some name) => exact List.cons_ne_nil _ _

/-- The rules for a whole statement go as deep as a condition. -/
theorem Select.exists_length_pieces (hq : q.projection.NamesTable) :
    ∃ depth, q.pieces.length + 1 = depth + 3 := by
  have hlength := List.length_pos_iff.mpr
    (Projection.pieces_ne_nil hq (.ofWord "FROM".toList [' '] :: q.sourcePieces))
  refine ⟨q.pieces.length - 2, ?_⟩
  rw [pieces, List.length_cons]
  omega

/-- A statement whose names can all be written is read as the query that it stands for. -/
theorem Select.wholeStatement_pieces (hq : q.IsComposed) (h : q.IsSayable) (free : Naming) :
    wholeStatement free q.pieces = .ok (.query q.query, []) := by
  obtain ⟨depth, hdepth⟩ := exists_length_pieces hq.namesTable
  have hcombined := combined_of_part _ (part_pieces hq h depth) (.inl rfl)
  have hstatement : statement free (rules (q.pieces.length + 1)) q.pieces =
      .ok (.query q.query, [.ofMark ';' []]) := by
    rw [hdepth, pieces, statement_of_select _ free rfl, ← pieces, hcombined]
    rfl
  exact wholeStatement_of_statement hstatement rfl

/-- A statement with a name that cannot be written where it stands is none for the database. -/
theorem Select.exists_wholeStatement_pieces_eq_error (hq : q.IsComposed) (h : ¬ q.IsSayable)
    (free : Naming) : ∃ e, wholeStatement free q.pieces = .error e := by
  obtain ⟨depth, hdepth⟩ := exists_length_pieces hq.namesTable
  have hstops : Stops (statement free (rules (q.pieces.length + 1))) q.pieces := by
    rw [hdepth]
    exact stops_statement _ free rfl (stops_part hq h depth)
  cases hread : wholeStatement free q.pieces with
  | error e => exact ⟨e, rfl⟩
  | ok x => exact absurd hread (wholeStatement_ne_ok_of_stops hstops x)

end

/-! ## Composed statements -/

namespace Composer

theorem isQualified_of_joinCondition? {tables : List Outline.Table} {a b : Text} {e : Equality}
    (h : joinCondition? tables a b = some e) : e.IsQualified := by
  have hbetween {a b : Text} (h : keyBetween? tables a b = some e) : e.IsQualified := by
    obtain ⟨t, -, c, -, key, -, -, rfl⟩ := keyBetween?_eq_some h
    exact ⟨rfl, rfl⟩
  unfold joinCondition? at h
  cases hforward : keyBetween? tables a b with
  | none => exact hbetween (by simpa [hforward] using h)
  | some e' => exact hbetween (hforward.trans (by simpa [hforward] using h))

theorem isQualified_of_mem_join? {tables : List Outline.Table} {intent : Intent} {j : AskSql.Join}
    (h : j ∈ (select tables intent).join?) : j.on.IsQualified := by
  unfold select at h
  split at h
  · cases h
  · cases h
  · split at h
    · cases h
    · next on hon =>
      obtain rfl := Option.some.inj h
      exact isQualified_of_joinCondition? hon

theorem isComposed_statement (request schemaText : Text) :
    (statement request schemaText).IsComposed where
  namesTable := projection_statement_ne_allOf_nil request schemaText
  counted := (drawsOn_statement request schemaText).counted
  qualified j hj := by
    unfold statement at hj
    split at hj
    · cases hj
    · exact isQualified_of_mem_join? hj

end Composer

theorem pieces_compose (request schemaText : Text) :
    Database.pieces (compose request schemaText) =
      (Composer.statement request schemaText).pieces := by
  rw [compose_eq_sql]
  exact Select.pieces_sql (Composer.projection_statement_ne_allOf_nil request schemaText)
    (Composer.hasPlainAlias_statement request schemaText)

/-- A text that cannot be read changes nothing. -/
theorem Database.run_of_wholeStatement_error {db : Database} {sql : Text} {p : Piece}
    {ps : List Piece} {e : Hitch} (hpieces : Database.pieces sql = p :: ps)
    (hp : p.token.isSymbol ";" = false) (he : wholeStatement db.isFree (p :: ps) = .error e) :
    db.run sql = (.error e.error, db) := by
  unfold run
  rw [hpieces]
  simp [runPieces, hp, he]

/-- Whatever the request and the schema text, the statement of the composer draws on the tables
of the schema text, and the database reads it as the query that it stands for, exactly if each
name in it can be written where it stands: a name without quotes is none of the words that the
database keeps there, and one between quotes holds no zero character. Where a name cannot, no
database runs the statement. -/
theorem compose_read_iff_isSayable (request schemaText : Text) :
    let sql := compose request schemaText
    let q := Composer.statement request schemaText
    sql = q.sql ∧ q.DrawsOn (Outline.tables schemaText) ∧
      (q.IsSayable → ∀ free, wholeStatement free (Database.pieces sql) = .ok (.query q.query, [])) ∧
      (¬ q.IsSayable → ∀ db : Database, ∃ e, db.run sql = (.error e, db)) := by
  have hcomposed := Composer.isComposed_statement request schemaText
  have hpieces := pieces_compose request schemaText
  refine ⟨compose_eq_sql request schemaText, Composer.drawsOn_statement request schemaText, ?_, ?_⟩
  · intro h free
    rw [hpieces]
    exact Select.wholeStatement_pieces hcomposed h free
  · intro h db
    obtain ⟨e, he⟩ := Select.exists_wholeStatement_pieces_eq_error hcomposed h db.isFree
    exact ⟨e.error, Database.run_of_wholeStatement_error hpieces rfl he⟩

/-- The table `order` is written without quotes, and no database runs the statement, while the one
about the table `orders` is read. -/
theorem compose_read_iff_isSayable_of_kept_word :
    let order := "order (\n  id INT [PK]\n)\n".toList
    let orders := "orders (\n  id INT [PK]\n)\n".toList
    compose "show every order".toList order = "SELECT * FROM order;".toList ∧
      ¬ (Composer.statement "show every order".toList order).IsSayable ∧
      (∀ db : Database, ∃ e, db.run (compose "show every order".toList order) = (.error e, db)) ∧
      compose "show all orders".toList orders = "SELECT * FROM orders;".toList ∧
      (Composer.statement "show all orders".toList orders).IsSayable ∧
      ∀ free, wholeStatement free (Database.pieces (compose "show all orders".toList orders)) =
        .ok (.query (Composer.statement "show all orders".toList orders).query, []) := by
  intro order orders
  have horder : ¬ (Composer.statement "show every order".toList order).IsSayable := by decide
  have horders : (Composer.statement "show all orders".toList orders).IsSayable := by decide
  exact ⟨by decide, horder, (compose_read_iff_isSayable _ order).2.2.2 horder,
    by decide, horders, (compose_read_iff_isSayable _ orders).2.2.1 horders⟩

end AskSql
