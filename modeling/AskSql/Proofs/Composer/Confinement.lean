import AskSql.Proofs.Composer.Reading

/-!
# Names stay in their places

Schema text comes from anywhere and may name a table `x" FROM secrets; --`. In the statement
such a name stands between quotes, which close where the name ends (`Text.Shows`). Outside of
them there are only the characters of the statement's own frame (`Select.shows_body`).

`compose_confined` : whatever the schema text, the composer writes one statement, and reading
it back gives in the places of names only what the schema text declares in those places
(`Select.DrawsOn`), or the placeholder.
-/

namespace AskSql

open Text Sql Composer

/-! ## What is seen of a statement -/

namespace Text

/-- A text that closes its quotes and shows outside of them only what satisfies `p`. -/
structure Shows (p : Char → Bool) (s : Text) : Prop where
  closed : insideAfter false s = false
  seen : ∀ c ∈ unquoted s, p c = true

variable {p : Char → Bool} {s t : Text}

theorem Shows.append (hs : Shows p s) (ht : Shows p t) : Shows p (s ++ t) where
  closed := by rw [insideAfter_append, hs.closed, ht.closed]
  seen c hc := by
    rw [unquoted, unquotedFrom_append, hs.closed] at hc
    exact (List.mem_append.mp hc).elim (hs.seen c) (ht.seen c)

/-- A text without quotes shows all that it is made of. -/
theorem shows_of_forall (hquote : p '"' = false) (h : ∀ c ∈ s, p c = true) : Shows p s := by
  have hs : '"' ∉ s := by
    intro hmem
    simp [h _ hmem] at hquote
  refine ⟨insideAfter_of_not_mem hs, ?_⟩
  rw [unquoted, unquotedFrom_false_of_not_mem hs]
  exact h

/-- A written name shows the characters of an identifier at most. -/
theorem shows_quoteIdentifier (h : ∀ c, isIdentifierPart c = true → p c = true) (name : Text) :
    Shows p (quoteIdentifier name) :=
  ⟨insideAfter_quoteIdentifier name,
    fun c hc => h c (isIdentifierPart_of_mem_unquoted_quoteIdentifier hc)⟩

end Text

/-- The characters of composed statements outside of quotes. -/
def isStatementChar (c : Char) : Bool :=
  isIdentifierPart c || c ∈ [' ', '.', ',', '*', '(', ')', '=']

theorem isStatementChar_of_isIdentifierPart (c : Char) (h : isIdentifierPart c = true) :
    isStatementChar c = true := by
  simp [isStatementChar, h]

/-- A written name, among the characters of statements. -/
theorem shows_name (name : Text) : Shows isStatementChar (quoteIdentifier name) :=
  shows_quoteIdentifier isStatementChar_of_isIdentifierPart name

/-- The text of the frame of a statement. -/
theorem shows_frame {s : Text} (h : s.all isStatementChar = true) : Shows isStatementChar s :=
  shows_of_forall (by decide) (List.all_eq_true.mp h)

theorem ColumnName.shows_sql (c : ColumnName) : Shows isStatementChar c.sql := by
  rcases c with ⟨- | table, column⟩
  · exact shows_name column
  · exact ((shows_name table).append (shows_frame (by decide))).append (shows_name column)

theorem Equality.shows_sql (e : Equality) : Shows isStatementChar e.sql :=
  (e.left.shows_sql.append (shows_frame (by decide))).append e.right.shows_sql

theorem Join.shows_sql (j : Join) : Shows isStatementChar j.sql :=
  (((shows_frame (by decide)).append (shows_name j.table)).append
    (shows_frame (by decide))).append j.on.shows_sql

theorem Projection.shows_allOf (tables : List Text) :
    Shows isStatementChar (allOf tables).sql := by
  induction tables with
  | nil => exact shows_frame rfl
  | cons t tables ih =>
    have ht : Shows isStatementChar (quoteIdentifier t ++ ".*".toList) :=
      (shows_name t).append (shows_frame (by decide))
    cases tables with
    | nil => exact ht
    | cons u tables => exact (ht.append (shows_frame (by decide))).append ih

theorem Projection.shows_sql {p : Projection} (hp : p.HasPlainAlias) :
    Shows isStatementChar p.sql := by
  match p with
  | .everything => exact shows_frame (by decide)
  | .allOf tables => exact shows_allOf tables
  | .count none => exact shows_frame (by decide)
  | .count (some name) =>
    refine Shows.append (shows_frame (by decide)) (shows_of_forall (by decide) fun c hc => ?_)
    exact isStatementChar_of_isIdentifierPart c (forall_isIdentifierPart hp c hc)

/-- A statement shows its frame and plain identifiers. -/
theorem Select.shows_body {q : Select} (hq : q.projection.HasPlainAlias) :
    Shows isStatementChar q.body := by
  have hsource : Shows isStatementChar ("SELECT ".toList ++ q.projection.sql ++
      " FROM ".toList ++ quoteIdentifier q.source) :=
    (((shows_frame (by decide)).append (Projection.shows_sql hq)).append
      (shows_frame (by decide))).append (shows_name q.source)
  rcases q with ⟨projection, source, - | j⟩
  · exact hsource.append (shows_frame rfl)
  · exact hsource.append j.shows_sql

theorem Select.isPrefix_sql (q : Select) : "SELECT ".toList <+: q.sql := by
  unfold sql body
  exact ((List.prefix_append _ _).trans (List.prefix_append _ _)).trans
    (((List.prefix_append _ _).trans (List.prefix_append _ _)).trans (List.prefix_append _ _))

/-- The semicolon at the end of a statement is seen. -/
theorem Select.unquoted_sql {q : Select} (hq : q.projection.HasPlainAlias) :
    unquoted q.sql = unquoted q.body ++ [';'] := by
  rw [sql, unquoted, unquotedFrom_append, (shows_body hq).closed]
  rfl

/-! ## Where names come from -/

/-- The tables whose columns are projected one and all. -/
def Projection.tables : Projection → List Text
  | .allOf tables => tables
  | _ => []

/-- The names of tables in a statement, one for each place. -/
def Select.tableNames (q : Select) : List Text :=
  q.source :: (q.projection.tables ++
    match q.join? with
    | some j => j.table :: (j.on.left.table.toList ++ j.on.right.table.toList)
    | none => [])

/-- A statement that names the given tables only, and joins by a column that has a foreign key
and the column that the key leads to. -/
structure Select.DrawsOn (q : Select) (tables : List Outline.Table) : Prop where
  named : ∀ name ∈ q.tableNames, (∃ t ∈ tables, t.name = name) ∨ name = placeholderTable
  joined : ∀ j ∈ q.join?, ∃ t ∈ tables, ∃ c ∈ t.columns, ∃ key ∈ c.foreignKey,
    j.on.left = ⟨some t.name, c.name⟩ ∧ j.on.right.column = key.column
  counted : ∀ name, q.projection = .count (some name) → name = countAlias

namespace Composer

variable {tables : List Outline.Table}

theorem keyBetween?_eq_some {a b : Text} {e : Equality} (h : keyBetween? tables a b = some e) :
    ∃ t ∈ tables, ∃ c ∈ t.columns, ∃ key ∈ c.foreignKey,
      t.name = a ∧ e = ⟨⟨some a, c.name⟩, ⟨some b, key.column⟩⟩ := by
  unfold keyBetween? at h
  split at h
  · cases h
  · next t ht =>
    obtain ⟨c, hc, hkey⟩ := List.exists_of_findSome?_eq_some h
    have hname : t.name = a := by simpa using List.find?_some ht
    split at hkey
    · next key hforeign =>
      split at hkey
      · exact ⟨t, List.mem_of_find?_eq_some ht, c, hc, key, hforeign, hname,
          (Option.some.inj hkey).symm⟩
      · cases hkey
    · cases hkey

/-- A join condition is about the two tables, whichever of them holds the key. -/
theorem joinCondition?_eq_some {a b : Text} {e : Equality}
    (h : joinCondition? tables a b = some e) :
    e.left.table.toList ++ e.right.table.toList ⊆ [a, b] ∧
      ∃ t ∈ tables, ∃ c ∈ t.columns, ∃ key ∈ c.foreignKey,
        e.left = ⟨some t.name, c.name⟩ ∧ e.right.column = key.column := by
  have h : keyBetween? tables a b = some e ∨ keyBetween? tables b a = some e := by
    unfold joinCondition? at h
    cases hforward : keyBetween? tables a b with
    | none => exact Or.inr (by simpa [hforward] using h)
    | some e' => exact Or.inl (by simpa [hforward] using h)
  rcases h with h | h
  · obtain ⟨t, ht, c, hc, key, hkey, rfl, rfl⟩ := keyBetween?_eq_some h
    exact ⟨by simp, t, ht, c, hc, key, hkey, rfl, rfl⟩
  · obtain ⟨t, ht, c, hc, key, hkey, rfl, rfl⟩ := keyBetween?_eq_some h
    exact ⟨by simp, t, ht, c, hc, key, hkey, rfl, rfl⟩

/-- A request mentions tables of the schema text only. -/
theorem exists_of_mem_mentioned {request name : Text}
    (h : name ∈ (Intent.detect request tables).mentioned) : ∃ t ∈ tables, t.name = name := by
  obtain ⟨t, ht, rfl⟩ := List.mem_map.mp (mem_distinct.mp h)
  exact ⟨t, (List.mem_filter.mp ht).1, rfl⟩

/-- What is selected from one table names that table only. -/
theorem drawsOn_singleTable {table : Text} {wantsCount : Bool} {alias? : Option Text}
    (htable : (∃ t ∈ tables, t.name = table) ∨ table = placeholderTable)
    (halias : ∀ name ∈ alias?, name = countAlias) :
    (singleTable table wantsCount alias?).DrawsOn tables := by
  refine ⟨fun name hname => ?_, fun j hj => absurd hj (by simp [singleTable]), fun name hname => ?_⟩
  · have hnames : (singleTable table wantsCount alias?).tableNames = [table] := by
      cases wantsCount <;> rfl
    rw [hnames, List.mem_singleton] at hname
    exact hname ▸ htable
  · cases wantsCount
    · cases hname
    · exact halias name (Projection.count.inj hname)

/-- What is selected from a join names the two tables and the columns of the condition. -/
theorem drawsOn_join {projection : Projection} {first second : Text} {on : Equality}
    (hprojection : projection = .count (some countAlias) ∨ projection = .allOf [first, second])
    (hnames : ∀ name ∈ [first, second], ∃ t ∈ tables, t.name = name)
    (hon : joinCondition? tables first second = some on) :
    ((⟨projection, first, none⟩ : Select).join second on).DrawsOn tables := by
  obtain ⟨hsides, hkey⟩ := joinCondition?_eq_some hon
  refine ⟨fun name hname => Or.inl (hnames name ?_), fun j hj => ?_, fun name hname => ?_⟩
  · have hprojected : projection.tables ⊆ [first, second] := by
      rcases hprojection with rfl | rfl
      · exact List.nil_subset _
      · exact List.Subset.refl _
    have hall : first :: (projection.tables ++
        second :: (on.left.table.toList ++ on.right.table.toList)) ⊆ [first, second] :=
      List.cons_subset.mpr ⟨by simp, List.append_subset.mpr
        ⟨hprojected, List.cons_subset.mpr ⟨by simp, hsides⟩⟩⟩
    exact hall hname
  · obtain rfl := Option.some.inj hj
    exact hkey
  · have hcount : projection = .count (some name) := hname
    rcases hprojection with rfl | rfl
    · exact (Option.some.inj (Projection.count.inj hcount)).symm
    · cases hcount

/-- The statement for an intent draws on the tables that the intent is about. -/
theorem drawsOn_select {intent : Intent}
    (h : ∀ name ∈ intent.mentioned, ∃ t ∈ tables, t.name = name) :
    (select tables intent).DrawsOn tables := by
  unfold select
  split
  · exact drawsOn_singleTable (Or.inr rfl) (by simp)
  · next table hmentioned =>
    exact drawsOn_singleTable (Or.inl (h table (by simp [hmentioned]))) (by simp)
  · next first second rest hmentioned =>
    split
    · exact drawsOn_singleTable (Or.inl (h first (by simp [hmentioned]))) (by simp)
    · next on hon =>
      refine drawsOn_join ?_ (fun name hname => h name ?_) hon
      · cases intent.wantsCount
        · exact Or.inr rfl
        · exact Or.inl rfl
      · rw [hmentioned]
        exact (List.prefix_append [first, second] rest).subset hname

/-- A projection of whole tables is of one table at least. -/
theorem projection_select_ne_allOf_nil (intent : Intent) :
    (select tables intent).projection ≠ .allOf [] := by
  unfold select singleTable
  split
  · cases intent.wantsCount <;> simp
  · cases intent.wantsCount <;> simp
  · split
    · cases intent.wantsCount <;> simp
    · cases intent.wantsCount <;> simp [Select.join]

theorem projection_statement_ne_allOf_nil (request schemaText : Text) :
    (statement request schemaText).projection ≠ .allOf [] := by
  unfold statement
  split
  · simp [singleTable]
  · exact projection_select_ne_allOf_nil _

/-- What the composer writes draws on the tables of the schema text. -/
theorem drawsOn_statement (request schemaText : Text) :
    (statement request schemaText).DrawsOn (Outline.tables schemaText) := by
  unfold statement
  split
  · exact drawsOn_singleTable (Or.inr rfl) (by simp)
  · exact drawsOn_select fun name => exists_of_mem_mentioned

end Composer

/-! ## Composed statements -/

/-- Whatever the request and the schema text, the composer writes a statement that can be read
back and draws on the tables of the schema text. -/
theorem exists_compose_eq_sql_drawsOn (request schemaText : Text) :
    ∃ q : Select, compose request schemaText = q.sql ∧ q.projection.HasPlainAlias ∧
      q.projection ≠ .allOf [] ∧ q.DrawsOn (Outline.tables schemaText) :=
  ⟨_, compose_eq_sql request schemaText, hasPlainAlias_statement request schemaText,
    projection_statement_ne_allOf_nil request schemaText, drawsOn_statement request schemaText⟩

/-- Schema text cannot reach beyond the names of a composed statement. Whatever it holds, the
statement starts as a `SELECT`, closes every quote, shows the characters of its frame only and
ends with the one semicolon that stands outside of quotes. Its tokens read as a statement that
draws on the tables of the schema text. -/
theorem compose_confined (request schemaText : Text) :
    let sql := compose request schemaText
    "SELECT ".toList <+: sql ∧ Even (sql.count '"') ∧
      (∃ body, sql = body ++ [';'] ∧ unquoted sql = unquoted body ++ [';'] ∧
        ∀ c ∈ unquoted body, isStatementChar c = true) ∧
      (unquoted sql).count ';' = 1 ∧
      ∃ tokens q, tokenize .general sql = .ok tokens ∧ Select.read? tokens = some q ∧
        q.sql = sql ∧ q.DrawsOn (Outline.tables schemaText) := by
  obtain ⟨q, hsql, halias, hne, hdraws⟩ := exists_compose_eq_sql_drawsOn request schemaText
  rw [hsql]
  have hbody := Select.shows_body halias
  have hunquoted := Select.unquoted_sql halias
  have hsemicolon : ';' ∉ unquoted q.body := fun h => absurd (hbody.seen _ h) (by decide)
  refine ⟨q.isPrefix_sql, ?_, ⟨q.body, rfl, hunquoted, hbody.seen⟩, ?_, ?_⟩
  · rw [even_count_quote_iff false, Select.sql, insideAfter_append, hbody.closed]
    rfl
  · rw [hunquoted, List.count_append, List.count_eq_zero.mpr hsemicolon]
    rfl
  · exact ⟨_, q, tokenize_eq_ok_iff.mpr (Select.tokens_sql halias), Select.read?_tokens hne,
      rfl, hdraws⟩

end AskSql
