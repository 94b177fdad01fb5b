import AskSql.Database.Connection
import AskSql.Execution
import AskSql.Proofs.Composer.Validity
import AskSql.Proofs.Database.Selection
import AskSql.Proofs.Execution.Record
import AskSql.Proofs.Program

/-!
# Rows of composed statements

What becomes of the values that the database gives for a composed join of two tables. The
statement asks for all columns of the one table and all columns of the other, and a row has one
value for each name.

`materialized_rows` : a record is decoded unless one of its texts is no UTF-8, and a row keeps the
last value of each label. The records of a composed join are the values of the database under the
names of the columns of both tables. So no value is lost if and only if these names are all
different and no number is infinite.
-/

namespace AskSql

open Text Database Grammar

/-! ## From the statement to its rows -/

theorem Execution.fetch_of_result {store : Store} {endpoint : Endpoint} {sql : Text}
    {rows : List Row}
    (h : ((Execution.result sql).run (store.answers endpoint)).value.rows = some rows) :
    store.fetch sql = .ok rows := by
  unfold result Execution.rows at h
  by_cases hread : isReadOnly sql = true
  · have hanswer : store.answers endpoint (.fetch sql) = store.fetch sql := rfl
    cases hfetch : store.fetch sql with
    | error e => simp [hread, hanswer, hfetch, ExecutionResult.failed] at h
    | ok fetched => simpa [hread, hanswer, hfetch, ExecutionResult.succeeded] using h
  · simp [hread, ExecutionResult.failed] at h

/-- The records of a text that is one query are those of its plan. -/
theorem Database.exists_plan_of_run {db : Database} {sql : Text} {p : Piece} {ps : List Piece}
    {q : Query} {records : List Record} (hpieces : Database.pieces sql = p :: ps)
    (hp : p.token.isSymbol ";" = false)
    (hread : wholeStatement db.isFree (p :: ps) = .ok (.query q, []))
    (hrecords : (db.run sql).1 = .ok records) :
    ∃ plan results, (Evaluator.ofSize db (Database.pieces sql).length).query [] q = .ok plan ∧
      plan.rows [] = .ok results ∧ records = results.map (recordOf plan.columns) := by
  unfold run at hrecords
  rw [hpieces] at hrecords ⊢
  simp only [runPieces, hp, hread, List.length_nil, Nat.sub_zero, List.take_length,
    Bool.false_eq_true, if_false] at hrecords
  generalize Evaluator.ofSize db (p :: ps).length = ev at hrecords ⊢
  cases hplan : ev.query [] q with
  | error e => simp [prepare, Except.map, hplan] at hrecords
  | ok plan =>
    cases hopen : openValueFault? (p :: ps) with
    | some e => simp [prepare, Except.map, hplan, hopen] at hrecords
    | none =>
      cases hresults : plan.rows [] with
      | error e => simp [prepare, Except.map, hplan, hopen, hresults] at hrecords
      | ok results =>
        refine ⟨plan, results, rfl, hresults, ?_⟩
        simpa [prepare, Except.map, hplan, hopen, hresults, runPieces] using hrecords.symm

/-! ## Composed joins -/

theorem Composer.projection_singleTable_ne_allOf (table : Text) (wantsCount : Bool)
    (alias? : Option Text) (tables : List Text) :
    (singleTable table wantsCount alias?).projection ≠ .allOf tables := by
  cases wantsCount <;> simp [singleTable]

/-- All columns of two tables are selected from a join of the two. -/
theorem Composer.select_of_allOf {tables : List Outline.Table} {intent : Intent} {a b : Text}
    (h : (select tables intent).projection = .allOf [a, b]) :
    ∃ on, select tables intent = ⟨.allOf [a, b], a, some ⟨b, on⟩⟩ := by
  unfold select at h ⊢
  split at h
  · exact absurd h (projection_singleTable_ne_allOf _ _ _ _)
  · exact absurd h (projection_singleTable_ne_allOf _ _ _ _)
  · next first second rest hmentioned =>
    split at h
    · exact absurd h (projection_singleTable_ne_allOf _ _ _ _)
    · next on hon =>
      cases hcount : intent.wantsCount with
      | true => simp [Select.join, hcount] at h
      | false =>
        obtain ⟨rfl, rfl⟩ : first = a ∧ second = b := by simpa [Select.join, hcount] using h
        exact ⟨on, by simp [Select.join]⟩

theorem Composer.statement_of_allOf {request schemaText a b : Text}
    (h : (statement request schemaText).projection = .allOf [a, b]) :
    ∃ on, statement request schemaText = ⟨.allOf [a, b], a, some ⟨b, on⟩⟩ := by
  unfold statement at h ⊢
  by_cases hblank : isBlankText request = true
  · rw [if_pos hblank] at h
    exact absurd h (projection_singleTable_ne_allOf _ _ _ _)
  · rw [if_neg hblank] at h ⊢
    exact select_of_allOf h

section

variable {columns : List ResultColumn} {values : List Value}

theorem Database.map_fst_recordOf (h : values.length = columns.length) :
    (recordOf columns values).map Prod.fst = columns.map (·.label) :=
  calc (recordOf columns values).map Prod.fst
      = ((columns.zip values).map Prod.fst).map (·.label) := by
        rw [recordOf, List.map_map, List.map_map]
        rfl
    _ = columns.map (·.label) := by rw [List.map_fst_zip (Nat.le_of_eq h.symm)]

theorem Database.map_snd_recordOf (h : values.length = columns.length) :
    (recordOf columns values).map Prod.snd = values :=
  calc (recordOf columns values).map Prod.snd
      = (columns.zip values).map Prod.snd := by
        rw [recordOf, List.map_map]
        rfl
    _ = values := List.map_snd_zip (Nat.le_of_eq h)

end

/-- A composed statement that gives rows is read as the query that it stands for. -/
theorem exists_plan_of_result {db : Database} {store : Store} {endpoint : Endpoint}
    {request schemaText : Text} {rows : List Row}
    (hfetch : store.fetch = (Connection.live db).fetch)
    (h : ((Execution.result (compose request schemaText)).run
      (store.answers endpoint)).value.rows = some rows) :
    ∃ plan results,
      (Evaluator.ofSize db (Database.pieces (compose request schemaText)).length).query []
        (Composer.statement request schemaText).query = .ok plan ∧
      plan.rows [] = .ok results ∧
      List.Forall₂ (fun values row => (recordOf plan.columns values).decode = .ok row) results
        rows := by
  have hrows := Execution.fetch_of_result h
  rw [hfetch, Connection.fetch, Connection.run] at hrows
  cases hrun : (db.run (compose request schemaText)).1 with
  | error e =>
    simp only [hrun] at hrows
    cases hrows
  | ok records =>
    simp only [hrun] at hrows
    have hpieces := pieces_compose request schemaText
    have hcomposed := Composer.isComposed_statement request schemaText
    by_cases hsayable : (Composer.statement request schemaText).IsSayable
    · have hread := Select.wholeStatement_pieces hcomposed hsayable db.isFree
      obtain ⟨plan, results, hplan, hresults, rfl⟩ :=
        Database.exists_plan_of_run hpieces rfl hread hrun
      exact ⟨plan, results, hplan, hresults,
        List.forall₂_map_left_iff.mp (Record.decodeAll_eq_ok_iff.mp hrows)⟩
    · obtain ⟨e, he⟩ :=
        Select.exists_wholeStatement_pieces_eq_error hcomposed hsayable db.isFree
      rw [Database.run_of_wholeStatement_error hpieces rfl he] at hrun
      cases hrun

/-- What becomes of a record that the database gives. It has no row if one of its values is a text
that is no UTF-8. Otherwise it is decoded, where infinite numbers become nulls, and each label is in
the row once, with its last value. So the row keeps the record if and only if no label occurs twice
and no number is infinite. For a composed join of two tables, the labels are the columns of the one
table and those of the other: nothing is lost if and only if the tables share no name of a column,
nor repeat one, and none of the numbers is infinite. -/
theorem materialized_rows (record : Record) (db : Database) (request schemaText a b : Text)
    (s t : StoredTable) (store : Store) (endpoint : Endpoint) :
    ((∃ e, record.decode = .error e) ↔ ∃ p ∈ record, p.2.IsGarbled) ∧
    (∀ row, record.decode = .ok row →
      (∃ pairs, Row.KeepsLast pairs row ∧ List.Forall₂ (fun p q => q.1 = p.1 ∧
        (Value.Shows q.2 p.2 ∨ p.2.IsInfinite ∧ q.2 = .null)) record pairs) ∧
      (record.IsKept row ↔ (record.map Prod.fst).Nodup ∧ ∀ p ∈ record, ¬ p.2.IsInfinite)) ∧
    ∀ rows, (Composer.statement request schemaText).projection = .allOf [a, b] →
      db.IsSource a s → db.IsSource b t → store.fetch = (Connection.live db).fetch →
      ((Execution.result (compose request schemaText)).run
        (store.answers endpoint)).value.rows = some rows →
      ∃ plan results,
        (Evaluator.ofSize db (Database.pieces (compose request schemaText)).length).query []
          (Composer.statement request schemaText).query = .ok plan ∧
        plan.rows [] = .ok results ∧
        List.Forall₂ (fun values row =>
          let record := recordOf plan.columns values
          record.map Prod.fst = s.columnNames ++ t.columnNames ∧
          record.map Prod.snd = values ∧ record.decode = .ok row ∧
          (record.IsKept row ↔
            (s.columnNames ++ t.columnNames).Nodup ∧ ∀ v ∈ values, ¬ v.IsInfinite)) results
          rows := by
  refine ⟨Record.exists_decode_eq_error_iff, fun row hrow => ⟨?_, Record.isKept_iff hrow⟩, ?_⟩
  · obtain ⟨pairs, hpairs, rfl⟩ := Record.decode_eq_ok_iff.mp hrow
    exact ⟨pairs, Row.keepsLast_ofPairs pairs,
      hpairs.imp fun p q hpq => ⟨hpq.1, Value.decode_eq_ok_iff.mp hpq.2⟩⟩
  · intro rows hjoin ha hb hfetch hrows
    obtain ⟨plan, results, hplan, hresults, hdecoded⟩ := exists_plan_of_result hfetch hrows
    obtain ⟨on, hstatement⟩ := Composer.statement_of_allOf hjoin
    have hquery :=
      yields_query_join ha hb (Database.pieces (compose request schemaText)).length on.expr
    obtain ⟨hlabels, hwidth⟩ := hquery plan (by rw [hstatement] at hplan; exact hplan)
    refine ⟨plan, results, hplan, hresults,
      ((List.forall₂_and_left _ _).mpr ⟨hwidth [] results hresults, hdecoded⟩).imp ?_⟩
    rintro values row ⟨hlength, hrow⟩
    have hnames : (recordOf plan.columns values).map Prod.fst = s.columnNames ++ t.columnNames := by
      rw [map_fst_recordOf hlength, hlabels]
    have hvalues := map_snd_recordOf hlength
    refine ⟨hnames, hvalues, hrow, ?_⟩
    rw [Record.isKept_iff hrow, hnames]
    have hfinite : (∀ v ∈ (recordOf plan.columns values).map Prod.snd, ¬ v.IsInfinite) ↔
        ∀ p ∈ recordOf plan.columns values, ¬ p.2.IsInfinite := List.forall_mem_map
    rw [hvalues] at hfinite
    rw [hfinite]

/-- Users and orders, which both have a column `id`: the one `id` of a joined row is lost. So is a
number without bound. -/
theorem materialized_rows_of_shared_column :
    let column (name : String) : ColumnShape :=
      { name := name.toList, declaredType := "INTEGER".toList, affinity := .integer }
    let users : StoredTable :=
      { name := "users".toList, shape := { columns := [column "id", column "age"] }
        rows := [⟨[.integer 1], [.integer 1, .integer 36]⟩] }
    let orders : StoredTable :=
      { name := "orders".toList, shape := { columns := [column "id", column "user_id"] }
        rows := [⟨[.integer 1], [.integer 7, .integer 1]⟩] }
    let db : Database := { tables := [users, orders] }
    let store : Store := { Store.closed with fetch := (Connection.live db).fetch }
    let schemaText :=
      "users (\n  id INTEGER\n)\norders (\n  user_id INTEGER [FK->users.id]\n)\n".toList
    let boundless : Record := [("a".toList, .real (.infinite false))]
    (boundless.decode = .ok [("a".toList, .null)] ∧
        ¬ boundless.IsKept [("a".toList, .null)]) ∧
      ∃ rows,
        ((Execution.result (compose "orders of users".toList schemaText)).run
          (store.answers fun _ => .unreachable)).value.rows = some rows ∧
        rows.length = 1 ∧
        ∀ row ∈ rows, row.map Prod.fst = ["id".toList, "age".toList, "user_id".toList] := by
  intro column users orders db store schemaText boundless
  have hlength : ((Execution.result (compose "orders of users".toList schemaText)).run
      (store.answers fun _ => .unreachable)).value.rows.map List.length = some 1 := by
    decide +kernel
  obtain ⟨rows, hrows, hone⟩ := Option.map_eq_some_iff.mp hlength
  have hjoin : (Composer.statement "orders of users".toList schemaText).projection =
      .allOf ["users".toList, "orders".toList] := by
    decide +kernel
  have husers : db.IsSource "users".toList users := ⟨by decide, by decide, by decide⟩
  have horders : db.IsSource "orders".toList orders := ⟨by decide, by decide, by decide⟩
  obtain ⟨-, hkept, hjoined⟩ := materialized_rows boundless db "orders of users".toList schemaText
    "users".toList "orders".toList users orders store fun _ => .unreachable
  refine ⟨⟨rfl, fun h => ?_⟩, rows, hrows, hone, fun row hrow => ?_⟩
  · exact ((hkept _ rfl).2.mp h).2 _ List.mem_cons_self ⟨false, rfl⟩
  · obtain ⟨plan, results, -, -, hrecords⟩ := hjoined rows hjoin husers horders rfl hrows
    have hnames : ∀ row ∈ rows,
        row.map Prod.fst = distinct (users.columnNames ++ orders.columnNames) := by
      refine ((List.forall₂_and_left rows results).mp
        ((List.Forall₂.flip hrecords).imp fun row values h => ⟨?_, h⟩)).1
      obtain ⟨hlabels, -, hdecode, -⟩ := h
      rw [Record.map_fst_of_decode hdecode, hlabels]
    exact (hnames row hrow).trans (by decide)

end AskSql
