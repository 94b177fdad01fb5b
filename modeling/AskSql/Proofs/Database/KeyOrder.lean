import AskSql.Catalog.Introspection
import AskSql.Database.Connection
import AskSql.Proofs.Database.Grammar.Statement
import AskSql.Proofs.Database.Selection
import AskSql.Proofs.Sql.Keys

/-!
# The order of foreign keys

A table is described by its text, and where reading the text ends with an error by what the database
itself knows of the table. The database keeps the foreign keys in the order in which they are
declared, but numbers them from the last one on, and what it reports is in the order of the numbers
(`foreignKeyList_map`). So what is read off a text has the keys as they are declared, and what the
database reports has them the other way round : the first target of a column is then the one that is
declared last.

A `Provenance` says how a table has come about. It is there when the table has been created
(`nonempty_provenance`).

`describe_foreignKeys` : the foreign keys that a table is described with, one way and the other.
Where reading the text panics, it is described in neither way.
-/

namespace AskSql.Database

open Text

/-! ## How tables come about -/

/-- How the table `name` has come about : the statement that defines it, what is drafted from that,
and what the database keeps of it. -/
structure Provenance (db : Database) (name : Text) where
  /-- The names that may be given when the statement is read. -/
  free : Grammar.Naming
  pieces : List Piece
  rest : List Piece
  new : NewName
  draft : Draft
  options : Grammar.TableOptions
  /-- The text in the catalog. -/
  sql : Text
  table : StoredTable
  read : Grammar.wholeStatement free pieces =
    .ok (.define (.table new (some draft) options sql), rest)
  complete : draft.complete options.withoutRowNumber options.strict = .ok table.shape
  stored : db.table? none name = some table
  entered : ∃ e, db.entries.find? (fun e => e.type = some "table".toList ∧ e.name = some name) =
    some e ∧ e.sql = some sql
  /-- Not all columns are computed. -/
  visible : table.shape.columns ≠ [] → ∃ c ∈ table.shape.columns, c.generated = none

theorem eq_ok_of_toOption {ε α : Type} {x : Except ε α} {a : α} (h : x.toOption = some a) :
    x = .ok a := by
  cases x with
  | error e => cases h
  | ok b => rw [Option.some.inj h]

section Creation

variable {db : Database} {t : StoredTable} {sql : Text}

theorem foldl_enter (indexes : List IndexShape) (table : Text) (db : Database) :
    let entered := indexes.foldl (fun db i => db.enter "index" i.name table true none) db
    entered.tables = db.tables ∧ ∃ more, entered.entries = db.entries ++ more := by
  induction indexes generalizing db with
  | nil => exact ⟨rfl, [], (List.append_nil _).symm⟩
  | cons i indexes ih =>
    obtain ⟨htables, more, hmore⟩ := ih (db.enter "index" i.name table true none)
    exact ⟨htables, _, hmore.trans (List.append_assoc _ _ _)⟩

/-- A table that is added stands behind what is there, and so does its entry. -/
theorem exists_of_addTable (db : Database) (sql : Text) (hlasting : t.temporary = false) :
    (∃ more, (db.addTable t sql).tables = db.tables ++ t :: more ∧
      ∀ u ∈ more, u.temporary = false) ∧
    ∃ page more, (db.addTable t sql).entries =
      db.entries ++ ⟨some "table".toList, some t.name, some t.name, page, some sql⟩ :: more := by
  unfold addTable
  extract_lets placed entered listed counters
  obtain ⟨htables, more, hmore⟩ := foldl_enter t.shape.listedIndexes t.name entered
  have htable : listed.tables = db.tables ++ [t] := htables
  obtain ⟨page, hpage⟩ : ∃ page, entered.entries = db.entries ++
      [⟨some "table".toList, some t.name, some t.name, page, some sql⟩] := ⟨_, rfl⟩
  have hentries : listed.entries = db.entries ++
      ⟨some "table".toList, some t.name, some t.name, page, some sql⟩ :: more := by
    rw [hmore, hpage, List.append_assoc]
    rfl
  rw [if_neg (by simp [hlasting])]
  split
  · have htables : listed.tables ++ [counters] = db.tables ++ t :: [counters] := by
      rw [htable, List.append_assoc]
      rfl
    exact ⟨⟨[counters], htables, by simp [counters]⟩, page, _,
      (congrArg (· ++ [_]) hentries).trans (List.append_assoc _ _ _)⟩
  · exact ⟨⟨[], htable, by simp⟩, page, more, hentries⟩

theorem table?_eq_some {more : List StoredTable} {db' : Database}
    (hnone : db.table? none t.name = none) (htables : db'.tables = db.tables ++ t :: more)
    (hlasting : ∀ u ∈ t :: more, u.temporary = false) : db'.table? none t.name = some t := by
  unfold table? at hnone ⊢
  obtain ⟨htemporary, hnamed⟩ := Option.or_eq_none_iff.mp hnone
  have hmissing : (t :: more).find? (fun u => u.temporary && (mayBe none u.temporary &&
      equalsIgnoringCase u.name t.name)) = none :=
    List.find?_eq_none.mpr fun u hu => by simp [hlasting u hu]
  have hfound : equalsIgnoringCase t.name t.name = true := by simp [equalsIgnoringCase]
  simp only [htables, List.find?_append, htemporary, hnamed, hmissing]
  simp [mayBe, hfound]

/-- A table whose shape passes has a column that is not computed, unless it has none at all. -/
theorem exists_of_checkShape (h : db.checkShape t = .ok ())
    (hcolumns : t.shape.columns ≠ []) : ∃ c ∈ t.shape.columns, c.generated = none := by
  obtain ⟨_, -, h⟩ := ok_of_bind h
  obtain ⟨gs, hgs, h⟩ := ok_of_bind h
  by_contra hnone
  have hlength : gs.length = t.shape.columns.length := by
    have heach := yields_mapM (R := fun _ _ => True) (fun _ _ _ => trivial) gs hgs
    rw [← heach.length_eq, ← List.length_zipIdx (l := t.shape.columns)]
    refine List.filterMap_length_eq_length.mpr fun c hc => ?_
    rw [Option.isSome_map, Option.isSome_iff_ne_none]
    exact fun hc' => hnone ⟨c.1, List.fst_mem_of_mem_zipIdx hc, hc'⟩
  have hne : gs.isEmpty = false := by
    rw [List.isEmpty_eq_false_iff, ← List.length_pos_iff, hlength]
    exact List.length_pos_iff.mpr hcolumns
  simp only [hne, hlength, Bool.not_false, if_true] at h
  cases h

/-- A table that has been created under a name of its own has come about by its statement. -/
theorem nonempty_provenance {n : NewName} {d : Draft} {o : Grammar.TableOptions}
    {ps rest : List Piece} {db' : Database}
    (hread : Grammar.wholeStatement db.isFree ps = .ok (.define (.table n (some d) o sql), rest))
    (hcreate : db.createTable n d o sql = .ok db') (hlasting : n.temporary = false)
    (htable : db.table? none n.name = none)
    (hentry : ∀ e ∈ db.entries, e.name ≠ some n.name) : Nonempty (db'.Provenance n.name) := by
  obtain ⟨shape, hshape, hafter⟩ := ok_of_bind hcreate
  obtain ⟨⟨⟩, hcheck, hend⟩ := ok_of_bind hafter
  obtain rfl := Except.ok.inj hend
  let t : StoredTable := { name := n.name, shape, temporary := n.temporary }
  have hlasting : t.temporary = false := hlasting
  obtain ⟨⟨more, htables, hmore⟩, page, others, hentries⟩ := exists_of_addTable db sql hlasting
  let e : Entry := ⟨some "table".toList, some n.name, some n.name, page, some sql⟩
  refine ⟨⟨db.isFree, ps, rest, n, d, o, sql, t, hread, hshape, ?_, ⟨e, ?_, rfl⟩,
    exists_of_checkShape hcheck⟩⟩
  · exact table?_eq_some (t := t) htable htables (List.forall_mem_cons.mpr ⟨hlasting, hmore⟩)
  · have hmissing : db.entries.find? (fun e => e.type = some "table".toList ∧
        e.name = some n.name) = none :=
      List.find?_eq_none.mpr fun e he => by simp [hentry e he]
    rw [hentries, List.find?_append, hmissing]
    simp [t, e]

end Creation

/-! ## What is told about keys -/

/-- A foreign key as it stands in what is told about a table, behind its numbers. -/
def told (k : ForeignKey) : List Value :=
  [.text k.targetTable, .text k.column, .ofText? k.targetColumn]

/-- What is told about the foreign keys of a table has them in the order of their numbers, and so
has the definition that the database reports. -/
theorem foreignKeyList_map (t : StoredTable) (name : Text) :
    (Evaluator.foreignKeyList t).map (fun row => (row.drop 2).take 3) =
      (t.shape.definition name).foreignKeys.map told := by
  calc (Evaluator.foreignKeyList t).map (fun row => (row.drop 2).take 3)
      = t.shape.foreignKeys.reverse.zipIdx.flatMap fun k =>
          ((TableShape.split k.1).zipIdx.map Prod.fst).map told := by
        simp only [Evaluator.foreignKeyList, List.map_flatMap, List.map_map]
        rfl
    _ = (t.shape.foreignKeys.reverse.zipIdx.map Prod.fst).flatMap fun k =>
          (TableShape.split k).map told := by
        rw [List.flatMap_map]
        simp only [List.zipIdx_map_fst]
    _ = (t.shape.definition name).foreignKeys.map told := by
        rw [List.zipIdx_map_fst, TableShape.definition, List.map_flatMap]

/-- The first target of a column is one of the first element of a list that has targets of it. -/
theorem head?_targets_flatMap {α : Type} (ds : Definitions) (f : α → List ForeignKey)
    (column : Text) (xs : List α) :
    (ds.targets (xs.flatMap f) column).head? =
      xs.findSome? fun x => (ds.targets (f x) column).head? := by
  induction xs with
  | nil => rfl
  | cons x xs ih =>
    have happend : ds.targets ((x :: xs).flatMap f) column =
        ds.targets (f x) column ++ ds.targets (xs.flatMap f) column := by
      simp [Definitions.targets]
    rw [happend, List.head?_append, ih, List.findSome?_cons]
    cases (ds.targets (f x) column).head? <;> rfl

/-- Keys that share no edges are the same in both orders only if there is at most one. -/
theorem flatMap_reverse_eq_iff {α β : Type} {f : α → List β} {xs : List α}
    (hnodup : (xs.flatMap f).Nodup) (hf : ∀ x ∈ xs, f x ≠ []) :
    xs.reverse.flatMap f = xs.flatMap f ↔ xs.length ≤ 1 := by
  match xs with
  | [] => simp
  | [x] => simp
  | x :: y :: rest =>
    obtain ⟨between, z, hz⟩ : ∃ between z, y :: rest = between ++ [z] :=
      ⟨_, _, (List.dropLast_append_getLast (List.cons_ne_nil y rest)).symm⟩
    rw [hz] at hnodup hf ⊢
    refine iff_of_false (fun h => ?_) (by simp)
    obtain ⟨a, as, ha⟩ := List.exists_cons_of_ne_nil (hf x (by simp))
    obtain ⟨b, bs, hb⟩ := List.exists_cons_of_ne_nil (hf z (by simp))
    have hfirst : b = a := by
      simp only [List.reverse_cons, List.reverse_append, List.flatMap_append, List.flatMap_cons,
        List.reverse_nil, List.nil_append, List.cons_append, ha, hb] at h
      exact (List.cons.inj h).1
    rw [List.flatMap_cons, List.nodup_append] at hnodup
    have hmem : b ∈ (between ++ [z]).flatMap f :=
      List.mem_flatMap.mpr ⟨z, by simp, by simp [hb]⟩
    exact hnodup.2.2 a (by simp [ha]) b hmem hfirst.symm

namespace Provenance

variable {db : Database} {name : Text} (p : db.Provenance name) (wording : Sql.Wording)

theorem describe?_eq_ok {d : TableDefinition} (h : Sql.readTable p.sql = .ok d) :
    db.describe? wording name = some (.ok d) := by
  obtain ⟨⟨_, _, _, _, sql⟩, hfind, hsql⟩ := p.entered
  obtain rfl : sql = some p.sql := hsql
  unfold describe?
  rw [hfind]
  simp [h]

theorem describe?_eq_own {e : Sql.Unread} (h : Sql.readTable p.sql = .error e)
    (he : e ≠ .abandoned) (hcolumns : p.table.shape.columns ≠ []) :
    db.describe? wording name = some (.ok (p.table.shape.definition name)) := by
  obtain ⟨⟨_, _, _, _, sql⟩, hfind, hsql⟩ := p.entered
  obtain rfl : sql = some p.sql := hsql
  have hown : db.ownDefinition? name = some (p.table.shape.definition name) := by
    unfold ownDefinition?
    obtain ⟨c, hmem, hc⟩ := p.visible hcolumns
    have hshown : (p.table.shape.definition name).columns.isEmpty = false := by
      simpa [TableShape.definition] using ⟨c, hmem, hc⟩
    simp [p.stored, hshown]
  obtain ⟨cause, hcause⟩ : ∃ cause, e.error? wording p.sql = some cause :=
    Option.ne_none_iff_exists'.mp (Sql.Unread.error?_eq_none_iff.not.mpr he)
  unfold describe?
  rw [hfind]
  simp [h, hcause, hown]

theorem describe?_eq_none (h : Sql.readTable p.sql = .error .abandoned) :
    db.describe? wording name = none := by
  obtain ⟨⟨_, _, _, _, sql⟩, hfind, hsql⟩ := p.entered
  obtain rfl : sql = some p.sql := hsql
  unfold describe?
  rw [hfind]
  simp [h, Sql.Unread.error?]

/-- Where the text of a table can be read, the table is described with the foreign keys that the
text declares, in the order of the text, those of columns before those of constraints. Where reading
it ends with an error, the keys are those that the statement has declared, in the opposite order :
the first target of a column comes from the key that is declared last, and the order is the declared
one only if there is no second key. Where reading it panics, the table is not described. -/
theorem describe_foreignKeys (ds : Definitions) :
    let keys := p.table.shape.foreignKeys
    Grammar.Declares p.pieces p.rest (keys.map KeyShape.reference) ∧
    (∀ d, Sql.readTable p.sql = .ok d → db.describe? wording name = some (.ok d) ∧
      ∃ tokens rest, ∃ es : List Sql.Grammar.Element, Sql.tokenize .sqlite p.sql = .ok tokens ∧
        Sql.Grammar.Declares (tokens.filter (!·.isBlank)) rest
          (es.flatMap Sql.Grammar.Element.targets) ∧
        let ordered := es.filter (·.isLeft) ++ es.filter (·.isRight)
        d.foreignKeys = ordered.flatMap Sql.Grammar.Element.foreignKeys ∧
        ∀ column, (ds.targets d.foreignKeys column).head? =
          ordered.findSome? fun e => (ds.targets e.foreignKeys column).head?) ∧
    (∀ e, Sql.readTable p.sql = .error e → e ≠ .abandoned → p.table.shape.columns ≠ [] →
      ∃ d, db.describe? wording name = some (.ok d) ∧
        (Evaluator.foreignKeyList p.table).map (fun row => (row.drop 2).take 3) =
          d.foreignKeys.map told ∧
        d.foreignKeys = keys.reverse.flatMap TableShape.split ∧
        (∀ column, (ds.targets d.foreignKeys column).head? =
          keys.reverse.findSome? fun k => (ds.targets (TableShape.split k) column).head?) ∧
        ((keys.flatMap TableShape.split).Nodup → (∀ k ∈ keys, TableShape.split k ≠ []) →
          (d.foreignKeys = keys.flatMap TableShape.split ↔ keys.length ≤ 1))) ∧
    (Sql.readTable p.sql = .error .abandoned → db.describe? wording name = none) := by
  intro keys
  obtain ⟨-, hsql, hdeclares⟩ := Grammar.declares_wholeStatement p.read
  have hkeys : keys.map KeyShape.reference = p.draft.references :=
    Draft.references_complete p.complete
  refine ⟨hkeys ▸ hdeclares, fun d hd => ⟨p.describe?_eq_ok wording hd, ?_⟩,
    fun e he hreturns hcolumns => ?_, p.describe?_eq_none wording⟩
  · obtain ⟨s, hs⟩ := hsql
    rw [← hs] at hd ⊢
    obtain ⟨tokens, rest, es, htokens, htargets, hforeign⟩ := Sql.readTable_foreignKeys hd
    refine ⟨tokens, rest, es, htokens, htargets, hforeign, fun column => ?_⟩
    rw [hforeign, head?_targets_flatMap]
  · refine ⟨_, p.describe?_eq_own wording he hreturns hcolumns, foreignKeyList_map p.table name,
      rfl, fun column => ?_, flatMap_reverse_eq_iff⟩
    exact head?_targets_flatMap ds TableShape.split column keys.reverse

/-- Of two keys on a column the first one decides where the text can be read, and the second one
where it cannot, here for what is to become of a row whose value is there already. -/
theorem describe_foreignKeys_of_conflict :
    let name := "orders".toList
    let textWith (conflict : String) := ("CREATE TABLE orders (owner INT " ++
      "REFERENCES users(id) REFERENCES accounts(id), UNIQUE (owner)" ++ conflict ++ ")").toList
    let key (target : String) : KeyShape := ⟨["owner".toList], target.toList, ["id".toList],
      .nothing, .nothing, false⟩
    let edge (target : String) : ForeignKey := ⟨"owner".toList, target.toList, some "id".toList⟩
    (∃ db, ∃ p : Provenance db name, p.sql = textWith " ON CONFLICT IGNORE" ∧
      p.table.shape.foreignKeys = [key "users", key "accounts"] ∧
      ∃ d, db.describe? id name = some (.ok d) ∧
        d.foreignKeys = [edge "accounts", edge "users"]) ∧
    ((run {} (textWith "")).2.describe? id name).bind (·.toOption.map (·.foreignKeys)) =
      some [edge "users", edge "accounts"] := by
  intro name textWith key edge
  refine ⟨?_, by decide +kernel⟩
  let text := textWith " ON CONFLICT IGNORE"
  have hcreate : (((Grammar.wholeStatement ({} : Database).isFree
      (Database.pieces text)).toOption.bind (·.1.drafted?)).any fun c =>
        (createTable {} c.1 c.2.1 c.2.2.1 c.2.2.2).toOption.any fun db =>
          decide (c.1.name = name ∧ c.1.temporary = false ∧
            (db.entries.find? fun e => e.type = some "table".toList ∧ e.name = some name).bind
              (·.sql) = some text ∧
            (db.table? none name).map (fun t => (t.shape.foreignKeys,
              t.shape.columns.isEmpty)) = some ([key "users", key "accounts"], false) ∧
            Sql.readTable text = .error .ungrammatical)) = true := by decide +kernel
  obtain ⟨⟨n, d, o, sql⟩, hdrafted, hcreate⟩ := (Option.any_eq_true _ _).mp hcreate
  obtain ⟨db, hdb, hfacts⟩ := (Option.any_eq_true _ _).mp hcreate
  obtain ⟨⟨s, rest⟩, hread, hs⟩ := Option.bind_eq_some_iff.mp hdrafted
  obtain rfl := Statement.eq_of_drafted? hs
  obtain ⟨hname, hlasting, hentry, htable, hunread⟩ := of_decide_eq_true hfacts
  obtain ⟨p⟩ := nonempty_provenance (eq_ok_of_toOption hread) (eq_ok_of_toOption hdb) hlasting
    rfl (by simp)
  rw [hname] at p
  obtain ⟨e, he, hsql⟩ := p.entered
  rw [he] at hentry
  have hsql : p.sql = text := Option.some.inj (hsql.symm.trans hentry)
  rw [p.stored] at htable
  obtain ⟨hkeys, hcolumns⟩ := Prod.mk.inj (Option.some.inj htable)
  obtain ⟨-, -, hown, -⟩ := p.describe_foreignKeys id []
  obtain ⟨d, hd, -, hforeign, -⟩ :=
    hown _ (hsql ▸ hunread) (by decide) (List.isEmpty_eq_false_iff.mp hcolumns)
  rw [hkeys] at hforeign
  exact ⟨db, p, hsql, hkeys, d, hd, hforeign⟩

end Provenance

end AskSql.Database
