import AskSql.Database.Run
import Mathlib.Data.List.Forall2

/-!
# Columns and rows of a selection

What is known of the plan of a selection, if it has one: its columns are those that its items
stand for among the columns of its sources, and each of its rows has one value for each of them
(`Selection.yields_planOf`). For whole tables out of a join of two, they are the columns of the
one table and then those of the other (`Evaluator.labels_of_join`).
-/

namespace AskSql.Database

open Text

/-! ## Computations -/

/-- Whatever the computation gives satisfies `P`. -/
def Yields {α ε : Type} (P : α → Prop) (x : Except ε α) : Prop :=
  ∀ a, x = .ok a → P a

section

variable {α β ε : Type} {P Q : β → Prop} {x : Except ε α} {f : α → Except ε β} {b : β}

theorem Yields.bind (h : ∀ a, x = .ok a → Yields P (f a)) : Yields P (x >>= f) := by
  intro b hb
  cases hx : x with
  | error e =>
    rw [hx] at hb
    cases hb
  | ok a =>
    rw [hx] at hb
    exact h a hx b hb

theorem yields_pure (h : P b) : Yields P (pure b : Except ε β) := by
  intro a ha
  exact Except.ok.inj ha ▸ h

theorem yields_throw (e : ε) : Yields P (throw e : Except ε β) := by
  intro a ha
  cases ha

theorem Yields.mono {x : Except ε β} (h : Yields P x) (hPQ : ∀ b, P b → Q b) : Yields Q x :=
  fun b hb => hPQ b (h b hb)

/-- What is computed for each element of a list. -/
theorem yields_mapM {R : α → β → Prop} {as : List α} (h : ∀ a, Yields (R a) (f a)) :
    Yields (List.Forall₂ R as) (as.mapM f) := by
  induction as with
  | nil =>
    rw [List.mapM_nil]
    exact yields_pure .nil
  | cons a as ih =>
    rw [List.mapM_cons]
    refine .bind fun b hb => .bind fun bs hbs => yields_pure ?_
    exact .cons (h a b hb) (ih bs hbs)

end

/-- What is computed for the elements of a list one by one. -/
theorem yields_forall_mapM {α β ε : Type} {P : β → Prop} {f : α → Except ε β} {as : List α}
    (h : ∀ a, Yields P (f a)) : Yields (fun bs => ∀ b ∈ bs, P b) (as.mapM f) := by
  refine (yields_mapM (R := fun _ => P) h).mono fun bs hbs => ?_
  induction hbs with
  | nil => simp
  | cons hb _ ih => exact List.forall_mem_cons.mpr ⟨hb, ih⟩

/-! ## Columns -/

/-- The name that a star gives to a column. -/
def ScopeColumn.label (c : ScopeColumn) : Text :=
  c.shown.getD c.name

/-- The names of the columns of a table. -/
def StoredTable.columnNames (t : StoredTable) : List Text :=
  t.shape.columns.map (·.name)

/-! ## Tables by their names -/

/-- The table is what is meant by the name of a source. -/
structure IsSource (db : Database) (name : Text) (t : StoredTable) : Prop where
  found : db.table? none name = some t
  ordinary : isCatalogName name = false
  view : ∀ v ∈ db.view? none name, (t.temporary || !v.temporary) = true

namespace IsSource

variable {db : Database} {name : Text} {t : StoredTable}

/-- Two names of one table. -/
theorem eq_of_equalsIgnoringCase {a b : Text} {s t : StoredTable} (ha : db.IsSource a s)
    (hb : db.IsSource b t) (hab : equalsIgnoringCase a b = true) : s = t := by
  have hlower : a.map Char.toLower = b.map Char.toLower := by simpa [equalsIgnoringCase] using hab
  have hsame : db.table? none a = db.table? none b := by
    simp only [table?, equalsIgnoringCase, hlower]
  exact Option.some.inj (ha.found.symm.trans (hsame.trans hb.found))

theorem equalsIgnoringCase_name (h : db.IsSource name t) :
    equalsIgnoringCase t.name name = true := by
  rcases Option.or_eq_some_iff.mp h.found with h | ⟨-, h⟩
  · have := List.find?_some h
    simp_all
  · have := List.find?_some h
    simp_all

end IsSource

/-! ## Fields -/

namespace Evaluator

variable {ev : Evaluator} {scope : Scope} {ss : List Scope}

/-- The names that rows show. -/
def labels (fields : List Field) : List Text :=
  fields.map fun f => f.column.label

theorem labels_append (fs gs : List Field) : labels (fs ++ gs) = labels fs ++ labels gs :=
  List.map_append

theorem labels_of_starFields (several : Bool) (cs : List ScopeColumn) :
    Yields (fun fields => labels fields = cs.map ScopeColumn.label)
      (starFields scope several cs) := by
  have hone (c : ScopeColumn) : Yields (fun f : Field => c.label = f.column.label) (do
      let _ ← scope.find? (if several then [c.schemaName, c.table, c.name] else [c.name])
      let name := c.shown.getD c.name
      return fieldOf { c.term with columnName := some name } none name) :=
    .bind fun _ _ => yields_pure rfl
  refine (yields_mapM hone).mono fun fields h => ?_
  have hmaps : List.Forall₂ (· = ·) (cs.map ScopeColumn.label) (labels fields) := by
    rw [labels, List.forall₂_map_left_iff, List.forall₂_map_right_iff]
    exact h
  rw [List.forall₂_eq_eq_eq] at hmaps
  exact hmaps.symm

/-- The columns of a table among those of all sources. -/
def columnsOf (columns : List ScopeColumn) (table : Text) : List ScopeColumn :=
  columns.filter fun c => !c.isRowNumber && equalsIgnoringCase c.table table

theorem fields_allOf (table : Text) :
    ev.fields scope ss (.allOf table) =
      match columnsOf scope.columns table with
      | [] => .error (noTable table)
      | cs => starFields scope scope.isJoined cs :=
  rfl

theorem labels_of_fields (table : Text) :
    Yields (fun fields => labels fields = (columnsOf scope.columns table).map ScopeColumn.label)
      (ev.fields scope ss (.allOf table)) := by
  rw [fields_allOf]
  split
  · exact yields_throw _
  · exact labels_of_starFields _ _

theorem labels_of_allFields (tables : List Text) :
    Yields (fun fields => labels fields =
        tables.flatMap fun t => (columnsOf scope.columns t).map ScopeColumn.label)
      (ev.allFields scope ss (tables.map .allOf)) := by
  induction tables with
  | nil => exact yields_pure rfl
  | cons t tables ih =>
    refine .bind fun fields hfields => .bind fun rest hrest => yields_pure ?_
    have ht : labels fields = _ := labels_of_fields t fields hfields
    have hts : labels rest = _ := ih rest hrest
    rw [labels_append, ht, hts, List.flatMap_cons]

/-! ## Tables as sources -/

variable {taking : Taking} {name : Text} {t : StoredTable} {on : Option Expr}

/-- The columns that a table adds to those of the sources before it. -/
def tableColumns (db : Database) (t : StoredTable) (number : Nat) : List ScopeColumn :=
  (tableAddition db number t true none).columns

theorem namedSource_of_isSource (h : ev.db.IsSource name t) :
    ev.namedSource [] taking none name none =
      .ok (tableAddition ev.db taking.start t true none) := by
  have hnamed : Scope.named? name 0 [] = none := rfl
  cases hview : ev.db.view? none name with
  | none => simp [namedSource, hnamed, Scope.openViews, h.ordinary, h.found, hview]
  | some v =>
    simp [namedSource, hnamed, Scope.openViews, h.ordinary, h.found, hview, h.view v hview]

theorem columns_of_addSource (h : ev.db.IsSource name t) (o : Origins) :
    Yields (fun o' : Origins => ∃ number, o'.columns = o.columns ++ tableColumns ev.db t number)
      (ev.addSource [] taking o (.joined {} (.table none name) none on [])) := by
  refine .bind fun a ha => .bind fun names hnames => .bind fun shared hshared => yields_pure ?_
  have ha' := (namedSource_of_isSource h).symm.trans ha
  obtain rfl := Except.ok.inj ha'
  obtain rfl := Except.ok.inj hnames
  obtain rfl := Except.ok.inj hshared
  exact ⟨_, rfl⟩

theorem columns_of_originsOf {a b : Text} {s t : StoredTable} (ha : ev.db.IsSource a s)
    (hb : ev.db.IsSource b t) :
    Yields (fun o : Origins => ∃ m n, o.columns = tableColumns ev.db s m ++ tableColumns ev.db t n)
      (ev.originsOf [] taking [.joined {} (.table none a) none none [],
        .joined {} (.table none b) none on []]) := by
  refine .bind fun first hfirst => .bind fun second hsecond => yields_pure ?_
  obtain ⟨m, hm⟩ := columns_of_addSource ha {} first hfirst
  obtain ⟨n, hn⟩ := columns_of_addSource hb first second hsecond
  exact ⟨m, n, by rw [hn, hm]; rfl⟩

/-- The column of a table at a place. -/
def tableColumn (t : StoredTable) (number : Nat) (s : ColumnShape × Nat) : ScopeColumn where
  table := t.name
  schema := some (if t.temporary then "temp" else "main").toList
  name := s.1.name
  term := .column number s.2 s.1

/-- Besides its columns, a table has at most the number of a row. -/
theorem exists_tableColumns_eq (db : Database) (t : StoredTable) (number : Nat) :
    ∃ numbers, tableColumns db t number =
      t.shape.columns.zipIdx.map (tableColumn t number) ++ numbers ∧
        ∀ c ∈ numbers, c.isRowNumber = true := by
  refine ⟨_, rfl, ?_⟩
  split <;> simp

theorem columnsOf_append (xs ys : List ScopeColumn) (table : Text) :
    columnsOf (xs ++ ys) table = columnsOf xs table ++ columnsOf ys table :=
  List.filter_append ..

/-- A table has its columns under its own name, and none under another one. -/
theorem columnsOf_tableColumns (db : Database) (t : StoredTable) (number : Nat) (name : Text) :
    columnsOf (tableColumns db t number) name =
      if equalsIgnoringCase t.name name then t.shape.columns.zipIdx.map (tableColumn t number)
      else [] := by
  obtain ⟨numbers, heq, hnumbers⟩ := exists_tableColumns_eq db t number
  have hnone : columnsOf numbers name = [] :=
    List.filter_eq_nil_iff.mpr fun c hc => by simp [hnumbers c hc]
  rw [heq, columnsOf_append, hnone, List.append_nil]
  split
  · next h =>
    refine List.filter_eq_self.mpr fun c hc => ?_
    obtain ⟨s, -, rfl⟩ := List.mem_map.mp hc
    simpa [tableColumn] using h
  · next h =>
    refine List.filter_eq_nil_iff.mpr fun c hc => ?_
    obtain ⟨s, -, rfl⟩ := List.mem_map.mp hc
    simpa [tableColumn] using h

theorem labels_tableColumn (t : StoredTable) (number : Nat) :
    (t.shape.columns.zipIdx.map (tableColumn t number)).map ScopeColumn.label =
      t.columnNames := by
  have hlabel : ScopeColumn.label ∘ tableColumn t number = (·.name) ∘ Prod.fst := rfl
  rw [List.map_map, hlabel, ← List.map_map, List.zipIdx_map_fst, StoredTable.columnNames]

/-! ## A table that is joined with itself -/

/-- A column that two sources have is ambiguous. -/
theorem find?_eq_error_of_two {c d : ScopeColumn} {xs ys : List ScopeColumn}
    (hcolumns : scope.columns = xs ++ ys) (hc : c ∈ xs) (hd : d ∈ ys)
    (hnumbers : c.isRowNumber = false ∧ d.isRowNumber = false) (htable : d.table = c.table)
    (hschema : d.schema = c.schema) (hname : d.name = c.name) :
    ∃ e, scope.find? [c.schemaName, c.table, c.name] = .error e := by
  have hrefl (s : Text) : equalsIgnoringCase s s = true := by simp [equalsIgnoringCase]
  let fits (e : ScopeColumn) : Bool := !e.isRowNumber && e.isUnder [c.table, c.schemaName] &&
    equalsIgnoringCase e.name c.name && !(e.merged && false)
  have hfits (e : ScopeColumn) (hnumber : e.isRowNumber = false) (htable : e.table = c.table)
      (hschema : e.schema = c.schema) (hname : e.name = c.name) : fits e = true := by
    simp [fits, hnumber, hname, ScopeColumn.isUnder, ScopeColumn.isOf, ScopeColumn.schemaName,
      htable, hschema, hrefl]
  obtain ⟨x, xs', hx⟩ := List.exists_cons_of_ne_nil (List.ne_nil_of_mem
    (List.mem_filter.mpr ⟨hc, hfits c hnumbers.1 rfl rfl rfl⟩))
  obtain ⟨y, ys', hy⟩ := List.exists_cons_of_ne_nil (List.ne_nil_of_mem
    (List.mem_filter.mpr ⟨hd, hfits d hnumbers.2 htable hschema hname⟩))
  have hfitting : ∃ z zs, scope.columns.filter fits = x :: z :: zs := by
    rw [hcolumns, List.filter_append, hx, hy]
    cases xs' with
    | nil => exact ⟨y, ys', rfl⟩
    | cons z zs => exact ⟨z, zs ++ y :: ys', rfl⟩
  obtain ⟨z, zs, hfitting⟩ := hfitting
  refine ⟨fault ("ambiguous column name: ".toList ++
    Scope.dotted [c.schemaName, c.table, c.name]), ?_⟩
  unfold Scope.find?
  dsimp only
  have heq : (scope.columns.filter fun e => !e.isRowNumber && e.isUnder
      ([c.schemaName, c.table, c.name].dropLast.reverse) &&
        equalsIgnoringCase e.name ([c.schemaName, c.table, c.name].getLastD []) &&
        !(e.merged && [c.schemaName, c.table, c.name].dropLast.reverse.isEmpty)) =
      x :: z :: zs := hfitting
  rw [heq]

/-- The columns of a table that is there twice cannot be told apart. -/
theorem fields_of_two {db : Database} {m n : Nat} {a : Text}
    (hcolumns : scope.columns = tableColumns db t m ++ tableColumns db t n)
    (hjoined : scope.isJoined = true) (ha : equalsIgnoringCase t.name a = true) :
    Yields (fun _ => False) (ev.fields scope ss (.allOf a)) := by
  obtain ⟨ms, hms, -⟩ := exists_tableColumns_eq db t m
  obtain ⟨ns, hns, -⟩ := exists_tableColumns_eq db t n
  have hcs : columnsOf scope.columns a = t.shape.columns.zipIdx.map (tableColumn t m) ++
      t.shape.columns.zipIdx.map (tableColumn t n) := by
    rw [hcolumns, columnsOf_append, columnsOf_tableColumns, columnsOf_tableColumns, if_pos ha,
      if_pos ha]
  rw [fields_allOf, hcs]
  cases hshapes : t.shape.columns.zipIdx with
  | nil => exact yields_throw _
  | cons shape shapes =>
    have hc : tableColumn t m shape ∈ tableColumns db t m := by simp [hms, hshapes]
    have hd : tableColumn t n shape ∈ tableColumns db t n := by simp [hns, hshapes]
    obtain ⟨e, he⟩ := find?_eq_error_of_two hcolumns hc hd ⟨rfl, rfl⟩ rfl rfl rfl
    rw [List.map_cons, List.cons_append, hjoined]
    change Yields _ (starFields scope true (tableColumn t m shape :: _))
    rw [starFields, List.mapM_cons]
    refine .bind fun f hf => ?_
    rw [if_pos rfl, he] at hf
    cases hf

/-- The fields of two whole tables are the columns of the one and those of the other. -/
theorem labels_of_join {db : Database} {m n : Nat} {a b : Text} {s t : StoredTable}
    (ha : db.IsSource a s) (hb : db.IsSource b t)
    (hcolumns : scope.columns = tableColumns db s m ++ tableColumns db t n)
    (hjoined : scope.isJoined = true) :
    Yields (fun fields => labels fields = s.columnNames ++ t.columnNames)
      (ev.allFields scope ss [.allOf a, .allOf b]) := by
  have hsa := ha.equalsIgnoringCase_name
  have htb := hb.equalsIgnoringCase_name
  by_cases hab : equalsIgnoringCase a b = true
  · obtain rfl := ha.eq_of_equalsIgnoringCase hb hab
    refine .bind fun fields hfields => ?_
    exact (fields_of_two hcolumns hjoined hsa fields hfields).elim
  · have hsb : ¬ equalsIgnoringCase s.name b = true := fun h => hab (by
      simp only [equalsIgnoringCase, beq_iff_eq] at hsa h ⊢
      exact hsa.symm.trans h)
    have hta : ¬ equalsIgnoringCase t.name a = true := fun h => hab (by
      simp only [equalsIgnoringCase, beq_iff_eq] at htb h ⊢
      exact h.symm.trans htb)
    refine (labels_of_allFields [a, b]).mono fun fields h => ?_
    rw [h, hcolumns]
    simp only [List.flatMap_cons, List.flatMap_nil, List.append_nil, columnsOf_append,
      columnsOf_tableColumns, if_pos hsa, if_pos htb, if_neg hsb, if_neg hta, List.nil_append,
      labels_tableColumn]

end Evaluator

/-! ## Rows -/

theorem Term.length_values (frames : Frames) (ts : List Term) :
    Yields (fun vs : List Value => vs.length = ts.length) (Term.values frames ts) := by
  induction ts with
  | nil => exact yields_pure rfl
  | cons t ts ih =>
    refine .bind fun v hv => .bind fun vs hvs => yields_pure ?_
    rw [List.length_cons, List.length_cons, ih vs hvs]

namespace Selection

variable {ev : Evaluator} {ss : List Scope}

/-- Rows within bounds are among the rows. -/
theorem Bounds.yields_apply {α : Type} {P : α → Prop} (b : Bounds) (outer : Frames)
    {rows : Unit → Except StoreError (List α)}
    (h : Yields (fun rows => ∀ row ∈ rows, P row) (rows ())) :
    Yields (fun rows => ∀ row ∈ rows, P row) (b.apply outer rows) := by
  refine .bind fun bounds _ => ?_
  dsimp only
  split
  · exact yields_pure (by simp)
  · refine .bind fun all hall => ?_
    have hrest : ∀ row ∈ all.drop bounds.2, P row := fun row hrow =>
      h all hall row (List.mem_of_mem_drop hrow)
    split
    · exact yields_pure fun row hrow => hrest row (List.mem_of_mem_take hrow)
    · exact yields_pure hrest

/-- What is kept of some rows is among them. -/
theorem mem_of_mem_foldl_keep {α : Type} {keeps : List α → α → Bool} {rows kept : List α} {row : α}
    (h : row ∈ rows.foldl (fun kept r => if keeps kept r then kept else kept ++ [r]) kept) :
    row ∈ kept ∨ row ∈ rows := by
  induction rows generalizing kept with
  | nil => exact .inl h
  | cons r rows ih =>
    rw [List.foldl_cons] at h
    rcases ih h with h | h
    · split at h
      · exact .inl h
      · rcases List.mem_append.mp h with h | h
        · exact .inl h
        · exact .inr (by simp_all)
    · exact .inr (List.mem_cons_of_mem r h)

theorem mem_of_mem_sorted {α : Type} {sorted : Prop} [Decidable sorted] {le : α → α → Bool}
    {rows : List α} {row : α} (h : row ∈ if sorted then rows else rows.mergeSort le) :
    row ∈ rows := by
  split at h
  · exact h
  · exact List.mem_mergeSort.mp h

/-- Each row has one value for each field. -/
theorem Compiled.length_rows (c : Compiled) (r : Route.Itinerary) (outer : Frames) :
    Yields (fun rows => ∀ values ∈ rows, values.length = c.fields.length) (c.rows r outer) := by
  refine c.bounds.yields_apply outer ?_
  refine .bind fun tuples _ => .bind fun frames _ => .bind fun keyed hkeyed => ?_
  have hwidth : ∀ row ∈ keyed, row.2.length = c.fields.length := by
    refine yields_forall_mapM (fun f => ?_) keyed hkeyed
    refine .bind fun values hvalues => .bind fun keys _ => yields_pure ?_
    rw [Term.length_values _ _ values hvalues, List.length_map]
  refine yields_pure fun values hvalues => ?_
  obtain ⟨row, hrow, rfl⟩ := List.mem_map.mp hvalues
  refine hwidth row ?_
  -- what puts the rows in order and what leaves some out adds none
  have hkept := mem_of_mem_sorted hrow
  split at hkept
  · exact (mem_of_mem_foldl_keep hkept).resolve_left List.not_mem_nil
  · exact hkept

/-! ## Plans -/

/-- The fields are what the items stand for among the columns of the sources. -/
def Takes (ev : Evaluator) (ss : List Scope) (items : List Item) (sources : List Database.Joined)
    (fields : List Evaluator.Field) : Prop :=
  ∃ taking o, ev.origins ss taking sources = .ok o ∧
    ev.allFields { columns := o.columns, isJoined := 1 < sources.length, aggregates := true } ss
      items = .ok fields

variable {items : List Item} {sources : List Database.Joined} {condition having : Option Expr}
  {groups : List Expr} {order : List Order} {limit offset : Option Expr} {distinct : Bool}

theorem takes_compileWith (apartOrdered limited : Bool) :
    Yields (fun c : Compiled × Bool => Takes ev ss items sources c.1.fields)
      (compileWith ev ss apartOrdered limited distinct items sources condition groups having order
        limit offset) := by
  refine .bind fun o ho => .bind fun bounds _ => .bind fun fields hfields => ?_
  refine Yields.mono (P := fun c : Compiled × Bool => c.1.fields = fields) ?_
    fun c hc => ⟨_, o, ho, hc ▸ hfields⟩
  dsimp only
  split
  · exact .bind fun _ h => by cases h
  · refine .bind fun having _ => .bind fun conditions _ => .bind fun ties _ => ?_
    refine .bind fun own _ => .bind fun groups _ => ?_
    split
    · split
      · exact .bind fun _ h => by cases h
      · exact yields_pure rfl
    · exact yields_pure rfl

theorem takes_compile (limited : Bool) :
    Yields (fun c => Takes ev ss items sources c.fields)
      (compile ev ss limited distinct items sources condition groups having order limit
        offset) := by
  refine .bind fun ⟨c, needsAll⟩ hfirst => ?_
  cases needsAll with
  | true =>
    refine .bind fun ⟨c, needsAll⟩ hsecond => yields_pure ?_
    exact takes_compileWith _ _ _ hsecond
  | false => exact yields_pure (takes_compileWith _ _ _ hfirst)

/-- The plan of a selection has a column for each field, and each of its rows a value. -/
theorem yields_planOf :
    Yields (fun plan => ∃ fields, Takes ev ss items sources fields ∧
        plan.columns = fields.map (·.column) ∧
        ∀ outer, Yields (fun rows => ∀ values ∈ rows, values.length = plan.columns.length)
          (plan.rows outer))
      (planOf ev ss (.query [] (.select distinct items sources condition groups having) [] order
        limit offset)) := by
  refine .bind fun c hc => yields_pure ⟨c.fields, takes_compile _ c hc, rfl, fun outer => ?_⟩
  have hrows := c.length_rows (c.joined.route c.demand) outer
  simpa [Compiled.plan] using hrows

end Selection

/-! ## Joins of two tables -/

theorem Evaluator.db_ofDepth (db : Database) (depth : Nat) : (ofDepth db depth).db = db := by
  cases depth <;> rfl

/-- The plan for all columns of two tables has the columns of the one and then those of the other,
and each of its rows has a value for each of them. -/
theorem yields_query_join {db : Database} {a b : Text} {s t : StoredTable} (ha : db.IsSource a s)
    (hb : db.IsSource b t) (size : Nat) (on : Expr) :
    Yields (fun plan : Plan => plan.columns.map (·.label) = s.columnNames ++ t.columnNames ∧
        ∀ outer, Yields (fun rows => ∀ values ∈ rows, values.length = plan.columns.length)
          (plan.rows outer))
      ((Evaluator.ofSize db size).query [] (.query []
        (.select false [.allOf a, .allOf b] [.joined {} (.table none a) none none [],
          .joined {} (.table none b) none (some on) []] none [] none) [] [] none none)) := by
  refine Selection.yields_planOf.mono
    fun plan ⟨fields, ⟨taking, o, ho, hfields⟩, hcolumns, hrows⟩ => ⟨?_, hrows⟩
  have hdb := (Evaluator.db_ofDepth db (size + Evaluator.viewSize db + 2)).symm
  obtain ⟨m, n, hjoin⟩ := Evaluator.columns_of_originsOf (hdb ▸ ha) (hdb ▸ hb) o ho
  have hlabels := Evaluator.labels_of_join (hdb ▸ ha) (hdb ▸ hb) hjoin rfl fields hfields
  rw [hcolumns, List.map_map]
  exact hlabels

end AskSql.Database
