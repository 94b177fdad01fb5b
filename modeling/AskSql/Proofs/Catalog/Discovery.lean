import AskSql.Proofs.Catalog.Keys
import Mathlib.Data.List.Perm.Basic

/-!
# The order of discovery

A catalog is read in two rounds. The first one collects the definitions of the tables, object by
object (`Catalog.definitions_eq_ok`); the second one looks up where keys lead among all of them. So
a key finds its table wherever that is listed, and it finds the same one if the names of tables
differ in more than case.

`Catalog.introspect_listing` : listed in another order, a catalog can be read if and only if it
could be read before, and each object stands for the same table.
-/

namespace AskSql

open Text

/-! ## Look-ups -/

section Find

variable {α : Type} {p : α → Bool} {l l' : List α} {a : α}

/-- What only one element can be is found wherever it stands. -/
theorem find?_eq_some_iff_mem (h : l.Pairwise fun a b => p a = true → p b = false) :
    l.find? p = some a ↔ a ∈ l ∧ p a = true := by
  constructor
  · exact fun hfind => ⟨List.mem_of_find?_eq_some hfind, List.find?_some hfind⟩
  · rintro ⟨hmem, ha⟩
    obtain ⟨before, after, rfl⟩ := List.append_of_mem hmem
    refine List.find?_eq_some_iff_append.mpr ⟨ha, before, after, rfl, fun b hb => ?_⟩
    have hne := (List.pairwise_append.mp h).2.2 b hb a List.mem_cons_self
    cases hb : p b with
    | false => rfl
    | true => rw [hne hb] at ha; cases ha

theorem find?_of_perm (hperm : l.Perm l')
    (h : l.Pairwise fun a b => p a = true → p b = false) : l.find? p = l'.find? p := by
  have h' : l'.Pairwise fun a b => p a = true → p b = false := by
    refine hperm.pairwise h fun {a b} hab hb => ?_
    cases ha : p a with
    | false => rfl
    | true => rw [hab ha] at hb; cases hb
  refine Option.ext fun a => ?_
  rw [find?_eq_some_iff_mem h, find?_eq_some_iff_mem h', hperm.mem_iff]

end Find

/-! ## Definitions in another order -/

namespace Definitions

variable {ds ds' : Definitions}

/-- The names of any two tables differ in more than case. -/
def NamesApart (ds : Definitions) : Prop :=
  ds.Pairwise fun a b => equalsIgnoringCase a.1 b.1 = false

/-- Of two names that differ, one text can be equal to one only. -/
theorem equalsIgnoringCase_eq_false {a b name : Text} (h : equalsIgnoringCase a b = false)
    (ha : equalsIgnoringCase a name = true) : equalsIgnoringCase b name = false := by
  simp only [equalsIgnoringCase, beq_iff_eq, beq_eq_false_iff_ne] at ha h ⊢
  rw [← ha]
  exact Ne.symm h

/-- A key leads to the same table, wherever that is listed. -/
theorem target?_of_perm (hperm : ds.Perm ds') (h : ds.NamesApart) : ds.target? = ds'.target? := by
  funext key
  rw [target?, target?, find?_of_perm hperm]
  exact h.imp fun hab ha => equalsIgnoringCase_eq_false hab ha

/-- Other definitions play a part in a table only as far as keys lead to them. -/
theorem table_congr (h : ds.target? = ds'.target?) (name : Text) (d : TableDefinition) :
    ds.table name d = ds'.table name d := by
  have hcolumns (before : List Text) (cs : List ColumnDefinition) :
      ds.columns d before cs = ds'.columns d before cs := by
    induction cs generalizing before with
    | nil => rfl
    | cons c cs ih => simp only [columns, targets, h, ih]
  rw [table, table, hcolumns]

end Definitions

/-! ## Reading object by object -/

namespace Catalog

variable (c : Catalog)

/-- The catalog with other objects listed. -/
def listing (objects : List CatalogObject) : Catalog :=
  { c with objects := .ok objects }

/-- An object does not get in the way : it is no table, or a table with a definition. -/
def Reads (o : CatalogObject) : Prop :=
  o.kind = .table → ∃ d, c.describe o.name = .ok d

/-- The definition of an object under its name, if it is a table with columns. -/
def definition? (o : CatalogObject) : Option (Text × TableDefinition) :=
  if o.kind = .table then
    match c.describe o.name with
    | .ok d => if d.columns.isEmpty then none else some (o.name, d)
    | .error _ => none
  else none

/-- The table that an object stands for, where keys lead into some definitions. -/
def table? (ds : Definitions) (o : CatalogObject) : Option Table :=
  (c.definition? o).map fun e => ds.table e.1 e.2

variable {c} {objects objects' : List CatalogObject} {ds : Definitions} {o : CatalogObject}

theorem definition?_eq_some {e : Text × TableDefinition} (h : c.definition? o = some e) :
    o.kind = .table ∧ e.1 = o.name := by
  unfold definition? at h
  split at h
  · next hkind =>
    split at h
    · split at h
      · cases h
      · obtain rfl := Option.some.inj h
        exact ⟨hkind, rfl⟩
    · cases h
  · cases h

/-- The tables are read if and only if each of them can be, and each gives its own definition. -/
theorem definitions_eq_ok :
    c.definitions objects = .ok ds ↔
      (∀ o ∈ objects, c.Reads o) ∧ ds = objects.filterMap c.definition? := by
  induction objects generalizing ds with
  | nil => simp [eq_comm]
  | cons o rest ih =>
    rw [List.forall_mem_cons]
    by_cases hkind : o.kind = .table
    · cases hd : c.describe o.name with
      | error e => simp [definitions_cons_of_error hkind hd, Reads, hkind, hd]
      | ok d =>
        have hreads : c.Reads o := fun _ => ⟨d, hd⟩
        have hfilter : (o :: rest).filterMap c.definition? =
            if d.columns.isEmpty then rest.filterMap c.definition?
            else (o.name, d) :: rest.filterMap c.definition? := by
          have hdefinition : c.definition? o =
              if d.columns.isEmpty then none else some (o.name, d) := by
            simp [definition?, hkind, hd]
          rw [List.filterMap_cons, hdefinition]
          cases d.columns.isEmpty <;> rfl
        rw [hfilter, definitions_cons_of_ok hkind hd]
        cases hrest : c.definitions rest with
        | error e =>
          have hnone (ds : Definitions) := (@ih ds).not.mp (by simp [hrest])
          have hfails : ¬ ∀ o ∈ rest, c.Reads o := fun hall => hnone _ ⟨hall, rfl⟩
          simp [Except.map, hfails]
        | ok ds' =>
          obtain ⟨hall, rfl⟩ := ih.mp hrest
          simp only [Except.map, hreads, Except.ok.injEq, true_and]
          exact ⟨fun h => ⟨hall, h.symm⟩, fun h => h.2.symm⟩
    · have hreads : c.Reads o := fun h => absurd h hkind
      have hdefinition : c.definition? o = none := by simp [definition?, hkind]
      rw [List.filterMap_cons_none hdefinition, definitions_cons_of_not_table hkind, ih]
      exact ⟨fun h => ⟨⟨hreads, h.1⟩, h.2⟩, fun h => ⟨h.1.2, h.2⟩⟩

/-- A schema is read off a listing if and only if every table in it can be read. -/
theorem introspect_listing_eq_ok {s : Schema} :
    (c.listing objects).introspect = .ok s ↔ (∀ o ∈ objects, c.Reads o) ∧
      s.tables = objects.filterMap (c.table? (objects.filterMap c.definition?)) := by
  have hdefinitions (ds : Definitions) :
      (c.listing objects).definitions objects = .ok ds ↔
        (∀ o ∈ objects, c.Reads o) ∧ ds = objects.filterMap c.definition? :=
    definitions_eq_ok (c := c.listing objects)
  have hschema (ds : Definitions) :
      s = ds.schema ↔ s.tables = ds.map fun e => ds.table e.1 e.2 := by
    obtain ⟨tables⟩ := s
    simp [Definitions.schema]
  have htables (ds : Definitions) : objects.filterMap (c.table? ds) =
      (objects.filterMap c.definition?).map fun e => ds.table e.1 e.2 := by
    rw [List.map_filterMap]
    rfl
  rw [introspect_eq_ok]
  constructor
  · rintro ⟨listed, ds, hlisted, hds, hs⟩
    obtain rfl := Except.ok.inj hlisted
    obtain ⟨hall, rfl⟩ := (hdefinitions ds).mp hds
    exact ⟨hall, by rw [(hschema _).mp hs, htables]⟩
  · rintro ⟨hall, hs⟩
    refine ⟨objects, _, rfl, (hdefinitions _).mpr ⟨hall, rfl⟩, (hschema _).mpr ?_⟩
    rw [hs, htables]

/-! ## Listing in another order -/

/-- The names of any two tables in a list of objects differ in more than case. -/
def TablesApart (objects : List CatalogObject) : Prop :=
  (objects.filter (·.kind = .table)).Pairwise fun a b => equalsIgnoringCase a.name b.name = false

instance (objects : List CatalogObject) : Decidable (TablesApart objects) :=
  inferInstanceAs (Decidable (List.Pairwise _ _))

theorem TablesApart.pairwise (h : TablesApart objects) :
    objects.Pairwise fun a b =>
      a.kind = .table → b.kind = .table → equalsIgnoringCase a.name b.name = false := by
  simpa using List.pairwise_filter.mp h

/-- The definitions of tables whose names are apart are under names that are apart. -/
theorem TablesApart.namesApart (h : TablesApart objects) :
    Definitions.NamesApart (objects.filterMap c.definition?) := by
  refine h.pairwise.filterMap c.definition? fun a b hab e he e' he' => ?_
  obtain ⟨ha, hname⟩ := definition?_eq_some he
  obtain ⟨hb, hname'⟩ := definition?_eq_some he'
  rw [hname, hname']
  exact hab ha hb

theorem table?_eq_some {t : Table} (h : c.table? ds o = some t) :
    o.kind = .table ∧ t.name = o.name := by
  obtain ⟨e, he, rfl⟩ := Option.map_eq_some_iff.mp h
  exact definition?_eq_some he

/-- An object stands for the same table in any order of the objects. -/
theorem table?_of_perm (hperm : objects.Perm objects') (h : TablesApart objects) :
    c.table? (objects.filterMap c.definition?) = c.table? (objects'.filterMap c.definition?) := by
  have htarget := Definitions.target?_of_perm (hperm.filterMap c.definition?) h.namesApart
  funext o
  simp only [table?, Definitions.table_congr htarget]

/-- Tables whose names are apart are found by their names in any order. -/
theorem find?_tables_of_perm {table : CatalogObject → Option Table}
    (htable : ∀ o t, table o = some t → o.kind = .table ∧ t.name = o.name)
    (hperm : objects.Perm objects') (h : TablesApart objects) (name : Text) :
    (objects.filterMap table).find? (·.name == name) =
      (objects'.filterMap table).find? (·.name == name) := by
  refine find?_of_perm (hperm.filterMap table) ?_
  refine h.pairwise.filterMap table fun a b hab t ht t' ht' hname => ?_
  obtain ⟨ha, hta⟩ := htable a t ht
  obtain ⟨hb, htb⟩ := htable b t' ht'
  have hne : t'.name ≠ name := by
    rintro rfl
    have heq := Definitions.equalsIgnoringCase_of_eq hname
    rw [hta, htb, hab ha hb] at heq
    cases heq
  exact beq_eq_false_iff_ne.mpr hne

/-- The order in which a catalog lists its objects does not matter, if the names of its tables
differ in more than case. Listed in another order, the objects make a schema if and only if they
did before. Each object then stands for the same table, or for none, and the tables follow the
objects; a table is found by its name as before. -/
theorem introspect_listing (hobjects : c.objects = .ok objects) (hperm : objects.Perm objects')
    (hapart : TablesApart objects) :
    ((∃ s, c.introspect = .ok s) ↔ ∃ s, (c.listing objects').introspect = .ok s) ∧
      ∀ s s' : Schema, c.introspect = .ok s → (c.listing objects').introspect = .ok s' →
        (∃ table : CatalogObject → Option Table,
          (∀ o t, table o = some t → o.kind = .table ∧ t.name = o.name) ∧
          s.tables = objects.filterMap table ∧ s'.tables = objects'.filterMap table) ∧
        ∀ name, s'.table? name = s.table? name := by
  have hlisting : c.introspect = (c.listing objects).introspect := by
    rw [listing, ← hobjects]
  have hreads : (∀ o ∈ objects, c.Reads o) ↔ ∀ o ∈ objects', c.Reads o :=
    forall_congr' fun o => by rw [hperm.mem_iff]
  rw [hlisting]
  refine ⟨⟨fun ⟨s, hs⟩ => ?_, fun ⟨s, hs⟩ => ?_⟩, fun s s' hs hs' => ?_⟩
  · have hall := (introspect_listing_eq_ok.mp hs).1
    exact ⟨⟨_⟩, introspect_listing_eq_ok.mpr ⟨hreads.mp hall, rfl⟩⟩
  · have hall := (introspect_listing_eq_ok.mp hs).1
    exact ⟨⟨_⟩, introspect_listing_eq_ok.mpr ⟨hreads.mpr hall, rfl⟩⟩
  · obtain ⟨-, htables⟩ := introspect_listing_eq_ok.mp hs
    obtain ⟨-, htables'⟩ := introspect_listing_eq_ok.mp hs'
    rw [← table?_of_perm hperm hapart] at htables'
    have hnames (o : CatalogObject) (t : Table)
        (h : c.table? (objects.filterMap c.definition?) o = some t) := table?_eq_some h
    refine ⟨⟨_, hnames, htables, htables'⟩, fun name => ?_⟩
    rw [Schema.table?, Schema.table?, htables, htables']
    exact (find?_tables_of_perm hnames hperm hapart name).symm

/-- A table refers to the key of one that is listed after it, and then before it, under its name in
another case; a view and a table without columns stand between them. -/
theorem introspect_listing_of_forward_reference :
    let column (name : String) : ColumnDefinition := ⟨name.toList, "INT".toList, 0, true⟩
    let orders : TableDefinition :=
      ⟨"orders".toList, [column "id", column "by"], ["id".toList],
        [⟨"by".toList, "USERS".toList, none⟩, ⟨"by".toList, "void".toList, none⟩]⟩
    let users : TableDefinition := ⟨"users".toList, [column "no"], ["no".toList], []⟩
    let void : TableDefinition := ⟨"void".toList, [], ["no".toList], []⟩
    let objects : List CatalogObject :=
      [⟨"orders".toList, .table⟩, ⟨"ORDERS".toList, .view⟩, ⟨"void".toList, .table⟩,
        ⟨"users".toList, .table⟩]
    let objects' : List CatalogObject :=
      [⟨"users".toList, .table⟩, ⟨"void".toList, .table⟩, ⟨"orders".toList, .table⟩,
        ⟨"ORDERS".toList, .view⟩]
    let c : Catalog :=
      ⟨.ok objects, fun name =>
        if name = "orders".toList then .ok orders
        else if name = "users".toList then .ok users
        else if name = "void".toList then .ok void
        else .error (.missingTable name)⟩
    objects.Perm objects' ∧ TablesApart objects ∧
      ∃ s s' : Schema, c.introspect = .ok s ∧ (c.listing objects').introspect = .ok s' ∧
        s.tableNames = ["orders".toList, "users".toList] ∧
        s'.tableNames = ["users".toList, "orders".toList] ∧
        ∀ name, s'.table? name = s.table? name := by
  intro column orders users void objects objects' c
  have hperm : objects.Perm objects' := by decide
  have hapart : TablesApart objects := by decide
  have hread : c.introspect = .ok ⟨_⟩ := introspect_eq_ok.mpr ⟨objects, _, rfl, rfl, rfl⟩
  have hread' : (c.listing objects').introspect = .ok ⟨_⟩ :=
    introspect_eq_ok.mpr ⟨objects', _, rfl, rfl, rfl⟩
  obtain ⟨-, hfound⟩ := (introspect_listing (c := c) rfl hperm hapart).2 _ _ hread hread'
  exact ⟨hperm, hapart, _, _, hread, hread', by decide, by decide, hfound⟩

end Catalog
end AskSql
