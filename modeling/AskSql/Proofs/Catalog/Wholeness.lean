import AskSql.Proofs.Catalog.Discovery

/-!
# All tables or none

A catalog is read object by object, and the first table that cannot be described ends the reading.
So nothing is read in part : either every table has its definition, or there is an error and no
schema (`Catalog.definitions_eq_error`). What is no table is never described
(`Catalog.definitions_filter`).

`Catalog.introspect_whole` : when a schema cannot be read, and with which error; what its tables are
when it can; and that nothing else plays a part.
-/

namespace AskSql

/-- A column of a schema says what the definition says of it. -/
structure ColumnDefinition.Kept (d : ColumnDefinition) (column : Column) : Prop where
  name : column.name = d.name
  typeName : column.typeName = d.typeName
  size : column.size = d.size
  nullable : column.nullable = d.nullable

/-- The columns of a table are those of its definition, in their order. -/
theorem Definitions.forall₂_kept (ds : Definitions) (d : TableDefinition) (before : List Text)
    (cs : List ColumnDefinition) :
    List.Forall₂ ColumnDefinition.Kept cs (ds.columns d before cs) := by
  induction cs generalizing before with
  | nil => exact .nil
  | cons c cs ih => exact .cons ⟨rfl, rfl, rfl, rfl⟩ (ih (c.name :: before))

namespace Catalog

variable (c : Catalog)

/-- The objects cannot be listed, or some of them can be read and the table after them cannot be
described. -/
inductive FailsWith (e : StoreError) : Prop
  /-- There is no list of objects. -/
  | listing (h : c.objects = .error e)
  /-- The first table that has no definition. -/
  | table {before after : List CatalogObject} {o : CatalogObject}
    (hobjects : c.objects = .ok (before ++ o :: after)) (hbefore : ∀ b ∈ before, c.Reads b)
    (hkind : o.kind = .table) (h : c.describe o.name = .error e)

/-- Tables stand for objects, in the order of these : one for each object that is a table with
columns. -/
inductive Shown : List CatalogObject → List Table → Prop
  | nil : Shown [] []
  /-- The object is no table. -/
  | pass {o : CatalogObject} {objects : List CatalogObject} {tables : List Table}
    (hkind : o.kind ≠ .table) (h : Shown objects tables) : Shown (o :: objects) tables
  /-- The table has no columns. -/
  | empty {o : CatalogObject} {objects : List CatalogObject} {tables : List Table}
    {d : TableDefinition} (hkind : o.kind = .table) (hd : c.describe o.name = .ok d)
    (hcolumns : d.columns = []) (h : Shown objects tables) : Shown (o :: objects) tables
  /-- The table goes by the name that the catalog has for it, whatever the definition calls it. -/
  | table {o : CatalogObject} {objects : List CatalogObject} {t : Table} {tables : List Table}
    {d : TableDefinition} (hkind : o.kind = .table) (hd : c.describe o.name = .ok d)
    (hcolumns : d.columns ≠ []) (hname : t.name = o.name)
    (hkept : List.Forall₂ ColumnDefinition.Kept d.columns t.columns) (h : Shown objects tables) :
    Shown (o :: objects) (t :: tables)

/-- Two catalogs list the same tables, other objects aside, and describe them alike. -/
structure AgreesOnTables (c' : Catalog) : Prop where
  objects : c'.objects.map (List.filter (·.kind = .table)) =
    c.objects.map (List.filter (·.kind = .table))
  describe : ∀ objects, c.objects = .ok objects → ∀ o ∈ objects, o.kind = .table →
    c'.describe o.name = c.describe o.name

variable {c} {c' : Catalog} {objects : List CatalogObject} {ds : Definitions} {o : CatalogObject}
  {e : StoreError}

/-! ## The first error -/

/-- Reading ends at the first table that cannot be described, with the error that is met there. -/
theorem definitions_eq_error :
    c.definitions objects = .error e ↔ ∃ before o after, objects = before ++ o :: after ∧
      (∀ b ∈ before, c.Reads b) ∧ o.kind = .table ∧ c.describe o.name = .error e := by
  constructor
  · intro h
    induction objects with
    | nil => cases h
    | cons o objects ih =>
      -- an object that can be read only makes the part before the error longer
      have hlater (hreads : c.Reads o) (h : c.definitions objects = .error e) :
          ∃ before o' after, o :: objects = before ++ o' :: after ∧
            (∀ b ∈ before, c.Reads b) ∧ o'.kind = .table ∧ c.describe o'.name = .error e := by
        obtain ⟨before, o', after, rfl, hbefore, hkind, herror⟩ := ih h
        exact ⟨o :: before, o', after, rfl, List.forall_mem_cons.mpr ⟨hreads, hbefore⟩, hkind,
          herror⟩
      by_cases hkind : o.kind = .table
      · cases hd : c.describe o.name with
        | error e' =>
          rw [definitions_cons_of_error hkind hd] at h
          obtain rfl := Except.error.inj h
          exact ⟨[], o, objects, rfl, by simp, hkind, hd⟩
        | ok d =>
          rw [definitions_cons_of_ok hkind hd] at h
          refine hlater (fun _ => ⟨d, hd⟩) ?_
          cases hrest : c.definitions objects with
          | error e' =>
            rw [hrest] at h
            exact h
          | ok ds =>
            rw [hrest] at h
            cases h
      · rw [definitions_cons_of_not_table hkind] at h
        exact hlater (fun htable => absurd htable hkind) h
  · rintro ⟨before, o, after, rfl, hbefore, hkind, herror⟩
    induction before with
    | nil => exact definitions_cons_of_error hkind herror after
    | cons b before ih =>
      obtain ⟨hb, hbefore⟩ := List.forall_mem_cons.mp hbefore
      rw [List.cons_append]
      by_cases htable : b.kind = .table
      · obtain ⟨d, hd⟩ := hb htable
        rw [definitions_cons_of_ok htable hd, ih hbefore]
        rfl
      · rw [definitions_cons_of_not_table htable, ih hbefore]

theorem introspect_eq_error {e : IntrospectionError} :
    c.introspect = .error e ↔ c.FailsWith e.cause := by
  obtain ⟨e⟩ := e
  cases hobjects : c.objects with
  | error e' =>
    rw [introspect_of_error hobjects]
    constructor
    · intro h
      obtain rfl := IntrospectionError.mk.inj (Except.error.inj h)
      exact .listing hobjects
    · rintro (h | ⟨h, -, -, -⟩)
      · rw [hobjects] at h
        obtain rfl := Except.error.inj h
        rfl
      · rw [hobjects] at h
        cases h
  | ok objects =>
    have hfails : c.FailsWith e ↔ c.definitions objects = .error e := by
      rw [definitions_eq_error]
      constructor
      · rintro (h | ⟨h, hbefore, hkind, herror⟩)
        · rw [hobjects] at h
          cases h
        · rw [hobjects] at h
          exact ⟨_, _, _, Except.ok.inj h, hbefore, hkind, herror⟩
      · rintro ⟨before, o, after, rfl, hbefore, hkind, herror⟩
        exact .table hobjects hbefore hkind herror
    rw [hfails, introspect_of_ok hobjects]
    cases hds : c.definitions objects with
    | error e' => simp
    | ok ds => simp

/-- There is an error exactly if the objects cannot be listed, or if one of them is a table that
cannot be described, wherever it stands. -/
theorem exists_failsWith_iff :
    (∃ e, c.FailsWith e) ↔ (∃ e, c.objects = .error e) ∨ ∃ objects, c.objects = .ok objects ∧
      ∃ o ∈ objects, o.kind = .table ∧ ∃ e, c.describe o.name = .error e := by
  constructor
  · rintro ⟨e, h | ⟨hobjects, -, hkind, herror⟩⟩
    · exact .inl ⟨e, h⟩
    · exact .inr ⟨_, hobjects, _, by simp, hkind, e, herror⟩
  · rintro (⟨e, h⟩ | ⟨objects, hobjects, o, ho, hkind, e, herror⟩)
    · exact ⟨e, .listing h⟩
    · have hreads : ¬ ∀ o ∈ objects, c.Reads o := by
        intro hall
        obtain ⟨d, hd⟩ := hall o ho hkind
        rw [herror] at hd
        cases hd
      cases hds : c.definitions objects with
      | ok ds => exact absurd (definitions_eq_ok.mp hds).1 hreads
      | error e' =>
        obtain ⟨before, o, after, rfl, hbefore, hkind, herror⟩ := definitions_eq_error.mp hds
        exact ⟨e', .table hobjects hbefore hkind herror⟩

/-! ## The tables -/

/-- The definitions that are read make up tables that stand for the objects, wherever the keys
lead. -/
theorem shown_of_definitions (all : Definitions) (h : c.definitions objects = .ok ds) :
    c.Shown objects (ds.map fun e => all.table e.1 e.2) := by
  induction objects generalizing ds with
  | nil =>
    obtain rfl := Except.ok.inj h
    exact .nil
  | cons o objects ih =>
    by_cases hkind : o.kind = .table
    · cases hd : c.describe o.name with
      | error e =>
        rw [definitions_cons_of_error hkind hd] at h
        cases h
      | ok d =>
        rw [definitions_cons_of_ok hkind hd] at h
        cases hrest : c.definitions objects with
        | error e =>
          rw [hrest] at h
          cases h
        | ok rest =>
          rw [hrest] at h
          have hds : ds = if d.columns.isEmpty then rest else (o.name, d) :: rest :=
            (Except.ok.inj h).symm
          by_cases hcolumns : d.columns = []
          · rw [hds, if_pos (by simp [hcolumns])]
            exact .empty hkind hd hcolumns (ih hrest)
          · rw [hds, if_neg (by simpa using hcolumns)]
            exact .table hkind hd hcolumns rfl (all.forall₂_kept d [] d.columns) (ih hrest)
    · rw [definitions_cons_of_not_table hkind] at h
      exact .pass hkind (ih h)

/-! ## Nothing else -/

theorem definitions_filter (c : Catalog) (objects : List CatalogObject) :
    c.definitions (objects.filter (·.kind = .table)) = c.definitions objects := by
  induction objects with
  | nil => rfl
  | cons o objects ih =>
    by_cases hkind : o.kind = .table
    · rw [List.filter_cons_of_pos (by simpa using hkind)]
      cases hd : c.describe o.name with
      | error e => rw [definitions_cons_of_error hkind hd, definitions_cons_of_error hkind hd]
      | ok d => rw [definitions_cons_of_ok hkind hd, definitions_cons_of_ok hkind hd, ih]
    · rw [List.filter_cons_of_neg (by simpa using hkind), definitions_cons_of_not_table hkind, ih]

/-- What tells of the tables is how these are described. -/
theorem definitions_congr
    (h : ∀ o ∈ objects, o.kind = .table → c'.describe o.name = c.describe o.name) :
    c'.definitions objects = c.definitions objects := by
  induction objects with
  | nil => rfl
  | cons o objects ih =>
    obtain ⟨ho, hrest⟩ := List.forall_mem_cons.mp h
    by_cases hkind : o.kind = .table
    · have hdescribe := ho hkind
      cases hd : c.describe o.name with
      | error e =>
        rw [definitions_cons_of_error hkind (hdescribe.trans hd),
          definitions_cons_of_error hkind hd]
      | ok d =>
        rw [definitions_cons_of_ok hkind (hdescribe.trans hd), definitions_cons_of_ok hkind hd,
          ih hrest]
    · rw [definitions_cons_of_not_table hkind, definitions_cons_of_not_table hkind, ih hrest]

theorem introspect_congr (h : c.AgreesOnTables c') : c'.introspect = c.introspect := by
  have hlisted := h.objects
  cases hobjects : c.objects with
  | error e =>
    cases hobjects' : c'.objects with
    | error e' =>
      rw [hobjects, hobjects'] at hlisted
      obtain rfl := Except.error.inj hlisted
      rw [introspect_of_error hobjects, introspect_of_error hobjects']
    | ok objects' =>
      rw [hobjects, hobjects'] at hlisted
      cases hlisted
  | ok objects =>
    cases hobjects' : c'.objects with
    | error e' =>
      rw [hobjects, hobjects'] at hlisted
      cases hlisted
    | ok objects' =>
      rw [hobjects, hobjects'] at hlisted
      have htables : objects'.filter (·.kind = .table) = objects.filter (·.kind = .table) :=
        Except.ok.inj hlisted
      have hdefinitions : c'.definitions objects' = c.definitions objects := by
        rw [← c'.definitions_filter, htables, c'.definitions_filter]
        exact definitions_congr (h.describe objects hobjects)
      rw [introspect_of_ok hobjects, introspect_of_ok hobjects', hdefinitions]

/-- Reading a schema fails exactly if the objects cannot be listed or some object that is a table
cannot be described, and then with the error of the listing or of the first such table. If it does
not fail, there is one table for each object that is a table with columns, in the order of the
objects and under their names, with the columns of the definition. Nothing that the catalog says of
other objects plays a part. -/
theorem introspect_whole (c : Catalog) :
    ((∃ e, c.introspect = .error e) ↔ (∃ e, c.objects = .error e) ∨
        ∃ objects, c.objects = .ok objects ∧
          ∃ o ∈ objects, o.kind = .table ∧ ∃ e, c.describe o.name = .error e) ∧
      (∀ e, c.introspect = .error e ↔ c.FailsWith e.cause) ∧
      (∀ s, c.introspect = .ok s → ∃ objects, c.objects = .ok objects ∧ c.Shown objects s.tables) ∧
      ∀ c', c.AgreesOnTables c' → c'.introspect = c.introspect := by
  refine ⟨?_, fun e => introspect_eq_error, fun s hs => ?_, fun c' => introspect_congr⟩
  · rw [← exists_failsWith_iff]
    constructor
    · rintro ⟨e, h⟩
      exact ⟨e.cause, introspect_eq_error.mp h⟩
    · rintro ⟨e, h⟩
      exact ⟨⟨e⟩, introspect_eq_error.mpr h⟩
  · obtain ⟨objects, ds, hobjects, hds, rfl⟩ := introspect_eq_ok.mp hs
    exact ⟨objects, hobjects, shown_of_definitions ds hds⟩

end Catalog
end AskSql
