import AskSql.Proofs.Catalog.Reading
import Mathlib.Data.List.Forall2

/-!
# Keys that reach a schema

A catalog tells the keys of a table in lists of their own, next to the columns, and a key finds
its column by the name. `Definitions.KeysOf` says on these lists alone which keys a column of a
schema has, for a given way of comparing names.

`Catalog.introspect_keys` : a column has the keys that spell its name as it is spelled. The
database itself takes two spellings that differ in case for one name. So a key that spells the
name in another case is lost, and the theorem says when none is.
-/

namespace AskSql

open Text

/-! ## Where keys lead -/

namespace Definitions

variable (ds : Definitions)

/-- A foreign key leads to the column that it names, or to the primary key of the first table of
the name that it gives, if that is a single column. -/
inductive Leads (key : ForeignKey) : ForeignKeyTarget → Prop
  /-- The key names its target column. -/
  | named {column : Text} (h : key.targetColumn = some column) : Leads key ⟨key.targetTable, column⟩
  /-- The key names a table only. -/
  | implied {before after : Definitions} {name primaryKey : Text} {d : TableDefinition}
    (h : key.targetColumn = none) (hds : ds = before ++ (name, d) :: after)
    (hbefore : ∀ e ∈ before, equalsIgnoringCase e.1 key.targetTable = false)
    (hname : equalsIgnoringCase name key.targetTable = true) (hkey : d.primaryKeys = [primaryKey]) :
    Leads key ⟨name, primaryKey⟩

/-- The targets of the keys whose column has a name that is `called` so, in the order of the keys.
A key that leads nowhere adds none. -/
inductive Gathers (called : Text → Bool) : List ForeignKey → List ForeignKeyTarget → Prop
  | nil : Gathers called [] []
  | take {key : ForeignKey} {keys : List ForeignKey} {target : ForeignKeyTarget}
    {targets : List ForeignKeyTarget} (hcalled : called key.column = true)
    (hkey : ds.Leads key target) (h : Gathers called keys targets) :
    Gathers called (key :: keys) (target :: targets)
  | leave {key : ForeignKey} {keys : List ForeignKey} {targets : List ForeignKeyTarget}
    (hnone : called key.column = true → ∀ target, ¬ ds.Leads key target)
    (h : Gathers called keys targets) : Gathers called (key :: keys) targets

/-- A column of a schema has the keys of a table that say a name which is `called` so. -/
structure KeysOf (d : TableDefinition) (called : Text → Bool) (column : Column) : Prop where
  targets : ds.Gathers called d.foreignKeys column.targets
  primaryKey : column.primaryKey = true ↔ ∃ name ∈ d.primaryKeys, called name = true

/-- The keys of a table that are about the column `name`, whatever the case, spell it so. A
foreign key that leads nowhere may spell it as it likes, and so may a primary key that is given
twice. -/
structure SpellsKeys (d : TableDefinition) (name : Text) : Prop where
  foreign : ∀ key ∈ d.foreignKeys, equalsIgnoringCase key.column name = true →
    (∃ target, ds.Leads key target) → key.column = name
  primary : (∃ n ∈ d.primaryKeys, equalsIgnoringCase n name = true) → name ∈ d.primaryKeys

variable {ds} {key : ForeignKey} {keys : List ForeignKey} {target : ForeignKeyTarget}
  {targets : List ForeignKeyTarget} {called called' : Text → Bool}

theorem target?_eq_some_iff : ds.target? key = some target ↔ ds.Leads key target := by
  rw [target?]
  constructor
  · intro h
    cases hcolumn : key.targetColumn with
    | some column =>
      simp only [hcolumn, Option.some.injEq] at h
      exact h ▸ .named hcolumn
    | none =>
      simp only [hcolumn] at h
      split at h
      · next name primaryKey hfind =>
        obtain ⟨hname, before, after, rfl, hbefore⟩ := List.find?_eq_some_iff_append.mp hfind
        obtain rfl := Option.some.inj h
        exact .implied hcolumn rfl (fun e he => by simpa using hbefore e he) hname rfl
      · cases h
  · rintro (hcolumn | ⟨hcolumn, rfl, hbefore, hname, hkey⟩)
    · simp [hcolumn]
    · rename_i before after name primaryKey d
      have hfind : (before ++ (name, d) :: after).find?
          (fun e => equalsIgnoringCase e.1 key.targetTable) = some (name, d) := by
        refine List.find?_eq_some_iff_append.mpr ⟨hname, before, after, rfl, fun e he => ?_⟩
        simp [hbefore e he]
      obtain ⟨_, _, primaryKeys, _⟩ := d
      obtain rfl : primaryKeys = [primaryKey] := hkey
      simp [hcolumn, hfind]

/-! ## Gathering targets -/

theorem gathers_filterMap (keys : List ForeignKey) :
    ds.Gathers called keys ((keys.filter fun key => called key.column).filterMap ds.target?) := by
  induction keys with
  | nil => exact .nil
  | cons key keys ih =>
    cases hcalled : called key.column with
    | false =>
      rw [List.filter_cons_of_neg (by simp [hcalled])]
      exact .leave (by simp [hcalled]) ih
    | true =>
      rw [List.filter_cons_of_pos (by simpa using hcalled)]
      cases htarget : ds.target? key with
      | none =>
        rw [List.filterMap_cons_none htarget]
        refine .leave (fun _ target hkey => ?_) ih
        simp [target?_eq_some_iff.mpr hkey] at htarget
      | some target =>
        rw [List.filterMap_cons_some htarget]
        exact .take hcalled (target?_eq_some_iff.mp htarget) ih

/-- Where fewer names count, targets are gathered as before exactly if no key is left out that
leads anywhere. -/
theorem Gathers.length_le {targets' : List ForeignKeyTarget}
    (hcalled : ∀ name, called name = true → called' name = true)
    (h : ds.Gathers called keys targets) (h' : ds.Gathers called' keys targets') :
    targets.length ≤ targets'.length ∧ (targets.length = targets'.length →
      ∀ key ∈ keys, called' key.column = true → (∃ target, ds.Leads key target) →
        called key.column = true) := by
  induction h generalizing targets' with
  | nil =>
    cases h'
    simp
  | take hkey htarget h ih =>
    cases h' with
    | take _ _ h' =>
      obtain ⟨hle, hall⟩ := ih h'
      refine ⟨by simpa using hle, fun heq k hk => ?_⟩
      rcases List.mem_cons.mp hk with rfl | hk
      · exact fun _ _ => hkey
      · exact hall (by simpa using heq) k hk
    | leave hnone _ => exact absurd htarget (hnone (hcalled _ hkey) _)
  | leave hnone h ih =>
    cases h' with
    | take _ _ h' =>
      have hle := (ih h').1
      simp only [List.length_cons]
      exact ⟨by omega, fun heq => by omega⟩
    | leave hnone' h' =>
      obtain ⟨hle, hall⟩ := ih h'
      refine ⟨hle, fun heq k hk hcalled' hleads => ?_⟩
      rcases List.mem_cons.mp hk with rfl | hk
      · obtain ⟨target, htarget⟩ := hleads
        exact absurd htarget (hnone' hcalled' target)
      · exact hall heq k hk hcalled' hleads

theorem Gathers.of_forall (hcalled : ∀ name, called name = true → called' name = true)
    (h : ds.Gathers called keys targets)
    (hall : ∀ key ∈ keys, called' key.column = true → (∃ target, ds.Leads key target) →
      called key.column = true) : ds.Gathers called' keys targets := by
  induction h with
  | nil => exact .nil
  | take hkey htarget _ ih =>
    exact .take (hcalled _ hkey) htarget (ih fun k hk => hall k (List.mem_cons_of_mem _ hk))
  | leave hnone _ ih =>
    refine .leave (fun hkey target htarget => ?_)
      (ih fun k hk => hall k (List.mem_cons_of_mem _ hk))
    exact hnone (hall _ List.mem_cons_self hkey ⟨target, htarget⟩) target htarget

/-! ## Columns -/

theorem equalsIgnoringCase_of_eq {a b : Text} (h : (a == b) = true) :
    equalsIgnoringCase a b = true := by
  rw [eq_of_beq h]
  simp [equalsIgnoringCase]

/-- A column that has the keys which spell its name so has all that are about it exactly if they
all spell it so. -/
theorem KeysOf.ignoringCase_iff {d : TableDefinition} {column : Column}
    (h : ds.KeysOf d (· == column.name) column) :
    ds.KeysOf d (equalsIgnoringCase · column.name) column ↔ ds.SpellsKeys d column.name := by
  have hprimary : (∃ name ∈ d.primaryKeys, (name == column.name) = true) ↔
      column.name ∈ d.primaryKeys := by simp
  constructor
  · intro h'
    obtain ⟨-, hall⟩ := h.targets.length_le (fun _ => equalsIgnoringCase_of_eq) h'.targets
    exact ⟨fun key hkey hname hleads => eq_of_beq (hall rfl key hkey hname hleads),
      fun hname => hprimary.mp (h.primaryKey.mp (h'.primaryKey.mpr hname))⟩
  · intro hspells
    refine ⟨h.targets.of_forall (fun _ => equalsIgnoringCase_of_eq) ?_, ?_⟩
    · exact fun key hkey hname hleads => beq_iff_eq.mpr (hspells.foreign key hkey hname hleads)
    · rw [h.primaryKey, hprimary]
      exact ⟨fun hmem => ⟨column.name, hmem, equalsIgnoringCase_of_eq (beq_self_eq_true _)⟩,
        hspells.primary⟩

/-- A column of a schema stands for the column of a definition and has the keys that spell its
name so. -/
structure Carries (d : TableDefinition) (c : ColumnDefinition) (column : Column) : Prop where
  name : column.name = c.name
  keys : ds.KeysOf d (· == column.name) column

/-- Where no name occurs twice, no key is gone before its column is reached. -/
theorem forall₂_columns (d : TableDefinition) {before : List Text} {cs : List ColumnDefinition}
    (hnames : (cs.map (·.name)).Nodup) (hbefore : ∀ c ∈ cs, c.name ∉ before) :
    List.Forall₂ (ds.Carries d) cs (ds.columns d before cs) := by
  induction cs generalizing before with
  | nil => exact .nil
  | cons c cs ih =>
    obtain ⟨hc, hcs⟩ := List.nodup_cons.mp hnames
    have hfirst : before.contains c.name = false := by
      simpa using hbefore c List.mem_cons_self
    refine .cons ⟨rfl, ?_, by simp⟩ (ih hcs fun e he => ?_)
    · simp only [hfirst, Bool.false_eq_true, if_false]
      exact gathers_filterMap d.foreignKeys
    · have hne : e.name ≠ c.name := fun heq => hc (List.mem_map.mpr ⟨e, he, heq⟩)
      simpa [hne] using hbefore e (List.mem_cons_of_mem c he)

end Definitions

/-! ## Introspection -/

namespace Catalog

variable {c : Catalog} {s : Schema}

theorem introspect_eq_ok :
    c.introspect = .ok s ↔ ∃ objects ds, c.objects = .ok objects ∧ c.definitions objects = .ok ds ∧
      s = Definitions.schema ds := by
  cases hobjects : c.objects with
  | error e => simp [introspect_of_error hobjects]
  | ok objects =>
    rw [introspect_of_ok hobjects]
    cases hds : c.definitions objects with
    | error e => simp [hds]
    | ok ds => simp [hds, eq_comm]

/-- Each column of a schema that was read has, in their order, the keys of its table that spell
its name as it does. These are all keys that are about the column, whatever the case of its name,
exactly if the definition spells the name alike in all keys that lead anywhere. -/
theorem introspect_keys (h : c.introspect = .ok s) :
    ∃ objects ds, c.objects = .ok objects ∧ c.definitions objects = .ok ds ∧
      List.Forall₂ (fun (e : Text × TableDefinition) (t : Table) => t.name = e.1 ∧
        ((e.2.columns.map (·.name)).Nodup →
          List.Forall₂ (fun (d : ColumnDefinition) (column : Column) => column.name = d.name ∧
            ds.KeysOf e.2 (· == column.name) column ∧
            (ds.KeysOf e.2 (equalsIgnoringCase · column.name) column ↔
              ds.SpellsKeys e.2 column.name)) e.2.columns t.columns)) ds s.tables := by
  obtain ⟨objects, ds, hobjects, hds, rfl⟩ := introspect_eq_ok.mp h
  refine ⟨objects, ds, hobjects, hds, List.forall₂_map_right_iff.mpr ?_⟩
  refine List.forall₂_same.mpr fun e _ => ⟨rfl, fun hnames => ?_⟩
  have hcolumns : List.Forall₂ (ds.Carries e.2) e.2.columns (ds.columns e.2 [] e.2.columns) :=
    Definitions.forall₂_columns e.2 hnames (by simp)
  exact hcolumns.imp fun d column hcolumn =>
    ⟨hcolumn.name, hcolumn.keys, hcolumn.keys.ignoringCase_iff⟩

/-- A table refers to the key of one that is listed after it, under its name in another case, and
to a column by name; a third key gives its own column in another case. The first two are found
and the third is not. -/
theorem introspect_keys_of_other_case :
    let column (name : String) : ColumnDefinition := ⟨name.toList, "INT".toList, 0, true⟩
    let key (column table : String) (target : Option String) : ForeignKey :=
      ⟨column.toList, table.toList, target.map String.toList⟩
    let orders : TableDefinition :=
      ⟨"orders".toList, [column "id", column "by"], ["ID".toList],
        [key "by" "Users" none, key "by" "users" (some "no"), key "By" "users" (some "id")]⟩
    let users : TableDefinition := ⟨"users".toList, [column "no"], ["no".toList], []⟩
    let c : Catalog :=
      ⟨.ok [⟨"orders".toList, .table⟩, ⟨"users".toList, .table⟩],
        fun name => .ok (if name = "users".toList then users else orders)⟩
    let shown (name : String) (primaryKey : Bool) (targets : List ForeignKeyTarget) : Column :=
      ⟨name.toList, "INT".toList, 0, true, primaryKey, targets⟩
    let own := [⟨"users".toList, "no".toList⟩, ⟨"users".toList, "no".toList⟩]
    c.introspect = .ok ⟨[⟨"orders".toList, [shown "id" false [], shown "by" false own]⟩,
        ⟨"users".toList, [shown "no" true []]⟩]⟩ ∧
      ∃ ds : Definitions, ds.KeysOf orders (· == "by".toList) (shown "by" false own) ∧
        ¬ ds.KeysOf orders (equalsIgnoringCase · "by".toList) (shown "by" false own) := by
  intro column key orders users c shown own
  have h : c.introspect = .ok ⟨[⟨"orders".toList, [shown "id" false [], shown "by" false own]⟩,
      ⟨"users".toList, [shown "no" true []]⟩]⟩ := by decide
  obtain ⟨objects, ds, hobjects, hds, htables⟩ := introspect_keys h
  obtain rfl := Except.ok.inj hobjects
  obtain rfl := Except.ok.inj hds
  obtain ⟨-, horders⟩ := (List.forall₂_cons.mp htables).1
  have hby := (List.forall₂_cons.mp (List.forall₂_cons.mp (horders (by decide))).2).1
  refine ⟨h, _, hby.2.1, fun hall => ?_⟩
  have hspells := (hby.2.2.mp hall).foreign (key "By" "users" (some "id")) (by decide) (by decide)
    ⟨_, .named rfl⟩
  exact absurd hspells (by decide)

end Catalog
end AskSql
