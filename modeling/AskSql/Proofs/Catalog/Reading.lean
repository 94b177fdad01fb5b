import AskSql.Catalog.Introspection
import AskSql.Proofs.Program

/-!
# Reading a catalog

Introspection asks a catalog and nothing else (`Introspection.callsOnly_schema`), so what it reads
is the same whatever else there is (`Introspection.value_run_schema`). The catalog is read object by
object, and how the reading of one object goes on with the next is said here once.
-/

namespace AskSql

open Program

/-- The call is a question to a catalog. -/
def Call.AsksCatalog : Call → Prop
  | .objects | .describe _ => True
  | .fetch _ | .send _ => False

/-! ## Questions -/

namespace Introspection

theorem callsOnly_definitions (objects : List CatalogObject) :
    (definitions objects).CallsOnly Call.AsksCatalog := by
  induction objects with
  | nil => exact .done _
  | cons o rest ih =>
    unfold definitions
    split
    · exact ih
    · refine .bind (.single trivial) fun d => ?_
      split
      · exact .done _
      · refine .bind ih fun ds => ?_
        split <;> exact .done _

/-- To read the schema calls nothing but the catalog. -/
theorem callsOnly_schema : schema.CallsOnly Call.AsksCatalog := by
  refine .bind (.single trivial) fun objects => ?_
  split
  · exact .done _
  · refine .bind (callsOnly_definitions _) fun ds => ?_
    split <;> exact .done _

/-- What is read from a store is what its catalog tells. -/
theorem value_run_schema (store : Store) (endpoint : Endpoint) :
    (schema.run (store.answers endpoint)).value = store.catalog.introspect := by
  refine congrArg Effect.value (run_congr fun c hc => ?_)
  have hcatalog : c.AsksCatalog := callsOnly_schema.of_mem_calls _ c hc
  cases c with
  | objects => rfl
  | describe table => rfl
  | fetch sql => exact hcatalog.elim
  | send r => exact hcatalog.elim

end Introspection

/-! ## Object by object -/

namespace Catalog

variable {c : Catalog} {o : CatalogObject} {e : StoreError}

@[simp] theorem definitions_nil : c.definitions [] = .ok [] :=
  rfl

/-- What is no table is passed over. -/
theorem definitions_cons_of_not_table (h : o.kind ≠ .table) (objects : List CatalogObject) :
    c.definitions (o :: objects) = c.definitions objects := by
  rw [definitions, Introspection.definitions, if_pos h]
  rfl

/-- The first table that is not described ends the reading with its error. -/
theorem definitions_cons_of_error (hkind : o.kind = .table) (h : c.describe o.name = .error e)
    (objects : List CatalogObject) : c.definitions (o :: objects) = .error e := by
  have hanswer : (Store.ofCatalog c).answers (fun _ => .unreachable) (.describe o.name) =
      .error e := h
  rw [definitions, Introspection.definitions, if_neg (not_not_intro hkind)]
  simp [hanswer]

/-- A table that is described comes before the ones behind it, unless it has no columns. -/
theorem definitions_cons_of_ok {d : TableDefinition} (hkind : o.kind = .table)
    (h : c.describe o.name = .ok d) (objects : List CatalogObject) :
    c.definitions (o :: objects) = (c.definitions objects).map fun ds =>
      if d.columns.isEmpty then ds else (o.name, d) :: ds := by
  have hanswer : (Store.ofCatalog c).answers (fun _ => .unreachable) (.describe o.name) =
      .ok d := h
  rw [definitions, Introspection.definitions, if_neg (not_not_intro hkind), definitions]
  simp only [value_run_bind, run_describe, hanswer]
  cases ((Introspection.definitions objects).run _).value <;> rfl

/-- Without a list of objects there is no schema. -/
theorem introspect_of_error (h : c.objects = .error e) : c.introspect = .error ⟨e⟩ := by
  have hanswer : (Store.ofCatalog c).answers (fun _ => .unreachable) .objects = .error e := h
  rw [introspect, Introspection.schema]
  simp [hanswer]

/-- The schema is that of the definitions of the objects. -/
theorem introspect_of_ok {objects : List CatalogObject} (h : c.objects = .ok objects) :
    c.introspect =
      match c.definitions objects with
      | .error e => .error ⟨e⟩
      | .ok ds => .ok ds.schema := by
  have hanswer : (Store.ofCatalog c).answers (fun _ => .unreachable) .objects = .ok objects := h
  rw [introspect, Introspection.schema, definitions]
  simp only [value_run_bind, run_objects, hanswer]
  cases ((Introspection.definitions objects).run _).value <;> rfl

end Catalog
end AskSql
