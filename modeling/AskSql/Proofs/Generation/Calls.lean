import AskSql.Generation
import AskSql.Proofs.Catalog.Reading

/-!
# Calls of generation

Generation reads a schema from a catalog, unless a schema text comes with the request, and then asks
a provider for a statement about it. It hands no statement to a store
(`Generation.callsOnly_generating`), so of a store it sees the catalog and nothing else
(`Generation.run_generating`).
-/

namespace AskSql

open Program

/-! ## Kinds of calls -/

/-- The call is a request to a provider. -/
def Call.AsksProvider : Call → Prop
  | .send _ => True
  | .objects | .describe _ | .fetch _ => False

namespace Call

variable {c : Call}

theorem AsksCatalog.statement?_eq_none (h : c.AsksCatalog) : c.statement? = none := by
  cases c with
  | fetch sql => exact h.elim
  | objects | describe table | send r => rfl

theorem AsksCatalog.request?_eq_none (h : c.AsksCatalog) : c.request? = none := by
  cases c with
  | send r => exact h.elim
  | objects | describe table | fetch sql => rfl

theorem AsksProvider.statement?_eq_none (h : c.AsksProvider) : c.statement? = none := by
  cases c with
  | fetch sql => exact h.elim
  | objects | describe table | send r => rfl

end Call

/-! ## Completions -/

theorem Client.callsOnly_complete (c : Client) (system user : Text) :
    (c.complete system user).CallsOnly Call.AsksProvider := by
  unfold complete
  split
  · exact .done _
  · exact .bind (.single trivial) fun _ => .done _

theorem Strategy.callsOnly_complete (strategy : Strategy) (system user : Text) :
    (strategy.complete system user).CallsOnly Call.AsksProvider := by
  cases strategy with
  | client c => exact c.callsOnly_complete system user
  | unconfigured p => exact .done _

/-- Only the provider has a say in what a program that asks nothing else comes to. -/
theorem Program.CallsOnly.run_eq {α : Type} {p : Program α} (h : p.CallsOnly Call.AsksProvider)
    (store store' : Store) (endpoint : Endpoint) :
    p.run (store'.answers endpoint) = p.run (store.answers endpoint) := by
  refine run_congr fun c hc => ?_
  have hasks : c.AsksProvider := h.of_mem_calls _ c hc
  cases c with
  | send r => rfl
  | objects | describe table | fetch sql => exact hasks.elim

namespace Generation

variable (strategy : Strategy) (request : Text) (supplied : Option Text)

/-! ## Generation -/

theorem callsOnly_schemaText : (schemaText supplied).CallsOnly Call.AsksCatalog := by
  unfold schemaText
  split
  · exact .done _
  · refine .bind Introspection.callsOnly_schema fun schema => ?_
    split <;> exact .done _

/-- No request is sent for the schema text. -/
theorem sent_run_schemaText (answers : Answers) : ((schemaText supplied).run answers).sent = [] :=
  ((callsOnly_schemaText supplied).imp fun _ h => h.request?_eq_none).sent_eq_nil answers

theorem callsOnly_statement (s : Text) :
    (statement strategy request s).CallsOnly Call.AsksProvider := by
  refine .bind (strategy.callsOnly_complete _ _) fun completion => ?_
  split <;> exact .done _

/-- Whatever generation goes through, it hands nothing to a store. -/
theorem callsOnly_generating :
    (generating strategy request supplied).CallsOnly (·.statement? = none) := by
  refine .bind ((callsOnly_schemaText supplied).imp fun _ h => h.statement?_eq_none) fun text => ?_
  split
  · exact .done _
  · refine .bind ((callsOnly_statement strategy request _).imp
      fun _ h => h.statement?_eq_none) fun sql => ?_
    split <;> exact .done _

/-- Of a store, generation sees the catalog and nothing else. -/
theorem run_generating (store : Store) (endpoint : Endpoint) :
    (generating strategy request supplied).run (store.answers endpoint) =
      (generating strategy request supplied).run
        ((Store.ofCatalog store.catalog).answers endpoint) := by
  refine run_congr fun c hc => ?_
  have hfetches : c.statement? = none :=
    (callsOnly_generating strategy request supplied).of_mem_calls _ c hc
  cases c with
  | fetch sql => cases hfetches
  | objects | describe table | send r => rfl

/-- What is generated on a store is what is generated with its catalog. -/
theorem value_run_generating (store : Store) (endpoint : Endpoint) :
    ((generating strategy request supplied).run (store.answers endpoint)).value =
      (generate strategy store.catalog endpoint request supplied).toGenerated := by
  rw [run_generating]
  rfl

end Generation
end AskSql
