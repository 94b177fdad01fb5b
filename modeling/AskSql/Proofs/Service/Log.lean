import AskSql.Proofs.Generation.Calls
import AskSql.Service.Basic

/-!
# The log of statements

A statement reaches a store by a call, and the log of a run holds the statements of these calls. It
can be told from the answers alone : each answer with rows reports the statement that it gives
back, if the statement passes the gate, and the log is what the answers report, in order
(`Service.log_eq_flatMap_reported`). Whatever generation goes through on its way to a statement, the
statement given back is the one that was handed over.

So what is in the log has passed the gate. And what the stores answer to statements, be it rows or
failures, does not change which ones they are handed.
-/

namespace AskSql

open Program

/-- The statement that an answer reports as handed to the store, if it reports one : the one
given back with status `ok`, if it passes the gate. -/
def Service.Answer.reported : Service.Answer → List Text
  | .executed ⟨.ok, body⟩ => body.sql.toList.filter isReadOnly
  | _ => []

/-! ## The gate -/

namespace Execution

variable (answers : Answers) (sql : Text)

theorem executed_run_rows : ((rows sql).run answers).executed = [sql].filter isReadOnly := by
  unfold rows
  by_cases hgate : isReadOnly sql = true
  · rw [if_pos hgate, executed_run_bind]
    cases h : answers (.fetch sql) <;> simp [Effect.executed, Call.statement?, h, hgate]
  · simp [Effect.executed, hgate]

/-- A statement is handed over once if it passes the gate, and not at all if it does not. -/
theorem executed_run_result : ((result sql).run answers).executed = [sql].filter isReadOnly := by
  rw [result, executed_run_bind, executed_run_rows]
  cases ((rows sql).run answers).value <;> simp [Effect.executed]

end Execution

namespace Service

variable (strategy : Strategy) (answers : Answers) (r : QueryRequest)

/-! ## One request -/

theorem executed_run_telling : (telling.run answers).executed = [] := by
  have hschema : (Introspection.schema.run answers).executed = [] :=
    (Introspection.callsOnly_schema.imp fun _ h => h.statement?_eq_none).executed_eq_nil answers
  rw [telling, executed_run_bind, hschema]
  cases (Introspection.schema.run answers).value <;> rfl

theorem executed_run_generation? : ((generation? strategy r).run answers).executed = [] := by
  unfold generation?
  split
  · rw [run_bind_pure, Effect.executed_map]
    exact (Generation.callsOnly_generating strategy _ _).executed_eq_nil answers
  · rfl

theorem executed_run_converting : ((converting strategy r).run answers).executed = [] := by
  rw [converting, run_bind_pure, Effect.executed_map, executed_run_generation?]

/-- Of what is generated for a request, the statement is handed over if it passes the gate. -/
theorem executed_run_executing :
    ((executing strategy r).run answers).executed =
      (((generation? strategy r).run answers).value.map (·.query.sql)).toList.filter
        isReadOnly := by
  rw [executing, executed_run_bind, executed_run_generation?, List.nil_append]
  cases ((generation? strategy r).run answers).value with
  | none => rfl
  | some g => rw [execution, run_bind_pure, Effect.executed_map, Execution.executed_run_result]; rfl

/-- What is generated for a request on a store is what is generated with its catalog. -/
theorem value_run_generation? (store : Store) (endpoint : Endpoint) :
    ((generation? strategy r).run (store.answers endpoint)).value = r.words?.map fun words =>
      (generate strategy store.catalog endpoint words r.schemaText).toGenerated := by
  unfold generation?
  cases r.words? with
  | none => rfl
  | some words => simp [Generation.value_run_generating]

/-! ## One step -/

/-- What a step hands to the store is what its answer reports, whatever it is answered itself. -/
theorem executed_run_program (step : Step) :
    ((step.program strategy).run answers).executed =
      ((step.program strategy).run answers).value.reported := by
  cases step with
  | convert r =>
    rw [Step.program, run_bind_pure, Effect.executed_map, executed_run_converting]
    rfl
  | convertAndExecute r =>
    rw [Step.program, run_bind_pure, Effect.executed_map, executed_run_executing, executing]
    -- a request without words is refused, any other one is given back its statement
    cases hg : ((generation? strategy r).run answers).value <;>
      simp [hg, execution, Answer.reported]
  | schema =>
    rw [Step.program, run_bind_pure, Effect.executed_map, executed_run_telling]
    rfl
  | health => rfl

/-- Of a store, its catalog alone decides on what a step hands to it. -/
theorem executed_perform_withFetch (store : Store) (endpoint : Endpoint) (step : Step)
    (fetch : Text → Except StoreError (List Row)) :
    (perform strategy { store with fetch := fetch } endpoint step).executed =
      (perform strategy store endpoint step).executed := by
  cases step with
  | convert r => simp [perform, Step.program, executed_run_converting]
  | convertAndExecute r =>
    simp [perform, Step.program, executed_run_executing, value_run_generation?]
  | schema => simp [perform, Step.program, executed_run_telling]
  | health => rfl

/-! ## Runs -/

variable (steps : List (Store × Endpoint × Step))

theorem log_cons (store : Store) (endpoint : Endpoint) (step : Step) :
    log strategy ((store, endpoint, step) :: steps) =
      (perform strategy store endpoint step).executed ++ log strategy steps :=
  rfl

theorem isReadOnly_of_mem_reported {a : Answer} {sql : Text} (h : sql ∈ a.reported) :
    isReadOnly sql = true := by
  unfold Answer.reported at h
  split at h
  · exact (List.mem_filter.mp h).2
  · cases h

theorem log_map_withFetch (fetch : Store → Text → Except StoreError (List Row)) :
    log strategy (steps.map fun (store, endpoint, step) =>
      ({ store with fetch := fetch store }, endpoint, step)) = log strategy steps := by
  induction steps with
  | nil => rfl
  | cons first steps ih =>
    obtain ⟨store, endpoint, step⟩ := first
    rw [List.map_cons, log_cons, executed_perform_withFetch, ih, log_cons]

/-- The statements handed to the stores in a run are the ones that its answers report, in order and
each as often as it is reported. So each of them has passed the gate. They do not depend on what
the stores answer to them, be it rows or failures. -/
theorem log_eq_flatMap_reported :
    log strategy steps = (run strategy steps).flatMap (·.value.reported) ∧
      (∀ sql ∈ log strategy steps, isReadOnly sql = true) ∧
      ∀ fetch : Store → Text → Except StoreError (List Row),
        log strategy (steps.map fun (store, endpoint, step) =>
          ({ store with fetch := fetch store }, endpoint, step)) = log strategy steps := by
  have hreported : log strategy steps = (run strategy steps).flatMap (·.value.reported) := by
    induction steps with
    | nil => rfl
    | cons first steps ih =>
      obtain ⟨store, endpoint, step⟩ := first
      rw [log_cons, perform, executed_run_program, ih]
      rfl
  refine ⟨hreported, fun sql hsql => ?_, log_map_withFetch strategy steps⟩
  rw [hreported] at hsql
  obtain ⟨e, -, he⟩ := List.mem_flatMap.mp hsql
  exact isReadOnly_of_mem_reported he

end Service
end AskSql
