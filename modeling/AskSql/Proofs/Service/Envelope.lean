import AskSql.Proofs.CommandLine.ExitCode
import AskSql.Proofs.Composer.Confinement
import AskSql.Proofs.Service.SingleStatement

/-!
# What a response tells

A request is refused if it has no words, and no call is made for it. Any other one is answered
with SQL, the same whether it is to be run or not, and the fields of the answer agree with each
other (`DataResponse.IsCoherent`). The command line can therefore tell from two of them how a
question has ended (`Service.responses_agree`).

One field does not tell what its name says. A response to a request for data has `executed` set
unless the request is refused, and so it has where the gate rejects the statement of a provider
and nothing is handed to the store (`Service.executed_iff_handed_iff`).
-/

namespace AskSql

open Text CommandLine

/-! ## Requests without words -/

/-- A request has no words : its text is missing, or there is nothing in it but blanks. -/
def QueryRequest.IsWordless (r : QueryRequest) : Prop :=
  ∀ s ∈ r.text, ∀ c ∈ s, isBlank c = true

theorem QueryRequest.words?_eq_none_iff {r : QueryRequest} : r.words? = none ↔ r.IsWordless := by
  simp [words?, IsWordless, isBlankText, Option.filter_eq_none_iff]

instance (r : QueryRequest) : Decidable r.IsWordless :=
  decidable_of_iff _ QueryRequest.words?_eq_none_iff

/-! ## Responses -/

/-- The fields of a response agree : it has data if it tells of success, and an error if it does
not, and it counts the rows of its data. -/
structure DataResponse.IsCoherent (b : DataResponse) : Prop where
  data : b.success = true ↔ b.data.isSome = true
  error : b.success = true ↔ b.error = none
  rowCount : b.rowCount = (b.data.getD []).length

namespace Service

variable (strategy : Strategy) (store : Store) (endpoint : Endpoint) (r : QueryRequest)

section

variable (answers : Answers) (g : Option Generated)

theorem status_conversion_eq_badRequest_iff : (conversion g).status = .badRequest ↔ g = none := by
  cases g <;> simp [conversion]

theorem status_run_execution_eq_badRequest_iff :
    ((execution g).run answers).value.status = .badRequest ↔ g = none := by
  cases g <;> simp [execution]

/-- The fields of a result agree, be it rows or a failure. -/
theorem isCoherent_run_execution : ((execution g).run answers).value.body.IsCoherent := by
  cases g with
  | none => exact ⟨by simp [execution], by simp [execution], rfl⟩
  | some g =>
    simp only [execution, Execution.result, Program.value_run_bind]
    cases ((Execution.rows g.query.sql).run answers).value with
    | ok rows =>
      exact ⟨by simp [ExecutionResult.succeeded], by simp [ExecutionResult.succeeded], rfl⟩
    | error e => exact ⟨by simp [ExecutionResult.failed], by simp [ExecutionResult.failed], rfl⟩

theorem value_run_generation?_eq_none_iff :
    ((generation? strategy r).run answers).value = none ↔ r.IsWordless := by
  rw [← QueryRequest.words?_eq_none_iff, generation?]
  cases r.words? <;> simp

end

/-- Without words, nothing is generated and nothing is asked. -/
theorem generation?_of_isWordless (h : r.IsWordless) : generation? strategy r = pure none := by
  rw [generation?, QueryRequest.words?_eq_none_iff.mpr h]

/-- Both operations refuse a request without words, and make no call for it. -/
theorem convert_of_isWordless (h : r.IsWordless) :
    convert strategy store endpoint r = ⟨conversion none, []⟩ := by
  rw [convert, converting, generation?_of_isWordless strategy r h]
  rfl

theorem convertAndExecute_of_isWordless (h : r.IsWordless) :
    convertAndExecute strategy store endpoint r =
      (execution none).run (store.answers endpoint) := by
  rw [convertAndExecute, executing, generation?_of_isWordless strategy r h]
  rfl

/-- Any other request is answered with what is generated for its words. -/
theorem exists_generation?_of_not_isWordless (h : ¬ r.IsWordless) :
    ∃ words, r.words? = some words ∧
      ((generation? strategy r).run (store.answers endpoint)).value =
        some (generate strategy store.catalog endpoint words r.schemaText).toGenerated := by
  rw [← QueryRequest.words?_eq_none_iff] at h
  obtain ⟨words, hwords⟩ := Option.ne_none_iff_exists'.mp h
  exact ⟨words, hwords, by rw [value_run_generation?, hwords, Option.map_some]⟩

/-- It is given back the same SQL by both operations. -/
theorem exists_bodies_of_not_isWordless (h : ¬ r.IsWordless) : ∃ sql explanation,
    (convert strategy store endpoint r).value.body = ⟨some sql, some explanation, true, none⟩ ∧
      (convertAndExecute strategy store endpoint r).value.body.sql = some sql ∧
      (convertAndExecute strategy store endpoint r).value.body.explanation = some explanation := by
  obtain ⟨words, -, hg⟩ := exists_generation?_of_not_isWordless strategy store endpoint r h
  have hanswers := Generation.answers_generate strategy store.catalog endpoint words r.schemaText
  set g := generate strategy store.catalog endpoint words r.schemaText
  have hquery : g.query = .generated g.query.sql g.query.explanation := hanswers.query_eq
  refine ⟨g.query.sql, g.query.explanation, ?_, ?_, ?_⟩
  · have hsuccess : g.query.success = true := by rw [hquery]; rfl
    have herror : g.query.error = none := by rw [hquery]; rfl
    simp [convert, converting, hg, conversion, hsuccess, herror]
  · simp [convertAndExecute, executing, hg, execution]
  · simp [convertAndExecute, executing, hg, execution]

end Service

/-! ## The gate -/

/-- What the composer writes passes the gate. -/
theorem isReadOnly_compose (request schemaText : Text) :
    isReadOnly (compose request schemaText) = true := by
  obtain ⟨q, -, heq⟩ := exists_compose_eq_sql request schemaText
  obtain ⟨rest, hrest⟩ := q.isPrefix_sql
  have hsolid : Solid q.sql :=
    ⟨⟨'S', "ELECT ".toList ++ rest, hrest.symm, by decide⟩, ⟨q.body, ';', rfl, by decide⟩⟩
  have hselect : "SELECT".toList <+: upper q.sql :=
    (upper_isPrefix (List.prefix_append "SELECT".toList [' '])).trans
      (upper_isPrefix q.isPrefix_sql)
  rw [isReadOnly, heq, hsolid.trim_eq]
  exact List.isPrefixOf_iff_prefix.mpr hselect

namespace Service

/-- A provider gives a statement for a request, and the gate rejects it. -/
def Rejects (strategy : Strategy) (store : Store) (endpoint : Endpoint) (r : QueryRequest) : Prop :=
  ∃ words schemaText sql, r.words? = some words ∧
    Generation.IsAbout store.catalog r.schemaText schemaText ∧
    Generation.Gives strategy endpoint words schemaText sql ∧ isReadOnly sql = false

variable (strategy : Strategy) (store : Store) (endpoint : Endpoint) (r : QueryRequest)

/-- It is only a provider whose statement can be rejected. -/
theorem rejects_iff {words : Text} (hwords : r.words? = some words) :
    Rejects strategy store endpoint r ↔
      isReadOnly (generate strategy store.catalog endpoint words r.schemaText).query.sql =
        false := by
  constructor
  · rintro ⟨words', schemaText, sql, hwords', hschema, hsql, hgate⟩
    obtain rfl : words = words' := Option.some.inj (hwords.symm.trans hwords')
    obtain ⟨source, hgenerate⟩ := Generation.generate_of_gives hschema hsql
    rw [hgenerate]
    exact hgate
  · intro hgate
    have hprovided : Generation.Provided strategy store.catalog endpoint words r.schemaText := by
      -- the composer answers otherwise, and what it writes passes the gate
      by_contra hnot
      rcases Generation.sql_of_not_provided _ _ _ _ _ hnot with ⟨s, -, hsql⟩ | ⟨-, hsql⟩ <;>
        rw [hsql, isReadOnly_compose] at hgate <;> cases hgate
    obtain ⟨schemaText, sql, hschema, hsql⟩ := hprovided
    obtain ⟨source, hgenerate⟩ := Generation.generate_of_gives hschema hsql
    rw [hgenerate] at hgate
    exact ⟨words, schemaText, sql, hwords, hschema, hsql, hgate⟩

/-- A provider answers with a deletion. -/
example :
    let c : Client := .ofSettings .openAI "key".toList Config.default.openAI
    let message := "\x7b\"message\":\x7b\"content\":\"DELETE FROM users\"\x7d\x7d"
    let body := "\x7b\"choices\":[".toList ++ message.toList ++ "]\x7d".toList
    let e := convertAndExecute (.client c)
      ⟨⟨.ok [], fun table => .error (.missingTable table)⟩, fun _ => .ok []⟩
      (fun _ => .answer 200 (some body)) ⟨some "forget all users".toList, none⟩
    e.value.body.sql = some "DELETE FROM users;".toList ∧
      e.value.body.executed = true ∧ e.executed = [] := by
  decide +kernel

/-! ## The responses to a request -/

/-- The command line tells from the status and the success of a response how a question has
ended. -/
theorem exitCode_run_eq {w : World} {args : List Text} {s : PartialStore}
    {e : Effect (Response DataResponse)} (h : IsReady w args strategy s r)
    (hresponse : (executing strategy r).run? (s.answers? w.endpoint) = some e)
    (hcoherent : e.value.body.IsCoherent) :
    (CommandLine.run w args).exitCode =
      if e.value.status = .badRequest ∨ e.value.body.success = false then 1 else 0 := by
  have hfailed : e.value.body.error.isSome = true ∧ e.value.body.success = false ↔
      e.value.body.success = false := by
    refine and_iff_right_of_imp fun hfalse => ?_
    rw [← Option.ne_none_iff_isSome, Ne, ← hcoherent.error, hfalse]
    decide
  rw [exitCode_run_of_isReady w h hresponse]
  simp only [hfailed]

/-- Whatever the request, the store, the strategy and the answer of a provider, the responses to
a request for SQL and to one for data agree. They are refusals if and only if the request has no
words, and then no call is made for them. Otherwise they are about the same SQL. The fields of a
response to a request for data agree as well, and so does the exit code of a program that puts
the request to a store which answers its calls alike. -/
theorem responses_agree (strategy : Strategy) (store : Store) (endpoint : Endpoint)
    (r : QueryRequest) :
    let c := convert strategy store endpoint r
    let e := convertAndExecute strategy store endpoint r
    (c.value.status = .badRequest ↔ r.IsWordless) ∧
      (e.value.status = .badRequest ↔ r.IsWordless) ∧
      (r.IsWordless →
        c.calls = [] ∧ e.calls = [] ∧
        c.value.body = ⟨none, none, false, some emptyText⟩ ∧
        e.value.body = ⟨none, none, false, some emptyText, none, 0, false⟩) ∧
      (¬ r.IsWordless → ∃ sql explanation,
        c.value.body = ⟨some sql, some explanation, true, none⟩ ∧
        e.value.body.sql = some sql ∧ e.value.body.explanation = some explanation) ∧
      e.value.body.IsCoherent ∧
      ∀ w args s, w.endpoint = endpoint → IsReady w args strategy s r →
        (∀ call ∈ e.calls, s.answers? endpoint call = some (store.answers endpoint call)) →
        (CommandLine.run w args).exitCode =
          if e.value.status = .badRequest ∨ e.value.body.success = false then 1 else 0 := by
  intro c e
  have hnone := value_run_generation?_eq_none_iff strategy r (store.answers endpoint)
  have hcoherent : e.value.body.IsCoherent := by
    simp only [e, convertAndExecute, executing, Program.value_run_bind]
    exact isCoherent_run_execution _ _
  refine ⟨?_, ?_, ?_, ?_, hcoherent, ?_⟩
  · simp only [c, convert, converting, Program.run_bind_pure, Effect.value_map]
    exact (status_conversion_eq_badRequest_iff _).trans hnone
  · simp only [e, convertAndExecute, executing, Program.value_run_bind]
    exact (status_run_execution_eq_badRequest_iff _ _).trans hnone
  · intro hwordless
    rw [show c = _ from convert_of_isWordless strategy store endpoint r hwordless,
      show e = _ from convertAndExecute_of_isWordless strategy store endpoint r hwordless]
    exact ⟨rfl, rfl, rfl, rfl⟩
  · exact exists_bodies_of_not_isWordless strategy store endpoint r
  · rintro w args s rfl hready hanswers
    exact exitCode_run_eq strategy r hready (Program.run?_eq_some hanswers) hcoherent

/-- A table is asked for, and then nothing is : the first question is answered with data, and the
second one is refused. -/
theorem responses_agree_of_two_questions :
    let column : Database.ColumnShape :=
      { name := "id".toList, declaredType := "INTEGER".toList, affinity := .integer }
    let users : Database.StoredTable :=
      { name := "users".toList, shape := { columns := [column] }
        rows := [⟨[.integer 1], [.integer 1]⟩] }
    let schemaText := "users (\n  id INTEGER\n)\n".toList
    let w : World :=
      { environment := []
        files := [("shop.db".toList, .database { tables := [users] }),
          ("schema.txt".toList, .text schemaText)]
        endpoint := fun _ => .unreachable
        wording := id }
    let args (text : String) : List Text :=
      ["execute", text, "-dsqlite:shop.db", "-sschema.txt"].map String.toList
    let request (text : String) : QueryRequest := ⟨some text.toList, some schemaText⟩
    let strategy : Strategy := .unconfigured .openAI
    let s : PartialStore := (Connection.live { tables := [users] }).toStore w.wording
    let store : Store := ⟨⟨s.objects, fun table => .error (.missingTable table)⟩, s.fetch⟩
    let e := convertAndExecute strategy store w.endpoint (request "list users")
    (IsReady w (args "list users") strategy s (request "list users") ∧
        (∀ call ∈ e.calls, s.answers? w.endpoint call = some (store.answers w.endpoint call)) ∧
        e.value.body.success = true) ∧
      IsReady w (args "\t") strategy s (request "\t") ∧
        (request "\t").IsWordless ∧ (CommandLine.run w (args "\t")).exitCode = 1 := by
  intro column users schemaText w args request strategy s store e
  have hopened : (openStore w (some "sqlite:shop.db".toList)).after {} =
      (.ok (strategy, s), {}) := by
    with_unfolding_all rfl
  have hread : (CommandLine.schemaText w (some "schema.txt".toList)).after {} =
      (.ok (some schemaText), {}) := by
    with_unfolding_all rfl
  have husers : IsReady w (args "list users") strategy s (request "list users") :=
    ⟨⟨_, _, _⟩, {}, {}, by decide +kernel, rfl, hopened, hread⟩
  have hblank : IsReady w (args "\t") strategy s (request "\t") :=
    ⟨⟨_, _, _⟩, {}, {}, by decide +kernel, rfl, hopened, hread⟩
  have hcalls : e.calls = [.fetch "SELECT * FROM users;".toList] := by decide +kernel
  have hanswers : ∀ call ∈ e.calls,
      s.answers? w.endpoint call = some (store.answers w.endpoint call) := by
    have hfetch : store.fetch = s.fetch := rfl
    simp [hcalls, PartialStore.answers?, Store.answers, hfetch]
  have hcode : (CommandLine.run w (args "list users")).exitCode = 0 := by decide +kernel
  have hwordless : (request "\t").IsWordless := by decide
  have he : convertAndExecute strategy store w.endpoint (request "list users") = e := rfl
  obtain ⟨-, -, -, -, -, hexit⟩ :=
    responses_agree strategy store w.endpoint (request "list users")
  obtain ⟨-, hrefused, hidle, -, -, hexit'⟩ :=
    responses_agree strategy store w.endpoint (request "\t")
  have hanswered := hexit w _ s rfl husers hanswers
  have hnone := (hidle hwordless).2.1
  refine ⟨⟨husers, hanswers, ?_⟩, hblank, hwordless, ?_⟩
  · rw [hcode, he] at hanswered
    clear_value e
    by_contra hfails
    rw [if_pos (.inr (Bool.eq_false_iff.mpr hfails))] at hanswered
    cases hanswered
  · rw [hexit' w _ s rfl hblank (by rw [hnone]; exact List.forall_mem_nil _),
      if_pos (.inl (hrefused.mpr hwordless))]

end Service
end AskSql
