import AskSql.CommandLine.Report
import AskSql.Proofs.Program

/-!
# Exit codes

A command that is called as it should be ends with `0`, with `1` or with `101` : `1` tells that its
work has failed, and `101` that it has panicked (`CommandLine.exitCode_run`). No step of a command
touches the exit code (`Work.KeepsExitCode`), so only what becomes of the work as a whole decides
it.

For a question that is to be executed, that is the response of the service, once the store is
open and the schema text is read (`CommandLine.exitCode_run_of_isReady`).
-/

namespace AskSql.CommandLine

open Text

namespace Work

variable {α β : Type}

/-- What becomes of work that begins with a report : its value or its failure, and the report
that it leaves. -/
def after (work : Work α) (r : Report) : Except Failure α × Report :=
  work.run.run r

/-- A failure ends the work and leaves the report as it is. -/
@[simp] theorem after_throw (f : Failure) (r : Report) :
    after (throw f : Work α) r = (.error f, r) :=
  rfl

@[simp] theorem after_fail (chain : List Text) (r : Report) :
    after (fail chain : Work α) r = (.error (.causes chain), r) :=
  rfl

/-- What is printed is added to the report. -/
@[simp] theorem after_print (s : Text) (r : Report) :
    after (print s) r = (.ok (), { r with output := r.output ++ s }) :=
  rfl

@[simp] theorem after_print_bind (s : Text) (next : Unit → Work β) (r : Report) :
    after (print s >>= next) r = (next ()).after { r with output := r.output ++ s } :=
  rfl

/-- Work goes on where the work before it has come to its end. -/
theorem after_bind_of_ok {work : Work α} {r r' : Report} {a : α} (h : work.after r = (.ok a, r'))
    (next : α → Work β) : (work >>= next).after r = (next a).after r' := by
  change ExceptT.bindCont next (work.after r).1 (work.after r).2 = (next a).after r'
  rw [h]
  rfl

/-- Work does not go on behind a failure. -/
theorem after_bind_of_error {work : Work α} {r r' : Report} {f : Failure}
    (h : work.after r = (.error f, r')) (next : α → Work β) :
    (work >>= next).after r = (.error f, r') := by
  change ExceptT.bindCont next (work.after r).1 (work.after r).2 = _
  rw [h]
  rfl

/-- The work does not touch the exit code, whether it fails or not. -/
def KeepsExitCode (work : Work α) : Prop :=
  ∀ r : Report, (work.after r).2.exitCode = r.exitCode

namespace KeepsExitCode

theorem pure (a : α) : KeepsExitCode (Pure.pure a) :=
  fun _ => rfl

theorem throw (f : Failure) : KeepsExitCode (MonadExcept.throw f : Work α) :=
  fun _ => rfl

theorem fail (chain : List Text) : KeepsExitCode (Work.fail chain : Work α) :=
  fun _ => rfl

theorem print (s : Text) : KeepsExitCode (Work.print s) :=
  fun _ => rfl

/-- A result that is an error becomes a failure. -/
theorem orFail {ε : Type} (cause : Text) (chain : ε → List Text) (result : Except ε α) :
    KeepsExitCode (Work.orFail cause chain result) := by
  cases result with
  | ok a => exact .pure a
  | error e => exact .fail _

/-- What the service does leaves the report as it is. -/
theorem ofProgram (store : PartialStore) (endpoint : Endpoint) (p : Program α) :
    KeepsExitCode (Work.ofProgram store endpoint p) := by
  unfold Work.ofProgram
  split
  · exact .pure _
  · exact .throw _

/-- Work in sequence keeps the exit code if each part does. -/
theorem bind {work : Work α} {next : α → Work β} (h : work.KeepsExitCode)
    (hnext : ∀ a, (next a).KeepsExitCode) : (work >>= next).KeepsExitCode := by
  intro r
  have hr : (work.after r).2.exitCode = r.exitCode := h r
  rcases hafter : work.after r with ⟨a | a, r'⟩ <;> rw [hafter] at hr
  · rw [after_bind_of_error hafter, hr]
  · rw [after_bind_of_ok hafter, hnext a r', hr]

end KeepsExitCode
end Work

open Work

/-! ## Commands -/

variable (w : World)

theorem keepsExitCode_openStore (url : Option Text) : (openStore w url).KeepsExitCode := by
  unfold openStore
  dsimp only
  split
  · exact .fail _
  · split
    · exact .bind (.print _) fun _ => .bind (.orFail _ _ _) fun _ =>
        .bind (.orFail _ _ _) fun _ => .pure _
    · exact .bind (.orFail _ _ _) fun _ => .bind (.orFail _ _ _) fun _ => .pure _

theorem keepsExitCode_schemaText (path : Option Text) : (schemaText w path).KeepsExitCode := by
  cases path with
  | none => exact .pure none
  | some path => exact .bind (.orFail _ _ _) fun _ => .pure _

theorem keepsExitCode_generated (q : Question) : (generated w q).KeepsExitCode := by
  refine .bind (keepsExitCode_openStore w _) fun (strategy, store) =>
    .bind (keepsExitCode_schemaText w _) fun text => .bind (.ofProgram _ _ _) fun g => ?_
  dsimp only
  split
  · exact .bind (.print _) fun _ => .pure _
  · exact .pure _

theorem keepsExitCode_tellQuery (q : Question) : (tellQuery w q).KeepsExitCode := by
  refine .bind (keepsExitCode_generated w q) fun (g, store) => .bind (.print _) fun _ => ?_
  split
  · exact .fail _
  · exact .print _
  · exact .pure ()

theorem keepsExitCode_tellResponse (response : Response DataResponse) :
    (tellResponse response).KeepsExitCode := by
  unfold tellResponse
  extract_lets -underBinder told
  suffices ∀ u, KeepsExitCode (told u) by
    clear_value told
    split
    · exact .bind (.print _) this
    · exact this ()
  intro u
  refine .bind (.print _) fun _ => ?_
  split
  · exact .fail _
  · exact .fail _
  · exact .print _

theorem keepsExitCode_tellResult (q : Question) : (tellResult w q).KeepsExitCode :=
  .bind (keepsExitCode_generated w q) fun (_, _) =>
    .bind (.ofProgram _ _ _) keepsExitCode_tellResponse

theorem keepsExitCode_write (path content : Text) : (write w path content).KeepsExitCode := by
  refine .bind ?_ fun files => ?_
  · unfold directoryMade
    split
    · exact .pure _
    · exact .orFail _ _ _
  · split
    · exact .fail _
    · exact fun _ => rfl

theorem keepsExitCode_tellSchema (o : SchemaOptions) : (tellSchema w o).KeepsExitCode := by
  refine .bind (keepsExitCode_openStore w _) fun (strategy, store) =>
    .bind (.ofProgram _ _ _) fun response => .bind (.orFail _ _ _) fun response => ?_
  dsimp only
  split
  · exact .print _
  · split
    · exact .print _
    · exact .bind (keepsExitCode_write w _ _) fun _ => .print _

/-- Whatever the command, the work for it keeps the exit code. -/
theorem keepsExitCode_work (c : Command) : (c.work w).KeepsExitCode := by
  cases c with
  | convert q => exact keepsExitCode_tellQuery w q
  | execute q => exact keepsExitCode_tellResult w q
  | schema o => exact keepsExitCode_tellSchema w o
  | health => exact .print _

/-! ## Failures -/

/-- The exit code that tells what has become of some work. -/
def exitCodeOf {α : Type} : Except Failure α → Nat
  | .ok _ => 0
  | .error (.causes _) => 1
  | .error .panic => 101

/-- Telling a response fails if the request is refused or the statement has not succeeded. -/
theorem exitCodeOf_tellResponse (response : Response DataResponse) (r : Report) :
    exitCodeOf ((tellResponse response).after r).1 =
      if response.status = .badRequest ∨
        response.body.error.isSome = true ∧ response.body.success = false then 1 else 0 := by
  obtain ⟨status, sql, explanation, success, error, data, rowCount, executed⟩ := response
  cases status with
  | badRequest => simp [tellResponse, printLine, exitCodeOf]
  | ok => cases error <;> cases success <;> simp [tellResponse, printLine, warn, inform, exitCodeOf]

/-- The exit code of a report tells how the work has ended. -/
theorem exitCode_report {work : Work Unit} (h : work.KeepsExitCode) :
    work.report.exitCode = exitCodeOf (work.after {}).1 := by
  have hcode : (work.after {}).2.exitCode = 0 := h {}
  unfold after at hcode ⊢
  unfold report
  rcases hrun : work.run.run {} with ⟨(chain | _) | ⟨⟩, r⟩
  · rfl
  · rfl
  · rw [hrun] at hcode
    exact hcode

/-- It is what becomes of its work that decides how a command ends that is called as it should
be. -/
theorem exitCode_run {args : List Text} {c : Command} (hargs : Command.parse args = .ok c) :
    (run w args).exitCode = exitCodeOf ((c.work w).after {}).1 := by
  rw [run, hargs]
  exact exitCode_report (keepsExitCode_work w c)

/-! ## Questions -/

variable {strategy : Strategy} {store : PartialStore}

/-- Where the service comes to its end, the work goes on with what it gives. -/
theorem after_ofProgram_of_run? {α : Type} {endpoint : Endpoint} {p : Program α} {e : Effect α}
    (h : p.run? (store.answers? endpoint) = some e) (r : Report) :
    (ofProgram store endpoint p).after r = (.ok e.value, r) := by
  rw [ofProgram, h]
  rfl

/-- Once the store is open and the schema text is read, the service generates. -/
theorem exists_after_generated {q : Question} {supplied : Option Text} {opened read : Report}
    {e : Effect (Option Generated)}
    (hopened : (openStore w q.databaseUrl).after {} = (.ok (strategy, store), opened))
    (hread : (schemaText w q.schemaFile).after opened = (.ok supplied, read))
    (hgeneration : (Service.generation? strategy ⟨some q.text, supplied⟩).run?
      (store.answers? w.endpoint) = some e) :
    ∃ told, (generated w q).after {} = (.ok (e.value, store), told) := by
  rw [generated, after_bind_of_ok hopened]
  dsimp only
  rw [after_bind_of_ok hread, after_bind_of_ok (after_ofProgram_of_run? hgeneration read)]
  split
  · exact ⟨_, rfl⟩
  · exact ⟨_, rfl⟩

/-- The program is called to execute a question, the store is open, and the schema text that
comes with the question is read. -/
def IsReady (args : List Text) (strategy : Strategy) (store : PartialStore) (r : QueryRequest) :
    Prop :=
  ∃ (q : Question) (opened read : Report),
    Command.parse args = .ok (.execute q) ∧ r.text = some q.text ∧
    (openStore w q.databaseUrl).after {} = (.ok (strategy, store), opened) ∧
    (schemaText w q.schemaFile).after opened = (.ok r.schemaText, read)

/-- It is the response of the service that decides how the execution of a question ends, if the
service comes to one. -/
theorem exitCode_run_of_isReady {args : List Text} {r : QueryRequest}
    {e : Effect (Response DataResponse)} (h : IsReady w args strategy store r)
    (hresponse : (Service.executing strategy r).run? (store.answers? w.endpoint) = some e) :
    (run w args).exitCode =
      if e.value.status = .badRequest ∨
        e.value.body.error.isSome = true ∧ e.value.body.success = false then 1 else 0 := by
  obtain ⟨q, opened, read, hargs, htext, hopened, hread⟩ := h
  obtain ⟨text, supplied⟩ := r
  obtain rfl : text = some q.text := htext
  rw [Service.executing, Program.run?_bind] at hresponse
  obtain ⟨g, hg, hresponse⟩ := Option.bind_eq_some_iff.mp hresponse
  obtain ⟨e', he', rfl⟩ := Option.map_eq_some_iff.mp hresponse
  obtain ⟨told, htold⟩ := exists_after_generated w hopened hread hg
  have hafter : ((Command.execute q).work w).after {} = (tellResponse e'.value).after told := by
    rw [Command.work, tellResult, after_bind_of_ok htold]
    dsimp only
    rw [after_bind_of_ok (after_ofProgram_of_run? he' told)]
  rw [exitCode_run w hargs, hafter, exitCodeOf_tellResponse]

end AskSql.CommandLine
