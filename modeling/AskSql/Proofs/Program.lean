import AskSql.Program

/-!
# Runs of programs

A program that is made of two others makes the calls of the first one and then those of the second
(`Program.run_bind`). Nothing of the surroundings but their answers to these calls is seen in a run
(`Program.run_congr`). That holds of surroundings in which some calls panic, too, as long as none of
these is made (`Program.run?_eq_some`).
-/

namespace AskSql

namespace Effect

variable {α β : Type} (e : Effect α)

@[simp] theorem value_map (f : α → β) : (e.map f).value = f e.value :=
  rfl

/-- To look at the value in another way calls nothing. -/
@[simp] theorem calls_map (f : α → β) : (e.map f).calls = e.calls :=
  rfl

@[simp] theorem executed_map (f : α → β) : (e.map f).executed = e.executed :=
  rfl

@[simp] theorem sent_map (f : α → β) : (e.map f).sent = e.sent :=
  rfl

end Effect

namespace Program

variable {α β : Type} (answers : Answers) (p : Program α) (next : α → Program β)

/-! ## Programs made of others -/

/-- A program that is done calls nothing. -/
@[simp] theorem run_pure (a : α) : (pure a : Program α).run answers = ⟨a, []⟩ :=
  rfl

@[simp] theorem run_objects : objects.run answers = ⟨answers .objects, [.objects]⟩ :=
  rfl

@[simp] theorem run_describe (table : Text) :
    (describe table).run answers = ⟨answers (.describe table), [.describe table]⟩ :=
  rfl

/-- A statement is handed over by the call that asks for its rows. -/
@[simp] theorem run_fetch (sql : Text) :
    (fetch sql).run answers = ⟨answers (.fetch sql), [.fetch sql]⟩ :=
  rfl

/-- A request is sent by the call that asks for its response. -/
@[simp] theorem run_send (r : Request) :
    (send r).run answers = ⟨answers (.send r), [.send r]⟩ :=
  rfl

/-- A program after another runs with the value of the first one, and its calls come behind. -/
theorem run_bind :
    (p >>= next).run answers =
      ⟨((next (p.run answers).value).run answers).value,
        (p.run answers).calls ++ ((next (p.run answers).value).run answers).calls⟩ := by
  induction p with
  | done a => rfl
  | ask c rest ih =>
    change ((rest (answers c) >>= next).run answers).after c = _
    rw [ih]
    rfl

@[simp] theorem value_run_bind :
    ((p >>= next).run answers).value = ((next (p.run answers).value).run answers).value := by
  rw [run_bind]

@[simp] theorem calls_run_bind :
    ((p >>= next).run answers).calls =
      (p.run answers).calls ++ ((next (p.run answers).value).run answers).calls := by
  rw [run_bind]

/-- The statements of a program and then those of the next one. -/
@[simp] theorem executed_run_bind :
    ((p >>= next).run answers).executed =
      (p.run answers).executed ++ ((next (p.run answers).value).run answers).executed := by
  simp [Effect.executed]

/-- The requests of a program and then those of the next one. -/
@[simp] theorem sent_run_bind :
    ((p >>= next).run answers).sent =
      (p.run answers).sent ++ ((next (p.run answers).value).run answers).sent := by
  simp [Effect.sent]

/-- A value that is made of the value of a program needs no calls of its own. -/
@[simp] theorem run_bind_pure (f : α → β) :
    (p >>= fun a => pure (f a)).run answers = (p.run answers).map f := by
  rw [run_bind]
  simp [Effect.map]

/-! ## Kinds of calls -/

/-- Whatever it is answered, a program makes calls of one kind only. -/
inductive CallsOnly (kind : Call → Prop) : Program α → Prop
  | done (a : α) : CallsOnly kind (.done a)
  | ask {c : Call} {rest : c.Answer → Program α} (hcall : kind c)
    (hrest : ∀ answer, CallsOnly kind (rest answer)) : CallsOnly kind (.ask c rest)

namespace CallsOnly

variable {kind kind' : Call → Prop} {p : Program α} {next : α → Program β}

/-- A single call. -/
theorem single {c : Call} (h : kind c) : CallsOnly kind (.ask c .done) :=
  .ask h fun answer => .done answer

/-- Programs in sequence. -/
theorem bind (h : CallsOnly kind p) (hnext : ∀ a, CallsOnly kind (next a)) :
    CallsOnly kind (p >>= next) := by
  induction h with
  | done a => exact hnext a
  | ask hcall _ ih => exact .ask hcall ih

/-- Calls of one kind are calls of any kind that includes it. -/
theorem imp (h : CallsOnly kind p) (himp : ∀ c, kind c → kind' c) : CallsOnly kind' p := by
  induction h with
  | done a => exact .done a
  | ask hcall _ ih => exact .ask (himp _ hcall) ih

/-- Whatever is answered, the calls of a run are those of its program. -/
theorem of_mem_calls (h : CallsOnly kind p) (answers : Answers) :
    ∀ c ∈ (p.run answers).calls, kind c := by
  induction h with
  | done a => exact List.forall_mem_nil _
  | ask hcall _ ih => exact List.forall_mem_cons.mpr ⟨hcall, ih _⟩

/-- A program that asks for no rows hands over no statement. -/
theorem executed_eq_nil (h : CallsOnly (·.statement? = none) p) (answers : Answers) :
    (p.run answers).executed = [] :=
  List.filterMap_eq_nil_iff.mpr (h.of_mem_calls answers)

/-- A program that asks for no response sends no request. -/
theorem sent_eq_nil (h : CallsOnly (·.request? = none) p) (answers : Answers) :
    (p.run answers).sent = [] :=
  List.filterMap_eq_nil_iff.mpr (h.of_mem_calls answers)

end CallsOnly

/-! ## Surroundings -/

variable {answers p}

/-- Surroundings that answer the calls of a run alike cannot be told apart by it. -/
theorem run_congr {answers' : Answers}
    (h : ∀ c ∈ (p.run answers).calls, answers' c = answers c) : p.run answers' = p.run answers := by
  induction p with
  | done a => rfl
  | ask c rest ih =>
    have hfirst : answers' c = answers c := h c List.mem_cons_self
    have hrest := ih (answers c) fun d hd => h d (List.mem_cons_of_mem c hd)
    rw [run, run, hfirst, hrest]

/-- Where none of the calls panics, and each is answered as it is in other surroundings, the run is
the one there. -/
theorem run?_eq_some {answers? : PartialAnswers}
    (h : ∀ c ∈ (p.run answers).calls, answers? c = some (answers c)) :
    p.run? answers? = some (p.run answers) := by
  induction p with
  | done a => rfl
  | ask c rest ih =>
    have hfirst : answers? c = some (answers c) := h c List.mem_cons_self
    have hrest := ih (answers c) fun d hd => h d (List.mem_cons_of_mem c hd)
    rw [run?, hfirst, Option.bind_some, hrest]
    rfl

/-- A program that is made of two others panics if one of them does. -/
theorem run?_bind (answers? : PartialAnswers) (p : Program α) (next : α → Program β) :
    (p >>= next).run? answers? =
      (p.run? answers?).bind fun e =>
        ((next e.value).run? answers?).map fun e' => ⟨e'.value, e.calls ++ e'.calls⟩ := by
  induction p with
  | done a => exact Option.map_id'.symm
  | ask c rest ih =>
    change ((answers? c).bind fun answer =>
      ((rest answer >>= next).run? answers?).map (Effect.after · c)) = _
    simp only [run?, ih, Option.bind_assoc, Option.map_bind, Option.bind_map, Function.comp_def,
      Option.map_map]
    rfl

end Program
end AskSql
