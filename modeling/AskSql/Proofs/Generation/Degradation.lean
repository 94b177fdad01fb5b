import AskSql.Proofs.Generation.Calls

/-!
# When the composer answers

Generation always answers. A statement is provided if there is a schema text to ask about and
the completion for it is one (`Generation.Provided`); otherwise the composer answers, and the
explanation tells whether the provider is not configured or what else went wrong.
`Generation.Answers` lists these cases, each with the requests that are sent in it;
`generate_answers` : generation answers as one of them says, and no case leaves the statement
open.

The schema text of a request comes first. A catalog that cannot tell the schema is reported as
a failure even if no provider is configured, and a schema text that is there is the one that
the composer works on, whatever the provider has made of it.
-/

namespace AskSql

open Text

/-! ## Causes -/

namespace Provider

variable (p q : Provider)

theorem readBody_ne_unconfigured (body : Option Text) :
    p.readBody body ≠ .error (.unconfigured q) := by
  unfold readBody
  split
  · simp
  · simp
  · split <;> simp

theorem read_ne_unconfigured (url : Url) (outcome : Outcome) :
    p.read url outcome ≠ .error (.unconfigured q) := by
  unfold read
  split
  · simp
  · simp
  · split
    · exact p.readBody_ne_unconfigured q _
    · split <;> simp

end Provider

namespace Client

variable (c : Client) (answers : Answers) (system user : Text)

/-- A client sends one request, or none. -/
theorem length_sent_complete_le :
    ((c.complete system user).run answers).sent.length ≤ 1 := by
  unfold complete
  split <;> simp [Effect.sent, Call.request?]

theorem request_of_mem_sent_complete {r : Request}
    (h : r ∈ ((c.complete system user).run answers).sent) : c.request system user = .ok r := by
  unfold complete at h
  split at h
  · cases h
  · next request hrequest =>
    obtain rfl := List.mem_singleton.mp h
    exact hrequest

/-- A client has credentials, whatever becomes of its request. -/
theorem value_complete_ne_unconfigured (q : Provider) :
    ((c.complete system user).run answers).value ≠ .error (.unconfigured q) := by
  unfold complete
  split
  · simp
  · exact c.provider.read_ne_unconfigured q _ _

end Client

theorem checkStatement_ne_unconfigured (sql : Text) (q : Provider) :
    checkStatement sql ≠ .error (.unconfigured q) := by
  unfold checkStatement
  split
  · simp
  · split <;> simp

theorem normalizeSql_ne_unconfigured (raw : Text) (q : Provider) :
    normalizeSql raw ≠ .error (.unconfigured q) := by
  unfold normalizeSql
  dsimp only
  split
  · simp
  · exact checkStatement_ne_unconfigured _ q

namespace Generation

/-! ## The cases -/

section

variable (catalog : Catalog) (supplied : Option Text)

/-- The schema text of a request : the one that comes with it, unless that is missing or
blank, and else the text of the schema that the catalog tells. -/
inductive IsAbout : Option Text → Text → Prop
  | supplied {s : Text} (h : isBlankText s = false) : IsAbout (some s) s
  | detected {supplied : Option Text} {schema : Schema}
    (h : ∀ s ∈ supplied, isBlankText s = true) (hschema : catalog.introspect = .ok schema) :
    IsAbout supplied schema.annotated

/-- The catalog has to tell the schema, and cannot. -/
def Untold (e : IntrospectionError) : Prop :=
  (∀ s ∈ supplied, isBlankText s = true) ∧ catalog.introspect = .error e

end

section

variable (strategy : Strategy) (catalog : Catalog) (endpoint : Endpoint) (request : Text)
  (supplied : Option Text)

/-- What comes of asking for a completion about a schema text. -/
def completion (schemaText : Text) : Effect (Except CompletionError Text) :=
  (strategy.complete systemPrompt (userPrompt request schemaText)).run
    (Store.closed.answers endpoint)

/-- A provider gives the statement `sql` for a schema text. -/
def Gives (schemaText sql : Text) : Prop :=
  ∃ raw, (completion strategy endpoint request schemaText).value = .ok raw ∧
    normalizeSql raw = .ok sql

/-- There is a schema text, and a provider gives a statement for it. -/
def Provided : Prop :=
  ∃ schemaText sql, IsAbout catalog supplied schemaText ∧
    Gives strategy endpoint request schemaText sql

/-- The answers of generation, each with the requests that are sent for it. -/
inductive Answers : GeneratedQuery → List Request → Prop
  /-- The statement of a provider. -/
  | provided {schemaText sql explanation : Text} (hschema : IsAbout catalog supplied schemaText)
    (hsql : Gives strategy endpoint request schemaText sql)
    (hexplanation :
      "Generated using ".toList ++ strategy.provider.name ++ " (".toList <+: explanation) :
    Answers ⟨sql, explanation, true, none⟩
      (completion strategy endpoint request schemaText).sent
  /-- There is a schema text, but no provider to ask. -/
  | unconfigured {schemaText explanation : Text} {p : Provider}
    (hschema : IsAbout catalog supplied schemaText) (hstrategy : strategy = .unconfigured p)
    (hexplanation : "Generated using heuristic pattern matching (".toList <+: explanation) :
    Answers ⟨compose request schemaText, explanation, true, none⟩ []
  /-- A provider is asked and gives no statement. -/
  | refused {schemaText explanation : Text} {c : Client}
    (hschema : IsAbout catalog supplied schemaText) (hstrategy : strategy = .client c)
    (hnone : ∀ sql, ¬ Gives strategy endpoint request schemaText sql)
    (hexplanation : "Fallback to heuristic generation due to error: ".toList <+: explanation) :
    Answers ⟨compose request schemaText, explanation, true, none⟩
      (completion strategy endpoint request schemaText).sent
  /-- There is no schema text. -/
  | untold {explanation : Text} {e : IntrospectionError} (h : Untold catalog supplied e)
    (hexplanation : "Fallback to heuristic generation due to error: ".toList <+: explanation) :
    Answers ⟨compose request [], explanation, true, none⟩ []

end

/-! ## Schema texts -/

section

variable {catalog : Catalog} {supplied : Option Text} {s t : Text} {e : IntrospectionError}

theorem filter_eq_none_of_forall_isBlankText (h : ∀ s ∈ supplied, isBlankText s = true) :
    supplied.filter (fun s => !isBlankText s) = none := by
  simpa [Option.filter_eq_none_iff] using h

theorem schemaText_of_isAbout (endpoint : Endpoint) (h : IsAbout catalog supplied s) :
    ∃ source, ((schemaText supplied).run ((Store.ofCatalog catalog).answers endpoint)).value =
      .ok (s, source) := by
  cases h with
  | supplied hwords =>
    have hfilter : (some s).filter (fun s => !isBlankText s) = some s := by simp [hwords]
    exact ⟨.supplied, by rw [schemaText, hfilter]; rfl⟩
  | detected hblank hschema =>
    refine ⟨.detected, ?_⟩
    rw [schemaText, filter_eq_none_of_forall_isBlankText hblank]
    simp [Introspection.value_run_schema, Store.ofCatalog, hschema]

theorem schemaText_of_untold (endpoint : Endpoint) (h : Untold catalog supplied e) :
    ((schemaText supplied).run ((Store.ofCatalog catalog).answers endpoint)).value =
      .error e := by
  rw [schemaText, filter_eq_none_of_forall_isBlankText h.1]
  simp [Introspection.value_run_schema, Store.ofCatalog, h.2]

theorem IsAbout.unique (hs : IsAbout catalog supplied s) (ht : IsAbout catalog supplied t) :
    s = t := by
  obtain ⟨source, hs⟩ := schemaText_of_isAbout (fun _ => .unreachable) hs
  obtain ⟨source', ht⟩ := schemaText_of_isAbout (fun _ => .unreachable) ht
  rw [hs] at ht
  exact congrArg Prod.fst (Except.ok.inj ht)

theorem Untold.not_isAbout (h : Untold catalog supplied e) (s : Text) :
    ¬ IsAbout catalog supplied s := by
  intro hs
  obtain ⟨source, hs⟩ := schemaText_of_isAbout (fun _ => .unreachable) hs
  rw [schemaText_of_untold _ h] at hs
  cases hs

/-- A request has a schema text, or else the catalog cannot tell the schema. -/
theorem isAbout_or_untold (catalog : Catalog) (supplied : Option Text) :
    (∃ s, IsAbout catalog supplied s) ∨ ∃ e, Untold catalog supplied e := by
  by_cases hwords : ∃ s ∈ supplied, isBlankText s = false
  · obtain ⟨s, rfl, hwords⟩ := hwords
    exact Or.inl ⟨s, .supplied hwords⟩
  · have hblank : ∀ s ∈ supplied, isBlankText s = true := by
      intro s hs
      rw [← Bool.not_eq_false]
      exact fun hfalse => hwords ⟨s, hs, hfalse⟩
    cases hschema : catalog.introspect with
    | ok schema => exact Or.inl ⟨_, .detected hblank hschema⟩
    | error e => exact Or.inr ⟨e, hblank, hschema⟩

end

/-! ## Answers -/

section

variable {strategy : Strategy} {catalog : Catalog} {endpoint : Endpoint} {request : Text}
  {supplied : Option Text} {s sql : Text} {e : IntrospectionError}

/-- What comes of asking for a statement is the completion, made a statement. -/
theorem run_statement (strategy : Strategy) (store : Store) (endpoint : Endpoint)
    (request s : Text) :
    (statement strategy request s).run (store.answers endpoint) =
      (completion strategy endpoint request s).map fun
        | .ok raw => normalizeSql raw
        | .error e => .error e := by
  rw [(callsOnly_statement strategy request s).run_eq Store.closed, statement, Program.run_bind,
    ← completion, Effect.map]
  cases (completion strategy endpoint request s).value <;> simp

theorem value_statement_eq_ok {store : Store} :
    ((statement strategy request s).run (store.answers endpoint)).value = .ok sql ↔
      Gives strategy endpoint request s sql := by
  rw [run_statement, Gives, Effect.value_map]
  cases (completion strategy endpoint request s).value <;> simp

/-- With a schema text, generation is what comes of asking for a statement about it. -/
theorem generate_of_schemaText {source : SchemaSource}
    (h : ((schemaText supplied).run ((Store.ofCatalog catalog).answers endpoint)).value =
      .ok (s, source)) :
    generate strategy catalog endpoint request supplied =
      { toGenerated :=
          match ((statement strategy request s).run (Store.closed.answers endpoint)).value with
          | .ok sql => ⟨.generated sql (explanation strategy source), none⟩
          | .error e => recover request s (.completion e)
        sent := (completion strategy endpoint request s).sent } := by
  have hasked := (callsOnly_statement strategy request s).run_eq Store.closed
    (Store.ofCatalog catalog) endpoint
  have hsent : ((statement strategy request s).run (Store.closed.answers endpoint)).sent =
      (completion strategy endpoint request s).sent := by
    rw [run_statement, Effect.sent_map]
  rw [generate, generating]
  simp only [Program.value_run_bind, Program.sent_run_bind, h, sent_run_schemaText, hasked, hsent]
  cases ((statement strategy request s).run (Store.closed.answers endpoint)).value <;>
    simp [Effect.sent]

/-- A statement that is given is the answer. -/
theorem generate_of_gives (hs : IsAbout catalog supplied s)
    (hsql : Gives strategy endpoint request s sql) :
    ∃ source, generate strategy catalog endpoint request supplied =
      ⟨⟨.generated sql (explanation strategy source), none⟩,
        (completion strategy endpoint request s).sent⟩ := by
  obtain ⟨source, htext⟩ := schemaText_of_isAbout endpoint hs
  refine ⟨source, ?_⟩
  rw [generate_of_schemaText htext, value_statement_eq_ok.mpr hsql]

/-- Without a statement the composer works on the schema text. -/
theorem generate_of_not_gives (hs : IsAbout catalog supplied s)
    (hnone : ∀ sql, ¬ Gives strategy endpoint request s sql) :
    ∃ e, ((statement strategy request s).run (Store.closed.answers endpoint)).value = .error e ∧
      generate strategy catalog endpoint request supplied =
        ⟨recover request s (.completion e), (completion strategy endpoint request s).sent⟩ := by
  obtain ⟨source, htext⟩ := schemaText_of_isAbout endpoint hs
  rw [generate_of_schemaText htext]
  cases hask : ((statement strategy request s).run (Store.closed.answers endpoint)).value with
  | ok sql => exact absurd (value_statement_eq_ok.mp hask) (hnone sql)
  | error e => exact ⟨e, rfl, rfl⟩

theorem generate_of_untold (h : Untold catalog supplied e) :
    generate strategy catalog endpoint request supplied =
      ⟨recover request [] (.introspection e), []⟩ := by
  rw [generate, generating]
  simp only [Program.value_run_bind, Program.sent_run_bind, schemaText_of_untold endpoint h,
    sent_run_schemaText]
  rfl

/-- Only a strategy without a client is told to be not configured. -/
theorem value_statement_ne_unconfigured (c : Client) (p : Provider) :
    ((statement (.client c) request s).run (Store.closed.answers endpoint)).value ≠
      .error (.unconfigured p) := by
  rw [run_statement, Effect.value_map]
  split
  · exact normalizeSql_ne_unconfigured _ p
  · next e he =>
    have := c.value_complete_ne_unconfigured (Store.closed.answers endpoint) systemPrompt
      (userPrompt request s) p
    rintro ⟨rfl⟩
    exact this he

theorem not_gives_of_unconfigured (p : Provider) :
    ¬ Gives (.unconfigured p) endpoint request s sql := by
  rintro ⟨raw, hraw, -⟩
  have hvalue : (completion (.unconfigured p) endpoint request s).value =
    .error (.unconfigured p) := rfl
  simp [hvalue] at hraw

theorem exists_client_of_mem_sent {r : Request}
    (h : r ∈ (completion strategy endpoint request s).sent) :
    ∃ c, strategy = .client c ∧ c.request systemPrompt (userPrompt request s) = .ok r := by
  cases strategy with
  | client c =>
    exact ⟨c, rfl, c.request_of_mem_sent_complete _ systemPrompt _ h⟩
  | unconfigured p => cases h

/-! ## Explanations -/

theorem isPrefix_explanation (source : SchemaSource) :
    "Generated using ".toList ++ strategy.provider.name ++ " (".toList <+:
      explanation strategy source := by
  unfold explanation
  exact ((List.prefix_append _ _).trans (List.prefix_append _ _)).trans
    ((List.prefix_append _ _).trans (List.prefix_append _ _))

theorem isPrefix_fallbackExplanation {e : GenerationError}
    (h : ∀ p, e ≠ .completion (.unconfigured p)) :
    "Fallback to heuristic generation due to error: ".toList <+: fallbackExplanation e := by
  unfold fallbackExplanation
  split
  · next p => exact absurd rfl (h p)
  · exact List.prefix_append _ _

theorem isPrefix_fallbackExplanation_unconfigured (p : Provider) :
    "Generated using heuristic pattern matching (".toList <+:
      fallbackExplanation (.completion (.unconfigured p)) := by
  unfold fallbackExplanation
  exact (List.prefix_append _ _).trans (List.prefix_append _ _)

end

/-! ## Generation -/

section

variable (strategy : Strategy) (catalog : Catalog) (endpoint : Endpoint) (request : Text)
  (supplied : Option Text)

theorem Answers.query_eq {q : GeneratedQuery} {sent : List Request}
    (h : Answers strategy catalog endpoint request supplied q sent) :
    q = .generated q.sql q.explanation := by
  cases h <;> rfl

theorem answers_generate :
    Answers strategy catalog endpoint request supplied
      (generate strategy catalog endpoint request supplied).query
      (generate strategy catalog endpoint request supplied).sent := by
  rcases isAbout_or_untold catalog supplied with ⟨s, hs⟩ | ⟨e, he⟩
  · by_cases hgives : ∃ sql, Gives strategy endpoint request s sql
    · obtain ⟨sql, hsql⟩ := hgives
      obtain ⟨source, hgenerate⟩ := generate_of_gives hs hsql
      rw [hgenerate]
      exact .provided hs hsql (isPrefix_explanation source)
    · have hnone : ∀ sql, ¬ Gives strategy endpoint request s sql := not_exists.mp hgives
      obtain ⟨e, hask, hgenerate⟩ := generate_of_not_gives hs hnone
      rw [hgenerate]
      cases strategy with
      | unconfigured p =>
        obtain rfl : CompletionError.unconfigured p = e := Except.error.inj hask
        exact .unconfigured hs rfl (isPrefix_fallbackExplanation_unconfigured p)
      | client c =>
        refine .refused hs rfl hnone (isPrefix_fallbackExplanation ?_)
        rintro p ⟨rfl⟩
        exact value_statement_ne_unconfigured c p hask
  · rw [generate_of_untold he]
    exact .untold he (isPrefix_fallbackExplanation (by simp))

/-- Whoever answers, the statement and the requests are those of generation. -/
theorem eq_of_answers {q : GeneratedQuery} {sent : List Request}
    (h : Answers strategy catalog endpoint request supplied q sent) :
    q.sql = (generate strategy catalog endpoint request supplied).query.sql ∧
      sent = (generate strategy catalog endpoint request supplied).sent := by
  cases h with
  | provided hs hsql _ =>
    obtain ⟨source, hgenerate⟩ := generate_of_gives hs hsql
    rw [hgenerate]
    exact ⟨rfl, rfl⟩
  | @unconfigured s _ p hs hstrategy _ =>
    subst hstrategy
    have hnone (sql : Text) : ¬ Gives (.unconfigured p) endpoint request s sql :=
      not_gives_of_unconfigured p
    obtain ⟨e, -, hgenerate⟩ := generate_of_not_gives hs hnone
    rw [hgenerate]
    exact ⟨rfl, rfl⟩
  | refused hs _ hnone _ =>
    obtain ⟨e, -, hgenerate⟩ := generate_of_not_gives hs hnone
    rw [hgenerate]
    exact ⟨rfl, rfl⟩
  | untold he _ =>
    rw [generate_of_untold he]
    exact ⟨rfl, rfl⟩

theorem length_sent_completion_le (s : Text) :
    (completion strategy endpoint request s).sent.length ≤ 1 := by
  cases strategy with
  | client c => exact c.length_sent_complete_le _ _ _
  | unconfigured p => exact Nat.zero_le 1

/-- At most one request is sent. -/
theorem Answers.length_sent_le {q : GeneratedQuery} {sent : List Request}
    (h : Answers strategy catalog endpoint request supplied q sent) : sent.length ≤ 1 := by
  cases h with
  | provided => exact length_sent_completion_le strategy endpoint request _
  | unconfigured => exact Nat.zero_le 1
  | refused => exact length_sent_completion_le strategy endpoint request _
  | untold => exact Nat.zero_le 1

/-- A request that is sent is that of a client, and asks about the schema text. -/
theorem Answers.exists_client {q : GeneratedQuery} {sent : List Request} {r : Request}
    (h : Answers strategy catalog endpoint request supplied q sent) (hr : r ∈ sent) :
    ∃ c s, strategy = .client c ∧ IsAbout catalog supplied s ∧
      c.request systemPrompt (userPrompt request s) = .ok r := by
  cases h with
  | provided hs _ _ =>
    obtain ⟨c, hc, hrequest⟩ := exists_client_of_mem_sent hr
    exact ⟨c, _, hc, hs, hrequest⟩
  | unconfigured => cases hr
  | refused hs _ _ _ =>
    obtain ⟨c, hc, hrequest⟩ := exists_client_of_mem_sent hr
    exact ⟨c, _, hc, hs, hrequest⟩
  | untold => cases hr

/-- What is generated is what a provider has answered, or what the composer writes. -/
theorem Answers.normalized_or_composed {q : GeneratedQuery} {sent : List Request}
    (h : Answers strategy catalog endpoint request supplied q sent) :
    (∃ raw, normalizeSql raw = .ok q.sql) ∨ ∃ schemaText, q.sql = compose request schemaText := by
  cases h with
  | provided _ hsql _ =>
    obtain ⟨raw, -, hraw⟩ := hsql
    exact Or.inl ⟨raw, hraw⟩
  | unconfigured => exact Or.inr ⟨_, rfl⟩
  | refused => exact Or.inr ⟨_, rfl⟩
  | untold => exact Or.inr ⟨_, rfl⟩

/-- The composer's statement depends on the schema text only. -/
theorem sql_of_not_provided (h : ¬ Provided strategy catalog endpoint request supplied) :
    (∃ s, IsAbout catalog supplied s ∧
      (generate strategy catalog endpoint request supplied).query.sql = compose request s) ∨
    (∃ e, Untold catalog supplied e) ∧
      (generate strategy catalog endpoint request supplied).query.sql = compose request [] := by
  rcases isAbout_or_untold catalog supplied with ⟨s, hs⟩ | ⟨e, he⟩
  · have hnone : ∀ sql, ¬ Gives strategy endpoint request s sql :=
      fun sql hsql => h ⟨s, sql, hs, hsql⟩
    obtain ⟨e, -, hgenerate⟩ := generate_of_not_gives hs hnone
    exact Or.inl ⟨s, hs, by rw [hgenerate]; rfl⟩
  · exact Or.inr ⟨⟨e, he⟩, by rw [generate_of_untold he]; rfl⟩

end

end Generation

/-- Generation answers, successfully and with one request at most, as one of the cases says :
a request is that of a client, about the schema text. The case leaves neither the statement nor
the requests open, and where no statement is provided, it is all the same to the statement what
has kept it from being provided. -/
theorem generate_answers (strategy : Strategy) (catalog : Catalog) (endpoint : Endpoint)
    (request : Text) (supplied : Option Text) :
    let g := generate strategy catalog endpoint request supplied
    Generation.Answers strategy catalog endpoint request supplied g.query g.sent ∧
      g.query.success = true ∧ g.query.error = none ∧ g.sent.length ≤ 1 ∧
      (∀ r ∈ g.sent, ∃ c s, strategy = .client c ∧ Generation.IsAbout catalog supplied s ∧
        c.request systemPrompt (userPrompt request s) = .ok r) ∧
      (∀ q sent, Generation.Answers strategy catalog endpoint request supplied q sent →
        q.sql = g.query.sql ∧ sent = g.sent) ∧
      ∀ strategy' catalog' endpoint' supplied',
        (∀ s, Generation.IsAbout catalog' supplied' s ↔ Generation.IsAbout catalog supplied s) →
        ¬ Generation.Provided strategy catalog endpoint request supplied →
        ¬ Generation.Provided strategy' catalog' endpoint' request supplied' →
        (generate strategy' catalog' endpoint' request supplied').query.sql = g.query.sql := by
  intro g
  have hanswers := Generation.answers_generate strategy catalog endpoint request supplied
  have hquery := hanswers.query_eq
  refine ⟨hanswers, by rw [hquery]; rfl, by rw [hquery]; rfl, hanswers.length_sent_le,
    fun r hr => hanswers.exists_client _ _ _ _ _ hr, fun q sent h => ?_, ?_⟩
  · exact Generation.eq_of_answers strategy catalog endpoint request supplied h
  · intro strategy' catalog' endpoint' supplied' habout h h'
    rcases Generation.sql_of_not_provided _ _ _ _ _ h with ⟨s, hs, hsql⟩ | ⟨⟨e, he⟩, hsql⟩ <;>
      rcases Generation.sql_of_not_provided _ _ _ _ _ h' with
        ⟨s', hs', hsql'⟩ | ⟨⟨e', he'⟩, hsql'⟩
    · rw [hsql, hsql', ((habout s').mp hs').unique hs]
    · exact absurd ((habout s).mpr hs) (he'.not_isAbout s)
    · exact absurd ((habout s').mp hs') (he.not_isAbout s')
    · rw [hsql, hsql']

end AskSql
