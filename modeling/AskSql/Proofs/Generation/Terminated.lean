import AskSql.Proofs.Composer.Tokens
import AskSql.Proofs.Generation.Degradation
import AskSql.Proofs.Sql.Counting
import AskSql.Proofs.Sql.LastToken

/-!
# Terminated statements

What is generated ends with a semicolon and has tokens. That makes a terminated statement of it,
unless there is nothing to terminate or the semicolon is lost in a comment or a name
(`generate_terminated`). Completions are normalized by their characters, so both can happen to
a provider's answer : `-- nothing` becomes `-- nothing;`, all of which is a comment. What the
composer writes is terminated in any case.
-/

namespace AskSql

open Text Sql

namespace Sql

/-- A text with a semicolon at its end is a terminated statement unless it counts as none or
loses the semicolon. -/
theorem isTerminated_iff {s : Text} {ls : List Lexeme}
    (h : lexemes .general (s ++ [';']) = .ok ls) :
    IsTerminated (ls.map (·.token)) ↔ countStatements (s ++ [';']) ≠ .ok 0 ∧ ¬ LosesEnd ls := by
  have htokens : tokenize .general (s ++ [';']) = .ok (ls.map (·.token)) := by
    rw [tokenize, h]
  have hcount := countStatements_eq_zero_iff htokens
  have hends := endsStatement_iff h
  constructor
  · rintro ⟨hcounts, hend⟩
    exact ⟨fun hzero => hcount.mp hzero hcounts, hends.mp hend⟩
  · rintro ⟨hzero, hlost⟩
    exact ⟨Classical.not_not.mp fun hnone => hzero (hcount.mpr hnone), hends.mpr hlost⟩

end Sql

/-! ## Normalized completions -/

theorem terminated_eq_append (s : Text) : ∃ t, terminated s = t ++ [';'] := by
  unfold terminated
  split
  · next h =>
    obtain ⟨t, rfl⟩ := List.getLast?_eq_some_iff.mp h
    exact ⟨t, rfl⟩
  · exact ⟨s, rfl⟩

theorem checkStatement_eq_ok {s sql : Text} (h : checkStatement s = .ok sql) :
    sql = s ∧ ∃ n, countStatements s = .ok n ∧ n ≤ 1 := by
  unfold checkStatement at h
  split at h
  · cases h
  · next n hn =>
    split at h
    · cases h
    · exact ⟨(Except.ok.inj h).symm, n, hn, by omega⟩

theorem normalizeSql_eq_ok_iff {raw sql : Text} : normalizeSql raw = .ok sql ↔
    isBlankText (dropEndWhile (· == ';') (unfenced raw)) = false ∧
      sql = terminated (unfenced raw) ∧ checkStatement sql = .ok sql := by
  unfold normalizeSql
  dsimp only
  split
  · next hblank => simp [hblank]
  · next hblank =>
    constructor
    · intro h
      obtain ⟨rfl, -⟩ := checkStatement_eq_ok h
      exact ⟨by simpa using hblank, rfl, h⟩
    · rintro ⟨-, rfl, h⟩
      exact h

/-- What is made of a completion counts as one statement at most. -/
theorem normalizeSql_eq_ok {raw sql : Text} (h : normalizeSql raw = .ok sql) :
    unfenced raw ≠ [] ∧ sql = terminated (unfenced raw) ∧
      ∃ n, countStatements sql = .ok n ∧ n ≤ 1 := by
  obtain ⟨hblank, hsql, hcheck⟩ := normalizeSql_eq_ok_iff.mp h
  refine ⟨fun hnil => ?_, hsql, (checkStatement_eq_ok hcheck).2⟩
  rw [hnil] at hblank
  exact absurd hblank (by decide)

theorem exists_tokens_of_countStatements_eq_ok {s : Text} {n : Nat}
    (h : countStatements s = .ok n) : ∃ tokens, tokenize .general s = .ok tokens := by
  unfold countStatements at h
  split at h
  · cases h
  · next tokens htokens => exact ⟨tokens, htokens⟩

/-! ## Composed statements -/

theorem Select.isTerminated (q : Select) : IsTerminated (q.tokens ++ [.semicolon]) where
  counts := ⟨.word "SELECT".toList none, by simp [tokens], rfl⟩
  ends := (endsStatement_append_of_not_blank q.tokens rfl).mpr rfl

/-! ## Generated statements -/

namespace Generation

variable {request sql : Text}

/-- Whoever writes a statement, a semicolon ends it and it has tokens. -/
theorem exists_lexemes_of_normalized_or_composed
    (h : (∃ raw, normalizeSql raw = .ok sql) ∨ ∃ schemaText, sql = compose request schemaText) :
    ∃ s ls, sql = s ++ [';'] ∧ lexemes .general sql = .ok ls := by
  rcases h with ⟨raw, hraw⟩ | ⟨schemaText, rfl⟩
  · obtain ⟨-, rfl, n, hcount, -⟩ := normalizeSql_eq_ok hraw
    obtain ⟨s, hs⟩ := terminated_eq_append (unfenced raw)
    obtain ⟨tokens, htokens⟩ := exists_tokens_of_countStatements_eq_ok hcount
    obtain ⟨ls, hls, -⟩ := exists_lexemes_of_tokenize htokens
    exact ⟨s, ls, hs, hls⟩
  · obtain ⟨q, hq, heq⟩ := exists_compose_eq_sql request schemaText
    obtain ⟨ls, hls, -⟩ := exists_lexemes_of_tokenize
      (tokenize_eq_ok_iff.mpr (Select.tokens_sql hq))
    exact ⟨q.body, ls, heq, heq ▸ hls⟩

theorem isTerminated_of_compose {schemaText : Text} {ls : List Lexeme}
    (h : lexemes .general (compose request schemaText) = .ok ls) :
    IsTerminated (ls.map (·.token)) := by
  obtain ⟨q, hq, heq⟩ := exists_compose_eq_sql request schemaText
  obtain ⟨ls', hls', htokens⟩ := exists_lexemes_of_tokenize
    (tokenize_eq_ok_iff.mpr (Select.tokens_sql hq))
  rw [heq, hls'] at h
  obtain rfl := Except.ok.inj h
  exact htokens.symm ▸ q.isTerminated

end Generation

/-- What is generated is a terminated statement, unless it counts as no statement or its
semicolon is lost in its last lexeme. What the composer writes is one in any case. -/
theorem generate_terminated (strategy : Strategy) (catalog : Catalog) (endpoint : Endpoint)
    (request : Text) (supplied : Option Text) :
    let q := (generate strategy catalog endpoint request supplied).query
    q.success = true ∧
      ∃ ls, lexemes .general q.sql = .ok ls ∧
        (IsTerminated (ls.map (·.token)) ↔ countStatements q.sql ≠ .ok 0 ∧ ¬ LosesEnd ls) ∧
        ((∃ schemaText, q.sql = compose request schemaText) →
          IsTerminated (ls.map (·.token))) := by
  intro q
  have hanswers := Generation.answers_generate strategy catalog endpoint request supplied
  obtain ⟨s, ls, hsql, hls⟩ :=
    Generation.exists_lexemes_of_normalized_or_composed hanswers.normalized_or_composed
  refine ⟨congrArg GeneratedQuery.success hanswers.query_eq, ls, hls, ?_, ?_⟩
  · rw [hsql] at hls ⊢
    exact isTerminated_iff hls
  · rintro ⟨schemaText, hcompose⟩
    rw [hcompose] at hls
    exact Generation.isTerminated_of_compose hls

/-- A comment is taken for a statement, and the semicolon for a part of it. -/
example : normalizeSql "-- nothing".toList = .ok "-- nothing;".toList ∧
    countStatements "-- nothing;".toList = .ok 0 := by
  decide +kernel

end AskSql
