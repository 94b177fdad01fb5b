import AskSql.Proofs.Composer.Tokens
import AskSql.Proofs.Generation.Terminated
import AskSql.Proofs.Service.Log
import AskSql.Proofs.Sql.Counting
import AskSql.Proofs.Sql.Spelling
import AskSql.Proofs.Text.Casing

/-!
# One statement at a time

A text that is handed to the store has passed the gate, so its first token counts and may be
the word `SELECT` (`exists_first_token`). What a provider has written has been counted, too,
and counts as one statement at most; what the composer has written is one by its tokens.

So whatever reaches the store is one run of tokens, unless the parser has overlooked that a
semicolon divides it (`Service.exists_tokens_of_mem_executed`). That takes a provider's answer
with one of the words `END`, `OPERATOR` and `TABLE` among its tokens.
-/

namespace AskSql

open Text Sql

/-! ## The first token -/

/-- The first token of a text behind the gate. -/
theorem exists_first_token {c : Char} {s : Text} {tokens : List Token}
    (hblank : isBlank c = false) (hgate : isReadOnly (c :: s) = true)
    (htokens : Tokens .general (c :: s) tokens) :
    ∃ t ts, tokens = t :: ts ∧ t.counts = true ∧ t.MayBeSelect := by
  have hselect : "SELECT".toList <+: upper (c :: s) := by
    have htrim : trim (c :: s) <+: c :: s := by
      rw [trim, trimStart_cons hblank]
      exact dropEndWhile_isPrefix _ _
    exact (List.isPrefixOf_iff_prefix.mp hgate).trans (upper_isPrefix htrim)
  have hc : c ∉ [';', '-', '/'] := by
    intro hc
    have hupper : upper (c :: s) = c :: upper s := by
      have hchar : upperChar c = [c] := by
        simp only [List.mem_cons, List.not_mem_nil, or_false] at hc
        rcases hc with rfl | rfl | rfl <;> decide
      simp [upper, hchar]
    rw [hupper] at hselect
    obtain rfl : 'S' = c := (List.cons_prefix_cons.mp hselect).1
    exact absurd hc (by decide)
  cases htokens with
  | @cons _ _ t n ts hstep hrest =>
    have hstarts := Token.starts_of_step hblank hc hstep
    refine ⟨t, ts, rfl, hstarts.counts, fun word hword => ?_⟩
    obtain ⟨value, rfl, rfl⟩ : ∃ value, t = .word value none ∧ upper value = word := by
      unfold Token.keyword? at hword
      split at hword
      · next value => exact ⟨value, rfl, Option.some.inj hword⟩
      · cases hword
    exact List.prefix_or_prefix_of_prefix (upper_isPrefix (hstarts.word value rfl)) hselect

/-! ## Single statements -/

theorem filter_isBlank_cons {t : Token} (ht : t.counts = true) (ts : List Token) :
    (t :: ts).filter (!·.isBlank) = t :: ts.filter (!·.isBlank) := by
  have hblank : t.isBlank = false := by simp_all [Token.counts]
  simp [hblank]

/-- The tokens are one run, unless the parser overlooks that a semicolon divides them. -/
structure Sql.SingleUnlessOverlooked (tokens : List Token) : Prop where
  pos : 1 ≤ countRuns tokens
  eq_one_iff : countRuns tokens = 1 ↔ ¬ Overlooked (tokens.filter (!·.isBlank))
  /-- Only in the presence of certain words can the parser overlook anything. -/
  eq_one_of_forall :
    (∀ t ∈ tokens, t.isKeyword "END" = false ∧ ¬ t.isBlind) → countRuns tokens = 1

theorem Sql.singleUnlessOverlooked {t : Token} {ts : List Token} (hcounts : t.counts = true)
    (hselect : t.MayBeSelect)
    (h : 1 < countRuns (t :: ts) ↔ Overlooked ((t :: ts).filter (!·.isBlank))) :
    SingleUnlessOverlooked (t :: ts) := by
  have hpos : 1 ≤ countRuns (t :: ts) := countRuns_pos_iff.mpr ⟨t, by simp, hcounts⟩
  have hone : countRuns (t :: ts) = 1 ↔ ¬ Overlooked ((t :: ts).filter (!·.isBlank)) := by
    rw [← h]
    omega
  refine ⟨hpos, hone, fun hwords => hone.mpr ?_⟩
  have hwords (u : Token) (hu : u ∈ t :: ts.filter (!·.isBlank)) :
      u.isKeyword "END" = false ∧ ¬ u.isBlind := by
    rcases List.mem_cons.mp hu with rfl | hu
    · exact hwords u List.mem_cons_self
    · exact hwords u (List.mem_cons_of_mem t (List.mem_filter.mp hu).1)
  rw [filter_isBlank_cons hcounts]
  exact not_overlooked hselect (fun u hu => (hwords u hu).1) fun u hu => (hwords u hu).2

/-- A text behind the gate that counts as one statement at most. -/
theorem exists_tokens_of_countStatements {c : Char} {s : Text} {n : Nat}
    (hblank : isBlank c = false) (hgate : isReadOnly (c :: s) = true)
    (hcount : countStatements (c :: s) = .ok n) (hn : n ≤ 1) :
    ∃ tokens, tokenize .general (c :: s) = .ok tokens ∧ SingleUnlessOverlooked tokens := by
  cases htokens : tokenize .general (c :: s) with
  | error e => simp [countStatements, htokens] at hcount
  | ok tokens =>
    obtain ⟨t, ts, rfl, hcounts, hselect⟩ :=
      exists_first_token hblank hgate (tokenize_eq_ok_iff.mp htokens)
    exact ⟨t :: ts, rfl, singleUnlessOverlooked hcounts hselect (one_lt_countRuns_iff_overlooked
      hselect hcounts htokens (filter_isBlank_cons hcounts ts) hcount hn)⟩

/-- What is made of a provider's answer, once it is behind the gate. -/
theorem exists_tokens_of_normalizeSql {raw sql : Text} (h : normalizeSql raw = .ok sql)
    (hgate : isReadOnly sql = true) :
    ∃ tokens, tokenize .general sql = .ok tokens ∧ SingleUnlessOverlooked tokens := by
  obtain ⟨hne, rfl, n, hcount, hn⟩ := normalizeSql_eq_ok h
  obtain ⟨c, s, hraw⟩ := List.exists_cons_of_ne_nil hne
  obtain ⟨s', hterminated⟩ : ∃ s', terminated (c :: s) = c :: s' := by
    unfold terminated
    split
    · exact ⟨s, rfl⟩
    · exact ⟨s ++ [';'], rfl⟩
  rw [hraw, hterminated] at hgate hcount ⊢
  exact exists_tokens_of_countStatements (isBlank_of_trim_eq_cons hraw) hgate hcount hn

/-- What the composer writes is one run of tokens. -/
theorem exists_tokens_compose (request schemaText : Text) :
    ∃ tokens, tokenize .general (compose request schemaText) = .ok tokens ∧
      countRuns tokens = 1 ∧ SingleUnlessOverlooked tokens := by
  obtain ⟨q, hq, heq⟩ := exists_compose_eq_sql request schemaText
  obtain ⟨ts, hts⟩ : ∃ ts, q.tokens ++ [.semicolon] = .word "SELECT".toList none :: ts := ⟨_, rfl⟩
  have hselect : (Token.word "SELECT".toList none).MayBeSelect := by
    rintro word ⟨rfl⟩
    exact Or.inl (by decide)
  have hone : countRuns (q.tokens ++ [.semicolon]) ≤ 1 := by
    rw [countRuns_append_semicolon]
    exact countRuns_le_one q.semicolon_not_mem_tokens
  have hnone : ¬ Overlooked ((q.tokens ++ [Token.semicolon]).filter (!·.isBlank)) := by
    intro h
    have hfirst : (q.tokens ++ [Token.semicolon]).filter (!·.isBlank) =
        .word "SELECT".toList none :: ts.filter (!·.isBlank) := by
      rw [hts]
      exact filter_isBlank_cons rfl ts
    rw [hfirst] at h
    have := (one_lt_countRuns_iff rfl).mpr (divides_of_overlooked hselect h)
    rw [← hfirst, countRuns_filter_isBlank] at this
    omega
  have hsingle : SingleUnlessOverlooked (q.tokens ++ [.semicolon]) := by
    rw [hts] at hone hnone ⊢
    exact singleUnlessOverlooked rfl hselect
      ⟨fun h => absurd h (by omega), fun h => absurd h hnone⟩
  refine ⟨_, ?_, hsingle.eq_one_iff.mpr hnone, hsingle⟩
  rw [heq, tokenize_eq_ok_iff]
  exact Select.tokens_sql hq

/-! ## What reaches the store -/

namespace Service

variable {strategy : Strategy} {store : Store} {endpoint : Endpoint} {r : QueryRequest}

/-- A text that reaches the store is what was generated for the request, and has passed the
gate. -/
theorem exists_generate_eq_of_mem_executed {sql : Text}
    (h : sql ∈ (convertAndExecute strategy store endpoint r).executed) :
    isReadOnly sql = true ∧
      ∃ words, (generate strategy store.catalog endpoint words r.schemaText).query.sql = sql := by
  rw [convertAndExecute, executed_run_executing, value_run_generation?, List.mem_filter] at h
  obtain ⟨hsql, hgate⟩ := h
  refine ⟨hgate, ?_⟩
  cases hwords : r.words? with
  | none => simp [hwords] at hsql
  | some words =>
    rw [hwords] at hsql
    exact ⟨words, (List.mem_singleton.mp hsql).symm⟩

end Service

end AskSql
