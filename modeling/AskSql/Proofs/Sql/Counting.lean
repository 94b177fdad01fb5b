import AskSql.Proofs.Sql.Grammar.Change
import AskSql.Proofs.Sql.Lexing
import AskSql.Sql.Statement

/-!
# Counting statements

Statements are counted in two ways : the parser tells how many it has read, and the runs of
tokens between semicolons tell how many there are to be read. A row of tokens holds several
runs if a semicolon with something behind it stands in it (`one_lt_countRuns_iff`).

A row that the parser takes for one statement may hold several runs all the same, in two ways
(`Overlooked`) : the parser stops at the word `END` behind the first statement, whatever comes
after it, or the semicolon is among the tokens that it has taken for the statement itself,
which then holds one of the words `OPERATOR` and `TABLE`. There is no third way
(`one_lt_countRuns_iff_overlooked`).
-/

namespace AskSql.Sql

open Reading Grammar

variable {ts us : List Token}

/-! ## Runs -/

theorem runs_ne_nil (ts : List Token) : runs ts ≠ [] := by
  cases ts with
  | nil => simp [runs]
  | cons t ts =>
    rw [runs]
    split
    · simp
    · split <;> simp

theorem runs_cons {t : Token} (ht : t ≠ .semicolon) (ts : List Token) :
    ∃ run rest, runs ts = run :: rest ∧ runs (t :: ts) = (t :: run) :: rest := by
  obtain ⟨run, rest, hruns⟩ := List.exists_cons_of_ne_nil (runs_ne_nil ts)
  exact ⟨run, rest, hruns, by rw [runs, if_neg ht, hruns]⟩

/-- The runs on both sides of a semicolon. -/
theorem runs_append_semicolon (ts us : List Token) :
    runs (ts ++ .semicolon :: us) = runs ts ++ runs us := by
  induction ts with
  | nil => rfl
  | cons t ts ih =>
    by_cases ht : t = .semicolon
    · rw [List.cons_append, runs, if_pos ht, ih, runs, if_pos ht]
      rfl
    · obtain ⟨run, rest, hruns, hcons⟩ := runs_cons ht ts
      rw [List.cons_append, runs, if_neg ht, ih, hruns, hcons]
      rfl

theorem runs_of_not_mem (h : .semicolon ∉ ts) : runs ts = [ts] := by
  induction ts with
  | nil => rfl
  | cons t ts ih =>
    rw [List.mem_cons, not_or] at h
    rw [runs, if_neg (Ne.symm h.1), ih h.2]

theorem flatten_runs (ts : List Token) : (runs ts).flatten = ts.filter (· != .semicolon) := by
  induction ts with
  | nil => rfl
  | cons t ts ih =>
    by_cases ht : t = .semicolon
    · rw [runs, if_pos ht, List.flatten_cons, ih]
      simp [ht]
    · obtain ⟨run, rest, hruns, hcons⟩ := runs_cons ht ts
      rw [hruns, List.flatten_cons] at ih
      rw [hcons, List.flatten_cons, List.cons_append, ih]
      simp [ht]

theorem runs_filter_isBlank (ts : List Token) :
    runs (ts.filter (!·.isBlank)) = (runs ts).map (·.filter (!·.isBlank)) := by
  induction ts with
  | nil => rfl
  | cons t ts ih =>
    by_cases ht : t = .semicolon
    · have hfilter : (t :: ts).filter (!·.isBlank) = t :: ts.filter (!·.isBlank) :=
        List.filter_cons_of_pos (by simp [ht, Token.semicolon, Token.isBlank])
      rw [hfilter, runs, if_pos ht, ih, runs, if_pos ht]
      rfl
    · obtain ⟨run, rest, hruns, hcons⟩ := runs_cons ht ts
      rw [hruns] at ih
      rw [hcons, List.map_cons]
      by_cases hblank : t.isBlank = true
      · rw [List.filter_cons_of_neg (by simpa using hblank),
          List.filter_cons_of_neg (by simpa using hblank), ih]
        rfl
      · rw [List.filter_cons_of_pos (by simpa using hblank),
          List.filter_cons_of_pos (by simpa using hblank), runs, if_neg ht, ih]
        rfl

/-! ## Their number -/

/-- Blanks do not count. -/
theorem countRuns_filter_isBlank (ts : List Token) :
    countRuns (ts.filter (!·.isBlank)) = countRuns ts := by
  have hany (run : List Token) :
      (run.filter (!·.isBlank)).any (!·.isBlank) = run.any (!·.isBlank) := by
    induction run with
    | nil => rfl
    | cons t run ih => by_cases h : t.isBlank = true <;> simp [h]
  rw [countRuns, countRuns, runs_filter_isBlank, List.filter_map, List.length_map]
  simp only [Function.comp_def, hany]

theorem countRuns_append_semicolon (ts us : List Token) :
    countRuns (ts ++ .semicolon :: us) = countRuns ts + countRuns us := by
  rw [countRuns, runs_append_semicolon, List.filter_append, List.length_append]
  rfl

theorem countRuns_pos_iff : 0 < countRuns ts ↔ ∃ t ∈ ts, t.counts = true := by
  have hflatten (t : Token) : t ∈ (runs ts).flatten ↔ t ∈ ts ∧ t ≠ .semicolon := by
    simp [flatten_runs]
  constructor
  · intro h
    obtain ⟨run, hrun⟩ := List.exists_mem_of_length_pos h
    obtain ⟨hmem, hany⟩ := List.mem_filter.mp hrun
    obtain ⟨t, ht, hblank⟩ := List.any_eq_true.mp hany
    obtain ⟨hts, hne⟩ := (hflatten t).mp (List.mem_flatten_of_mem hmem ht)
    exact ⟨t, hts, by simp_all [Token.counts]⟩
  · rintro ⟨t, ht, hcounts⟩
    simp only [Token.counts, Bool.and_eq_true, bne_iff_ne] at hcounts
    obtain ⟨run, hrun, hmem⟩ := List.mem_flatten.mp ((hflatten t).mpr ⟨ht, hcounts.2⟩)
    exact List.length_pos_of_mem
      (List.mem_filter.mpr ⟨hrun, List.any_eq_true.mpr ⟨t, hmem, hcounts.1⟩⟩)

theorem countRuns_le_one (h : .semicolon ∉ ts) : countRuns ts ≤ 1 := by
  rw [countRuns, runs_of_not_mem h]
  exact List.length_filter_le _ [ts]

/-- A semicolon in the row has something behind it that makes another statement. -/
def Divides (ts : List Token) : Prop :=
  ∃ before after, ts = before ++ .semicolon :: after ∧ ∃ t ∈ after, t.counts = true

/-- A row that starts with a statement holds several exactly if a semicolon divides it. -/
theorem one_lt_countRuns_iff {t : Token} (ht : t.counts = true) :
    1 < countRuns (t :: ts) ↔ Divides (t :: ts) := by
  constructor
  · intro h
    have hmem : Token.semicolon ∈ t :: ts :=
      Decidable.byContradiction fun hmem => absurd (countRuns_le_one hmem) (by omega)
    obtain ⟨before, after, heq, hbefore⟩ := List.eq_append_cons_of_mem hmem
    have hfirst := countRuns_le_one hbefore
    rw [heq, countRuns_append_semicolon] at h
    exact ⟨before, after, heq, countRuns_pos_iff.mp (by omega)⟩
  · rintro ⟨before, after, heq, hafter⟩
    have hbefore : ∃ u ∈ before, u.counts = true := by
      rcases before with - | ⟨u, before⟩
      · obtain ⟨rfl, -⟩ := List.cons.inj heq
        exact absurd ht (by decide)
      · obtain ⟨rfl, -⟩ := List.cons.inj heq
        exact ⟨t, List.mem_cons_self, ht⟩
    have hpos := countRuns_pos_iff.mpr hbefore
    have hpos' := countRuns_pos_iff.mpr hafter
    rw [heq, countRuns_append_semicolon]
    omega

/-! ## The first statement -/

/-- The words that statements other than queries start with. -/
def statementWords : List String :=
  ["CREATE", "EXPLAIN", "DESCRIBE", "DESC", "ANALYZE", "CASE", "IF", "RAISE", "TRUNCATE", "ATTACH",
   "DETACH", "DROP", "DISCARD", "DELETE", "INSERT", "REPLACE", "UPDATE", "COPY", "ALTER", "CALL",
   "DECLARE", "FETCH", "OPEN", "CLOSE", "GRANT", "REVOKE", "RENAME", "SET", "SHOW", "USE", "START",
   "BEGIN", "END", "COMMIT", "ROLLBACK", "SAVEPOINT", "RELEASE", "ASSERT", "DEALLOCATE", "PREPARE",
   "EXECUTE", "EXEC", "KILL", "MERGE", "PRAGMA", "PRINT", "RETURN"]

/-- A token that is no keyword, or `SELECT` or a beginning or continuation of it. -/
def Token.MayBeSelect (t : Token) : Prop :=
  ∀ word ∈ t.keyword?, word <+: "SELECT".toList ∨ "SELECT".toList <+: word

theorem Token.MayBeSelect.isKeyword_eq_false {t : Token} (ht : t.MayBeSelect) :
    ∀ k ∈ statementWords, t.isKeyword k = false := by
  have hwords : statementWords.all (fun k => !k.toList.isPrefixOf "SELECT".toList &&
      !"SELECT".toList.isPrefixOf k.toList) = true := by decide
  intro k hk
  rw [isKeyword, beq_eq_false_iff_ne]
  intro hkeyword
  have hk := List.all_eq_true.mp hwords k hk
  simp only [Bool.and_eq_true, Bool.not_eq_true', ← Bool.not_eq_true,
    List.isPrefixOf_iff_prefix] at hk
  exact (ht k.toList hkeyword).elim hk.1 hk.2

theorem statementAfter_eq_unexpected (r : Rules) {t : Token}
    (h : ∀ k ∈ statementWords, t.isKeyword k = false) :
    statementAfter r t = (do unexpected; return .other) := by
  simp only [statementWords, List.forall_mem_cons] at h
  simp only [statementAfter, List.any_cons, List.any_nil, h, Bool.or_false, Bool.false_and,
    Bool.false_eq_true, if_false]

/-- A statement that starts with `SELECT`, or a query that starts otherwise, is read in an
orderly way. -/
theorem takes_of_statement {d : Dialect} {depth : Nat} {t : Token} (ht : t.MayBeSelect)
    {s : Statement} {rest : List Token}
    (h : (rules d (depth + 1)).statement (t :: ts) = .ok (s, rest)) : Takes (t :: ts) rest := by
  have h : (if ["SELECT", "WITH", "VALUES", "FROM"].any t.isKeyword || t.isSymbol "(" then do
      (rules d depth).query
      return .other
    else do
      set ts
      statementAfter (rules d depth) t : Reading Statement) (t :: ts) = .ok (s, rest) := h
  split at h
  · exact Orderly.at_row _ _ _ h
  · rw [statementAfter_eq_unexpected _ ht.isKeyword_eq_false] at h
    cases h

/-! ## What the parser overlooks -/

/-- Reads a statement at the start of a row. -/
def readStatement : Reading Statement :=
  (rules .general maxDepth).statement

/-- What is left of a row where the parser has read all statements that it reads. -/
def Stops (rest : List Token) : Prop :=
  (∀ t ∈ rest, t = .semicolon) ∨ ∃ e after, rest = e :: after ∧ e.isKeyword "END" = true

/-- The parser takes the row for one statement, and a semicolon divides it. -/
inductive Overlooked (ts : List Token) : Prop
  /-- The semicolon comes after an `END` behind the statement. -/
  | behindEnd {s : Statement} {e : Token} {before after : List Token}
    (hread : readStatement ts = .ok (s, e :: before ++ .semicolon :: after))
    (hend : e.isKeyword "END" = true) (hmore : ∃ t ∈ after, t.counts = true)
  /-- The semicolon is among the tokens of the statement, behind one of the words after which
  tokens are taken unseen. -/
  | within {s : Statement} {before after rest : List Token}
    (hread : readStatement ts = .ok (s, rest)) (hstop : Stops rest)
    (hts : ts = before ++ .semicolon :: after ++ rest)
    (hblind : ∃ t ∈ before ++ .semicolon :: after, t.isBlind)
    (hmore : ∃ t ∈ after ++ rest, t.counts = true)

section Statements

variable {r : Rules}

theorem statementsUpTo_semicolon (fuel : Nat) (separated : Bool) (ts : List Token) :
    statementsUpTo r (fuel + 1) separated (.semicolon :: ts) = statementsUpTo r fuel true ts :=
  rfl

theorem statementsUpTo_of_ne {t : Token} (ht : t ≠ .semicolon) (fuel : Nat) (separated : Bool)
    (ts : List Token) :
    statementsUpTo r (fuel + 1) separated (t :: ts) =
      (if separated then do
        let s ← r.statement
        return s :: (← statementsUpTo r fuel false)
      else if t.isKeyword "END" then return []
      else unexpected : Reading (List Statement)) (t :: ts) := by
  change (if t = .semicolon then do
      set ts
      statementsUpTo r fuel true
    else if separated then do
      let s ← r.statement
      return s :: (← statementsUpTo r fuel false)
    else if t.isKeyword "END" then return []
    else unexpected : Reading (List Statement)) (t :: ts) = _
  rw [if_neg ht]

/-- Behind a semicolon nothing is passed over but semicolons. -/
theorem forall_eq_semicolon_of_statementsUpTo {fuel : Nat} {rest : List Token}
    (h : statementsUpTo r fuel true ts = .ok ([], rest)) : ∀ t ∈ ts, t = .semicolon := by
  induction fuel generalizing ts with
  | zero => cases h
  | succ fuel ih =>
    rcases ts with - | ⟨t, ts⟩
    · simp
    by_cases ht : t = .semicolon
    · subst ht
      rw [statementsUpTo_semicolon] at h
      simpa using ih h
    · rw [statementsUpTo_of_ne ht, if_pos rfl] at h
      obtain ⟨s, us, -, hrest⟩ := bind_eq_ok.mp h
      obtain ⟨ss, vs, -, hlast⟩ := bind_eq_ok.mp hrest
      exact absurd (pure_eq_ok.mp hlast).1 (by simp)

theorem stops_of_statementsUpTo {fuel : Nat} {rest : List Token}
    (h : statementsUpTo r fuel false ts = .ok ([], rest)) : Stops ts := by
  rcases fuel with - | fuel
  · cases h
  rcases ts with - | ⟨t, ts⟩
  · exact Or.inl (by simp)
  by_cases ht : t = .semicolon
  · subst ht
    rw [statementsUpTo_semicolon] at h
    exact Or.inl (by simpa using forall_eq_semicolon_of_statementsUpTo h)
  · rw [statementsUpTo_of_ne ht, if_neg (by decide)] at h
    split at h
    · next hend => exact Or.inr ⟨t, ts, rfl, hend⟩
    · cases h

/-- If one statement is all that is read of a row, the reading stops behind it. -/
theorem exists_statement_of_statements {t : Token} (ht : t ≠ .semicolon) {ss : List Statement}
    {rest : List Token} (h : Grammar.statements r (t :: ts) = .ok (ss, rest))
    (hss : ss.length ≤ 1) : ∃ s us, r.statement (t :: ts) = .ok (s, us) ∧ Stops us := by
  have h : statementsUpTo r (2 * (ts.length + 1) + 1) true (t :: ts) = .ok (ss, rest) := h
  rw [statementsUpTo_of_ne ht, if_pos rfl] at h
  obtain ⟨s, us, hs, hrest⟩ := bind_eq_ok.mp h
  obtain ⟨ss', vs, hmore, hlast⟩ := bind_eq_ok.mp hrest
  obtain ⟨rfl, rfl⟩ := pure_eq_ok.mp hlast
  have hnil : ss' = [] := List.eq_nil_of_length_eq_zero (by simpa using hss)
  exact ⟨s, us, hs, stops_of_statementsUpTo (hnil ▸ hmore)⟩

end Statements

/-! ## Both ways of counting -/

section Overlooked

variable {t : Token} (hselect : t.MayBeSelect)
include hselect

/-- A row that a semicolon divides is overlooked if the parser takes it for one statement. -/
theorem overlooked_of_divides {s : Statement} {rest : List Token}
    (hread : readStatement (t :: ts) = .ok (s, rest)) (hstop : Stops rest)
    (h : Divides (t :: ts)) : Overlooked (t :: ts) := by
  obtain ⟨before, after, heq, u, hu, hcounts⟩ := h
  obtain ⟨taken, hts, hblind⟩ := takes_of_statement hselect hread
  have hne : u ≠ .semicolon := by
    rintro rfl
    exact absurd hcounts (by decide)
  -- the semicolon does not come first behind the statement, since the parser stops there
  have hfirst : rest ≠ .semicolon :: after := by
    rintro rfl
    rcases hstop with hstop | ⟨e, after', hrest, hend⟩
    · exact hne (hstop u (List.mem_cons_of_mem _ hu))
    · obtain ⟨rfl, -⟩ := List.cons.inj hrest
      exact absurd hend (by decide)
  rcases List.append_eq_append_iff.mp (hts.symm.trans heq) with
    ⟨between, hbefore, hrest⟩ | ⟨inside, htaken, hafter⟩
  · rcases between with - | ⟨e, between⟩
    · exact absurd hrest hfirst
    · rcases hstop with hstop | ⟨e', after', hrest', hend⟩
      · exact absurd (hstop u (by simp [hrest, hu])) hne
      · obtain ⟨rfl, -⟩ := List.cons.inj (hrest.symm.trans hrest')
        exact .behindEnd (hrest ▸ hread) hend ⟨u, hu, hcounts⟩
  · rcases inside with - | ⟨x, inside⟩
    · exact absurd hafter.symm hfirst
    · obtain ⟨rfl, rfl⟩ := List.cons.inj hafter
      refine .within hread hstop (htaken ▸ hts) ?_ ⟨u, hu, hcounts⟩
      exact htaken ▸ hblind (by simp [htaken])

theorem divides_of_overlooked (h : Overlooked (t :: ts)) : Divides (t :: ts) := by
  cases h with
  | @behindEnd _ e before after hread _ hmore =>
    obtain ⟨taken, hts, -⟩ := takes_of_statement hselect hread
    exact ⟨taken ++ e :: before, after, by simp [hts], hmore⟩
  | @within _ before after rest _ _ hts _ hmore =>
    exact ⟨before, after ++ rest, by simp [hts], hmore⟩

/-- A row with none of the words `END`, `OPERATOR` and `TABLE` is not overlooked. -/
theorem not_overlooked (hend : ∀ u ∈ t :: ts, u.isKeyword "END" = false)
    (hblind : ∀ u ∈ t :: ts, ¬ u.isBlind) : ¬ Overlooked (t :: ts) := by
  rintro (⟨hread, he, -⟩ | ⟨-, -, hts, ⟨u, hu, hu'⟩, -⟩)
  · next e _ _ =>
    obtain ⟨taken, hts, -⟩ := takes_of_statement hselect hread
    have hmem : e ∈ t :: ts := by simp [hts]
    rw [hend e hmem] at he
    cases he
  · exact hblind u (by rw [hts]; exact List.mem_append_left _ hu) hu'

/-- Of a text that counts as one statement, the runs are several exactly if the parser has
overlooked some. -/
theorem one_lt_countRuns_iff_overlooked {s : Text} {n : Nat} {tokens : List Token}
    (hcounts : t.counts = true) (htokens : tokenize .general s = .ok tokens)
    (hfirst : tokens.filter (!·.isBlank) = t :: ts) (hcount : countStatements s = .ok n)
    (hn : n ≤ 1) :
    1 < countRuns tokens ↔ Overlooked (tokens.filter (!·.isBlank)) := by
  rw [← countRuns_filter_isBlank, hfirst, one_lt_countRuns_iff hcounts]
  refine ⟨fun hdivides => ?_, divides_of_overlooked hselect⟩
  have hne : t ≠ .semicolon := by
    rintro rfl
    exact absurd hcounts (by decide)
  simp only [countStatements, htokens, statements, hfirst] at hcount
  cases hstatements : Grammar.statements (rules .general maxDepth) (t :: ts) with
  | ok x =>
    simp only [hstatements, Except.ok.injEq] at hcount
    obtain ⟨_, us, hread, hstop⟩ := exists_statement_of_statements hne hstatements
      (by omega)
    exact overlooked_of_divides hselect hread hstop hdivides
  | error e =>
    simp only [hstatements, Except.ok.injEq] at hcount
    rw [← countRuns_filter_isBlank, hfirst] at hcount
    have := (one_lt_countRuns_iff hcounts).mpr hdivides
    omega

end Overlooked

/-! ## Nothing to count -/

/-- Among semicolons there is no statement. -/
theorem eq_nil_of_statementsUpTo {r : Rules} {fuel : Nat} {ss : List Statement}
    {rest : List Token} (hts : ∀ t ∈ ts, t = .semicolon)
    (h : statementsUpTo r fuel true ts = .ok (ss, rest)) : ss = [] := by
  induction fuel generalizing ts with
  | zero => cases h
  | succ fuel ih =>
    rcases ts with - | ⟨t, ts⟩
    · exact (pure_eq_ok.mp h).1.symm
    · obtain ⟨rfl, hrest⟩ := List.forall_mem_cons.mp hts
      rw [statementsUpTo_semicolon] at h
      exact ih hrest h

theorem forall_eq_semicolon_iff :
    (∀ t ∈ ts.filter (!·.isBlank), t = .semicolon) ↔ ¬ ∃ t ∈ ts, t.counts = true := by
  simp only [List.mem_filter, Bool.not_eq_true', and_imp, not_exists, not_and, Token.counts,
    Bool.and_eq_true, bne_iff_ne, ne_eq, Classical.not_not]

/-- A text counts as no statement if and only if there is nothing in it but blanks, comments
and semicolons. -/
theorem countStatements_eq_zero_iff {s : Text} (htokens : tokenize .general s = .ok ts) :
    countStatements s = .ok 0 ↔ ¬ ∃ t ∈ ts, t.counts = true := by
  rw [← forall_eq_semicolon_iff, countStatements, htokens]
  dsimp only
  unfold statements
  cases h : Grammar.statements (rules .general maxDepth) (ts.filter (!·.isBlank)) with
  | ok x =>
    obtain ⟨ss, rest⟩ := x
    simp only [Except.ok.injEq, List.length_eq_zero_iff]
    refine ⟨?_, fun hall => eq_nil_of_statementsUpTo hall h⟩
    rintro rfl
    exact forall_eq_semicolon_of_statementsUpTo h
  | error e =>
    simp only [Except.ok.injEq]
    rw [forall_eq_semicolon_iff, ← countRuns_pos_iff]
    omega

end AskSql.Sql
