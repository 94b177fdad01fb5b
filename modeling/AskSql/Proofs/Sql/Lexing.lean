import AskSql.Sql.Lexer

/-!
# Texts and their tokens

`Tokens d s ts` says what the tokens of a text are, step by step from its start; it holds of
the tokens that `tokenize` returns and of no others (`tokenize_eq_ok_iff`).
-/

namespace AskSql.Sql

open Text

/-- The tokens of a text, step by step. -/
inductive Tokens (d : Dialect) : Text → List Token → Prop
  | nil : Tokens d [] []
  | cons {c : Char} {s : Text} {t : Token} {n : Nat} {ts : List Token}
    (h : step d c s = .ok (t, n)) (hrest : Tokens d (s.drop n) ts) : Tokens d (c :: s) (t :: ts)

variable {d : Dialect} {s : Text} {ts : List Token}

theorem tokens_iff_lexemesFrom (offset : Nat) :
    Tokens d s ts ↔ ∃ ls, lexemesFrom d offset s = .ok ls ∧ ls.map (·.token) = ts := by
  induction offset, s using lexemesFrom.induct d generalizing ts with
  | case1 offset =>
    constructor
    · rintro ⟨⟩
      exact ⟨[], by rw [lexemesFrom], rfl⟩
    · rintro ⟨ls, hls, rfl⟩
      rw [lexemesFrom] at hls
      obtain rfl := Except.ok.inj hls
      exact .nil
  | case2 offset c s fault n hstep =>
    constructor
    · rintro ⟨⟩
      simp_all
    · rintro ⟨ls, hls, -⟩
      rw [lexemesFrom, hstep] at hls
      cases hls
  | case3 offset c s t n hstep e hrest ih =>
    constructor
    · intro h
      cases h with
      | cons h htokens =>
        obtain ⟨rfl, rfl⟩ := Prod.mk.inj (Except.ok.inj (hstep.symm.trans h))
        obtain ⟨ls, hls, -⟩ := ih.mp htokens
        simp [hrest] at hls
    · rintro ⟨ls, hls, -⟩
      rw [lexemesFrom, hstep] at hls
      simp [hrest] at hls
  | case4 offset c s t n hstep ls hrest ih =>
    constructor
    · intro h
      cases h with
      | cons h htokens =>
        obtain ⟨rfl, rfl⟩ := Prod.mk.inj (Except.ok.inj (hstep.symm.trans h))
        obtain ⟨ls', hls', rfl⟩ := ih.mp htokens
        obtain rfl := Except.ok.inj (hrest.symm.trans hls')
        refine ⟨⟨t, c :: s.take n⟩ :: ls, ?_, rfl⟩
        rw [lexemesFrom, hstep]
        simp [hrest]
    · rintro ⟨ls', hls', rfl⟩
      rw [lexemesFrom, hstep] at hls'
      simp only [hrest, Except.ok.injEq] at hls'
      subst hls'
      exact .cons hstep (ih.mpr ⟨ls, hrest, rfl⟩)

/-- The tokens of a text are what it is taken apart into. -/
theorem tokenize_eq_ok_iff : tokenize d s = .ok ts ↔ Tokens d s ts := by
  rw [tokens_iff_lexemesFrom 0, tokenize, lexemes]
  cases hls : lexemesFrom d 0 s with
  | error e => simp
  | ok ls => simp

/-! ## Tokens that count -/

/-- A token that makes a statement of the run that it stands in. -/
def Token.counts (t : Token) : Bool :=
  !t.isBlank && t != .semicolon

end AskSql.Sql
