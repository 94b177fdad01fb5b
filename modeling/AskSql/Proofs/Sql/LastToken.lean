import AskSql.Proofs.Sql.Spelling

/-!
# The last token of a text

The lexemes of a text make up all of it (`isRead_and_flatMap_text`), so a semicolon at its end
belongs to its last lexeme. That is the semicolon itself, unless a comment up to the end of the
text has swallowed it or a sigil has made a word of it (`exists_ends_of_lexemes`).

`endsStatement_iff` : the tokens of such a text end with a semicolon, unless its last lexeme
loses it in one of these two ways (`LosesEnd`).
-/

namespace AskSql.Sql

open Text

/-! ## Texts -/

/-- A lexeme that a step has read. -/
def Lexeme.IsRead (d : Dialect) (l : Lexeme) : Prop :=
  ∃ c s n, step d c s = .ok (l.token, n) ∧ l.text = c :: s.take n

/-- The lexemes of a text are read one after the other and make up all of it. -/
theorem isRead_and_flatMap_text {d : Dialect} {offset : Nat} {s : Text} {ls : List Lexeme}
    (h : lexemesFrom d offset s = .ok ls) :
    (∀ l ∈ ls, l.IsRead d) ∧ ls.flatMap (·.text) = s := by
  induction offset, s using lexemesFrom.induct d generalizing ls with
  | case1 offset =>
    rw [lexemesFrom] at h
    obtain rfl := Except.ok.inj h
    simp
  | case2 offset c s fault n hstep =>
    rw [lexemesFrom, hstep] at h
    cases h
  | case3 offset c s t n hstep e hrest ih =>
    rw [lexemesFrom, hstep] at h
    simp [hrest] at h
  | case4 offset c s t n hstep rest hrest ih =>
    rw [lexemesFrom, hstep] at h
    simp only [hrest, Except.ok.injEq] at h
    subst h
    obtain ⟨hread, htext⟩ := ih hrest
    refine ⟨List.forall_mem_cons.mpr ⟨⟨c, s, n, hstep, rfl⟩, hread⟩, ?_⟩
    rw [List.flatMap_cons, htext]
    exact congrArg (c :: ·) (List.take_append_drop n s)

theorem lexemes_eq_ok_iff {d : Dialect} {s : Text} {ls : List Lexeme} :
    lexemes d s = .ok ls ↔ lexemesFrom d 0 s = .ok ls := by
  unfold lexemes
  split
  · next hls => simp [hls]
  · next hls => simp [hls]

theorem exists_lexemes_of_tokenize {d : Dialect} {s : Text} {tokens : List Token}
    (h : tokenize d s = .ok tokens) :
    ∃ ls, lexemes d s = .ok ls ∧ ls.map (·.token) = tokens := by
  unfold tokenize at h
  split at h
  · next ls hls => exact ⟨ls, hls, Except.ok.inj h⟩
  · cases h

/-- The semicolon at the end of a text belongs to its last lexeme. -/
theorem exists_ends_of_lexemes {s : Text} {ls : List Lexeme}
    (h : lexemes .general (s ++ [';']) = .ok ls) :
    ∃ before l, ls = before ++ [l] ∧ l.token.Ends l.text := by
  obtain ⟨hread, htext⟩ := isRead_and_flatMap_text (lexemes_eq_ok_iff.mp h)
  rcases List.eq_nil_or_concat ls with rfl | ⟨before, l, rfl⟩
  · simp at htext
  rw [List.concat_eq_append] at hread htext ⊢
  refine ⟨before, l, rfl, ?_⟩
  obtain ⟨c, u, n, hstep, hl⟩ := hread l (by simp)
  have hlast : (before.flatMap (·.text) ++ l.text).getLast? = some ';' := by
    rw [← List.flatMap_singleton (·.text) l, ← List.flatMap_append, htext]
    simp
  rw [hl, List.getLast?_append, List.getLast?_cons, Option.some_or,
    ← List.getLast?_cons (a := c)] at hlast
  rw [hl]
  exact (Token.spelled_of_step hstep).ends hlast

/-! ## Terminated statements -/

/-- The last token that is no blank is a semicolon. -/
def EndsStatement (tokens : List Token) : Prop :=
  (tokens.filter (!·.isBlank)).getLast? = some .semicolon

/-- A token stream that holds something and ends with a semicolon. -/
structure IsTerminated (tokens : List Token) : Prop where
  counts : ∃ t ∈ tokens, t.counts = true
  ends : EndsStatement tokens

/-- The semicolon at the end of a text is lost in its last lexeme. -/
inductive LosesEnd : List Lexeme → Prop
  /-- It stands in a comment, and there is none in front of the comment. -/
  | comment {before : List Lexeme} {l : Lexeme} (hl : l.token = .blank)
    (htext : ['-', '-'] <+: l.text) (h : ¬ EndsStatement (before.map (·.token))) :
    LosesEnd (before ++ [l])
  /-- It is part of a name. -/
  | name {before : List Lexeme} {l : Lexeme} (hl : l.token = .word l.text none)
    (htext : l.text ∈ sigilWords) : LosesEnd (before ++ [l])

theorem losesEnd_append_singleton {before : List Lexeme} {l : Lexeme} :
    LosesEnd (before ++ [l]) ↔
      (l.token = .blank ∧ ['-', '-'] <+: l.text ∧ ¬ EndsStatement (before.map (·.token))) ∨
        l.token = .word l.text none ∧ l.text ∈ sigilWords := by
  constructor
  · generalize hls : before ++ [l] = ls
    rintro (⟨hl, htext, h⟩ | ⟨hl, htext⟩)
    · obtain ⟨rfl, hlast⟩ := List.append_inj' hls rfl
      obtain rfl := List.singleton_inj.mp hlast
      exact Or.inl ⟨hl, htext, h⟩
    · obtain ⟨rfl, hlast⟩ := List.append_inj' hls rfl
      obtain rfl := List.singleton_inj.mp hlast
      exact Or.inr ⟨hl, htext⟩
  · rintro (⟨hl, htext, h⟩ | ⟨hl, htext⟩)
    · exact .comment hl htext h
    · exact .name hl htext

theorem endsStatement_append_blank (tokens : List Token) :
    EndsStatement (tokens ++ [.blank]) ↔ EndsStatement tokens := by
  rw [EndsStatement, EndsStatement, List.filter_append]
  simp [Token.isBlank]

theorem endsStatement_append_of_not_blank (tokens : List Token) {t : Token}
    (ht : t.isBlank = false) : EndsStatement (tokens ++ [t]) ↔ t = .semicolon := by
  rw [EndsStatement, List.filter_append]
  simp [ht]

/-- The tokens of a text with a semicolon at its end end with one, unless the last lexeme loses
it. -/
theorem endsStatement_iff {s : Text} {ls : List Lexeme}
    (h : lexemes .general (s ++ [';']) = .ok ls) :
    EndsStatement (ls.map (·.token)) ↔ ¬ LosesEnd ls := by
  obtain ⟨before, ⟨token, text⟩, rfl, hends⟩ := exists_ends_of_lexemes h
  rw [losesEnd_append_singleton, List.map_append, List.map_singleton]
  dsimp only at hends ⊢
  cases hends with
  | semicolon =>
    rw [endsStatement_append_of_not_blank _ rfl]
    simp [Token.semicolon]
  | comment htext =>
    rw [endsStatement_append_blank]
    refine ⟨fun hbefore => ?_, fun hnot => Classical.not_not.mp fun hbefore => ?_⟩
    · rintro (⟨-, -, hnot⟩ | ⟨hword, -⟩)
      · exact hnot hbefore
      · cases hword
    · exact hnot (Or.inl ⟨rfl, htext, hbefore⟩)
  | name htext =>
    rw [endsStatement_append_of_not_blank _ rfl]
    refine ⟨fun hword => absurd hword (by simp [Token.semicolon]), fun hnot => ?_⟩
    exact absurd (Or.inr ⟨rfl, htext⟩) hnot

end AskSql.Sql
