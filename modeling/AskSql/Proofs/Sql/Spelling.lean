import AskSql.Proofs.Sql.Ending

/-!
# How tokens are written

`Token.spelled_of_step` : what a step reads is a row of blanks, a comment, a semicolon or a bare
word, which is its own text, and anything else counts and does not end with a semicolon.

So of the first token of a text two things can be told from its first character : it is neither
blank nor a semicolon unless the character is one or starts a comment, and an unquoted word is
the start of the text as it stands (`Token.starts_of_step`). And if the text of a token ends
with a semicolon, the token is the semicolon itself, a comment, or a word that a sigil has made
of it (`Token.Spelled.ends`).
-/

namespace AskSql.Sql

open Text

/-! ## Spellings -/

/-- The words that a sigil makes of a semicolon. -/
def sigilWords : List Text :=
  ["@;".toList, "#;".toList, "@@;".toList]

/-- A token and the text that it is written with. -/
inductive Token.Spelled : Token → Text → Prop
  | blank {x : Text} (h : ∀ c ∈ x, Text.isBlank c = true) : Spelled .blank x
  | lineComment {x : Text} (h : ['-', '-'] <+: x) : Spelled .blank x
  | comment {x : Text} (hopen : ['/', '*'] <+: x) (h : EndsOtherwise x) : Spelled .blank x
  | semicolon : Spelled .semicolon [';']
  /-- An unquoted word. -/
  | name {x : Text} (h : EndsOtherwise x ∨ x ∈ sigilWords) : Spelled (.word x none) x
  /-- A literal, a quoted name, a number, a parameter or a symbol. -/
  | other {t : Token} {x : Text} (ht : t.counts = true) (hname : ∀ value, t ≠ .word value none)
    (h : EndsOtherwise x) : Spelled t x

namespace Token

section

variable {s x : Text} {c : Char} {t : Token} {n : Nat}

theorem spelled_literal {kind : LiteralKind} {value : Text} (h : EndsOtherwise x) :
    (literal kind value).Spelled x :=
  .other rfl (by simp) h

theorem spelled_placeholder {name : Text} (h : EndsOtherwise x) : (placeholder name).Spelled x :=
  .other rfl (by simp) h

theorem spelled_symbol {y : Text} (hy : y ≠ [';']) (h : EndsOtherwise x) :
    (symbol y).Spelled x :=
  .other (by simpa [counts, isBlank, Token.semicolon] using hy) (by simp) h

/-- A literal whose text starts behind `opening`. -/
theorem spelled_of_literalStep {kind : LiteralKind} (opening : Text) {place : Nat}
    {o : Option (Rest Text)} (h : literalStep kind opening.length place o = .ok (t, n))
    (ho : ∀ {r}, o = some r → EndsOtherwise (s.take r.2)) :
    t.Spelled (c :: (opening ++ s).take n) := by
  cases o with
  | none => cases h
  | some r =>
    obtain ⟨rfl, rfl⟩ := Prod.mk.inj (Except.ok.inj h)
    rw [Nat.add_comm]
    exact spelled_literal (((ho rfl).take_append opening).cons c)

theorem spelled_of_rawStep {quote : Char} (hquote : quote ≠ ';')
    (h : rawStep quote s = .ok (t, n)) : t.Spelled (c :: (quote :: s).take n) := by
  have hempty {rest : Text} (h : Except.ok (.literal .raw [], 2) = (.ok (t, n) : Step)) :
      t.Spelled (c :: (quote :: quote :: rest).take n) := by
    obtain ⟨rfl, rfl⟩ := Prod.mk.inj (Except.ok.inj h)
    exact spelled_literal ⟨[c, quote], quote, rfl, hquote⟩
  unfold rawStep at h
  split at h
  · next a b rest =>
    split at h
    · next heq =>
      obtain ⟨rfl, rfl⟩ := heq
      exact spelled_of_literalStep [b, b, b] h (endsOtherwise_tripledRest? hquote)
    · split at h
      · next heq => exact heq ▸ hempty h
      · exact spelled_of_literalStep [quote] h (endsOtherwise_quotedRest? hquote)
  · next a =>
    split at h
    · next heq => exact heq ▸ hempty h
    · exact spelled_of_literalStep [quote] h (endsOtherwise_quotedRest? hquote)
  · cases h

/-- A name with nothing behind its start is a word of that start, which may end with a
semicolon. -/
theorem spelled_of_nameStep (start : Text)
    (hstart : EndsOtherwise (c :: start) ∨ c :: start ∈ sigilWords)
    (h : nameStep .general (c :: start) s = .ok (t, n)) :
    t.Spelled (c :: (start ++ s).take n) := by
  obtain ⟨rfl, rfl⟩ := Prod.mk.inj (Except.ok.inj h)
  have hsemicolon := semicolon_not_mem_takeWhile (p := Dialect.general.continuesName) (by decide) s
  have htake : (start ++ s).take
      ((c :: start).length - 1 + (s.takeWhile Dialect.general.continuesName).length) =
        start ++ s.takeWhile Dialect.general.continuesName := by
    rw [List.length_cons, Nat.add_sub_cancel, List.take_length_add_append, take_length_takeWhile]
  rw [htake]
  refine .name ?_
  rcases hrest : s.takeWhile Dialect.general.continuesName with - | ⟨d, rest⟩
  · rwa [List.append_nil]
  · rw [hrest, List.mem_cons, not_or] at hsemicolon
    exact Or.inl (((endsOtherwise_cons_of_not_mem (Ne.symm hsemicolon.1) hsemicolon.2).append
      start).cons c)

theorem spelled_of_prefixedStep (hc : c ≠ ';') (h : prefixedStep .general c s = .ok (t, n)) :
    t.Spelled (c :: s.take n) := by
  have hname (h : nameStep .general [c] s = .ok (t, n)) : t.Spelled (c :: s.take n) :=
    spelled_of_nameStep [] (Or.inl (endsOtherwise_singleton hc)) h
  unfold prefixedStep at h
  split at h
  · split at h
    · exact spelled_of_literalStep ['\x27'] h (endsOtherwise_quotedRest? (by decide))
    split at h
    · exact spelled_of_literalStep ['\x27'] h (endsOtherwise_quotedRest? (by decide))
    split at h
    · exact hname h
    split at h
    · exact spelled_of_literalStep ['\x27'] h (endsOtherwise_quotedRest? (by decide))
    split at h
    · exact spelled_of_rawStep (by decide) h
    split at h
    · split at h
      · next hrest =>
        obtain ⟨rfl, rfl⟩ := Prod.mk.inj (Except.ok.inj h)
        rw [Nat.add_comm]
        exact spelled_literal (((endsOtherwise_escapedRest? hrest).take_append ['\x27']).cons c)
      · cases h
    · exact hname h
  · split at h
    · exact hname h
    split at h
    · exact spelled_of_literalStep ['"'] h (endsOtherwise_quotedRest? (by decide))
    split at h
    · exact spelled_of_rawStep (by decide) h
    · exact hname h
  · split at h
    · split at h
      · next hrest =>
        obtain ⟨rfl, rfl⟩ := Prod.mk.inj (Except.ok.inj h)
        rw [Nat.add_comm]
        exact spelled_literal
          (((endsOtherwise_unicodeRest hrest).take_append ['&', '\x27']).cons c)
      · cases h
    · exact hname h
  · exact hname h

theorem spelled_of_dollarStep (h : dollarStep .general s = .ok (t, n)) :
    t.Spelled ('$' :: s.take n) := by
  have htag : ';' ∉ s.takeWhile fun c => isLetter c || isNumeric c || c == '_' :=
    semicolon_not_mem_takeWhile (by decide) s
  unfold dollarStep at h
  split at h
  · next hfalse => exact absurd hfalse (by decide)
  split at h
  · next rest =>
    split at h
    · next hrest =>
      obtain ⟨rfl, rfl⟩ := Prod.mk.inj (Except.ok.inj h)
      rw [Nat.add_comm]
      have hclose : EndsOtherwise ['$', '$'] := ⟨['$'], '$', rfl, by decide⟩
      exact spelled_literal (((endsOtherwise_restUntil? hclose hrest).take_append ['$']).cons '$')
    · cases h
  · dsimp only at h
    split at h
    · next rest hdrop =>
      split at h
      · next hrest =>
        obtain ⟨rfl, rfl⟩ := Prod.mk.inj (Except.ok.inj h)
        have hclose {tag : Text} : EndsOtherwise ('$' :: tag ++ ['$']) :=
          ⟨'$' :: tag, '$', rfl, by decide⟩
        have hvalue := endsOtherwise_restUntil? hclose hrest
        have hbehind := congrArg (List.drop 1) hdrop
        rw [List.drop_drop, List.drop_one, List.tail_cons] at hbehind
        rw [← hbehind] at hvalue
        exact spelled_literal (hvalue.take_add.cons '$')
      · cases h
    · obtain ⟨rfl, rfl⟩ := Prod.mk.inj (Except.ok.inj h)
      rw [take_length_takeWhile]
      exact spelled_placeholder (endsOtherwise_cons_of_not_mem (by decide) htag)

theorem spelled_of_sigilStep (hc : c = '@' ∨ c = '#') (h : sigilStep .general c s = .ok (t, n)) :
    t.Spelled (c :: s.take n) := by
  have hne : c ≠ ';' := by rcases hc with rfl | rfl <;> decide
  have hsymbol : (symbol [c]).Spelled [c] :=
    spelled_symbol (by simpa using hne) (endsOtherwise_singleton hne)
  unfold sigilStep at h
  split at h
  · obtain ⟨rfl, rfl⟩ := Prod.mk.inj (Except.ok.inj h)
    exact hsymbol
  · next e rest =>
    split at h
    · obtain ⟨rfl, rfl⟩ := Prod.mk.inj (Except.ok.inj h)
      exact hsymbol
    split at h
    · next hat =>
      obtain ⟨rfl, rfl⟩ := hat
      have hpair : (symbol ['@', '@']).Spelled ['@', '@'] :=
        spelled_symbol (by decide) ⟨['@'], '@', rfl, by decide⟩
      split at h
      · obtain ⟨rfl, rfl⟩ := Prod.mk.inj (Except.ok.inj h)
        exact hpair
      · next f rest =>
        split at h
        · obtain ⟨rfl, rfl⟩ := Prod.mk.inj (Except.ok.inj h)
          exact hpair
        · refine spelled_of_nameStep ['@', f] ?_ h
          by_cases hf : f = ';'
          · exact Or.inr (by simp [sigilWords, hf])
          · exact Or.inl ⟨['@', '@'], f, rfl, hf⟩
    · refine spelled_of_nameStep [e] ?_ h
      by_cases he : e = ';'
      · rcases hc with rfl | rfl <;> exact Or.inr (by simp [sigilWords, he])
      · exact Or.inl ⟨[c], e, rfl, he⟩

theorem spelled_numberAt (s : Text) (h : EndsOtherwise x) : (numberAt s).1.Spelled x := by
  unfold numberAt
  extract_lets whole rest digits dot fraction mantissa
  split
  · exact spelled_literal h
  split
  · exact spelled_symbol (by decide) h
  · exact .other rfl (by simp) h

theorem spelled_return (s : Text) :
    Token.blank.Spelled ('\r' :: s.take (if s.head? = some '\n' then 1 else 0)) := by
  have hreturn : Text.isBlank '\r' = true := by decide
  have hbreak : Text.isBlank '\n' = true := by decide
  by_cases hline : s.head? = some '\n'
  · obtain ⟨rest, rfl⟩ := List.head?_eq_some_iff.mp hline
    exact .blank (by simp [hreturn, hbreak])
  · exact .blank (by simp [hline, hreturn])

theorem spelled_lineComment (h : s.head? = some '-') (n : Nat) :
    Token.blank.Spelled ('-' :: s.take (1 + n)) := by
  obtain ⟨rest, rfl⟩ := List.head?_eq_some_iff.mp h
  rw [Nat.add_comm, List.take_succ_cons]
  exact .lineComment ⟨_, rfl⟩

theorem spelled_comment {nested : Bool} (h : s.head? = some '*')
    (hrest : commentRest? nested 0 (s.drop 1) = some n) :
    Token.blank.Spelled ('/' :: s.take (1 + n)) := by
  obtain ⟨rest, rfl⟩ := List.head?_eq_some_iff.mp h
  have hends := (endsOtherwise_commentRest? hrest).take_add.cons '/'
  rw [Nat.add_comm, List.take_succ_cons] at hends ⊢
  exact .comment ⟨_, rfl⟩ hends

/-- A quoted name ends with the quote that closes it. -/
theorem spelled_quotedName {close : Char} {value : Text}
    (hclose : Dialect.general.closingQuote? c = some close)
    (hrest : quotedRest? close false s = some (value, n)) :
    (word value (some c)).Spelled (c :: s.take n) := by
  refine .other rfl (by simp) ((endsOtherwise_quotedRest? ?_ hrest).cons c)
  rintro rfl
  have hclose : (if c = '"' ∨ c = '\x60' then some c else none) = some ';' := hclose
  split at hclose
  · next hopen =>
    obtain rfl := Option.some.inj hclose
    exact absurd hopen (by decide)
  · cases hclose

/-- What is read at a character, and the text that it is written with. -/
theorem spelled_of_step (h : step .general c s = .ok (t, n)) : t.Spelled (c :: s.take n) := by
  rw [step] at h
  by_cases hspace : c = ' ' ∨ c = '\t' ∨ c = '\n'
  · rw [if_pos hspace] at h
    obtain ⟨rfl, rfl⟩ := Prod.mk.inj (Except.ok.inj h)
    have hblank : Text.isBlank c = true := by rcases hspace with rfl | rfl | rfl <;> decide
    exact .blank (by simpa using hblank)
  rw [if_neg hspace] at h
  by_cases hreturn : c = '\r'
  · rw [if_pos hreturn] at h
    obtain ⟨rfl, rfl⟩ := Prod.mk.inj (Except.ok.inj h)
    exact hreturn ▸ spelled_return s
  rw [if_neg hreturn] at h
  by_cases hprefix : "NXBREUnxbreu".toList.contains c = true
  · rw [if_pos hprefix] at h
    refine spelled_of_prefixedStep ?_ h
    rintro rfl
    exact absurd hprefix (by decide)
  rw [if_neg hprefix] at h
  by_cases hquote : c = '\x27'
  · rw [if_pos hquote] at h
    exact spelled_of_literalStep [] h (endsOtherwise_quotedRest? (by decide))
  rw [if_neg hquote] at h
  split at h
  · next close hclose =>
    split at h
    · next value k hrest =>
      obtain ⟨rfl, rfl⟩ := Prod.mk.inj (Except.ok.inj h)
      exact spelled_quotedName hclose hrest
    · cases h
  · split at h
    · next hnumber =>
      obtain ⟨rfl, rfl⟩ := Prod.mk.inj (Except.ok.inj h)
      refine spelled_numberAt _ (endsOtherwise_numberAt ?_ s)
      rintro rfl
      exact absurd hnumber (by decide)
    split at h
    · next hcomment =>
      obtain ⟨rfl, rfl⟩ := Prod.mk.inj (Except.ok.inj h)
      obtain ⟨rfl, hminus⟩ := hcomment
      exact spelled_lineComment hminus _
    split at h
    · next hcomment =>
      split at h
      · next k hrest =>
        obtain ⟨rfl, rfl⟩ := Prod.mk.inj (Except.ok.inj h)
        obtain ⟨rfl, hstar⟩ := hcomment
        exact spelled_comment hstar hrest
      · cases h
    split at h
    · next hoperator =>
      obtain ⟨rfl, rfl⟩ := Prod.mk.inj (Except.ok.inj h)
      exact spelled_symbol (operatorAt?_ne_semicolon hoperator)
        (endsOtherwise_operatorAt? hoperator)
    split at h
    · next hsigil => exact spelled_of_sigilStep hsigil h
    split at h
    · next hmark =>
      obtain ⟨rfl, rfl⟩ := Prod.mk.inj (Except.ok.inj h)
      rw [take_length_takeWhile, hmark]
      exact spelled_placeholder (endsOtherwise_cons_of_not_mem (by decide)
        (semicolon_not_mem_takeWhile (by decide) s))
    split at h
    · next hname =>
      have hc : c ≠ ';' := by
        rintro rfl
        exact absurd hname (by decide)
      exact spelled_of_nameStep [] (Or.inl (endsOtherwise_singleton hc)) h
    split at h
    · next hdollar =>
      subst hdollar
      exact spelled_of_dollarStep h
    split at h
    · next hblank =>
      obtain ⟨rfl, rfl⟩ := Prod.mk.inj (Except.ok.inj h)
      exact .blank (by simpa using hblank)
    · obtain ⟨rfl, rfl⟩ := Prod.mk.inj (Except.ok.inj h)
      by_cases hc : c = ';'
      · subst hc
        exact .semicolon
      · exact spelled_symbol (by simpa using hc) (endsOtherwise_singleton hc)

/-! ## The first token -/

/-- What can be told of a token that starts a text : it counts, and an unquoted word is the
start of the text as it stands. -/
structure Starts (t : Token) (s : Text) : Prop where
  counts : t.counts = true
  word : ∀ value, t = .word value none → value <+: s

/-- A character that is no blank, starts no comment and is no semicolon starts a token that
counts. -/
theorem starts_of_step (hblank : Text.isBlank c = false) (hc : c ∉ [';', '-', '/'])
    (h : step .general c s = .ok (t, n)) : t.Starts (c :: s) := by
  have hspelled := spelled_of_step h
  have hprefix : c :: s.take n <+: c :: s := List.cons_prefix_cons.mpr ⟨rfl, List.take_prefix n s⟩
  generalize hx : c :: s.take n = x at hspelled hprefix
  have hhead {d : Char} {y : Text} (h : d :: y <+: x) : c = d := by
    rw [← hx] at h
    exact (List.cons_prefix_cons.mp h).1.symm
  cases hspelled with
  | blank h =>
    have := h c (by simp [← hx])
    simp [hblank] at this
  | lineComment h => exact absurd (hhead h) (by rintro rfl; simp at hc)
  | comment h => exact absurd (hhead h) (by rintro rfl; simp at hc)
  | semicolon => exact absurd (hhead (List.prefix_refl [';'])) (by rintro rfl; simp at hc)
  | name =>
    refine ⟨rfl, fun value hvalue => ?_⟩
    obtain ⟨rfl, -⟩ := Token.word.inj hvalue
    exact hprefix
  | other ht hname => exact ⟨ht, fun value hvalue => absurd hvalue (hname value)⟩

end

/-! ## Semicolons at the end -/

/-- A token whose text ends with a semicolon. -/
inductive Ends (text : Text) : Token → Prop
  /-- The semicolon itself. -/
  | semicolon : Ends text .semicolon
  /-- A comment that the text ends in. -/
  | comment (h : ['-', '-'] <+: text) : Ends text .blank
  /-- A sigil that takes the semicolon for the start of a name. -/
  | name (h : text ∈ sigilWords) : Ends text (.word text none)

theorem Spelled.ends {t : Token} {x : Text} (ht : t.Spelled x) (hx : x.getLast? = some ';') :
    t.Ends x := by
  cases ht with
  | blank h => exact absurd (h ';' (List.mem_of_getLast? hx)) (by decide)
  | lineComment h => exact .comment h
  | comment _ h => exact absurd hx h.getLast?_ne
  | semicolon => exact .semicolon
  | name h =>
    rcases h with h | h
    · exact absurd hx h.getLast?_ne
    · exact .name h
  | other _ _ h => exact absurd hx h.getLast?_ne

end Token
end AskSql.Sql
