import AskSql.Database.Grammar.Statement

/-!
# Reading pieces

What the readers of the grammar do in front of given pieces, one lemma for each reader: what it
gives and what it leaves. In front of a semicolon or a dot nothing goes on, and every phrase that
may be missing is missing (`Token.IsEnd`). A name is read where it is none of the words that are
kept there (`Token.IsName`).

A reader that takes up no more than what comes before a dot `Stops`. No statement goes on with a
dot, so a reader that stops makes the whole statement wrong (`wholeStatement_ne_ok_of_stops`).
-/

namespace AskSql.Database

open Text

/-! ## Tokens -/

namespace Token

/-- A semicolon or a dot. No phrase starts with one. -/
def IsEnd (t : Token) : Prop :=
  t = .symbol [';'] ∨ t = .symbol ['.']

/-- The token is the name `n`, which is none of the words. -/
def IsName (words : List String) (t : Token) (n : Text) : Prop :=
  (t = .word n ∧ t.isAmong words = false) ∨ ∃ quote, t = .quoted n quote

/-- The token is one of the words, or none at all. -/
def IsKept (words : List String) (t : Token) : Prop :=
  t = .wrong ∨ ∃ w, t = .word w ∧ t.isAmong words = true

variable {t : Token} {n : Text} {words : List String}

/-- A word is told from others in capitals. -/
theorem isAmong_word {w : Text} :
    (word w).isAmong words = true ↔ String.ofList (w.map Char.toUpper) ∈ words := by
  rw [isAmong, List.any_eq_true]
  constructor
  · rintro ⟨k, hk, heq⟩
    rwa [← eq_of_beq heq, String.ofList_toList]
  · intro h
    exact ⟨_, h, by simp⟩

/-- A token is among two lists of words if it is among one of them. -/
theorem isAmong_append (t : Token) (ks ls : List String) :
    t.isAmong (ks ++ ls) = (t.isAmong ks || t.isAmong ls) := by
  cases t <;> simp [isAmong]

/-- What is none of some words is not a certain one of them. -/
theorem isKeyword_eq_false_of_isAmong (h : t.isAmong words = false) {k : String} (hk : k ∈ words) :
    t.isKeyword k = false := by
  cases t with
  | word w =>
    simp only [isAmong, List.any_eq_false] at h
    have hne := h k hk
    rw [beq_iff_eq] at hne
    exact beq_eq_false_iff_ne.mpr (Ne.symm hne)
  | _ => rfl

/-- An end is no word. -/
theorem IsEnd.isKeyword_eq (h : t.IsEnd) (k : String) : t.isKeyword k = false := by
  rcases h with rfl | rfl <;> rfl

theorem IsEnd.isAmong_eq (h : t.IsEnd) (ks : List String) : t.isAmong ks = false := by
  rcases h with rfl | rfl <;> rfl

theorem IsEnd.looseNameOf?_eq (h : t.IsEnd) (words : List String) :
    Reader.looseNameOf? words t = none := by
  rcases h with rfl | rfl <;> rfl

/-- An end is none of the symbols that a phrase goes on with. -/
theorem IsEnd.isSymbol_eq (h : t.IsEnd) {s : String}
    (hs : s ∈ [",", "(", ")", "*", "-", "+", "~"]) : t.isSymbol s = false := by
  simp only [List.mem_cons, List.not_mem_nil, or_false] at hs
  rcases h with rfl | rfl <;> rcases hs with rfl | rfl | rfl | rfl | rfl | rfl | rfl <;> decide

/-- A name is no symbol. -/
theorem IsName.isSymbol_eq (h : t.IsName words n) (s : String) : t.isSymbol s = false := by
  rcases h with ⟨rfl, -⟩ | ⟨quote, rfl⟩ <;> simp [isSymbol]

/-- A name is none of the words that are kept. -/
theorem IsName.isKeyword_eq (h : t.IsName words n) {k : String} (hk : k ∈ words) :
    t.isKeyword k = false := by
  rcases h with ⟨rfl, h⟩ | ⟨quote, rfl⟩
  · exact isKeyword_eq_false_of_isAmong h hk
  · rfl

theorem IsName.isAmong_eq (h : t.IsName words n) : t.isAmong words = false := by
  rcases h with ⟨rfl, h⟩ | ⟨quote, rfl⟩
  · exact h
  · rfl

/-- A name is read as itself. -/
theorem IsName.looseNameOf?_eq (h : t.IsName words n) : Reader.looseNameOf? words t = some n := by
  rcases h with ⟨rfl, h⟩ | ⟨quote, rfl⟩
  · simp [Reader.looseNameOf?, Reader.nameOf?, h]
  · rfl

/-- A name where more words are kept is one where fewer are. -/
theorem IsName.left {others : List String} (h : t.IsName (words ++ others) n) :
    t.IsName words n := by
  rcases h with ⟨ht, h⟩ | h
  · rw [isAmong_append, Bool.or_eq_false_iff] at h
    exact .inl ⟨ht, h.1⟩
  · exact .inr h

/-- See `IsName.left`. -/
theorem IsName.right {others : List String} (h : t.IsName (words ++ others) n) :
    t.IsName others n := by
  rcases h with ⟨ht, h⟩ | h
  · rw [isAmong_append, Bool.or_eq_false_iff] at h
    exact .inl ⟨ht, h.2⟩
  · exact .inr h

/-- A word that is kept is not read as a name. -/
theorem IsKept.looseNameOf?_eq (h : t.IsKept words) : Reader.looseNameOf? words t = none := by
  rcases h with rfl | ⟨w, rfl, h⟩
  · rfl
  · simp [Reader.looseNameOf?, Reader.nameOf?, h]

theorem IsKept.isSymbol_eq (h : t.IsKept words) (s : String) : t.isSymbol s = false := by
  rcases h with rfl | ⟨w, rfl, -⟩ <;> simp [isSymbol]

end Token

namespace Reader

variable {α β : Type} {p : Piece} {ps qs : List Piece}

/-! ## Steps -/

/-- The second reader runs on what the first one leaves. -/
@[simp] theorem bind_apply (x : Reader α) (f : α → Reader β) (ps : List Piece) :
    (x >>= f) ps = match x ps with
      | .ok (a, qs) => f a qs
      | .error e => .error e := by
  change (x ps).bind (fun r => f r.1 r.2) = _
  cases x ps <;> rfl

@[simp] theorem map_apply (f : α → β) (x : Reader α) (ps : List Piece) :
    (f <$> x) ps = match x ps with
      | .ok (a, qs) => .ok (f a, qs)
      | .error e => .error e := by
  rw [map_eq_pure_bind, bind_apply]
  rfl

@[simp] theorem pure_apply (a : α) (ps : List Piece) : (pure a : Reader α) ps = .ok (a, ps) := rfl

@[simp] theorem seesAt_apply (n : Nat) (f : Token → Bool) (ps : List Piece) :
    seesAt n f ps = .ok ((ps[n]?.map fun q => f q.token).getD false, ps) := rfl

/-- To look at the next piece leaves it in the row. -/
@[simp] theorem sees_cons (f : Token → Bool) (p : Piece) (ps : List Piece) :
    sees f (p :: ps) = .ok (f p.token, p :: ps) := rfl

@[simp] theorem seesKeyword_cons (k : String) (p : Piece) (ps : List Piece) :
    seesKeyword k (p :: ps) = .ok (p.token.isKeyword k, p :: ps) := rfl

@[simp] theorem seesSymbol_cons (s : String) (p : Piece) (ps : List Piece) :
    seesSymbol s (p :: ps) = .ok (p.token.isSymbol s, p :: ps) := rfl

@[simp] theorem seesName_cons (p : Piece) (ps : List Piece) :
    seesName (p :: ps) = .ok ((looseNameOf? reserved p.token).isSome, p :: ps) := rfl

theorem seesBareName_cons (p : Piece) (ps : List Piece) :
    seesBareName (p :: ps) =
      .ok ((looseNameOf? (reserved ++ joining ++ ["INDEXED"]) p.token).isSome, p :: ps) := rfl

/-- A piece is taken if it is accepted, and nothing is read otherwise. -/
@[simp] theorem piece_cons (f : Token → Bool) (p : Piece) (ps : List Piece) :
    piece f (p :: ps) = if f p.token then .ok (p, ps) else .error (.stuck (p :: ps)) := rfl

/-- A piece is taken if it is accepted, and stays in the row otherwise. -/
@[simp] theorem accepts_cons (f : Token → Bool) (p : Piece) (ps : List Piece) :
    accepts f (p :: ps) = .ok (f p.token, if f p.token then ps else p :: ps) := by
  unfold accepts
  rw [bind_apply, sees_cons]
  cases h : f p.token <;> simp [h]

/-- See `accepts_cons`. -/
@[simp] theorem acceptsKeyword_cons (k : String) (p : Piece) (ps : List Piece) :
    acceptsKeyword k (p :: ps) =
      .ok (p.token.isKeyword k, if p.token.isKeyword k then ps else p :: ps) :=
  accepts_cons _ p ps

@[simp] theorem acceptsSymbol_cons (s : String) (p : Piece) (ps : List Piece) :
    acceptsSymbol s (p :: ps) =
      .ok (p.token.isSymbol s, if p.token.isSymbol s then ps else p :: ps) :=
  accepts_cons _ p ps

/-- A word that has to be there is taken. -/
theorem keyword_cons {k : String} (h : p.token.isKeyword k = true) (ps : List Piece) :
    keyword k (p :: ps) = .ok ((), ps) := by
  simp [keyword, h]

/-- Without the word that has to be there nothing is read. -/
theorem keyword_cons_of_not {k : String} (h : p.token.isKeyword k = false) (ps : List Piece) :
    keyword k (p :: ps) = .error (.stuck (p :: ps)) := by
  simp [keyword, h]

/-- A symbol that has to be there is taken. -/
theorem symbol_cons {s : String} (h : p.token.isSymbol s = true) (ps : List Piece) :
    symbol s (p :: ps) = .ok ((), ps) := by
  simp [symbol, h]

theorem symbol_cons_of_not {s : String} (h : p.token.isSymbol s = false) (ps : List Piece) :
    symbol s (p :: ps) = .error (.stuck (p :: ps)) := by
  simp [symbol, h]

/-- A name is taken. -/
theorem name_cons {n : Text} (h : p.token.IsName reserved n) (ps : List Piece) :
    name (p :: ps) = .ok (n, ps) := by
  simp [name, take, h.looseNameOf?_eq]

/-- Where no name is nothing is read. -/
theorem name_cons_of_none (h : looseNameOf? reserved p.token = none) (ps : List Piece) :
    name (p :: ps) = .error (.stuck (p :: ps)) := by
  simp [name, take, h]

/-! ## Lists -/

section Lists

variable {x : Reader α} {a : α} {as : List α}

/-- A list ends where no comma follows. -/
theorem commaSeparated_last (hx : x ps = .ok (a, p :: qs)) (hp : p.token.isSymbol "," = false)
    (fuel : Nat) : commaSeparated x (fuel + 1) ps = .ok ([a], p :: qs) := by
  simp [commaSeparated, hx, hp]

/-- A list goes on behind a comma. -/
theorem commaSeparated_cons (hx : x ps = .ok (a, p :: qs)) (hp : p.token.isSymbol "," = true)
    {fuel : Nat} {rest : List Piece} (hmore : commaSeparated x fuel qs = .ok (as, rest)) :
    commaSeparated x (fuel + 1) ps = .ok (a :: as, rest) := by
  simp [commaSeparated, hx, hp, hmore]

end Lists

/-! ## Phrases that are missing -/

section Missing

variable (hp : p.token.IsEnd)

include hp

/-- What a word announces is missing in front of an end. -/
theorem after_of_isEnd (k : String) (r : Reader α) (ps : List Piece) :
    Reader.after k r (p :: ps) = .ok (none, p :: ps) := by
  simp [Reader.after, hp.isKeyword_eq]

/-- Words are missing in front of an end. -/
theorem phrase_of_isEnd (k : String) (ks : List String) (ps : List Piece) :
    phrase k ks (p :: ps) = .ok (false, p :: ps) := by
  simp [phrase, hp.isKeyword_eq]

end Missing

end Reader

namespace Grammar.Rules

open Reader

variable {p : Piece} {ps : List Piece} (r : Rules)

section Missing

variable (hp : p.token.IsEnd)

include hp

/-- No join follows in front of an end. -/
theorem joinBefore_of_isEnd (ps : List Piece) :
    joinBefore (p :: ps) = .ok (none, p :: ps) := by
  simp [joinBefore, hp.isKeyword_eq, hp.isAmong_eq, hp.isSymbol_eq]

theorem called_of_isEnd (ps : List Piece) : called (p :: ps) = .ok (none, p :: ps) := by
  simp [called, seesBareName_cons, hp.isKeyword_eq, hp.looseNameOf?_eq]

theorem windows_of_isEnd (ps : List Piece) : windows (p :: ps) = .ok ((), p :: ps) := by
  simp [windows, hp.isKeyword_eq]

theorem orderBy_of_isEnd (ps : List Piece) : r.orderBy (p :: ps) = .ok ([], p :: ps) := by
  simp [orderBy, phrase_of_isEnd hp]

theorem limit_of_isEnd (ps : List Piece) : r.limit (p :: ps) = .ok ((none, none), p :: ps) := by
  simp [limit, hp.isKeyword_eq]

theorem combination_of_isEnd (ps : List Piece) :
    combination (p :: ps) = .ok (none, p :: ps) := by
  simp [combination, hp.isKeyword_eq]

theorem operator?_of_isEnd : operator? p.token = none := by
  rcases hp with h | h <;> rw [h] <;> decide

/-- No operator follows in front of an end. -/
theorem continued?_of_isEnd (level : Nat) (e : Expr) (ps : List Piece) :
    r.continued? level e (p :: ps) = .ok (none, p :: ps) := by
  simp [continued?, operator?_of_isEnd hp, wordOperator, pattern?, hp.isKeyword_eq]

end Missing

/-! ## Operands -/

section Column

variable {q dot next : Piece} {t c w : Text}

/-- A word that starts no operand of its own is a name. -/
theorem word_of_isAmong_eq (h : (Token.word w).isAmong (reserved ++ operandWords) = false) :
    r.word w = (do
      let first ← name
      if ← seesSymbol "(" then
        let call ← r.call
        return .call first call
      else dotted false first) := by
  have hne (k : String) (hk : k ∈ reserved ++ operandWords) :
      String.ofList (w.map Char.toUpper) ≠ k := by
    rintro rfl
    have := Token.isKeyword_eq_false_of_isAmong h hk
    simp [Token.isKeyword] at this
  unfold word
  dsimp only
  generalize String.ofList (w.map Char.toUpper) = k at hne
  split
  case h_9 => rfl
  all_goals exact absurd rfl (hne _ (by decide))

/-- A name begins an operand of names with dots between. -/
theorem signed_eq_dotted (ht : p.token.IsName (reserved ++ operandWords) t)
    (hnext : next.token.isSymbol "(" = false) (ps : List Piece) :
    ∃ quoted, r.signed (p :: next :: ps) = dotted quoted t (next :: ps) := by
  have hsigned : r.signed (p :: next :: ps) = r.operand (p :: next :: ps) := by
    simp [signed, ht.isSymbol_eq, ht.isKeyword_eq (k := "NOT") (by decide)]
  rw [hsigned]
  rcases ht with ⟨hword, hamong⟩ | ⟨quote, hquoted⟩
  · refine ⟨false, ?_⟩
    have hname : p.token.IsName reserved t := Token.IsName.left (.inl ⟨hword, hamong⟩)
    rw [hword] at hamong
    simp only [operand, hword, word_of_isAmong_eq r hamong, bind_apply, name_cons hname,
      seesSymbol_cons, hnext, Bool.false_eq_true, if_false]
  · refine ⟨quote == '"', ?_⟩
    simp only [operand, hquoted, List.head?_cons, Option.map_some, hnext, Option.getD_some,
      Bool.false_eq_true, if_false]

/-- A column with its table is an operand. -/
theorem signed_of_isName (ht : p.token.IsName (reserved ++ operandWords) t)
    (hdot : dot.token = .symbol ['.']) (hc : q.token.IsName reserved c)
    (hnext : next.token.isSymbol "." = false) (ps : List Piece) :
    r.signed (p :: dot :: q :: next :: ps) = .ok (.name false [t, c], next :: ps) := by
  have hopen : dot.token.isSymbol "(" = false := by rw [hdot]; rfl
  have hsymbol : dot.token.isSymbol "." = true := by rw [hdot]; rfl
  obtain ⟨quoted, heq⟩ := r.signed_eq_dotted ht hopen (q :: next :: ps)
  rw [heq]
  simp [dotted, hsymbol, name_cons hc, hnext]

/-- A call with a star in place of arguments is an operand. -/
theorem signed_of_star {opening star closing : Piece} (hp : p.token = .word w)
    (hw : (Token.word w).isAmong (reserved ++ operandWords) = false)
    (hopening : opening.token = .symbol ['(']) (hstar : star.token = .symbol ['*'])
    (hclosing : closing.token = .symbol [')']) (hfilter : next.token.isKeyword "FILTER" = false)
    (hover : next.token.isKeyword "OVER" = false) (ps : List Piece) :
    r.signed (p :: opening :: star :: closing :: next :: ps) =
      .ok (.call w (.star none false), next :: ps) := by
  have hopening : opening.token.isSymbol "(" = true := by rw [hopening]; rfl
  have hstar : star.token.isSymbol "*" = true := by rw [hstar]; rfl
  have hclosing : closing.token.isSymbol ")" = true := by rw [hclosing]; rfl
  have hname : p.token.IsName (reserved ++ operandWords) w := .inl ⟨hp, hp ▸ hw⟩
  have hend : r.callEnd (next :: ps) = .ok ((none, false), next :: ps) := by
    simp [callEnd, hfilter, hover]
  have hcall : r.call (opening :: star :: closing :: next :: ps) =
      .ok (.star none false, next :: ps) := by
    simp [call, symbol_cons hopening, hstar, symbol_cons hclosing, hend]
  have hoperand : r.operand (p :: opening :: star :: closing :: next :: ps) =
      .ok (.call w (.star none false), next :: ps) := by
    simp [operand, hp, word_of_isAmong_eq r hw, name_cons hname.left, hopening, hcall]
  have hnot : p.token.isKeyword "NOT" = false := hname.isKeyword_eq (by decide)
  simp [signed, hname.isSymbol_eq, hnot, hoperand]

end Column

/-! ## Expressions -/

/-- An expression ends in front of `FROM` and `AS`. -/
theorem expression_of_follows {e : Expr} {qs : List Piece} (h : r.signed qs = .ok (e, p :: ps))
    (hp : p.token = .word "FROM".toList ∨ p.token = .word "AS".toList) (level : Nat) :
    r.expression level qs = .ok (e, p :: ps) := by
  have hfacts : operator? p.token = none ∧ pattern? p.token = none ∧
      p.token.isAmong ["IS", "ISNULL", "NOTNULL", "NOT", "COLLATE", "BETWEEN", "IN"] = false := by
    rcases hp with h | h <;> rw [h] <;> decide
  obtain ⟨hoperator, hpattern, hamong⟩ := hfacts
  have hkeyword {k : String}
      (hk : k ∈ ["IS", "ISNULL", "NOTNULL", "NOT", "COLLATE", "BETWEEN", "IN"]) :
      p.token.isKeyword k = false := Token.isKeyword_eq_false_of_isAmong hamong hk
  have hcontinued : r.continued? level e (p :: ps) = .ok (none, p :: ps) := by
    simp [continued?, hoperator, wordOperator, hpattern, hkeyword]
  rw [expression, bind_apply, h]
  simp [continuedAll, hcontinued]

theorem continuedAll_of_isEnd (hp : p.token.IsEnd) (level fuel : Nat) (e : Expr)
    (ps : List Piece) : r.continuedAll level fuel e (p :: ps) = .ok (e, p :: ps) := by
  cases fuel with
  | zero => rfl
  | succ fuel => simp [continuedAll, continued?_of_isEnd r hp]

/-- An operand in front of an end is an expression. -/
theorem expression_of_signed {e : Expr} {qs : List Piece} (h : r.signed qs = .ok (e, p :: ps))
    (hp : p.token.IsEnd) (level : Nat) : r.expression level qs = .ok (e, p :: ps) := by
  rw [expression, bind_apply, h]
  exact continuedAll_of_isEnd r hp level _ e ps

/-- Two operands with an equals sign between them. -/
theorem expression_of_equality {a b : Expr} {equals : Piece} {qs us : List Piece}
    (ha : r.signed us = .ok (a, equals :: qs)) (hequals : equals.token = .symbol ['='])
    (hb : r.expr 5 qs = .ok (b, p :: ps)) (hp : p.token.IsEnd) :
    r.expression 0 us = .ok (.binary (.compare .equal) a b, p :: ps) := by
  have hoperator : operator? equals.token = some (4, .compare .equal) := by
    rw [hequals]
    decide
  have hcontinued : r.continued? 0 a (equals :: qs) =
      .ok (some (.binary (.compare .equal) a b), p :: ps) := by
    simp [continued?, hoperator, hb, joinedBy]
  rw [expression, bind_apply, ha]
  simp only [List.length_cons, continuedAll, bind_apply, hcontinued]
  exact continuedAll_of_isEnd r hp 0 _ _ ps

/-! ## Readers that stop -/

end Grammar.Rules

/-- The reader gets stuck, or takes what comes before a dot and no more. -/
def Reader.Stops {α : Type} (r : Reader α) (ps : List Piece) : Prop :=
  ∀ a rest, r ps = .ok (a, rest) → ∃ dot qs, rest = dot :: qs ∧ dot.token = .symbol ['.']

namespace Reader

variable {α β : Type} {x : Reader α} {f : α → Reader β} {p dot : Piece} {ps qs : List Piece}

/-- A reader that gets stuck stops. -/
theorem Stops.of_error {e : Hitch} (h : x ps = .error e) : Stops x ps := by
  intro a rest ha
  rw [h] at ha
  cases ha

/-- A reader that leaves a dot stops. -/
theorem Stops.of_ok {a : α} (h : x ps = .ok (a, dot :: qs)) (hdot : dot.token = .symbol ['.']) :
    Stops x ps := by
  intro b rest hb
  rw [h] at hb
  obtain ⟨-, rfl⟩ := Prod.mk.inj (Except.ok.inj hb)
  exact ⟨dot, qs, rfl, hdot⟩

/-- A reader stops if its first part does and no later part takes a dot. -/
theorem Stops.bind (hx : Stops x ps)
    (hf : ∀ a dot qs, dot.token = .symbol ['.'] → Stops (f a) (dot :: qs)) :
    Stops (x >>= f) ps := by
  intro b rest hb
  rw [bind_apply] at hb
  cases h : x ps with
  | error e => simp [h] at hb
  | ok r =>
    obtain ⟨a, us⟩ := r
    obtain ⟨dot, qs, rfl, hdot⟩ := hx a us h
    rw [h] at hb
    exact hf a dot qs hdot b rest hb

/-- A reader stops if what comes behind its first part does. -/
theorem stops_bind_of_ok {a : α} (h : x ps = .ok (a, qs)) (hf : Stops (f a) qs) :
    Stops (x >>= f) ps := by
  intro b rest hb
  rw [bind_apply, h] at hb
  exact hf b rest hb

theorem Stops.spanned (hx : Stops x ps) : Stops (Reader.spanned x) ps := by
  intro a rest ha
  unfold Reader.spanned at ha
  split at ha
  · next b us hb =>
    obtain ⟨-, rfl⟩ := Prod.mk.inj (Except.ok.inj ha)
    exact hx b us hb
  · cases ha

theorem stops_bind_of_error {e : Hitch} (h : x ps = .error e) : Stops (x >>= f) ps := by
  refine .of_error (e := e) ?_
  rw [bind_apply, h]

/-- A list stops at its first item. -/
theorem stops_commaSeparated (hx : Stops x ps) (fuel : Nat) : Stops (commaSeparated x fuel) ps := by
  cases fuel with
  | zero => exact .of_error rfl
  | succ fuel =>
    refine hx.bind fun a dot qs hdot => ?_
    have hcomma : acceptsSymbol "," (dot :: qs) = .ok (false, dot :: qs) := by
      rw [acceptsSymbol_cons, hdot]
      rfl
    exact stops_bind_of_ok hcomma (.of_ok rfl hdot)

/-- A list stops behind a comma. -/
theorem stops_commaSeparated_cons {a : α} (hx : x ps = .ok (a, p :: qs))
    (hp : p.token.isSymbol "," = true) {fuel : Nat} (hmore : Stops (commaSeparated x fuel) qs) :
    Stops (commaSeparated x (fuel + 1)) ps := by
  have hcomma : acceptsSymbol "," (p :: qs) = .ok (true, qs) := by simp [hp]
  refine stops_bind_of_ok hx (stops_bind_of_ok hcomma ?_)
  exact hmore.bind fun as dot us hdot => .of_ok rfl hdot

theorem stops_keyword_bind {k : String} {f : Unit → Reader β} (hf : Stops (f ()) ps) :
    Stops (keyword k >>= f) (p :: ps) := by
  by_cases hk : p.token.isKeyword k = true
  · exact stops_bind_of_ok (keyword_cons hk ps) hf
  · refine .of_error (e := .stuck (p :: ps)) ?_
    rw [bind_apply, keyword_cons_of_not (by simpa using hk)]

end Reader

namespace Grammar.Rules

open Reader

variable {p dot : Piece} {ps : List Piece} (r : Rules)

/-- No expression starts with a dot. -/
theorem signed_of_isEnd (hp : p.token.IsEnd) (ps : List Piece) :
    r.signed (p :: ps) = .error (.stuck (p :: ps)) := by
  have hopen : p.token.isSymbol "(" = false := hp.isSymbol_eq (by decide)
  have hoperand : r.operand (p :: ps) = .error (.stuck (p :: ps)) := by
    rcases hp with h | h
    all_goals
      simp only [operand, h]
      rfl
  simp [signed, hp.isKeyword_eq, hp.isSymbol_eq, hoperand]

/-- No expression starts with an end, at any depth. -/
theorem rules_expr_of_isEnd (hp : p.token.IsEnd) (depth level : Nat) (ps : List Piece) :
    ((rules depth).expr level) (p :: ps) = .error (.stuck (p :: ps)) := by
  cases depth with
  | zero => rfl
  | succ depth =>
    change (rules depth).expression level (p :: ps) = _
    rw [expression, bind_apply, signed_of_isEnd _ hp]

section Kept

variable {r} (hexpr : ∀ level ps, r.expr level (dot :: ps) = .error (.stuck (dot :: ps)))
  (hdot : dot.token = .symbol ['.'])

include hexpr hdot

/-- A word that is kept, with a dot behind it, starts no operand, or is one by itself. -/
theorem stops_word {w : Text} (hword : p.token = .word w)
    (h : p.token.isAmong (reserved ++ operandWords) = true) :
    Stops (r.word w) (p :: dot :: ps) := by
  have hopen : dot.token.isSymbol "(" = false := by rw [hdot]; rfl
  have hwhen : dot.token.isKeyword "WHEN" = false := by rw [hdot]; rfl
  have hchoice : Stops r.choice (dot :: ps) := by
    refine .of_error (e := .stuck (dot :: ps)) ?_
    simp [choice, hwhen, any, hexpr]
  have hparenthesized {α : Type} (x : Reader α) : Stops (parenthesized x) (dot :: ps) := by
    refine .of_error (e := .stuck (dot :: ps)) ?_
    rw [parenthesized, bind_apply, symbol_cons_of_not hopen]
  have hpure {dot : Piece} {ps : List Piece} (hdot : dot.token = .symbol ['.']) (e : Expr) :
      Stops (pure e : Reader Expr) (dot :: ps) := .of_ok rfl hdot
  unfold word
  dsimp only
  generalize hk : String.ofList (w.map Char.toUpper) = k
  split
  · exact stops_keyword_bind (hpure hdot _)
  · exact stops_keyword_bind hchoice
  · exact stops_keyword_bind (hparenthesized _)
  · exact stops_keyword_bind (hparenthesized _)
  · exact stops_keyword_bind ((hparenthesized _).bind fun q _ _ hdot => hpure hdot _)
  · exact stops_keyword_bind (hpure hdot _)
  · exact stops_keyword_bind (hpure hdot _)
  · exact stops_keyword_bind (hpure hdot _)
  · next hnull hcase hcast hraise hexists hdate htime hstamp =>
    have hreserved : p.token.isAmong reserved = true := by
      rw [Token.isAmong_append, Bool.or_eq_true] at h
      refine h.resolve_right fun hoperand => ?_
      have hmem : k ∈ operandWords := hk ▸ Token.isAmong_word.mp (hword ▸ hoperand)
      simp only [operandWords, List.mem_cons, List.not_mem_nil, or_false] at hmem
      rcases hmem with rfl | rfl | rfl | rfl | rfl
      · exact hcast rfl
      · exact hdate rfl
      · exact htime rfl
      · exact hstamp rfl
      · exact hraise rfl
    refine .of_error (e := .stuck (p :: dot :: ps)) ?_
    rw [bind_apply, name_cons_of_none (Token.IsKept.looseNameOf?_eq (.inr ⟨w, hword, hreserved⟩))]

/-- Where a column begins with a word that is kept, no more than the table is read. -/
theorem stops_signed {qs : List Piece} (hp : p.token.IsKept (reserved ++ operandWords))
    (hqs : p.token ≠ .wrong → qs = dot :: ps) : Stops r.signed (p :: qs) := by
  rcases hp with hwrong | ⟨w, hword, hamong⟩
  · refine .of_error (e := .stuck (p :: qs)) ?_
    simp [signed, operand, hwrong, Token.isSymbol, Token.isKeyword]
  · obtain rfl := hqs (by simp [hword])
    have hsymbol (s : String) : p.token.isSymbol s = false := by simp [hword, Token.isSymbol]
    have hoperand : r.operand (p :: dot :: ps) = r.word w (p :: dot :: ps) := by
      simp only [operand, hword]
    by_cases hnot : p.token.isKeyword "NOT" = true
    · refine .of_error (e := .stuck (dot :: ps)) ?_
      simp [signed, hsymbol, hnot, hexpr]
    · have hsigned : r.signed (p :: dot :: ps) = r.word w (p :: dot :: ps) := by
        simp [signed, hsymbol, hnot, hoperand]
      intro a rest ha
      rw [hsigned] at ha
      exact stops_word hexpr hdot hword hamong a rest ha

end Kept

/-- Where a column is a word that is kept, nothing is read. -/
theorem stops_signed_of_column {q : Piece} {t : Text}
    (hp : p.token.IsName (reserved ++ operandWords) t) (hdot : dot.token = .symbol ['.'])
    (hq : q.token.IsKept reserved) (ps : List Piece) : Stops r.signed (p :: dot :: q :: ps) := by
  have hopen : dot.token.isSymbol "(" = false := by rw [hdot]; rfl
  have hsymbol : dot.token.isSymbol "." = true := by rw [hdot]; rfl
  obtain ⟨quoted, heq⟩ := r.signed_eq_dotted hp hopen (q :: ps)
  refine .of_error (e := .stuck (q :: ps)) ?_
  rw [heq]
  simp [dotted, hsymbol, name_cons_of_none hq.looseNameOf?_eq]

/-- An expression stops if its first operand does. -/
theorem stops_expression {qs : List Piece} (h : Stops r.signed qs) (level : Nat) :
    Stops (r.expression level) qs := by
  refine h.bind fun e dot ps hdot => ?_
  exact .of_ok (continuedAll_of_isEnd r (.inr hdot) level _ e ps) hdot

/-- An expression stops if the operand behind its equals sign does. -/
theorem stops_expression_of_right {a : Expr} {equals : Piece} {qs us : List Piece}
    (ha : r.signed us = .ok (a, equals :: qs)) (hequals : equals.token = .symbol ['='])
    (hb : Stops (r.expr 5) qs) : Stops (r.expression 0) us := by
  have hoperator : operator? equals.token = some (4, .compare .equal) := by
    rw [hequals]
    decide
  have hcontinued : Stops (r.continued? 0 a) (equals :: qs) := by
    have hstops : Stops (do let b ← r.expr 5; return some (joinedBy (.compare .equal) a b)) qs :=
      hb.bind fun b dot ps hdot => .of_ok rfl hdot
    intro b rest h
    simp only [continued?, hoperator, Nat.zero_le, if_true] at h
    exact hstops b rest h
  refine stops_bind_of_ok ha ?_
  refine hcontinued.bind fun b dot ps hdot => ?_
  cases b with
  | none => exact .of_ok rfl hdot
  | some b => exact .of_ok (continuedAll_of_isEnd r (.inr hdot) 0 _ b ps) hdot

/-! ## Sources -/

section Sources

variable {q next : Piece} {n : Text}

/-- A name in front of a join, its condition or the end is a source. -/
theorem source_of_isName (hp : p.token.IsName reserved n)
    (hnext : next.token ∈ [.symbol [';'], .word "JOIN".toList, .word "ON".toList])
    (ps : List Piece) :
    r.source (p :: next :: ps) = .ok ((.table none n, none), next :: ps) := by
  have hfacts : next.token.isSymbol "." = false ∧ next.token.isSymbol "(" = false ∧
      next.token.isKeyword "AS" = false ∧ next.token.isKeyword "INDEXED" = false ∧
      next.token.isKeyword "NOT" = false ∧
      (looseNameOf? (reserved ++ joining ++ ["INDEXED"]) next.token).isSome = false := by
    simp only [List.mem_cons, List.not_mem_nil, or_false] at hnext
    rcases hnext with h | h | h <;> rw [h] <;> decide
  obtain ⟨hdot, hopen, has, hindexed, hnot, hbare⟩ := hfacts
  have hnone : seesBareName (next :: ps) = .ok (false, next :: ps) := by
    rw [seesBareName_cons, hbare]
  simp [source, called, indexChoice, qualifiedName, hp.isSymbol_eq, name_cons hp, hdot, hopen, has,
    hindexed, hnot, hnone]

/-- A word that is kept is no source. -/
theorem source_of_isKept (hp : p.token.IsKept reserved) (ps : List Piece) :
    r.source (p :: ps) = .error (.stuck (p :: ps)) := by
  simp [source, qualifiedName, hp.isSymbol_eq, name_cons_of_none hp.looseNameOf?_eq]

/-- Nothing ties a source to those before it unless a word announces it. -/
theorem tie_of_not_isKeyword (hon : next.token.isKeyword "ON" = false)
    (husing : next.token.isKeyword "USING" = false) (ps : List Piece) :
    r.tie (next :: ps) = .ok ((none, []), next :: ps) := by
  simp [tie, hon, husing]

theorem joinBefore_of_join (hq : q.token = .word "JOIN".toList) (ps : List Piece) :
    joinBefore (q :: ps) = .ok (some {}, ps) := by
  have hkeyword : q.token.isKeyword "JOIN" = true := by rw [hq]; decide
  have hcomma : q.token.isSymbol "," = false := by rw [hq]; decide
  simp [joinBefore, hkeyword, hcomma]

/-- The first source, with what follows it. -/
theorem moreSources_first (hp : p.token.IsName reserved n)
    (hnext : next.token = .symbol [';'] ∨ next.token = .word "JOIN".toList) {fuel : Nat}
    {more : List Joined} {rest : List Piece}
    (hmore : r.moreSources false fuel (next :: ps) = .ok (more, rest)) :
    r.moreSources true (fuel + 1) (p :: next :: ps) =
      .ok (.joined {} (.table none n) none none [] :: more, rest) := by
  have hsource : r.source (p :: next :: ps) = .ok ((.table none n, none), next :: ps) := by
    refine source_of_isName r hp ?_ ps
    rcases hnext with h | h <;> simp [h]
  have htie : r.tie (next :: ps) = .ok ((none, []), next :: ps) := by
    refine tie_of_not_isKeyword r ?_ ?_ ps <;> rcases hnext with h | h <;> rw [h] <;> decide
  rw [moreSources]
  simp only [if_true, bind_apply, pure_apply, hsource, htie]
  rw [if_neg (by decide), bind_apply, hmore]
  rfl

/-- No source follows in front of an end. -/
theorem moreSources_of_isEnd (hp : p.token.IsEnd) (fuel : Nat) (ps : List Piece) :
    r.moreSources false (fuel + 1) (p :: ps) = .ok ([], p :: ps) := by
  simp [moreSources, joinBefore_of_isEnd hp]

/-- A joined source, with its condition. -/
theorem moreSources_join {on : Piece} {fuel : Nat} {e : Expr} {qs : List Piece}
    (hq : q.token = .word "JOIN".toList) (hp : p.token.IsName reserved n)
    (hon : on.token = .word "ON".toList) (he : r.any qs = .ok (e, next :: ps))
    (hnext : next.token.IsEnd) :
    r.moreSources false (fuel + 2) (q :: p :: on :: qs) =
      .ok ([.joined {} (.table none n) none (some e) []], next :: ps) := by
  have hsource : r.source (p :: on :: qs) = .ok ((.table none n, none), on :: qs) :=
    source_of_isName r hp (by simp [hon]) qs
  have hkeyword : on.token.isKeyword "ON" = true := by rw [hon]; decide
  have htie : r.tie (on :: qs) = .ok ((some e, []), next :: ps) := by
    simp [tie, hkeyword, he]
  rw [moreSources]
  simp [joinBefore_of_join hq, hsource, htie, moreSources_of_isEnd r hnext]

/-- No source follows in front of a dot. -/
theorem stops_moreSources_of_dot (hdot : dot.token = .symbol ['.']) (fuel : Nat)
    (ps : List Piece) : Stops (r.moreSources false fuel) (dot :: ps) := by
  cases fuel with
  | zero => exact .of_error rfl
  | succ fuel => exact .of_ok (moreSources_of_isEnd r (.inr hdot) fuel ps) hdot

/-- Sources stop if those behind the first one do. -/
theorem stops_moreSources_first (hp : p.token.IsName reserved n)
    (hnext : next.token = .word "JOIN".toList) {fuel : Nat}
    (hmore : Stops (r.moreSources false fuel) (next :: ps)) :
    Stops (r.moreSources true (fuel + 1)) (p :: next :: ps) := by
  have hsource : r.source (p :: next :: ps) = .ok ((.table none n, none), next :: ps) :=
    source_of_isName r hp (by simp [hnext]) ps
  have htie : r.tie (next :: ps) = .ok ((none, []), next :: ps) :=
    tie_of_not_isKeyword r (by rw [hnext]; decide) (by rw [hnext]; decide) ps
  rw [moreSources]
  refine stops_bind_of_ok rfl (stops_bind_of_ok hsource (stops_bind_of_ok htie ?_))
  exact hmore.bind fun more dot qs hdot => .of_ok rfl hdot

/-- Sources stop at a word that is kept. -/
theorem stops_moreSources_of_isKept (hp : p.token.IsKept reserved) (fuel : Nat)
    (ps : List Piece) : Stops (r.moreSources true fuel) (p :: ps) := by
  cases fuel with
  | zero => exact .of_error rfl
  | succ fuel =>
    exact stops_bind_of_ok rfl (stops_bind_of_error (source_of_isKept r hp ps))

theorem stops_moreSources_join_of_isKept (hq : q.token = .word "JOIN".toList)
    (hp : p.token.IsKept reserved) (fuel : Nat) (ps : List Piece) :
    Stops (r.moreSources false fuel) (q :: p :: ps) := by
  cases fuel with
  | zero => exact .of_error rfl
  | succ fuel =>
    refine stops_bind_of_ok (joinBefore_of_join hq _) ?_
    exact stops_bind_of_error (source_of_isKept r hp ps)

/-- Sources stop at the condition of a join. -/
theorem stops_moreSources_join {on : Piece} (hq : q.token = .word "JOIN".toList)
    (hp : p.token.IsName reserved n) (hon : on.token = .word "ON".toList) {qs : List Piece}
    (he : Stops r.any qs) (fuel : Nat) :
    Stops (r.moreSources false fuel) (q :: p :: on :: qs) := by
  cases fuel with
  | zero => exact .of_error rfl
  | succ fuel =>
    have hkeyword : on.token.isKeyword "ON" = true := by rw [hon]; decide
    have haccepts : acceptsKeyword "ON" (on :: qs) = .ok (true, qs) := by simp [hkeyword]
    have htie : Stops r.tie (on :: qs) :=
      stops_bind_of_ok haccepts (he.bind fun e dot ps hdot => .of_ok rfl hdot)
    refine stops_bind_of_ok (joinBefore_of_join hq _) ?_
    refine stops_bind_of_ok (source_of_isName r hp (by simp [hon]) qs) ?_
    refine htie.bind fun tied dot ps hdot => ?_
    exact (stops_moreSources_of_dot r hdot fuel ps).bind fun more dot ps hdot => .of_ok rfl hdot

end Sources

/-! ## Items -/

section Items

variable {star next : Piece} {t : Text} {qs : List Piece}

/-- All columns of a table. -/
theorem item_of_isName (hp : p.token.IsName (reserved ++ operandWords) t)
    (hdot : dot.token = .symbol ['.']) (hstar : star.token = .symbol ['*']) (ps : List Piece) :
    r.item (p :: dot :: star :: ps) = .ok (.allOf t, ps) := by
  have hdot : dot.token.isSymbol "." = true := by rw [hdot]; rfl
  have hstar : star.token.isSymbol "*" = true := by rw [hstar]; rfl
  simp [item, hp.isSymbol_eq, hp.left.looseNameOf?_eq, hp.right.isAmong_eq, hdot, hstar,
    name_cons hp.left, symbol_cons hdot, symbol_cons hstar]

/-- A star takes all columns. -/
theorem item_of_star (hstar : star.token = .symbol ['*']) (ps : List Piece) :
    r.item (star :: ps) = .ok (.all, ps) := by
  have hstar : star.token.isSymbol "*" = true := by rw [hstar]; rfl
  simp [item, hstar]

/-- An expression, with what it is called. -/
theorem item_of_any {q : Piece} {e : Expr} {label : Option Text} {taken us : List Piece}
    (hp : p.token.isSymbol "*" = false) (hq : q.token.isSymbol "." = false)
    (hpieces : p :: q :: ps = taken ++ us) (hany : r.any (p :: q :: ps) = .ok (e, us))
    (hcalled : called us = .ok (label, qs)) :
    r.item (p :: q :: ps) = .ok (.expr e label (Piece.span taken), qs) := by
  have hspanned : spanned r.any (p :: q :: ps) = .ok ((e, taken), us) := by
    rw [spanned, hany, hpieces]
    simp
  simp [item, hp, hq, hspanned, hcalled]

/-- Where a kept word stands for a table, an expression is read. -/
theorem stops_item (hp : p.token.IsKept (reserved ++ operandWords)) (hany : Stops r.any (p :: qs)) :
    Stops r.item (p :: qs) := by
  have htable :
      ((looseNameOf? reserved p.token).isSome && !p.token.isAmong operandWords) = false := by
    rcases hp with h | ⟨w, h, hamong⟩
    · simp [h, looseNameOf?, nameOf?]
    · rw [Token.isAmong_append, Bool.or_eq_true] at hamong
      rcases hamong with hamong | hamong
      · simp [Token.IsKept.looseNameOf?_eq (.inr ⟨w, h, hamong⟩)]
      · simp [hamong]
  have hstar : acceptsSymbol "*" (p :: qs) = .ok (false, p :: qs) := by
    simp [hp.isSymbol_eq]
  refine stops_bind_of_ok hstar ?_
  refine stops_bind_of_ok (seesName_cons p qs) ?_
  refine stops_bind_of_ok (sees_cons _ p qs) ?_
  refine stops_bind_of_ok (seesAt_apply 1 _ _) (stops_bind_of_ok (seesAt_apply 2 _ _) ?_)
  simp only [htable, Bool.false_and, Bool.false_eq_true, if_false]
  refine hany.spanned.bind fun taken dot ps hdot => ?_
  refine stops_bind_of_ok (called_of_isEnd (.inr hdot) ps) ?_
  exact .of_ok rfl hdot

/-- No item starts with a dot. -/
theorem item_of_dot (hdot : dot.token = .symbol ['.'])
    (hany : r.any (dot :: ps) = .error (.stuck (dot :: ps))) :
    r.item (dot :: ps) = .error (.stuck (dot :: ps)) := by
  have hend : dot.token.IsEnd := .inr hdot
  simp [item, hend.isSymbol_eq, hend.looseNameOf?_eq, spanned, hany]

end Items

/-! ## Selections -/

section Selection

variable {next : Piece} {qs : List Piece}

/-- A selection in front of an end has no clauses. -/
theorem clauses_of_isEnd (hp : p.token.IsEnd) (distinct : Bool) (items : List Item)
    (ps : List Piece) :
    r.clauses distinct items (p :: ps) =
      .ok (⟨.select distinct items [] none [] none, [], none, none⟩, p :: ps) := by
  simp [clauses, after_of_isEnd hp, phrase_of_isEnd hp, windows_of_isEnd hp, orderBy_of_isEnd r hp,
    limit_of_isEnd r hp]

/-- A selection of sources, with nothing behind them. -/
theorem clauses_of_from {ss : List Joined} (hfrom : p.token = .word "FROM".toList)
    (hsources : r.sources ps = .ok (ss, next :: qs)) (hnext : next.token.IsEnd) (distinct : Bool)
    (items : List Item) :
    r.clauses distinct items (p :: ps) =
      .ok (⟨.select distinct items ss none [] none, [], none, none⟩, next :: qs) := by
  have hkeyword : p.token.isKeyword "FROM" = true := by rw [hfrom]; decide
  have hafter : Reader.after "FROM" r.sources (p :: ps) = .ok (some ss, next :: qs) := by
    simp [Reader.after, hkeyword, hsources]
  simp [clauses, hafter, after_of_isEnd hnext, phrase_of_isEnd hnext, windows_of_isEnd hnext,
    orderBy_of_isEnd r hnext, limit_of_isEnd r hnext]

theorem stops_clauses_of_dot (hdot : dot.token = .symbol ['.']) (distinct : Bool)
    (items : List Item) (ps : List Piece) : Stops (r.clauses distinct items) (dot :: ps) :=
  .of_ok (clauses_of_isEnd r (.inr hdot) distinct items ps) hdot

/-- Clauses stop at their sources. -/
theorem stops_clauses_of_from (hfrom : p.token = .word "FROM".toList)
    (hsources : Stops r.sources ps) (distinct : Bool) (items : List Item) :
    Stops (r.clauses distinct items) (p :: ps) := by
  have hkeyword : p.token.isKeyword "FROM" = true := by rw [hfrom]; decide
  have haccepts : acceptsKeyword "FROM" (p :: ps) = .ok (true, ps) := by simp [hkeyword]
  have hafter : Stops (Reader.after "FROM" r.sources) (p :: ps) :=
    stops_bind_of_ok haccepts (hsources.bind fun ss dot qs hdot => .of_ok rfl hdot)
  refine hafter.bind fun ss dot qs hdot => ?_
  have hend : dot.token.IsEnd := .inr hdot
  refine stops_bind_of_ok (after_of_isEnd hend _ _ _) ?_
  refine stops_bind_of_ok (phrase_of_isEnd hend _ _ _) ?_
  refine stops_bind_of_ok rfl (stops_bind_of_ok (after_of_isEnd hend _ _ _) ?_)
  refine stops_bind_of_ok (windows_of_isEnd hend _) ?_
  refine stops_bind_of_ok (orderBy_of_isEnd r hend _) ?_
  refine stops_bind_of_ok (limit_of_isEnd r hend _) ?_
  exact .of_ok rfl hdot

/-- A selection is its items and its clauses. -/
theorem part_of_select {q : Piece} {items : List Item} {part : Part}
    (hp : p.token = .word "SELECT".toList) (hdistinct : q.token.isKeyword "DISTINCT" = false)
    (hall : q.token.isKeyword "ALL" = false) (hitems : list r.item (q :: ps) = .ok (items, qs))
    {us : List Piece} (hpart : r.clauses false items qs = .ok (part, us)) :
    r.part (p :: q :: ps) = .ok (part, us) := by
  have hvalues : p.token.isKeyword "VALUES" = false := by rw [hp]; decide
  have hselect : keyword "SELECT" (p :: q :: ps) = .ok ((), q :: ps) :=
    keyword_cons (by rw [hp]; decide) _
  simp [Rules.part, hvalues, hselect, hdistinct, hall, hitems, hpart]

/-- A selection stops at its clauses. -/
theorem stops_part_of_clauses {q : Piece} {items : List Item} (hp : p.token = .word "SELECT".toList)
    (hdistinct : q.token.isKeyword "DISTINCT" = false) (hall : q.token.isKeyword "ALL" = false)
    (hitems : list r.item (q :: ps) = .ok (items, qs))
    (hclauses : Stops (r.clauses false items) qs) : Stops r.part (p :: q :: ps) := by
  have hvalues : acceptsKeyword "VALUES" (p :: q :: ps) = .ok (false, p :: q :: ps) := by
    rw [acceptsKeyword_cons, hp]
    rfl
  have haccepts {k : String} (hk : q.token.isKeyword k = false) :
      acceptsKeyword k (q :: ps) = .ok (false, q :: ps) := by
    simp [hk]
  refine stops_bind_of_ok hvalues (stops_keyword_bind ?_)
  refine stops_bind_of_ok (haccepts hdistinct) (stops_bind_of_ok (haccepts hall) ?_)
  exact stops_bind_of_ok hitems hclauses

/-- A selection stops at its items, also where the first of them is a word in front of items. -/
theorem stops_part_of_items {q : Piece} (hp : p.token = .word "SELECT".toList)
    (hitems : Stops (list r.item) (q :: ps))
    (hword : q.token.isKeyword "DISTINCT" = true ∨ q.token.isKeyword "ALL" = true →
      Stops (list r.item) ps) :
    Stops r.part (p :: q :: ps) := by
  have hvalues : acceptsKeyword "VALUES" (p :: q :: ps) = .ok (false, p :: q :: ps) := by
    rw [acceptsKeyword_cons, hp]
    rfl
  have hrest (distinct : Bool) {us : List Piece} (h : Stops (list r.item) us) :
      Stops (do let items ← list r.item; r.clauses distinct items) us :=
    h.bind fun items dot qs hdot => stops_clauses_of_dot r hdot distinct items qs
  refine stops_bind_of_ok hvalues (stops_keyword_bind ?_)
  refine stops_bind_of_ok (acceptsKeyword_cons "DISTINCT" q ps) ?_
  cases hdistinct : q.token.isKeyword "DISTINCT" with
  | true => exact hrest true (hword (.inl hdistinct))
  | false =>
    refine stops_bind_of_ok (acceptsKeyword_cons "ALL" q ps) ?_
    cases hall : q.token.isKeyword "ALL" with
    | true => exact hrest false (hword (.inr hall))
    | false => exact hrest false hitems

end Selection

/-! ## Statements -/

section Statement

variable {next : Piece} {part : Part} {qs : List Piece}

/-- No other query follows in front of an end. -/
theorem moreParts_of_isEnd (hp : p.token.IsEnd) (fuel : Nat) (ps : List Piece) :
    r.moreParts (fuel + 1) (p :: ps) = .ok ([], p :: ps) := by
  simp [moreParts, combination_of_isEnd hp]

/-- A query in front of an end stands alone. -/
theorem combined_of_part (hpart : r.part ps = .ok (part, next :: qs)) (hnext : next.token.IsEnd) :
    r.combined [] ps =
      .ok (.query [] part.core [] part.order part.limit part.offset, next :: qs) := by
  simp [combined, hpart, moreParts_of_isEnd r hnext, misplaced?]

theorem stops_combined (hpart : Stops r.part ps) : Stops (r.combined []) ps := by
  refine hpart.bind fun part dot qs hdot => ?_
  refine stops_bind_of_ok (moreParts_of_isEnd r (.inr hdot) (qs.length + 1) qs) ?_
  exact .of_ok rfl hdot

/-- A statement that starts with `SELECT` is a query with no others in front of it. -/
theorem statement_of_select (free : Naming) (hp : p.token = .word "SELECT".toList)
    (ps : List Piece) :
    statement free r (p :: ps) =
      (r.combined [] (p :: ps)).map fun (q, rest) => (Database.Statement.query q, rest) := by
  have hfacts : p.token.isKeyword "CREATE" = false ∧ p.token.isKeyword "DROP" = false ∧
      p.token.isKeyword "PRAGMA" = false ∧ p.token.isKeyword "WITH" = false ∧
      p.token.isAmong transactionWords = false ∧ p.token.isAmong ["VACUUM", "REINDEX"] = false ∧
      p.token.isAmong ["INSERT", "REPLACE", "DELETE", "UPDATE"] = false := by
    rw [hp]
    decide
  obtain ⟨hcreate, hdrop, hpragma, hwith, htransaction, hrest, hchange⟩ := hfacts
  simp only [statement, rowStatement, commons, bind_apply, acceptsKeyword_cons, accepts_cons,
    sees_cons, hcreate, hdrop, hpragma, hwith, htransaction, hrest, hchange, Bool.false_eq_true,
    if_false, pure_apply]
  cases r.combined [] (p :: ps) <;> rfl

/-- A statement with a semicolon behind it. -/
theorem wholeStatement_of_statement {free : Naming} {s : Database.Statement}
    (hs : statement free (rules (ps.length + 1)) ps = .ok (s, next :: qs))
    (hnext : next.token = .symbol [';']) : wholeStatement free ps = .ok (s, qs) := by
  have hsymbol : next.token.isSymbol ";" = true := by rw [hnext]; rfl
  simp [wholeStatement, ruled, hs, hsymbol]

/-- A statement does not end at a dot. -/
theorem wholeStatement_ne_ok_of_stops {free : Naming}
    (h : Stops (statement free (rules (ps.length + 1))) ps) (x : Database.Statement × List Piece) :
    wholeStatement free ps ≠ .ok x := by
  intro hx
  rw [wholeStatement, bind_apply] at hx
  unfold ruled at hx
  cases hs : statement free (rules (ps.length + 1)) ps with
  | error e => simp [hs] at hx
  | ok r =>
    obtain ⟨s, rest⟩ := r
    obtain ⟨dot, qs, rfl, hdot⟩ := h s rest hs
    have hsymbol : dot.token.isSymbol ";" = false := by rw [hdot]; rfl
    simp [hs, hsymbol] at hx

/-- A statement stops if its selection does. -/
theorem stops_statement (free : Naming) (hp : p.token = .word "SELECT".toList)
    (hpart : Stops r.part (p :: ps)) : Stops (statement free r) (p :: ps) := by
  intro s rest hs
  rw [statement_of_select r free hp] at hs
  cases hq : r.combined [] (p :: ps) with
  | error e => simp [hq, Except.map] at hs
  | ok x =>
    obtain ⟨q, us⟩ := x
    rw [hq] at hs
    obtain ⟨-, rfl⟩ := Prod.mk.inj (Except.ok.inj hs)
    exact stops_combined r hpart q us hq

end Statement

end Grammar.Rules
end AskSql.Database
