import AskSql.Sql.Reading

/-!
# Orderly readings

What a reading leaves in a row of tokens is what is behind the tokens that it has taken, and
the tokens that it takes hold a semicolon only if they hold one of the words `OPERATOR` and
`TABLE` as well (`Takes`) : after these words the grammar takes tokens unseen. A reading is
`Orderly` if it does so wherever it starts.

The steps of an orderly reading are orderly, and so is what is put together from orderly
readings. `Orderly` is a class, whose instances follow the way in which readings are put
together : one instance for each reading, found from those of its parts. What looks at tokens
before it takes them is treated at the row where it starts (`OrderlyAt`).
-/

namespace AskSql.Sql

/-! ## Rows of tokens -/

/-- The words behind which tokens are taken whatever they are. -/
def Token.isBlind (t : Token) : Prop :=
  t.isKeyword "OPERATOR" = true ∨ t.isKeyword "TABLE" = true

/-- `rest` is what is left of a row when some tokens have been taken off its front, with no
semicolon among them unless one of the words `OPERATOR` and `TABLE` is. -/
def Takes (ts rest : List Token) : Prop :=
  ∃ taken, ts = taken ++ rest ∧ (Token.semicolon ∈ taken → ∃ t ∈ taken, t.isBlind)

namespace Takes

variable {t : Token} {ts us vs : List Token}

/-- Nothing is taken. -/
theorem refl (ts : List Token) : Takes ts ts :=
  ⟨[], rfl, by simp⟩

/-- What is taken in two goes is taken together : what stands in front of a semicolon stays in front
of it. -/
theorem trans (h : Takes ts us) (h' : Takes us vs) : Takes ts vs := by
  obtain ⟨first, rfl, hfirst⟩ := h
  obtain ⟨second, rfl, hsecond⟩ := h'
  refine ⟨first ++ second, by simp, fun hmem => ?_⟩
  rcases List.mem_append.mp hmem with hmem | hmem
  · obtain ⟨t, ht, hblind⟩ := hfirst hmem
    exact ⟨t, List.mem_append_left _ ht, hblind⟩
  · obtain ⟨t, ht, hblind⟩ := hsecond hmem
    exact ⟨t, List.mem_append_right _ ht, hblind⟩

/-- One more token is taken in front, which is no semicolon. -/
theorem cons (ht : t ≠ .semicolon) (h : Takes ts us) : Takes (t :: ts) us := by
  obtain ⟨taken, rfl, htaken⟩ := h
  refine ⟨t :: taken, rfl, fun hmem => ?_⟩
  rcases List.mem_cons.mp hmem with rfl | hmem
  · exact absurd rfl ht
  · obtain ⟨u, hu, hblind⟩ := htaken hmem
    exact ⟨u, List.mem_cons_of_mem _ hu, hblind⟩

/-- A token that is no semicolon may be taken alone. -/
theorem tail (ht : t ≠ .semicolon) : Takes (t :: ts) ts :=
  (refl ts).cons ht

/-- Behind a word after which tokens are taken unseen, anything may be taken. -/
theorem of_isBlind (ht : t.isBlind) (h : us <:+ ts) : Takes (t :: ts) us := by
  obtain ⟨taken, rfl⟩ := h
  exact ⟨t :: taken, rfl, fun _ => ⟨t, List.mem_cons_self, ht⟩⟩

/-- What is left is the end of the row. -/
theorem isSuffix (h : Takes ts us) : us <:+ ts := by
  obtain ⟨taken, rfl, -⟩ := h
  exact List.suffix_append taken us

end Takes

/-- A token that is told by a keyword is a word. -/
theorem Token.ne_semicolon_of_isKeyword {t : Token} {k : String} (h : t.isKeyword k = true) :
    t ≠ .semicolon := by
  rintro rfl
  simp [isKeyword, keyword?, semicolon] at h

theorem Token.word_ne_semicolon (value : Text) (quote : Option Char) :
    word value quote ≠ .semicolon := by
  simp [semicolon]

theorem Token.literal_ne_semicolon (kind : LiteralKind) (value : Text) :
    literal kind value ≠ .semicolon := by
  simp [semicolon]

/-! ## Orderly readings -/

namespace Reading

variable {α β : Type}

/-- What the reading leaves of the row `ts` is behind the tokens that it takes. -/
def OrderlyAt (p : Reading α) (ts : List Token) : Prop :=
  ∀ a rest, p ts = .ok (a, rest) → Takes ts rest

/-- A reading that takes its tokens off the front of any row. -/
class Orderly (p : Reading α) : Prop where
  at_row : ∀ ts, p.OrderlyAt ts

/-- A reading after another succeeds where the first one has, on what that has left. -/
theorem bind_eq_ok {p : Reading α} {f : α → Reading β} {ts rest : List Token} {b : β} :
    (p >>= f) ts = .ok (b, rest) ↔ ∃ a us, p ts = .ok (a, us) ∧ f a us = .ok (b, rest) := by
  have hbind : (p >>= f) ts = (p ts).bind fun x => f x.1 x.2 := rfl
  rw [hbind]
  cases p ts with
  | error e => simp [Except.bind]
  | ok x =>
    obtain ⟨a, us⟩ := x
    simp only [Except.bind, Except.ok.injEq, Prod.mk.injEq]
    exact ⟨fun h => ⟨a, us, ⟨rfl, rfl⟩, h⟩, fun ⟨_, _, ⟨ha, hus⟩, h⟩ => ha ▸ hus ▸ h⟩

/-- A value is given and nothing is taken. -/
theorem pure_eq_ok {a b : α} {ts rest : List Token} :
    (pure a : Reading α) ts = .ok (b, rest) ↔ a = b ∧ ts = rest := by
  change Except.ok (a, ts) = .ok (b, rest) ↔ _
  simp

namespace OrderlyAt

variable {p : Reading α} {f : α → Reading β} {t : Token} {ts us : List Token}

/-- The second reading starts at the row that the first one leaves. -/
theorem bind (hp : p.OrderlyAt ts) (hf : ∀ a us, p ts = .ok (a, us) → (f a).OrderlyAt us) :
    (p >>= f).OrderlyAt ts := by
  intro b rest h
  obtain ⟨a, us, ha, hb⟩ := bind_eq_ok.mp h
  exact (hp a us ha).trans (hf a us ha b rest hb)

/-- A reading may look at the whole row before it starts. -/
theorem get_bind {f : List Token → Reading β} (h : (f ts).OrderlyAt ts) :
    (get >>= f).OrderlyAt ts :=
  h

/-- A reading may look at the next token before it starts. -/
theorem peek_bind {f : Option Token → Reading β} (h : (f ts.head?).OrderlyAt ts) :
    (peek >>= f).OrderlyAt ts :=
  h

/-- A row may be put in the place of another if it is what the other leaves. -/
theorem set_bind {f : PUnit → Reading β} (hus : Takes ts us) (h : (f ⟨⟩).OrderlyAt us) :
    (set us >>= f).OrderlyAt ts :=
  fun b rest hb => hus.trans (h b rest hb)

theorem set (hus : Takes ts us) : (set us : Reading PUnit).OrderlyAt ts := by
  intro a rest h
  obtain ⟨-, rfl⟩ := Prod.mk.inj (Except.ok.inj h)
  exact hus

/-- The next token is skipped after it was seen to be no semicolon. -/
theorem skip_bind {f : Unit → Reading β} (ht : t ≠ .semicolon) (h : (f ()).OrderlyAt ts) :
    (skip >>= f).OrderlyAt (t :: ts) :=
  fun b rest hb => (h b rest hb).cons ht

end OrderlyAt

/-! ## Putting readings together -/

namespace Orderly

/-- Two readings in sequence. -/
theorem bind {p : Reading α} {f : α → Reading β} [Orderly p] (h : ∀ a, Orderly (f a)) :
    Orderly (p >>= f) where
  at_row ts := (at_row ts).bind fun a us _ => (h a).at_row us

/-- A branch is orderly if both its ways are. -/
theorem ite {c : Prop} [Decidable c] {p q : Reading α} (hp : Orderly p) (hq : Orderly q) :
    Orderly (if c then p else q) := by
  split
  · exact hp
  · exact hq

/-- A reading that looks at the next token. -/
theorem peek_bind {f : Option Token → Reading β} (hnone : (f none).OrderlyAt [])
    (hsome : ∀ t ts, (f (some t)).OrderlyAt (t :: ts)) : Orderly (peek >>= f) where
  at_row
    | [] => .peek_bind hnone
    | t :: ts => .peek_bind (hsome t ts)

/-- A reading that takes the next token, which is no semicolon if it succeeds. -/
theorem next_bind {f : Token → Reading β} (h : ∀ t, t ≠ .semicolon → Orderly (f t))
    (hsemicolon : f .semicolon = unexpected) : Orderly (next >>= f) where
  at_row
    | [] => fun b rest hb => by cases hb
    | t :: ts => fun b rest hb => by
      have hb : f t ts = .ok (b, rest) := hb
      by_cases ht : t = .semicolon
      · rw [ht, hsemicolon] at hb
        cases hb
      · exact ((h t ht).at_row ts b rest hb).cons ht

end Orderly

/-- Readings in sequence are orderly if each of them is, whatever the first one gives. -/
instance orderly_bind (p : Reading α) (f : α → Reading β) [Orderly p] [∀ a, Orderly (f a)] :
    Orderly (p >>= f) :=
  .bind fun _ => inferInstance

instance orderly_ite (c : Prop) [Decidable c] (p q : Reading α) [Orderly p] [Orderly q] :
    Orderly (if c then p else q) :=
  .ite inferInstance inferInstance

/-- A value that is given takes nothing. -/
instance orderly_pure (a : α) : Orderly (pure a : Reading α) where
  at_row ts b rest h := by
    obtain ⟨-, rfl⟩ := pure_eq_ok.mp h
    exact Takes.refl ts

/-- A reading that fails leaves no row. -/
instance orderly_throw (e : Trouble) : Orderly (throw e : Reading α) where
  at_row ts b rest h := by cases h

instance orderly_unexpected : Orderly (unexpected : Reading α) :=
  inferInstanceAs (Orderly (throw _))

/-- A reading may give the row itself and take nothing. -/
instance orderly_get : Orderly (get : Reading (List Token)) where
  at_row ts a rest h := by
    obtain ⟨-, rfl⟩ := Prod.mk.inj (Except.ok.inj h)
    exact Takes.refl ts

/-! ## Looking ahead -/

/-- The next token is given and not taken. -/
instance orderly_peek : Orderly peek := by
  unfold peek
  infer_instance

/-- Whether a keyword comes next is seen from the row. -/
instance orderly_ahead (k : String) : Orderly (ahead k) := by
  unfold ahead
  refine ⟨fun ts => .get_bind ?_⟩
  split <;> exact Orderly.at_row _

/-- See `orderly_ahead`. -/
instance orderly_aheadOneOf (ks : List String) : Orderly (aheadOneOf ks) := by
  unfold aheadOneOf
  refine ⟨fun ts => .get_bind ?_⟩
  split <;> exact Orderly.at_row _

/-- See `orderly_ahead`. -/
instance orderly_symbolAhead (s : String) : Orderly (symbolAhead s) := by
  unfold symbolAhead
  refine ⟨fun ts => .get_bind ?_⟩
  split <;> exact Orderly.at_row _

/-! ## Keywords and symbols -/

/-- A keyword that is taken is a word. -/
instance orderly_keyword (k : String) : Orderly (keyword k) := by
  unfold keyword
  refine ⟨fun ts => .get_bind ?_⟩
  split
  · next t ts =>
    split
    · next h => exact .set_bind (Takes.tail (Token.ne_semicolon_of_isKeyword h)) (Orderly.at_row ts)
    · exact Orderly.at_row _
  · exact Orderly.at_row _

/-- A keyword that is there is the first token of the row. -/
theorem eq_of_keyword {k : String} {ts us : List Token} (h : keyword k ts = .ok (true, us)) :
    ∃ t, ts = t :: us ∧ t.isKeyword k = true := by
  cases ts with
  | nil => cases h
  | cons t ts =>
    have hkeyword : keyword k (t :: ts) =
        if t.isKeyword k then .ok (true, ts) else .ok (false, t :: ts) := by
      change (if t.isKeyword k then do set ts; return true else return false : Reading Bool)
        (t :: ts) = _
      split <;> rfl
    rw [hkeyword] at h
    split at h
    · next ht =>
      obtain ⟨-, rfl⟩ := Prod.mk.inj (Except.ok.inj h)
      exact ⟨t, rfl, ht⟩
    · cases h

/-- Keywords in sequence are taken together. -/
theorem takes_of_afterKeywords? {ks : List String} {ts us : List Token}
    (h : afterKeywords? ks ts = some us) : Takes ts us := by
  induction ks generalizing ts with
  | nil =>
    obtain rfl := Option.some.inj h
    exact Takes.refl ts
  | cons k ks ih =>
    cases ts with
    | nil => cases h
    | cons t ts =>
      simp only [afterKeywords?, Option.ite_none_right_eq_some] at h
      exact (ih h.2).cons (Token.ne_semicolon_of_isKeyword h.1)

/-- Keywords are taken together or not at all. -/
instance orderly_keywords (ks : List String) : Orderly (keywords ks) := by
  unfold keywords
  refine ⟨fun ts => .get_bind ?_⟩
  split
  · next us h => exact .set_bind (takes_of_afterKeywords? h) (Orderly.at_row us)
  · exact Orderly.at_row _

/-- The keyword that is found is the one that is taken. -/
instance orderly_oneOf? (ks : List String) : Orderly (oneOf? ks) := by
  unfold oneOf?
  refine ⟨fun ts => .get_bind ?_⟩
  split
  · next t ts =>
    split
    · next k h =>
      have ht : t ≠ .semicolon := by
        have hk := List.find?_some h
        exact Token.ne_semicolon_of_isKeyword hk
      exact .set_bind (Takes.tail ht) (Orderly.at_row ts)
    · exact Orderly.at_row _
  · exact Orderly.at_row _

instance orderly_oneOf (ks : List String) : Orderly (oneOf ks) := by
  unfold oneOf
  infer_instance

/-- A symbol that is no semicolon. -/
class IsInner (s : String) : Prop where
  ne_semicolon : s.toList ≠ [';']

/-- An inner symbol is taken as it is. -/
instance orderly_symbol (s : String) [IsInner s] : Orderly (symbol s) := by
  unfold symbol
  refine ⟨fun ts => .get_bind ?_⟩
  split
  · next t ts =>
    split
    · next h =>
      have ht : t ≠ .semicolon := by
        rintro rfl
        have := IsInner.ne_semicolon (s := s)
        simp [Token.isSymbol, Token.semicolon] at h
        exact this h.symm
      exact .set_bind (Takes.tail ht) (Orderly.at_row ts)
    · exact Orderly.at_row _
  · exact Orderly.at_row _

/-! The symbols of the grammar but the semicolon. -/

instance isInner_leftParenthesis : IsInner "(" := ⟨by decide⟩
instance isInner_rightParenthesis : IsInner ")" := ⟨by decide⟩
instance isInner_leftBracket : IsInner "[" := ⟨by decide⟩
instance isInner_rightBracket : IsInner "]" := ⟨by decide⟩
instance isInner_leftBrace : IsInner "\x7b" := ⟨by decide⟩
instance isInner_rightBrace : IsInner "\x7d" := ⟨by decide⟩
instance isInner_less : IsInner "<" := ⟨by decide⟩
instance isInner_greater : IsInner ">" := ⟨by decide⟩
instance isInner_shift : IsInner ">>" := ⟨by decide⟩
instance isInner_comma : IsInner "," := ⟨by decide⟩
instance isInner_dot : IsInner "." := ⟨by decide⟩
instance isInner_colon : IsInner ":" := ⟨by decide⟩
instance isInner_equals : IsInner "=" := ⟨by decide⟩
instance isInner_arrow : IsInner "=>" := ⟨by decide⟩
instance isInner_becomes : IsInner ":=" := ⟨by decide⟩
instance isInner_plus : IsInner "+" := ⟨by decide⟩
instance isInner_minus : IsInner "-" := ⟨by decide⟩
instance isInner_star : IsInner "*" := ⟨by decide⟩

/-- A keyword that has to be there is taken or the reading fails. -/
instance orderly_require (k : String) : Orderly (require k) := by
  unfold require
  infer_instance

instance orderly_requireAll (ks : List String) : Orderly (requireAll ks) := by
  unfold requireAll
  infer_instance

instance orderly_requireOneOf (ks : List String) : Orderly (requireOneOf ks) := by
  unfold requireOneOf
  infer_instance

instance orderly_requireSymbol (s : String) [IsInner s] : Orderly (requireSymbol s) := by
  unfold requireSymbol
  infer_instance

/-- To look for a keyword leaves the row as it is. -/
theorem eq_of_ahead {k : String} {b : Bool} {ts us : List Token}
    (h : ahead k ts = .ok (b, us)) : us = ts := by
  cases ts with
  | nil => exact (Prod.mk.inj (Except.ok.inj h)).2.symm
  | cons t ts => exact (Prod.mk.inj (Except.ok.inj h)).2.symm

/-- See `eq_of_ahead`. -/
theorem eq_of_aheadOneOf {ks : List String} {b : Bool} {ts us : List Token}
    (h : aheadOneOf ks ts = .ok (b, us)) : us = ts := by
  cases ts with
  | nil => exact (Prod.mk.inj (Except.ok.inj h)).2.symm
  | cons t ts => exact (Prod.mk.inj (Except.ok.inj h)).2.symm

/-- A symbol is taken off a row that starts with it. -/
theorem symbol_cons (s : String) (t : Token) (ts : List Token) :
    symbol s (t :: ts) = if t.isSymbol s then .ok (true, ts) else .ok (false, t :: ts) := by
  change (if t.isSymbol s then do set ts; return true else return false : Reading Bool)
    (t :: ts) = _
  split <;> rfl

/-- A symbol that has to be there is the first token of the row. -/
theorem eq_of_requireSymbol {s : String} {u : Unit} {ts us : List Token}
    (h : requireSymbol s ts = .ok (u, us)) : ts = .symbol s.toList :: us := by
  cases ts with
  | nil => cases h
  | cons t ts =>
    obtain ⟨b, vs, hb, h⟩ := bind_eq_ok.mp h
    rw [symbol_cons] at hb
    split at hb
    · next ht =>
      obtain ⟨rfl, rfl⟩ := Prod.mk.inj (Except.ok.inj hb)
      obtain ⟨-, rfl⟩ := pure_eq_ok.mp h
      rw [eq_of_beq ht]
    · obtain ⟨rfl, rfl⟩ := Prod.mk.inj (Except.ok.inj hb)
      cases h

/-! ## Tries and repetitions -/

/-- A reading that is tried and fails leaves the row where it started. -/
instance orderly_attempt (p : Reading α) [Orderly p] : Orderly (attempt p) where
  at_row ts a rest h := by
    unfold attempt at h
    split at h
    · next hp =>
      obtain ⟨-, rfl⟩ := Prod.mk.inj (Except.ok.inj h)
      exact Orderly.at_row ts _ _ hp
    · obtain ⟨-, rfl⟩ := Prod.mk.inj (Except.ok.inj h)
      exact Takes.refl ts
    · cases h

/-- A reading whose failure is looked at leaves the row where it started, as a try does. -/
instance orderly_outcome (p : Reading α) [Orderly p] : Orderly (outcome p) where
  at_row ts a rest h := by
    unfold outcome at h
    split at h
    · next hp =>
      obtain ⟨-, rfl⟩ := Prod.mk.inj (Except.ok.inj h)
      exact Orderly.at_row ts _ _ hp
    · cases h
    · obtain ⟨-, rfl⟩ := Prod.mk.inj (Except.ok.inj h)
      exact Takes.refl ts

/-- Each round starts where the last one has ended : the induction is on the rounds that are
left. -/
instance orderly_repeatUpTo (p : Reading Bool) [Orderly p] (fuel : Nat) :
    Orderly (repeatUpTo p fuel) := by
  induction fuel with
  | zero => exact inferInstanceAs (Orderly (pure ()))
  | succ fuel ih =>
    unfold repeatUpTo
    infer_instance

instance orderly_repeatWhile (p : Reading Bool) [Orderly p] : Orderly (repeatWhile p) := by
  unfold repeatWhile
  infer_instance

/-- One item after the other, with a mark between them : the induction is on the items that are
left. -/
instance orderly_separatedUpTo (mark : Reading Bool) (p : Reading α) [Orderly mark] [Orderly p]
    (fuel : Nat) : Orderly (separatedUpTo mark p fuel) := by
  induction fuel with
  | zero => exact inferInstanceAs (Orderly unexpected)
  | succ fuel ih =>
    unfold separatedUpTo
    infer_instance

instance orderly_separated (mark : Reading Bool) (p : Reading α) [Orderly mark] [Orderly p] :
    Orderly (separated mark p) := by
  unfold separated
  infer_instance

instance orderly_list (p : Reading α) [Orderly p] : Orderly (list p) := by
  unfold list
  infer_instance

/-- A list that may be empty, which its closing symbol tells. -/
instance orderly_listUnless (close : String) (p : Reading α) [Orderly p] :
    Orderly (listUnless close p) := by
  unfold listUnless
  infer_instance

instance orderly_parenthesized (p : Reading α) [Orderly p] : Orderly (parenthesized p) := by
  unfold parenthesized
  infer_instance

/-! ## Names and literals -/

/-- A name is a word or a literal : the semicolon fits neither. -/
instance orderly_name : Orderly name := by
  unfold name
  refine Orderly.next_bind (fun t _ => ?_) rfl
  split <;> infer_instance

instance orderly_dottedName : Orderly dottedName := by
  unfold dottedName
  infer_instance

instance orderly_nameList : Orderly nameList := by
  unfold nameList
  infer_instance

instance orderly_optionalNameList : Orderly optionalNameList := by
  unfold optionalNameList
  infer_instance

/-- A number is no semicolon, for which there is no case. -/
instance orderly_naturalUpTo (bound : Nat) : Orderly (naturalUpTo bound) := by
  unfold naturalUpTo
  refine Orderly.next_bind (fun t _ => ?_) rfl
  split
  · split <;> infer_instance
  · infer_instance

instance orderly_natural : Orderly natural := by
  unfold natural
  infer_instance

/-- The text of a literal, see `orderly_name`. -/
instance orderly_literalText : Orderly literalText := by
  unfold literalText
  refine Orderly.next_bind (fun t _ => ?_) rfl
  split <;> infer_instance

/-- A value starts with a token of its own kind, which is no semicolon. -/
instance orderly_value : Orderly value := by
  have hparameter : Orderly (do
      match ← next with
      | .word _ _ => return Value.parameter
      | .number _ => return Value.parameter
      | _ => unexpected) := by
    refine Orderly.next_bind (fun t _ => ?_) rfl
    split <;> infer_instance
  unfold value
  refine Orderly.next_bind (fun t _ => ?_) (by simp [Token.semicolon])
  split <;> infer_instance

/-- A number behind its sign, or the place of one. -/
instance orderly_signedNumber : Orderly signedNumber := by
  have hend (v : Value) : Orderly (do
      match v with
      | .number => return
      | .parameter => return
      | _ => unexpected) := by
    split <;> infer_instance
  unfold signedNumber
  infer_instance

end Reading

/-- Rules by which what lies in a phrase is read in an orderly way. -/
class Rules.Orderly (r : Rules) : Prop where
  operation : ∀ strength, Reading.Orderly (r.operation strength)
  query : Reading.Orderly r.query

attribute [instance] Rules.Orderly.operation Rules.Orderly.query

variable (r : Rules) [r.Orderly]

instance orderly_expression : Reading.Orderly r.expression := by
  unfold Rules.expression
  infer_instance

instance orderly_expressions : Reading.Orderly r.expressions := by
  unfold Rules.expressions
  infer_instance

end AskSql.Sql
