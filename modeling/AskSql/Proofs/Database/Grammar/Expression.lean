import AskSql.Proofs.Database.Passing

/-!
# Expressions declare no key

Whatever is read by the rules for what is nested in an expression may be taken as keyless here. What
is passed over unread stands between the parentheses of a window.
-/

namespace AskSql.Database.Grammar

open Reader

/-- Rules by which what is nested is read without declaring a key. -/
class Rules.Keyless (r : Rules) : Prop where
  expr : ∀ level, Reader.Keyless (r.expr level)
  query : Reader.Keyless r.query
  sources : Reader.Keyless r.sources

attribute [instance] Rules.Keyless.expr Rules.Keyless.query Rules.Keyless.sources

namespace Rules

variable (r : Rules) [r.Keyless]

instance keyless_any : Reader.Keyless r.any := by
  unfold any
  infer_instance

/-- Whether a query follows is seen and nothing is taken. -/
instance keyless_seesQuery : Reader.Keyless seesQuery := by
  unfold seesQuery
  infer_instance

/-- The closing parenthesis tells whether there are any expressions. -/
instance keyless_anyList : Reader.Keyless r.anyList := by
  unfold anyList
  infer_instance

/-! ## Operands -/

/-- The digits of a numeral are in its token. -/
instance keyless_plainNumeral (numeral : Text) : Reader.Keyless (plainNumeral numeral) := by
  unfold plainNumeral
  extract_lets _
  split <;> infer_instance

/-- Each case has a condition and a value, by induction on how many there may be. -/
instance keyless_branches (fuel : Nat) : Reader.Keyless (choice.branches r fuel) := by
  induction fuel with
  | zero => exact inferInstanceAs (Reader.Keyless stuck)
  | succ fuel ih =>
    unfold choice.branches
    refine .bind fun _ => .bind fun condition => .bind fun _ => .bind fun e => ?_
    infer_instance

/-- A choice is its base, its cases and what is chosen otherwise. -/
instance keyless_choice : Reader.Keyless r.choice := by
  unfold choice
  refine .bind fun bare => ?_
  extract_lets -underBinder cases
  suffices ∀ base, Reader.Keyless (cases base) by clear_value cases; infer_instance
  refine fun base => .bind fun branches => .bind fun otherwise => ?_
  infer_instance

/-- The type that a value is changed to is made of names. -/
instance keyless_cast : Reader.Keyless r.cast := by
  unfold cast
  infer_instance

/-- What is done is told by one of the words for it, or by the word `IGNORE` alone. -/
instance keyless_raise : Reader.Keyless raise := by
  have hword : Spares (·.isAmong ["ROLLBACK", "ABORT", "FAIL"]) :=
    ⟨fun ht => isReference_eq_false_of_isAmong ht (by decide)⟩
  unfold raise
  infer_instance

/-- The direction, and the place of nulls. -/
instance keyless_order : Reader.Keyless r.order := by
  unfold order
  refine .bind fun e => .bind fun descending => ?_
  extract_lets -underBinder nulls
  suffices ∀ u, Reader.Keyless (nulls u) by clear_value nulls; infer_instance
  intro u
  have hlast : Reader.Keyless (do
      if ← acceptsKeyword "FIRST" then return false
      else
        keyword "LAST"
        return true) :=
    .bind fun first => inferInstance
  exact .bind fun nullsLast => inferInstance

instance keyless_orderBy : Reader.Keyless r.orderBy := by
  unfold orderBy
  infer_instance

/-! ## Calls -/

/-- What stands between parentheses that open here may be passed over. -/
instance keyless_passEnclosed_or {β : Type} (x : Unit → Reader β) (y : Reader β)
    [∀ u, Reader.Keyless (x u)] [Reader.Keyless y] :
    Reader.Keyless (acceptsSymbol "(" >>= fun opened => if opened then passEnclosed 0 >>= x else y)
    where
  passes {ps a rest} h := by
    cases ps with
    | nil => exact Keyless.passes (x := y) h
    | cons p ps =>
      rw [bind_apply, acceptsSymbol_cons] at h
      cases hp : p.token.isSymbol "(" with
      | true =>
        simp only [hp, if_true] at h
        obtain ⟨⟨⟩, qs, hpass, hrest⟩ := bind_eq_ok.mp h
        exact .enclosed hp hpass (Keyless.passes hrest)
      | false =>
        simp only [hp, Bool.false_eq_true, if_false] at h
        exact Keyless.passes h

/-- What stands between parentheses that have to be there may be passed over. -/
instance keyless_passEnclosed : Reader.Keyless (do symbol "("; passEnclosed 0) where
  passes {ps _ rest} h := by
    cases ps with
    | nil => cases h
    | cons p ps =>
      cases hp : p.token.isSymbol "(" with
      | true =>
        rw [bind_apply, symbol_cons hp] at h
        exact .enclosed hp h (.refl rest)
      | false =>
        rw [bind_apply, symbol_cons_of_not hp] at h
        cases h

/-- The rows that a call counts, and the window that it runs over, which is passed over unread. -/
instance keyless_callEnd : Reader.Keyless r.callEnd := by
  unfold callEnd
  refine .bind fun filtered => .bind fun opened => ?_
  extract_lets -underBinder filters window
  suffices ∀ filter, Reader.Keyless (window filter) by
    clear_value window
    refine .ite (.bind fun _ => ?_) inferInstance
    have hfilter : Reader.Keyless (do
        keyword "WHERE"
        let e ← r.any
        return some e) := by
      infer_instance
    infer_instance
  refine fun filter => .bind fun windowed => .bind fun named => ?_
  extract_lets -underBinder runs finish
  suffices ∀ u, Reader.Keyless (finish u) by clear_value finish; infer_instance
  intro u
  infer_instance

/-- A call has a star or arguments between its parentheses. -/
instance keyless_call : Reader.Keyless r.call := by
  unfold call
  refine .bind fun _ => .bind fun star => .ite inferInstance (.bind fun distinct => ?_)
  extract_lets -underBinder arguments
  suffices ∀ u, Reader.Keyless (arguments u) by clear_value arguments; infer_instance
  refine fun _ => .bind fun es => ?_
  extract_lets -underBinder finish
  suffices ∀ order, Reader.Keyless (finish order) by clear_value finish; infer_instance
  intro order
  infer_instance

instance keyless_dotted (quoted : Bool) (first : Text) : Reader.Keyless (dotted quoted first) := by
  unfold dotted
  infer_instance

/-- A query, or expressions that are a row unless there is one of them. -/
instance keyless_enclosed : Reader.Keyless r.enclosed := by
  have hrow (es : List Expr) : Reader.Keyless (match es with
      | [e] => pure e
      | es => pure (.row es)) := by
    split <;> infer_instance
  unfold enclosed
  infer_instance

/-- Each word that starts an operand is taken before what belongs to it. -/
instance keyless_word (w : Text) : Reader.Keyless (r.word w) := by
  unfold word
  dsimp only
  generalize String.ofList (w.map Char.toUpper) = k
  split <;> infer_instance

/-- A parameter is one token. -/
theorem eq_drop_of_parameter {text : Text} {ps rest : List Piece} {e : Expr}
    (h : parameter text ps = .ok (e, rest)) : rest = ps.drop 1 := by
  unfold parameter at h
  split at h
  · split at h
    · cases h
    · exact (Prod.mk.inj (Except.ok.inj h)).2.symm
  · extract_lets n at h
    split at h
    · exact (Prod.mk.inj (Except.ok.inj h)).2.symm
    · cases h
  · exact (Prod.mk.inj (Except.ok.inj h)).2.symm

/-- What an operand starts with is one case for each kind of token, and no `REFERENCES` in any of
them. -/
instance keyless_operand : Reader.Keyless r.operand where
  passes {ps e rest} h := by
    cases ps with
    | nil => cases h
    | cons p ps =>
      cases ht : p.token with
      | numeral n =>
        simp only [operand, ht] at h
        exact .piece (by rw [ht]; rfl) (Keyless.passes h)
      | text value =>
        simp only [operand, ht] at h
        refine .piece (by rw [ht]; rfl) ?_
        split at h
        · exact Keyless.passes h
        · exact Keyless.passes (x := pure _) h
      | blob digits =>
        simp only [operand, ht] at h
        exact .piece (by rw [ht]; rfl) (Keyless.passes (x := pure _) h)
      | parameter text =>
        simp only [operand, ht] at h
        rw [eq_drop_of_parameter h]
        exact .tail (by rw [ht]; rfl) ps
      | quoted n quote =>
        simp only [operand, ht] at h
        refine .piece (by rw [ht]; rfl) ?_
        split at h
        · exact Keyless.passes h
        · exact Keyless.passes h
      | word w =>
        simp only [operand, ht] at h
        exact Keyless.passes h
      | symbol s =>
        simp only [operand, ht] at h
        split at h
        · exact Keyless.passes h
        · cases h
      | wrong =>
        simp only [operand, ht] at h
        cases h

/-- The sign in front of an operand is a symbol, or the word `NOT`. -/
instance keyless_signed : Reader.Keyless r.signed := by
  unfold signed
  refine .bind fun minus => .ite inferInstance (.bind fun plus => .ite inferInstance ?_)
  refine .bind fun complement => .ite inferInstance (.bind fun not => ?_)
  infer_instance

instance keyless_is (e : Expr) : Reader.Keyless (r.is e) := by
  unfold is
  refine .bind fun negated => .bind fun distinct => ?_
  infer_instance

instance keyless_afterOr : Reader.Keyless r.afterOr := by
  unfold afterOr
  infer_instance

/-- The two bounds, and an `OR` that takes up all that follows. -/
instance keyless_between (negated : Bool) (e : Expr) : Reader.Keyless (r.between negated e) := by
  unfold between
  refine .bind fun low => .bind fun or => ?_
  extract_lets -underBinder high
  suffices ∀ u, Reader.Keyless (high u) by clear_value high; infer_instance
  exact fun _ => .bind fun _ => inferInstance

/-- What an expression is sought in : a query, values or a table. -/
instance keyless_among (negated : Bool) (e : Expr) : Reader.Keyless (r.among negated e) := by
  unfold among
  refine .bind fun opened => .ite (.bind fun queried => inferInstance) ?_
  refine .bind fun name => .bind fun called => ?_
  infer_instance

/-- A pattern, and the character that takes the meaning from others in it. -/
instance keyless_matching (op : Pattern) (negated : Bool) (e : Expr) :
    Reader.Keyless (r.matching op negated e) := by
  unfold matching
  infer_instance

/-! ## Operators -/

/-- The operators for patterns are words of their own. -/
theorem isReference_eq_false_of_pattern? {t : Token} {op : Pattern} (h : pattern? t = some op) :
    t.isReference = false := by
  unfold pattern? at h
  split at h
  · next ht => exact isReference_eq_false_of_isKeyword ht (by decide)
  split at h
  · next ht => exact isReference_eq_false_of_isKeyword ht (by decide)
  split at h
  · next ht => exact isReference_eq_false_of_isKeyword ht (by decide)
  split at h
  · next ht => exact isReference_eq_false_of_isKeyword ht (by decide)
  · cases h

/-- The operators between two operands are symbols, or the words `AND` and `OR`. -/
theorem isReference_eq_false_of_operator? {t : Token} {o : Nat × Operator}
    (h : operator? t = some o) : t.isReference = false := by
  unfold operator? at h
  split at h
  · rfl
  split at h
  · next ht => exact isReference_eq_false_of_isKeyword ht (by decide)
  split at h
  · next ht => exact isReference_eq_false_of_isKeyword ht (by decide)
  · cases h

/-- What a word operator takes begins with the word. -/
theorem passes_wordOperator {negated : Bool} {e : Expr} {p : Piece} {ps rest : List Piece}
    {o : Option Expr} (h : r.wordOperator negated e p.token (p :: ps) = .ok (o, rest)) :
    Passes (p :: ps) rest := by
  have hgo (x : Reader Expr) [Reader.Keyless x] (hp : p.token.isReference = false)
      (hx : (do
        let _ ← piece fun _ => true
        let e ← x
        return some e : Reader (Option Expr)) (p :: ps) = .ok (o, rest)) :
      Passes (p :: ps) rest :=
    .piece hp (Keyless.passes (x := do let e ← x; return some e) hx)
  unfold wordOperator at h
  cases hop : pattern? p.token with
  | some op =>
    simp only [hop] at h
    exact hgo _ (isReference_eq_false_of_pattern? hop) h
  | none =>
    simp only [hop] at h
    split at h
    · next ht => exact hgo _ (isReference_eq_false_of_isKeyword ht (by decide)) h
    split at h
    · next ht => exact hgo _ (isReference_eq_false_of_isKeyword ht (by decide)) h
    · exact Keyless.passes h

/-- What follows `NOT` after an expression. -/
theorem passes_negated {e : Expr} {ps rest : List Piece} {o : Option Expr}
    (h : (do
      if ← acceptsKeyword "NULL" then return some (.isNull true e)
      else
        match ← r.wordOperator true e ((ps.head?.map (·.token)).getD .wrong) with
        | some e => return some e
        | none => stuck : Reader (Option Expr)) ps = .ok (o, rest)) : Passes ps rest := by
  cases ps with
  | nil => cases h
  | cons p ps =>
    rw [bind_apply, acceptsKeyword_cons] at h
    cases hp : p.token.isKeyword "NULL" with
    | true =>
      simp only [hp, if_true] at h
      exact .piece (isReference_eq_false_of_isKeyword hp (by decide)) (Keyless.passes h)
    | false =>
      simp only [hp, Bool.false_eq_true, if_false] at h
      obtain ⟨o', qs, hword, h⟩ := bind_eq_ok.mp h
      refine (r.passes_wordOperator hword).trans ?_
      cases o' with
      | none => cases h
      | some e => exact Keyless.passes h

/-- The operator that follows is told by its first token, which is no `REFERENCES`, and is taken
with what belongs to it. -/
instance keyless_continued? (level : Nat) (e : Expr) : Reader.Keyless (r.continued? level e) where
  passes {ps o rest} h := by
    cases ps with
    | nil =>
      obtain ⟨-, rfl⟩ := Prod.mk.inj (Except.ok.inj h)
      exact .refl _
    | cons p ps =>
      have hword {k : String} (hk : k ≠ "REFERENCES") {n m : Nat}
          (ht : n ≤ m ∧ p.token.isKeyword k = true) : p.token.isReference = false :=
        isReference_eq_false_of_isKeyword ht.2 hk
      simp only [continued?] at h
      split at h
      · next l op hop =>
        split at h
        · exact .piece (isReference_eq_false_of_operator? hop) (Keyless.passes h)
        · exact Keyless.passes (x := pure _) h
      split at h
      · next ht => exact .piece (hword (by decide) ht) (Keyless.passes h)
      split at h
      · next ht => exact .piece (hword (by decide) ht) (Keyless.passes (x := pure _) h)
      split at h
      · next ht => exact .piece (hword (by decide) ht) (Keyless.passes (x := pure _) h)
      split at h
      · next ht =>
        exact .piece (hword (by decide) ht) (r.passes_negated h)
      split at h
      · next ht => exact .piece (hword (by decide) ht) (Keyless.passes h)
      split at h
      · exact r.passes_wordOperator h
      · exact Keyless.passes (x := pure _) h

/-- One operator after the other, by induction on how many there may be. -/
instance keyless_continuedAll (level fuel : Nat) (e : Expr) :
    Reader.Keyless (r.continuedAll level fuel e) := by
  induction fuel generalizing e with
  | zero => exact inferInstanceAs (Reader.Keyless (pure e))
  | succ fuel ih =>
    unfold continuedAll
    refine .bind fun o => ?_
    split <;> infer_instance

/-- An operand with its signs, and the operators behind it. -/
instance keyless_expression (level : Nat) : Reader.Keyless (r.expression level) := by
  unfold expression
  refine .bind fun e => ⟨fun {ps _ _} h => ?_⟩
  exact Keyless.passes (x := r.continuedAll level ps.length e) h

end Rules
end AskSql.Database.Grammar
