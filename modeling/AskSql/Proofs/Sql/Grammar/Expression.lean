import AskSql.Proofs.Sql.Grammar.DataType
import AskSql.Sql.Grammar.Expression

/-!
# Expressions are read in an orderly way

Whatever is read by the rules for what lies in an expression may be taken as orderly here. What
takes tokens whatever they are is the name of an operator, which stands behind the word
`OPERATOR` (`isSuffix_of_namedOperator`).

Most rules put parts together, and are orderly as their parts are. What comes behind an optional
part is one reading, however it is reached : it gets a name, the part in front of it is treated
with no more known of it than that it is orderly (`suffices`), and then it is treated itself.
-/

namespace AskSql.Sql.Grammar

open Reading

variable (r : Rules) [r.Orderly]

/-! ## Order and windows -/

/-- The words for the place of nulls are taken together or not at all. -/
instance orderly_direction : Orderly direction := by
  unfold direction
  infer_instance

instance orderly_orderItem : Orderly (orderItem r) := by
  unfold orderItem
  infer_instance

instance orderly_orderItems : Orderly (orderItems r) := by
  unfold orderItems
  infer_instance

/-- A part of a point in time is a word, or `WEEK` with a name between parentheses. -/
instance orderly_timeField : Orderly (timeField r) := by
  unfold timeField
  infer_instance

/-- A precision is a number, or two, between parentheses. -/
instance orderly_precision (scaled : Bool) : Orderly (precision scaled) := by
  unfold precision
  infer_instance

/-- The unit of a stretch of time, or two with `TO` between. Whether one is seconds is seen before
it is read. -/
instance orderly_timeUnit : Orderly (timeUnit r) := by
  unfold timeUnit
  refine .bind fun seconds => .bind fun named => ?_
  extract_lets -underBinder precisions
  suffices ∀ u, Orderly (precisions u) by clear_value precisions; infer_instance
  intro u
  infer_instance

/-- A literal in front of a unit of time is taken as it is : no literal is a semicolon. -/
instance orderly_frameBound : Orderly (frameBound r) := by
  have hbound : Orderly (do
      match ← peek with
      | some (.literal .plain _) => do
        skip
        timeUnit r
        requireOneOf ["PRECEDING", "FOLLOWING"]
      | _ =>
        let _ ← r.expression
        requireOneOf ["PRECEDING", "FOLLOWING"]) := by
    refine .peek_bind (Orderly.at_row _) fun t ts => ?_
    split
    · next h =>
      obtain rfl := Option.some.inj h
      exact .skip_bind (Token.literal_ne_semicolon _ _) (Orderly.at_row ts)
    · exact Orderly.at_row _
  unfold frameBound
  infer_instance

/-- One bound, or two with `AND` between. -/
instance orderly_frame : Orderly (frame r) := by
  unfold frame
  infer_instance

/-- The name that a window may start with is a word, which is no semicolon. -/
instance orderly_window : Orderly (window r) := by
  unfold window
  refine ⟨fun ts => .peek_bind ?_⟩
  extract_lets -underBinder clauses
  have hclauses (u : Unit) : Orderly (clauses u) := by
    refine .bind fun partitioned => ?_
    extract_lets -underBinder order
    suffices ∀ u, Orderly (order u) by clear_value order; infer_instance
    intro u
    infer_instance
  have hskip {t : Token} {ts : List Token} (ht : t ≠ .semicolon) :
      (skip >>= clauses).OrderlyAt (t :: ts) :=
    .skip_bind ht ((hclauses ()).at_row ts)
  match ts with
  | [] => exact (hclauses ()).at_row _
  | t :: ts =>
    dsimp only [List.head?_cons]
    split
    · next h =>
      obtain rfl := Option.some.inj h
      exact hskip (Token.word_ne_semicolon _ _)
    · next h =>
      obtain rfl := Option.some.inj h
      split
      · exact hskip (Token.word_ne_semicolon _ _)
      · exact (hclauses ()).at_row _
    · exact (hclauses ()).at_row _

/-! ## Calls -/

/-- Names with dots between are followed to the first dot that has no name behind it. -/
instance orderly_dottedWildcard (fuel : Nat) : Orderly (dottedWildcard fuel) := by
  induction fuel with
  | zero => exact inferInstanceAs (Orderly unexpected)
  | succ fuel ih =>
    unfold dottedWildcard
    infer_instance

/-- A row that starts with a name and a dot may be read twice, each time from its start. -/
instance orderly_expressionOrWildcard : Orderly (expressionOrWildcard r) := by
  have hdotted (ts : List Token) : (do
      if ← dottedWildcard ts.length then return Expression.wildcard
      else
        set ts
        r.expression).OrderlyAt ts := by
    intro a rest h
    obtain ⟨b, us, hb, h⟩ := bind_eq_ok.mp h
    split at h
    · obtain ⟨-, rfl⟩ := pure_eq_ok.mp h
      exact Orderly.at_row ts _ _ hb
    · exact Orderly.at_row ts _ _ h
  unfold expressionOrWildcard
  refine .bind fun star => ?_
  split
  · infer_instance
  · refine ⟨fun ts => .get_bind ?_⟩
    split
    · exact hdotted ts
    · exact Orderly.at_row ts

/-- An argument with a name is tried first, and one without is read where the try started. -/
instance orderly_argument : Orderly (argument r) := by
  unfold argument
  extract_lets -underBinder named
  have : Orderly named := by
    refine .bind fun _ => .bind fun valued => ?_
    extract_lets -underBinder given
    suffices ∀ u, Orderly (given u) by clear_value given; infer_instance
    intro u
    infer_instance
  refine .bind fun x => ?_
  split <;> infer_instance

/-- What becomes of null is told by words. -/
instance orderly_nullClause : Orderly nullClause := by
  unfold nullClause
  infer_instance

/-- Whether nulls count is told by words. -/
instance orderly_nullTreatment : Orderly nullTreatment := by
  unfold nullTreatment
  infer_instance

/-- The filler of a list is an expression that starts with a literal, or it is missing. -/
instance orderly_overflowClause : Orderly (overflowClause r) := by
  have hfiller (x : Option Token) : Orderly (do
      match x with
      | some (.literal _ _) =>
        let _ ← r.expression
      | _ => unexpected
      requireOneOf ["WITH", "WITHOUT"]
      require "COUNT") := by
    dsimp only
    split <;> infer_instance
  unfold overflowClause
  refine .bind fun overflown => ?_
  split
  · refine .bind fun failing => ?_
    split <;> infer_instance
  · infer_instance

/-- The clauses behind the arguments of a call, each of which may be missing. -/
instance orderly_arguments : Orderly (arguments r) := by
  unfold arguments
  refine .bind fun _ => .bind fun closed => ?_
  split
  · infer_instance
  refine .bind fun all => .bind fun distinct => ?_
  extract_lets -underBinder items
  suffices ∀ u, Orderly (items u) by clear_value items; infer_instance
  refine fun _ => .bind fun _ => ?_
  extract_lets -underBinder order
  suffices ∀ treated, Orderly (order treated) by clear_value order; infer_instance
  refine fun treated => .bind fun ordered => ?_
  extract_lets -underBinder limit
  suffices ∀ u, Orderly (limit u) by clear_value limit; infer_instance
  refine fun _ => .bind fun limited => ?_
  extract_lets -underBinder having
  suffices ∀ u, Orderly (having u) by clear_value having; infer_instance
  intro u
  simp -zeta only [having]
  extract_lets -underBinder close
  suffices ∀ u, Orderly (close u) by
    clear_value close
    split
    · refine .bind fun filtered => ?_
      extract_lets -underBinder separator
      suffices ∀ u, Orderly (separator u) by clear_value separator; infer_instance
      intro u
      infer_instance
    · infer_instance
  intro u
  infer_instance

/-- The clauses behind a call, each of which may be missing. -/
instance orderly_call : Orderly (call r) := by
  unfold call
  refine .bind fun _ => .bind fun treated => ?_
  extract_lets -underBinder within
  suffices ∀ u treated, Orderly (within u treated) by clear_value within; infer_instance
  refine fun _ treated => .bind fun grouped => ?_
  extract_lets -underBinder filter
  suffices ∀ u, Orderly (filter u) by clear_value filter; infer_instance
  intro u
  simp -zeta only [filter]
  extract_lets -underBinder nulls
  suffices ∀ u, Orderly (nulls u) by clear_value nulls; infer_instance
  intro u
  simp -zeta only [nulls]
  extract_lets -underBinder windowed
  suffices ∀ u, Orderly (windowed u) by clear_value windowed; infer_instance
  intro u
  infer_instance

/-! ## Special operands -/

/-- The cases of a distinction stand between its words. -/
instance orderly_caseDistinction : Orderly (caseDistinction r) := by
  unfold caseDistinction
  refine .bind fun first => ?_
  extract_lets -underBinder cases
  suffices ∀ u, Orderly (cases u) by clear_value cases; infer_instance
  refine fun _ => .bind fun _ => .bind fun otherwise => ?_
  infer_instance

instance orderly_formatZone : Orderly formatZone := by
  unfold formatZone
  infer_instance

/-- The type that a value is changed to may have a format behind it. -/
instance orderly_cast : Orderly (cast r) := by
  unfold cast
  refine .bind fun _ => .bind fun _ => .bind fun _ => .bind fun _ => .bind fun formatted => ?_
  infer_instance

/-- The type that a value is converted to, or the character set. -/
instance orderly_conversion : Orderly (conversion r) := by
  unfold conversion
  refine .bind fun _ => .bind fun _ => .bind fun coded => ?_
  split <;> infer_instance

/-- The part and the point in time that it is taken from. -/
instance orderly_extraction : Orderly (extraction r) := by
  unfold extraction
  refine .bind fun _ => .bind fun _ => .bind fun marked => ?_
  infer_instance

/-- A value is rounded to a part of a point in time or to a number of digits. -/
instance orderly_rounding : Orderly (rounding r) := by
  unfold rounding
  refine .bind fun _ => .bind fun _ => .bind fun toField => ?_
  split
  · infer_instance
  · refine .bind fun toDigits => ?_
    infer_instance

/-- The text that is sought is tried first, and a call is read where the try started. -/
instance orderly_position : Orderly (position r) := by
  unfold position
  extract_lets sought
  have : Orderly sought := by infer_instance
  refine .bind fun x => ?_
  split <;> infer_instance

/-- The start and the length, each of which may be missing. -/
instance orderly_substring : Orderly (substring r) := by
  unfold substring
  refine .bind fun _ => .bind fun _ => .bind fun comma => ?_
  extract_lets -underBinder start
  suffices ∀ b, Orderly (start b) by clear_value start; infer_instance
  intro b
  simp -zeta only [start]
  extract_lets -underBinder length
  suffices ∀ u, Orderly (length u) by clear_value length; infer_instance
  refine fun _ => .bind fun counted => ?_
  infer_instance

/-- The two texts and the place, behind words of their own. -/
instance orderly_overlay : Orderly (overlay r) := by
  unfold overlay
  refine .bind fun _ => .bind fun _ => .bind fun _ => .bind fun _ => .bind fun _ =>
    .bind fun _ => .bind fun counted => ?_
  infer_instance

/-- What is taken off may be told by a text, by values or not at all. -/
instance orderly_trimming : Orderly (trimming r) := by
  unfold trimming
  refine .bind fun _ => .bind fun _ => .bind fun _ => .bind fun marked => ?_
  infer_instance

instance orderly_enclosedQuery : Orderly (enclosedQuery r) := by
  unfold enclosedQuery
  infer_instance

/-- What is negated is a query after `EXISTS`, or an expression. -/
instance orderly_negation : Orderly (negation r) := by
  unfold negation
  infer_instance

instance orderly_arrayItems : Orderly (arrayItems r) := by
  unfold arrayItems
  infer_instance

instance orderly_record : Orderly (record r) := by
  unfold record
  infer_instance

instance orderly_dictionary : Orderly (dictionary r) := by
  unfold dictionary
  infer_instance

/-- A call is tried first, and values with names are read where the try started. -/
instance orderly_braced : Orderly (braced r) := by
  unfold braced
  extract_lets marked
  have : Orderly marked := by infer_instance
  refine .bind fun x => ?_
  split <;> infer_instance

/-- Each word that has a meaning is followed by the rule for it, and any other by nothing. -/
instance orderly_special? (interval : Reading Unit) [Orderly interval] (t : Token) :
    Orderly (special? r interval t) := by
  unfold special?
  repeat refine .ite inferInstance ?_
  refine .ite ?_ ?_
  · -- a search in texts, with the mode of the search at its end
    refine .bind fun _ => .bind fun _ => .bind fun _ => .bind fun _ => .bind fun natural => ?_
    extract_lets -underBinder close
    suffices ∀ u, Orderly (close u) by
      clear_value close
      exact .ite inferInstance (.bind fun plain => inferInstance)
    intro u
    infer_instance
  · infer_instance

/-- A literal behind the name of a character set is taken as it is : no literal is a semicolon. -/
instance orderly_nameOperand (n : Name) : Orderly (nameOperand r n) := by
  unfold nameOperand
  refine .peek_bind (Orderly.at_row _) fun t ts => ?_
  split
  · exact Orderly.at_row _
  · next h =>
    obtain rfl := Option.some.inj h
    split
    · exact .skip_bind (Token.literal_ne_semicolon _ _) (Orderly.at_row ts)
    · exact Orderly.at_row _
  · next h =>
    obtain rfl := Option.some.inj h
    split
    · exact .skip_bind (Token.literal_ne_semicolon _ _) (Orderly.at_row ts)
    · exact Orderly.at_row _
  · exact Orderly.at_row _

instance orderly_collated (x : Expression) : Orderly (collated x) := by
  unfold collated
  infer_instance

/-- What the meaning of a word leads to may fail, and the word is read as a name then, from where it
stood. -/
instance orderly_wordOperand (interval : Reading Unit) [Orderly interval] (n : Name) :
    Orderly (wordOperand r interval n) := by
  unfold wordOperand
  refine .bind fun x => ?_
  split
  · infer_instance
  · infer_instance
  · extract_lets named
    have hnamed (u : Unit) : Orderly (named u) := by
      refine .bind fun x => ?_
      split <;> infer_instance
    split
    · exact .bind hnamed
    · exact hnamed ()

/-- A type and what its literal starts with. -/
instance orderly_typedLiteral (interval : Reading Unit) [Orderly interval] :
    Orderly (typedLiteral interval) := by
  unfold typedLiteral
  refine .bind fun type => ?_
  split <;> infer_instance

/-- A query, or expressions with commas between. -/
instance orderly_enclosed : Orderly (enclosed r) := by
  unfold enclosed
  infer_instance

/-- Stretches of time lie in each other, so the induction is on how many may still be opened. The
token that an operand starts with is no semicolon, for which there is no rule. -/
instance orderly_operand (fuel : Nat) : Orderly (operand r fuel) := by
  induction fuel with
  | zero => exact inferInstanceAs (Orderly unexpected)
  | succ fuel ih =>
    have hparameter : Orderly (do
        match ← next with
        | .word _ _ => pure ()
        | .number _ => pure ()
        | _ => unexpected
        collated .other) := by
      refine Orderly.next_bind (fun t _ => ?_) rfl
      split <;> infer_instance
    unfold operand
    extract_lets interval
    have : Orderly interval := by infer_instance
    refine .bind fun x => ?_
    split
    · infer_instance
    · refine Orderly.next_bind (fun t _ => ?_) rfl
      split <;> infer_instance

/-! ## Parts -/

/-- The bounds of a stretch, after each of which the bracket may be closed. -/
instance orderly_subscript : Orderly (subscript r) := by
  unfold subscript
  refine .bind fun colon => ?_
  extract_lets -underBinder bounds
  suffices ∀ first, Orderly (bounds first) by clear_value bounds; infer_instance
  refine fun first => .bind fun closed => ?_
  split
  · infer_instance
  extract_lets -underBinder upper
  suffices ∀ u, Orderly (upper u) by clear_value upper; infer_instance
  refine fun _ => .bind fun closed => ?_
  split
  · infer_instance
  refine .bind fun _ => .bind fun closed => ?_
  split <;> infer_instance

/-- A dot and a bracket are taken with the row that they stand in front of, and neither is a
semicolon. -/
instance orderly_parts : Orderly (parts r) := by
  have hpart : Orderly (do
      match ← get with
      | .symbol ['.'] :: .symbol ['*'] :: _ => return false
      | .symbol ['.'] :: .literal .plain _ :: ts => set ts; return true
      | .symbol ['.'] :: ts =>
        set ts
        let _ ← r.operation Strength.part
        return true
      | .symbol ['['] :: ts =>
        set ts
        subscript r
        return true
      | _ => return false) := by
    refine ⟨fun ts => .get_bind ?_⟩
    split
    · exact Orderly.at_row _
    · exact .set_bind ((Takes.tail (Token.literal_ne_semicolon _ _)).cons (by decide))
        (Orderly.at_row _)
    · exact .set_bind (Takes.tail (by decide)) (Orderly.at_row _)
    · exact .set_bind (Takes.tail (by decide)) (Orderly.at_row _)
    · exact Orderly.at_row _
  unfold parts
  infer_instance

/-! ## Operators -/

/-- What a value is tested for is told by words, or by an expression after `DISTINCT FROM`. -/
instance orderly_test : Orderly (test r) := by
  unfold test
  infer_instance

/-- A pattern with a literal, which is optional. -/
instance orderly_patternOperand : Orderly (patternOperand r) := by
  unfold patternOperand
  infer_instance

/-- A query is tried first, and values are read where the try started. -/
instance orderly_membership : Orderly (membership r) := by
  unfold membership
  refine .bind fun unnest => ?_
  split
  · infer_instance
  · refine .bind fun _ => .bind fun x => ?_
    split <;> infer_instance

instance orderly_bounds : Orderly (bounds r) := by
  unfold bounds
  infer_instance

/-- The first word tells which of the operators it is. -/
instance orderly_negatable : Orderly (negatable r) := by
  unfold negatable
  refine .bind fun _ => .bind fun regexp => .bind fun rlike => ?_
  split
  · infer_instance
  refine .bind fun listed => ?_
  split <;> infer_instance

/-- The parenthesis in front of a query is put back into the row, so that it is taken twice : first
alone, then with the query. What is left is behind it both times. -/
instance orderly_rightSide (strength : Nat) (quantified : Bool) :
    Orderly (rightSide r strength quantified) := by
  unfold rightSide
  refine .bind fun several => ?_
  split
  · refine ⟨fun ts a rest h => ?_⟩
    obtain ⟨_, us, hopen, h⟩ := bind_eq_ok.mp h
    obtain ⟨b, vs, hahead, h⟩ := bind_eq_ok.mp h
    obtain rfl := eq_of_requireSymbol hopen
    obtain rfl := eq_of_aheadOneOf hahead
    cases b with
    | true =>
      have hput : (do
          let _ ← r.operation strength
          unless quantified do unexpected : Reading Unit) (.symbol ['('] :: vs) =
            .ok (a, rest) := h
      exact Orderly.at_row _ _ _ hput
    | false =>
      have hrest : (do
          let _ ← r.operation strength
          requireSymbol ")"
          unless quantified do unexpected : Reading Unit) vs = .ok (a, rest) := h
      exact (Orderly.at_row _ _ _ hrest).cons (by decide)
  · infer_instance

/-- What is left behind tokens with dots between is the end of the row, whatever they are : a
semicolon may be among them, which keeps them from being orderly. -/
theorem isSuffix_of_separatedUpTo_next {fuel : Nat} {names ts rest : List Token}
    (h : separatedUpTo (symbol ".") next fuel ts = .ok (names, rest)) : rest <:+ ts := by
  induction fuel generalizing ts rest names with
  | zero => cases h
  | succ fuel ih =>
    obtain ⟨t, us, hnext, h⟩ := bind_eq_ok.mp h
    obtain ⟨b, vs, hdot, h⟩ := bind_eq_ok.mp h
    have hus : us <:+ ts := by
      cases ts with
      | nil => cases hnext
      | cons t ts =>
        obtain ⟨-, rfl⟩ := Prod.mk.inj (Except.ok.inj hnext)
        exact List.suffix_cons t _
    have hvs : vs <:+ us := (Orderly.at_row us _ _ hdot).isSuffix
    split at h
    · obtain ⟨_, ws, hmore, h⟩ := bind_eq_ok.mp h
      obtain ⟨-, rfl⟩ := pure_eq_ok.mp h
      exact ((ih hmore).trans hvs).trans hus
    · obtain ⟨-, rfl⟩ := pure_eq_ok.mp h
      exact hvs.trans hus

/-- The name of an operator is taken off the front of the row. -/
theorem isSuffix_of_namedOperator {u : Unit} {ts rest : List Token}
    (h : namedOperator ts = .ok (u, rest)) : rest <:+ ts := by
  obtain ⟨_, us, hopen, h⟩ := bind_eq_ok.mp h
  obtain ⟨names, vs, hnames, hclose⟩ := bind_eq_ok.mp h
  have hus : us <:+ ts := (Orderly.at_row ts _ _ hopen).isSuffix
  have hvs : vs <:+ us := isSuffix_of_separatedUpTo_next hnames
  have hrest : rest <:+ vs := (Orderly.at_row vs _ _ hclose).isSuffix
  exact (hrest.trans hvs).trans hus

/-- The first token of an operator is taken unseen : a semicolon among the symbols fits no rule, and
behind `OPERATOR` any token may be a name. -/
instance orderly_operator (strength : Nat) : Orderly (operator r strength) := by
  unfold operator
  extract_lets others
  have hothers (u : Unit) : Orderly (others u) := by
    refine ⟨fun ts => .get_bind ?_⟩
    split
    · exact Orderly.at_row _
    · next s ts =>
      by_cases hs : s = [';']
      · have hbinary : (binarySymbols r.dialect).any (·.toList == [';']) = false := by
          unfold binarySymbols
          cases r.dialect.permissive <;> decide
        intro a rest h
        simp only [hs, hbinary] at h
        cases h
      · refine .set_bind (Takes.tail ?_) (Orderly.at_row ts)
        simpa [Token.semicolon] using hs
    · next t ts hsymbol =>
      have ht : t ≠ .semicolon := by
        rintro rfl
        exact hsymbol _ rfl
      split
      · exact .set_bind (Takes.tail ht) (Orderly.at_row ts)
      split
      · next hword =>
        have hblind : t.isBlind := Or.inl (by simp_all)
        intro a rest h
        have h : (do namedOperator; rightSide r strength false : Reading Unit) ts =
          .ok (a, rest) := h
        obtain ⟨_, us, hname, h⟩ := bind_eq_ok.mp h
        have hus : Takes (t :: ts) us := Takes.of_isBlind hblind (isSuffix_of_namedOperator hname)
        exact hus.trans (Orderly.at_row us _ _ h)
      split
      · exact .set_bind (Takes.tail ht) (Orderly.at_row ts)
      split
      · exact .set_bind (Takes.tail ht) (Orderly.at_row ts)
      · exact Orderly.at_row _
  split
  · refine .bind fun tested => ?_
    split
    · refine .bind fun x => ?_
      split
      · infer_instance
      · exact .bind hothers
    · exact hothers ()
  · exact hothers ()

/-- One operator after the other, as long as they bind tightly enough. -/
instance orderly_operators (strength : Nat) : Orderly (operators r strength) := by
  unfold operators
  infer_instance

/-- An operand with its parts, and the operators behind it. -/
instance orderly_operation (strength : Nat) : Orderly (operation r strength) := by
  unfold operation
  infer_instance

end AskSql.Sql.Grammar
