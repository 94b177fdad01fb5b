import AskSql.Proofs.Sql.Reading
import AskSql.Sql.Grammar.DataType

/-!
# Data types are read in an orderly way

A type may hold types (`DataType.nested`), so that its reading is orderly by induction on how
deep they lie in each other.
-/

namespace AskSql.Sql.DataType

open Reading

/-! ## Types that hold no other type -/

instance orderly_plain (base : String) : Orderly (plain base) := by
  unfold plain
  infer_instance

instance orderly_withLength (base : String) : Orderly (withLength base) := by
  unfold withLength
  infer_instance

/-- A length is a number between parentheses. -/
instance orderly_withOptionalLength (base : String) : Orderly (withOptionalLength base) := by
  unfold withOptionalLength
  infer_instance

instance orderly_integer (base : String) : Orderly (integer base) := by
  unfold integer
  infer_instance

/-- A precision and a scale, each of which may be missing. -/
instance orderly_exact (base : String) : Orderly (exact base) := by
  unfold exact
  refine .bind fun opened => .ite (.bind fun precision => .bind fun scaled => ?_) inferInstance
  infer_instance

/-- A length, or `MAX` in its place. -/
instance orderly_upToMaximum (base : String) (units : Bool) : Orderly (upToMaximum base units) := by
  unfold upToMaximum
  infer_instance

/-- The words behind a type of texts tell which of the family it is. -/
instance orderly_characterFamily (base : String) : Orderly (characterFamily base) := by
  unfold characterFamily
  infer_instance

/-- The time zone is told by words as a whole. -/
instance orderly_temporal (base : String) : Orderly (temporal base) := by
  unfold temporal
  infer_instance

/-- Each text may have a number. -/
instance orderly_enumeration (base : String) : Orderly (enumeration base) := by
  unfold enumeration
  infer_instance

/-- A literal is no semicolon, for which there is no case. -/
instance orderly_literals (base : String) : Orderly (literals base) := by
  have hliteral : Orderly (do
      match ← next with
      | .literal .plain _ => pure ()
      | _ => unexpected) := by
    refine Orderly.next_bind (fun t _ => ?_) rfl
    split <;> infer_instance
  unfold literals
  infer_instance

instance orderly_signed (base : String) : Orderly (signed base) := by
  unfold signed
  infer_instance

instance orderly_double : Orderly double := by
  unfold double
  infer_instance

instance orderly_bit : Orderly bit := by
  unfold bit
  infer_instance

/-- The precision, and the zone as a text. -/
instance orderly_datetime64 : Orderly datetime64 := by
  unfold datetime64
  infer_instance

/-- Whatever comes behind the keyword of a type that holds no other is orderly. -/
theorem orderly_of_mem_simple {k : String} {rest : Rest} (h : (k, rest) ∈ simple) :
    Orderly rest := by
  have hall : ∀ entry ∈ simple, Orderly entry.2 := by
    simp only [simple, List.forall_mem_cons, List.not_mem_nil, false_imp_iff, implies_true,
      and_true]
    repeat' apply And.intro
    all_goals infer_instance
  exact hall _ h

/-! ## Types of any other name -/

/-- Nothing between the parentheses of a type is a semicolon. -/
theorem takes_of_arguments? {ts us : List Token} {as : List Text}
    (h : arguments? ts = some (as, us)) : Takes ts us := by
  induction ts using arguments?.induct generalizing as with
  | case1 ts =>
    obtain ⟨-, rfl⟩ := Prod.mk.inj (Option.some.inj h)
    exact Takes.tail (by decide)
  | case2 ts ih => exact (ih h).cons (by decide)
  | case3 digits ts ih =>
    simp only [arguments?, Option.map_eq_some_iff] at h
    obtain ⟨x, hx, heq⟩ := h
    obtain ⟨-, rfl⟩ := Prod.mk.inj heq
    exact (ih hx).cons (by simp [Token.semicolon])
  | case4 value ts ih =>
    simp only [arguments?, Option.map_eq_some_iff] at h
    obtain ⟨x, hx, heq⟩ := h
    obtain ⟨-, rfl⟩ := Prod.mk.inj heq
    exact (ih hx).cons (by simp [Token.semicolon])
  | case5 value quote ts ih =>
    simp only [arguments?, Option.map_eq_some_iff] at h
    obtain ⟨x, hx, heq⟩ := h
    obtain ⟨-, rfl⟩ := Prod.mk.inj heq
    exact (ih hx).cons (by simp [Token.semicolon])
  | case6 ts => simp_all [arguments?]

/-- What stands between the parentheses is seen as a whole before it is taken. -/
instance orderly_other : Orderly other := by
  have harguments (name : List Name) : Orderly (do
      match arguments? (← get) with
      | some (as, ts) =>
        set ts
        if as.isEmpty then return DataType.named (Name.dottedText name)
        else return .named (Name.dottedText name ++ '(' :: Text.join [','] as ++ [')'])
      | none => unexpected) := by
    refine ⟨fun ts => .get_bind ?_⟩
    split
    · next as us h => exact .set_bind (takes_of_arguments? h) (Orderly.at_row us)
    · exact Orderly.at_row ts
  unfold other
  infer_instance

/-! ## All types -/

/-- The word that a type starts with is skipped once it is known ; the types that it holds are
orderly by induction on how deep they lie in each other. -/
instance orderly_nested (fuel : Nat) : Orderly (nested fuel) := by
  induction fuel with
  | zero => exact inferInstanceAs (Orderly unexpected)
  | succ fuel ih =>
    have helement (x : DataType × Bool) : Orderly (do
        let (element, closed) := x
        let written := "ARRAY<".toList ++ element.text ++ ['>']
        if closed then return (DataType.known written, false)
        else if ← symbol ">" then return (.known written, false)
        else
          requireSymbol ">>"
          return (.known written, true)) := by
      obtain ⟨element, closed⟩ := x
      infer_instance
    have hcolumn (x : DataType × Bool) : Orderly (do
        let (_, closed) := x
        if closed then unexpected) := by
      obtain ⟨_, closed⟩ := x
      infer_instance
    unfold nested
    refine ⟨fun ts => .peek_bind ?_⟩
    split
    · next value quote h =>
      obtain ⟨us, rfl⟩ := List.head?_eq_some_iff.mp h
      dsimp only
      split
      · next k rest h =>
        have := orderly_of_mem_simple (List.mem_of_find?_eq_some h)
        exact .skip_bind (by simp [Token.semicolon]) (Orderly.at_row us)
      · suffices h : Orderly _ from h.at_row _
        refine .bind fun interval => .ite inferInstance (.bind fun array => .ite ?_ ?_)
        · exact .bind fun _ => .bind helement
        · infer_instance
    · exact Orderly.at_row ts

/-- The row tells how deep types may lie in each other. -/
instance orderly_read : Orderly read := by
  unfold read
  refine ⟨fun ts => .get_bind (.bind (Orderly.at_row ts) fun (type, closed) us _ => ?_)⟩
  exact Orderly.at_row us

end AskSql.Sql.DataType
