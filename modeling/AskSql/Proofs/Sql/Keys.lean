import AskSql.Proofs.Sql.Grammar.Table
import AskSql.Proofs.Sql.Lexing
import AskSql.Proofs.Sql.Names

/-!
# Foreign keys of a text

A text that begins with the words `CREATE TABLE` has one of its tables from its first statement,
whose tokens list the columns and the constraints of the table (`Lays`). So the definition that is
read off the text has the foreign keys that the text declares, those of columns first, and in the
order of the text otherwise.

`readTable_foreignKeys` : where the foreign keys of a definition are declared.
-/

namespace AskSql.Sql
namespace Grammar

open Reading

variable {r : Rules} [r.Orderly] {ts rest : List Token}

/-! ## Tables -/

/-- The elements of a table are listed in the order of its text, if it has any. -/
theorem exists_of_optionalElements {columns : List ColumnText} {constraints : List TableConstraint}
    (h : optionalElements r ts = .ok ((columns, constraints), rest)) :
    ∃ es, Lists ts rest es columns constraints := by
  obtain ⟨opens, us, hopens, hafter⟩ := bind_eq_ok.mp h
  have hus : us <:+ ts := (Orderly.at_row ts opens us hopens).isSuffix
  split at hafter
  · obtain ⟨closes, vs, hcloses, hend⟩ := bind_eq_ok.mp hafter
    have hvs : vs <:+ us := (Orderly.at_row us closes vs hcloses).isSuffix
    split at hend
    · obtain ⟨heq, rfl⟩ := pure_eq_ok.mp hend
      cases heq
      exact ⟨[], .nil (hvs.trans hus)⟩
    · obtain ⟨ws, xs, hget, helements⟩ := bind_eq_ok.mp hend
      cases hget
      obtain ⟨es, hes⟩ := exists_of_elements helements
      exact ⟨es, hes.of_isSuffix (hvs.trans hus)⟩
  · obtain ⟨heq, rfl⟩ := pure_eq_ok.mp hafter
    cases heq
    exact ⟨[], .nil hus⟩

/-- What the reading leaves is behind what it takes, whatever it takes. -/
class Shortens {α : Type} (p : Reading α) : Prop where
  isSuffix : ∀ {ts a rest}, p ts = .ok (a, rest) → rest <:+ ts

section Shortens

variable {α β : Type}

/-- An orderly reading leaves the end of the row. -/
instance (priority := low) shortens_of_orderly (p : Reading α) [Orderly p] : Shortens p where
  isSuffix h := (Orderly.at_row _ _ _ h).isSuffix

/-- What a reading leaves of the end of a row is the end of the row. -/
instance shortens_bind (p : Reading α) (f : α → Reading β) [Shortens p] [∀ a, Shortens (f a)] :
    Shortens (p >>= f) where
  isSuffix h := by
    obtain ⟨a, us, ha, hb⟩ := bind_eq_ok.mp h
    exact (Shortens.isSuffix hb).trans (Shortens.isSuffix ha)

instance shortens_ite (c : Prop) [Decidable c] (p q : Reading α) [Shortens p] [Shortens q] :
    Shortens (if c then p else q) := by
  split <;> infer_instance

/-- A token that is skipped unseen may be any, so that this is not orderly. -/
instance shortens_skip : Shortens skip where
  isSuffix h := by
    cases h
    exact List.tail_suffix _

end Shortens

instance orderly_unlessThere : Orderly unlessThere := by
  unfold unlessThere
  infer_instance

instance orderly_onCluster : Orderly onCluster := by
  unfold onCluster
  infer_instance

-- a token that is passed over may be a semicolon, so this reading is not orderly
instance shortens_looseName : Shortens looseName := by
  unfold looseName
  infer_instance

/-- What the reading gives is a table whose columns and constraints the tokens list. -/
def Lays (p : Reading TableText) : Prop :=
  ∀ ts t rest, p ts = .ok (t, rest) → ∃ us es, Lists ts us es t.columns t.constraints

section Lays

/-- What is read in front of a table takes no part in its keys. -/
theorem Lays.bind {α : Type} {p : Reading α} {f : α → Reading TableText} [Shortens p]
    (hf : ∀ a, Lays (f a)) : Lays (p >>= f) := by
  intro ts t rest h
  obtain ⟨a, us, ha, hb⟩ := bind_eq_ok.mp h
  obtain ⟨vs, es, hes⟩ := hf a us t rest hb
  exact ⟨vs, es, hes.of_isSuffix (Shortens.isSuffix ha)⟩

theorem Lays.ite {c : Prop} [Decidable c] {p q : Reading TableText} (hp : Lays p) (hq : Lays q) :
    Lays (if c then p else q) := by
  split
  · exact hp
  · exact hq

/-- A table has the elements that are read, whatever is read behind them. -/
theorem Lays.optionalElements_bind {f : List ColumnText × List TableConstraint → Reading TableText}
    (hf : ∀ columns constraints, Gives
      (fun t => t.columns = columns ∧ t.constraints = constraints) (f (columns, constraints))) :
    Lays (optionalElements r >>= f) := by
  intro ts t rest h
  obtain ⟨⟨columns, constraints⟩, us, helements, hb⟩ := bind_eq_ok.mp h
  obtain ⟨es, hes⟩ := exists_of_optionalElements helements
  obtain ⟨rfl, rfl⟩ := (hf columns constraints).of_eq_ok hb
  exact ⟨us, es, hes⟩

end Lays

instance gives_pure_table (n : List Name) (columns : List ColumnText)
    (constraints : List TableConstraint) :
    Gives (fun t => t.columns = columns ∧ t.constraints = constraints)
      (pure (⟨n, columns, constraints⟩ : TableText)) :=
  .pure ⟨rfl, rfl⟩

/-- A table is laid out as its elements are, whatever is said in front of them and behind them. -/
theorem lays_tableText : Lays (tableText r) := by
  unfold tableText
  refine .bind fun _ => .bind fun n => .bind fun _ => .bind fun isLike => ?_
  extract_lets -underBinder afterLike
  have hafterLike : Lays (afterLike ⟨⟩) := by
    refine .bind fun isClone => ?_
    extract_lets -underBinder afterClone
    have hafterClone : Lays (afterClone ⟨⟩) :=
      .optionalElements_bind fun _ _ => inferInstance
    exact .ite (.bind fun _ => hafterClone) hafterClone
  exact .ite (.bind fun _ => hafterLike) hafterLike

/-! ## First statements -/

/-- The words that a table is created with. -/
def opening : List Token :=
  [.word "CREATE".toList none, .word "TABLE".toList none]

omit [r.Orderly] in
/-- A statement that opens as a table does is read as one. -/
theorem statement_opening :
    statement r (opening ++ ts) = (do return Statement.createTable (← tableText r)) ts :=
  rfl

omit [r.Orderly] in
/-- The first statement of a text that opens as a table does is that table. -/
theorem exists_of_statements {ss : List Statement}
    (h : statements r (opening ++ ts) = .ok (ss, rest)) :
    ∃ s us after, r.statement (opening ++ ts) = .ok (s, us) ∧ ss = s :: after := by
  obtain ⟨us, vs, hget, hstatements⟩ := bind_eq_ok.mp h
  cases hget
  have hfirst : (do return (← r.statement) :: (← statementsUpTo r _ false))
      (opening ++ ts) = .ok (ss, rest) := hstatements
  obtain ⟨s, us, hs, hafter⟩ := bind_eq_ok.mp hfirst
  obtain ⟨after, vs, -, hend⟩ := bind_eq_ok.mp hafter
  obtain ⟨rfl, -⟩ := pure_eq_ok.mp hend
  exact ⟨s, us, after, hs, rfl⟩

end Grammar

open Grammar

/-- The tokens of a text are the first one and those of the rest. -/
theorem tokens_of_step {d : Dialect} {c : Char} {s : Text} {t : Token} {n : Nat}
    {tokens : List Token} (hstep : step d c s = .ok (t, n)) (h : Tokens d (c :: s) tokens) :
    ∃ tokens', Tokens d (s.drop n) tokens' ∧ tokens = t :: tokens' := by
  cases h with
  | cons hstep' hrest =>
    obtain ⟨rfl, rfl⟩ := Prod.mk.inj (Except.ok.inj (hstep.symm.trans hstep'))
    exact ⟨_, hrest, rfl⟩

/-- A text that begins as a table does opens as one. -/
theorem exists_of_tokenize {s : Text} {tokens : List Token}
    (h : tokenize .sqlite ("CREATE TABLE ".toList ++ s) = .ok tokens) :
    ∃ ts, tokens.filter (!·.isBlank) = opening ++ ts := by
  obtain ⟨us, hus, rfl⟩ := tokens_of_step (t := .word "CREATE".toList none) (n := 5) rfl
    (tokenize_eq_ok_iff.mp h)
  obtain ⟨vs, hvs, rfl⟩ := tokens_of_step (t := .blank) (n := 0) rfl hus
  obtain ⟨ws, hws, rfl⟩ := tokens_of_step (t := .word "TABLE".toList none) (n := 4) rfl hvs
  exact ⟨ws.filter (!·.isBlank), rfl⟩

/-! ## Definitions -/

/-- The foreign keys that an element declares. -/
def Grammar.Element.foreignKeys : Element → List ForeignKey :=
  Sum.elim ColumnText.foreignKeys TableConstraint.foreignKeys

theorem Grammar.Lists.foreignKeys_definition {ts rest : List Token} {es : List Element}
    {t : TableText} (h : Lists ts rest es t.columns t.constraints) :
    t.definition.foreignKeys =
      (es.filter (·.isLeft) ++ es.filter (·.isRight)).flatMap Element.foreignKeys := by
  have hcolumns (es : List Element) : (es.filterMap Sum.getLeft?).flatMap ColumnText.foreignKeys =
      (es.filter (·.isLeft)).flatMap Element.foreignKeys := by
    induction es with
    | nil => rfl
    | cons e es ih =>
      cases e with
      | inl c => exact congrArg (c.foreignKeys ++ ·) ih
      | inr c => exact ih
  have hconstraints (es : List Element) :
      (es.filterMap Sum.getRight?).flatMap TableConstraint.foreignKeys =
        (es.filter (·.isRight)).flatMap Element.foreignKeys := by
    induction es with
    | nil => rfl
    | cons e es ih =>
      cases e with
      | inl c => exact ih
      | inr c => exact congrArg (c.foreignKeys ++ ·) ih
  rw [List.flatMap_append, ← hcolumns, ← hconstraints, ← h.columns_eq, ← h.constraints_eq]
  rfl

/-- The foreign keys in a definition that is read off a text are those of the columns and
constraints that the text lists, and point to what the text declares : the keys of the columns in
the order of the text, and behind them those of the constraints in the order of the text. -/
theorem readTable_foreignKeys {s : Text} {d : TableDefinition}
    (h : readTable ("CREATE TABLE ".toList ++ s) = .ok d) :
    ∃ tokens rest, ∃ es : List Element,
      tokenize .sqlite ("CREATE TABLE ".toList ++ s) = .ok tokens ∧
      Declares (tokens.filter (!·.isBlank)) rest (es.flatMap Element.targets) ∧
      d.foreignKeys =
        (es.filter (·.isLeft) ++ es.filter (·.isRight)).flatMap Element.foreignKeys := by
  obtain ⟨tokens, before, t, after, htokens, hstatements, hbefore, rfl⟩ := readTable_eq_ok h
  obtain ⟨ts, hts⟩ := exists_of_tokenize htokens
  unfold Sql.statements at hstatements
  rw [hts] at hstatements
  split at hstatements
  · next ss rest hss =>
    obtain rfl := Except.ok.inj hstatements
    obtain ⟨s, us, after', hs, hall⟩ := exists_of_statements hss
    have hstatement : statement (rules .sqlite 49) (opening ++ ts) = .ok (s, us) := hs
    rw [statement_opening] at hstatement
    obtain ⟨t', vs, ht', hend⟩ := Reading.bind_eq_ok.mp hstatement
    obtain ⟨rfl, -⟩ := Reading.pure_eq_ok.mp hend
    obtain rfl : t' = t := by
      cases before with
      | nil => exact (Statement.createTable.inj (List.cons.inj hall).1).symm
      | cons u before =>
        obtain rfl := (List.cons.inj hall).1
        exact absurd List.mem_cons_self (hbefore t')
    obtain ⟨ws, es, hes⟩ := lays_tableText ts t' vs ht'
    refine ⟨tokens, ws, es, htokens, ?_, hes.foreignKeys_definition⟩
    rw [hts]
    exact hes.declares.of_isSuffix (List.suffix_append _ _)
  · cases hstatements

end AskSql.Sql
