import AskSql.Proofs.Sql.Grammar.Query
import AskSql.Sql.Grammar.Statement

/-!
# Changes are read in an orderly way

The changes that may stand in the place of a query, and with them all rules for what lies in a
query, however deep (`Rules.Orderly (rules d depth)`) : each level is read by the rules of the
level below it.
-/

namespace AskSql.Sql.Grammar

open Reading

section Change

variable (r : Rules) [r.Orderly]

/-- The two words about a conflict are seen together, or one is looked for alone. -/
instance orderly_conflictWord : Orderly conflictWord := by
  unfold conflictWord
  refine ⟨fun ts => .get_bind ?_⟩
  split
  · next t u us =>
    split
    · next h =>
      simp only [Bool.and_eq_true, List.any_eq_true] at h
      obtain ⟨ht, k, -, hu⟩ := h
      have hus : Takes (u :: us) us := Takes.tail (Token.ne_semicolon_of_isKeyword hu)
      exact .set (hus.cons (Token.ne_semicolon_of_isKeyword ht))
    · exact Orderly.at_row _
  · exact Orderly.at_row _

/-- A value for a column, or for several between parentheses. -/
instance orderly_assignment : Orderly (assignment r) := by
  unfold assignment
  infer_instance

instance orderly_assignments : Orderly (assignments r) := by
  unfold assignments
  infer_instance

/-- What is answered are items as in a selection. -/
instance orderly_returning : Orderly (returning r) := by
  unfold returning
  infer_instance

/-- What is done is told behind the words `DO` or `KEY`, with the columns in front of it. -/
instance orderly_onConflict : Orderly (onConflict r) := by
  unfold onConflict
  refine .bind fun on => .ite (.bind fun conflict => .ite ?_ inferInstance) inferInstance
  refine .bind fun named => ?_
  extract_lets -underBinder action
  suffices ∀ u, Orderly (action u) by clear_value action; infer_instance
  refine fun _ => .bind fun _ => .bind fun nothing => ?_
  infer_instance

/-- The rows of an insertion are those of a query, unless values are given by default or by name. -/
instance orderly_insertedRows : Orderly (insertedRows r) := by
  unfold insertedRows
  refine .bind fun default => .ite inferInstance (.bind fun ts => ?_)
  extract_lets -underBinder source
  suffices ∀ u, Orderly (source u) by clear_value source; infer_instance
  intro u
  infer_instance

/-- An insertion goes to a directory or into a table, told by the words in front of it. -/
instance orderly_insertion : Orderly (insertion r) := by
  unfold insertion
  refine .bind fun _ => ?_
  extract_lets -underBinder target
  suffices ∀ u, Orderly (target u) by clear_value target; infer_instance
  refine fun _ => .bind fun _ => .bind fun _ => .bind fun _ => .bind fun directory => .ite ?_ ?_
  · infer_instance
  · refine .bind fun _ => .bind fun _ => .bind fun _ => ?_
    extract_lets -underBinder conflict
    suffices ∀ u, Orderly (conflict u) by clear_value conflict; infer_instance
    intro u
    infer_instance

/-- The tables that an update draws on stand in front of the values or behind them. -/
instance orderly_update : Orderly (update r) := by
  unfold update
  refine .bind fun _ => .bind fun _ => .bind fun before => ?_
  extract_lets -underBinder values
  suffices ∀ u, Orderly (values u) by clear_value values; infer_instance
  refine fun _ => .bind fun _ => .bind fun _ => ?_
  extract_lets -underBinder rest
  suffices ∀ u, Orderly (rest u) by clear_value rest; infer_instance
  intro u
  infer_instance

/-- The tables, the condition and the clauses behind it, each of which may be missing. -/
instance orderly_deletion : Orderly (deletion r) := by
  unfold deletion
  refine .bind fun started => ?_
  extract_lets -underBinder tables
  suffices ∀ u, Orderly (tables u) by clear_value tables; infer_instance
  refine fun _ => .bind fun _ => .bind fun drawn => ?_
  extract_lets -underBinder conditions
  suffices ∀ u, Orderly (conditions u) by clear_value conditions; infer_instance
  refine fun _ => .bind fun _ => .bind fun _ => .bind fun ordered => ?_
  infer_instance

/-- The first word tells which change it is, or that there is none. -/
instance orderly_change : Orderly (change r) := by
  unfold change
  infer_instance

end Change

/-! ## Depth -/

/-- Each level is read by the rules of the level below it, and at the bottom nothing is read. -/
instance orderly_rules (d : Dialect) (depth : Nat) : (rules d depth).Orderly := by
  induction depth with
  | zero =>
    exact ⟨fun _ => inferInstanceAs (Orderly (throw Trouble.tooDeep)),
      inferInstanceAs (Orderly (throw Trouble.tooDeep))⟩
  | succ depth ih =>
    exact ⟨fun strength => inferInstanceAs (Orderly (operation (rules d depth) strength)),
      inferInstanceAs (Orderly (query (rules d depth) (change (rules d depth))))⟩

end AskSql.Sql.Grammar
