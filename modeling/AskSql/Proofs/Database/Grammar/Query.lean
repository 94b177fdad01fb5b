import AskSql.Database.Grammar.Query
import AskSql.Proofs.Database.Grammar.Expression

/-!
# Queries declare no key

Selections and sources, and with them all rules for what is nested in a table, however deep
(`Rules.Keyless (rules depth)`) : each level is read by the rules of the level below it.
-/

namespace AskSql.Database.Grammar

open Reader

namespace Rules

variable (r : Rules) [r.Keyless]

/-! ## Sources -/

/-- The words of a join are names that are seen before they are taken. What they ask for may be
refused. -/
instance keyless_joinBefore : Reader.Keyless joinBefore := by
  have hjoin (words : List Text) : Reader.Keyless (match joinOf words with
      | .ok j => pure (some j)
      | .error e => refuse e) := by
    split <;> infer_instance
  unfold joinBefore
  refine .bind fun comma => .ite inferInstance (.bind fun plain => .ite inferInstance ?_)
  refine .bind fun worded => .ite (.bind fun first => .bind fun last => ?_) inferInstance
  extract_lets -underBinder third
  suffices ∀ second, Reader.Keyless (third second) by clear_value third; infer_instance
  refine fun second => .bind fun last => ?_
  extract_lets -underBinder join
  suffices ∀ words, Reader.Keyless (join words) by clear_value join; infer_instance
  exact fun words => .bind fun _ => hjoin _

instance keyless_called : Reader.Keyless called := by
  unfold called
  infer_instance

/-- The index that is to be used is told by its name behind two words. -/
instance keyless_indexChoice : Reader.Keyless indexChoice := by
  unfold indexChoice
  refine .bind fun indexed => .ite (.bind fun _ => inferInstance) (.bind fun not => ?_)
  infer_instance

/-- A condition, or the columns that are equal, or nothing. -/
instance keyless_tie : Reader.Keyless r.tie := by
  unfold tie
  refine .bind fun on => .ite inferInstance (.bind fun using' => ?_)
  infer_instance

/-- What stands between parentheses is a query or sources, and any other source has a name. -/
instance keyless_source : Reader.Keyless r.source := by
  unfold source
  refine .bind fun opened => .ite (.bind fun queried => inferInstance) (.bind fun name => ?_)
  refine .bind fun called => .ite inferInstance ?_
  infer_instance

/-- One source after the other, by induction on how many there may be. -/
instance keyless_moreSources (first : Bool) (fuel : Nat) :
    Reader.Keyless (r.moreSources first fuel) := by
  induction fuel generalizing first with
  | zero => exact inferInstanceAs (Reader.Keyless stuck)
  | succ fuel ih =>
    unfold moreSources
    extract_lets more
    have hmore (j : Option Join) : Reader.Keyless (more j) := by
      unfold more
      split <;> infer_instance
    infer_instance

instance keyless_sourceList : Reader.Keyless r.sourceList := by
  unfold sourceList
  infer_instance

/-! ## Selections -/

/-- A star, a star of one table, or an expression with the pieces that it was read from. -/
instance keyless_item : Reader.Keyless r.item := by
  unfold item
  infer_instance

/-- Each window is passed over between its parentheses. -/
instance keyless_windows : Reader.Keyless windows := by
  unfold windows
  refine .bind fun word => .bind fun known => .bind fun as => ?_
  extract_lets named
  have hwindow : Reader.Keyless (do
      let _ ← name
      keyword "AS"
      symbol "("
      passEnclosed 0) :=
    .bind fun _ => inferInstance
  exact .ite (.bind fun _ => inferInstance) inferInstance

/-- The two numbers stand in either order, told by what is between them. -/
instance keyless_limit : Reader.Keyless r.limit := by
  unfold limit
  refine .bind fun limited => .ite (.bind fun e => .bind fun skipped => ?_) inferInstance
  infer_instance

/-- One row after the other, by induction on how many there may be. -/
instance keyless_moreRows (width fuel : Nat) : Reader.Keyless (r.moreRows width fuel) := by
  induction fuel with
  | zero => exact inferInstanceAs (Reader.Keyless stuck)
  | succ fuel ih =>
    unfold moreRows
    infer_instance

/-- A selection is its clauses in their order, each of which may be missing. -/
instance keyless_clauses (distinct : Bool) (items : List Item) :
    Reader.Keyless (r.clauses distinct items) := by
  unfold clauses
  refine .bind fun sources => .bind fun condition => .bind fun grouped => ?_
  extract_lets -underBinder having
  suffices ∀ groups, Reader.Keyless (having groups) by clear_value having; infer_instance
  refine fun groups => .bind fun having => .bind fun _ => .bind fun order => ?_
  infer_instance

/-- Rows of values, or a selection with its clauses. -/
instance keyless_part : Reader.Keyless r.part := by
  unfold part
  refine .bind fun values => .ite inferInstance (.bind fun _ => .bind fun distinct => ?_)
  extract_lets -underBinder items
  suffices ∀ u, Reader.Keyless (items u) by clear_value items; infer_instance
  intro u
  infer_instance

/-- How two queries are put together is told by words. -/
instance keyless_combination : Reader.Keyless combination := by
  unfold combination
  refine .bind fun union => .ite inferInstance (.bind fun intersect => .ite inferInstance ?_)
  infer_instance

/-- One query after the other, by induction on how many there may be. -/
instance keyless_moreParts (fuel : Nat) : Reader.Keyless (r.moreParts fuel) := by
  induction fuel with
  | zero => exact inferInstanceAs (Reader.Keyless stuck)
  | succ fuel ih =>
    unfold moreParts
    refine .bind fun c => ?_
    split <;> infer_instance

/-- What is wrong with the order of the parts is told when all of them have been read. -/
instance keyless_combined (commons : List Common) : Reader.Keyless (r.combined commons) := by
  unfold combined
  refine .bind fun first => .bind fun rest => ?_
  split <;> infer_instance

instance keyless_columnNames : Reader.Keyless columnNames := by
  unfold columnNames
  infer_instance

/-- A query with a name of its own stands between parentheses. -/
instance keyless_common : Reader.Keyless r.common := by
  unfold common
  refine .bind fun n => .bind fun columns => .bind fun _ => .bind fun not => ?_
  extract_lets -underBinder query
  suffices ∀ whole, Reader.Keyless (query whole) by clear_value query; infer_instance
  intro whole
  infer_instance

/-- A name that two queries have in common is told when all of them have been read. -/
instance keyless_commons : Reader.Keyless r.commons := by
  have hall (all : List Common) : Reader.Keyless (match repeatedName? [] all with
      | some name => refuse (fault ("duplicate WITH table name: ".toList ++ name))
      | none => pure all) := by
    split <;> infer_instance
  unfold commons
  refine .bind fun named => .ite (.bind fun word => .bind fun name => ?_) inferInstance
  extract_lets -underBinder recursive queries
  suffices ∀ u, Reader.Keyless (queries u) by clear_value queries; infer_instance
  intro u
  infer_instance

instance keyless_fullQuery : Reader.Keyless r.fullQuery := by
  unfold fullQuery
  infer_instance

end Rules

/-! ## Depth -/

/-- Each level is read by the rules of the level below it, and at the bottom nothing is read. -/
instance keyless_rules (depth : Nat) : (rules depth).Keyless := by
  induction depth with
  | zero =>
    exact ⟨fun _ => inferInstanceAs (Reader.Keyless stuck), inferInstanceAs (Reader.Keyless stuck),
      inferInstanceAs (Reader.Keyless stuck)⟩
  | succ depth ih =>
    exact ⟨fun level => inferInstanceAs (Reader.Keyless ((rules depth).expression level)),
      inferInstanceAs (Reader.Keyless (rules depth).fullQuery),
      inferInstanceAs (Reader.Keyless (rules depth).sourceList)⟩

end AskSql.Database.Grammar
