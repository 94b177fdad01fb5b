import AskSql.Proofs.Sql.Grammar.Expression
import AskSql.Sql.Grammar.Query

/-!
# Queries are read in an orderly way

Tables lie in each other, and so do the bodies of queries; each of them is orderly by induction
on how deep they do. What takes tokens whatever they are is a table that stands for all its
rows, behind the word `TABLE`.
-/

namespace AskSql.Sql.Grammar

open Reading

variable (r : Rules) [r.Orderly]

/-! ## Other names -/

/-- What may be another name without `AS` is a word or a literal, and neither is a semicolon. -/
instance orderly_otherName (reserved : List String) : Orderly (otherName reserved) := by
  unfold otherName
  refine .bind fun named => ?_
  split
  · infer_instance
  · refine .peek_bind (Orderly.at_row _) fun t ts => ?_
    split
    · next h =>
      obtain rfl := Option.some.inj h
      split
      · exact Orderly.at_row _
      · exact .skip_bind (Token.word_ne_semicolon _ _) (Orderly.at_row ts)
    · next h =>
      obtain rfl := Option.some.inj h
      exact .skip_bind (Token.literal_ne_semicolon _ _) (Orderly.at_row ts)
    · exact Orderly.at_row _

/-- Names of columns, each with a type or without, between parentheses. -/
instance orderly_columnNames : Orderly columnNames := by
  unfold columnNames
  infer_instance

/-- The names of columns follow only behind another name of the table. -/
instance orderly_tableOtherName : Orderly tableOtherName := by
  unfold tableOtherName
  infer_instance

/-- What follows an item is told by what it is : columns that are left out, or another name. -/
instance orderly_selectItem : Orderly (selectItem r) := by
  unfold selectItem
  refine .bind fun x => ?_
  split <;> infer_instance

/-! ## Tables -/

/-- Where the size of a sample is no expression, a word stands for it, which is no semicolon. -/
instance orderly_sample : Orderly (sample r) := by
  have hword (p : Reading Unit) (f : Unit → Reading Unit) [Orderly p] [∀ u, Orderly (f u)] :
      Orderly (do
        if (← next).isWord then p
        else
          let u ← unexpected
          f u) :=
    .next_bind (fun _ _ => inferInstance) rfl
  unfold sample
  refine .bind fun sampled => .ite (.bind fun _ => .bind fun opened => ?_) inferInstance
  extract_lets -underBinder size
  suffices ∀ bucket, Orderly (size bucket) by clear_value size; infer_instance
  intro bucket
  simp -zeta only [size]
  extract_lets -underBinder close
  suffices ∀ u, Orderly (close u) by
    clear_value close
    refine .ite (.bind fun _ => .bind fun _ => .bind fun _ => .bind fun based => ?_) ?_
    · infer_instance
    · refine .bind fun x => ?_
      extract_lets -underBinder unit
      suffices ∀ u, Orderly (unit u) by clear_value unit; infer_instance
      intro u
      infer_instance
  intro u
  simp -zeta only [close]
  extract_lets -underBinder seed
  suffices ∀ u, Orderly (seed u) by clear_value seed; infer_instance
  refine fun _ => .bind fun seeded => ?_
  extract_lets -underBinder offset
  suffices ∀ u, Orderly (offset u) by clear_value offset; infer_instance
  intro u
  infer_instance

/-- The values that become columns are told by an order, by a query or one by one. -/
instance orderly_pivot : Orderly (pivot r) := by
  unfold pivot
  refine .bind fun _ => .bind fun _ => .bind fun _ => .bind fun _ => .bind fun _ => .bind fun _ =>
    .bind fun any => ?_
  extract_lets -underBinder default
  suffices ∀ u, Orderly (default u) by
    clear_value default
    refine .ite inferInstance (.bind fun queried => ?_)
    infer_instance
  refine fun _ => .bind fun _ => .bind fun given => ?_
  infer_instance

/-- The names of the columns that become values stand between parentheses. -/
instance orderly_unpivot : Orderly unpivot := by
  unfold unpivot
  refine .bind fun _ => .bind fun _ => .bind fun _ => .bind fun _ => .bind fun _ => ?_
  infer_instance

/-- Each turn is told by its first word. -/
instance orderly_turned : Orderly (turned r) := by
  have hturn (x : Option String) : Orderly (do
      match x with
      | some "PIVOT" => pivot r; return true
      | some _ => unpivot; return true
      | none => return false) := by
    split <;> infer_instance
  unfold turned
  infer_instance

instance orderly_derivedTable : Orderly (derivedTable r) := by
  unfold derivedTable
  infer_instance

/-- The arguments of a table, of which there may be none. -/
instance orderly_tableArguments : Orderly (tableArguments r) := by
  unfold tableArguments
  infer_instance

/-- The hints on a table are seen as a whole, a word and a parenthesis, before they are taken. -/
instance orderly_namedTable : Orderly (namedTable r) := by
  have hhints : Orderly (do
      match afterKeywords? ["WITH"] (← get) with
      | some (.symbol ['('] :: ts) =>
        set ts
        r.expressions
        requireSymbol ")"
      | _ => pure ()
      sample r
      turned r) := by
    refine ⟨fun ts => .get_bind ?_⟩
    split
    · next us h =>
      have hus : Takes ts us := (takes_of_afterKeywords? h).trans (Takes.tail (by decide))
      exact .set_bind hus (Orderly.at_row us)
    · exact Orderly.at_row ts
  unfold namedTable
  refine .bind fun _ => ?_
  extract_lets -underBinder call
  suffices ∀ u, Orderly (call u) by clear_value call; infer_instance
  refine fun _ => .bind fun called => ?_
  extract_lets -underBinder names
  suffices ∀ u, Orderly (names u) by clear_value names; infer_instance
  exact fun _ => .bind fun _ => .bind fun _ => hhints

/-- A condition, or the columns that are equal, or nothing. -/
instance orderly_joinCondition : Orderly (joinCondition r) := by
  unfold joinCondition
  infer_instance

/-- The words of a join are told apart by the first of them. -/
instance orderly_joinWord? : Orderly joinWord? := by
  unfold joinWord?
  refine .bind fun _ => .bind fun cross => .ite inferInstance ?_
  refine .bind fun outer => .ite inferInstance ?_
  refine .bind fun nearest => .ite inferInstance ?_
  refine .bind fun natural => .bind fun inner => .ite inferInstance ?_
  refine .bind fun sided => .ite inferInstance ?_
  refine .bind fun half => .ite inferInstance ?_
  infer_instance

/-- A table may be a join between parentheses, and what is joined is a table : both are orderly by
induction on how deep tables lie in each other. -/
theorem orderly_table_and_joins (fuel : Nat) : Orderly (table r fuel) ∧ Orderly (joins r fuel) := by
  induction fuel with
  | zero => exact ⟨inferInstanceAs (Orderly unexpected), inferInstanceAs (Orderly unexpected)⟩
  | succ fuel ih =>
    obtain ⟨_, _⟩ := ih
    constructor
    · unfold table
      refine .bind fun lateral => ?_
      split
      · infer_instance
      refine .bind fun word => ?_
      split
      · infer_instance
      refine .bind fun opened => ?_
      split
      · refine .bind fun derived => ?_
        split <;> infer_instance
      · infer_instance
    · unfold joins
      refine .bind fun x => ?_
      split
      · infer_instance
      · refine .bind fun joined => ?_
        split <;> infer_instance

instance orderly_table (fuel : Nat) : Orderly (table r fuel) :=
  (orderly_table_and_joins r fuel).1

instance orderly_joins (fuel : Nat) : Orderly (joins r fuel) :=
  (orderly_table_and_joins r fuel).2

/-- The row tells how deep tables may lie in each other. -/
instance orderly_joinedTable : Orderly (joinedTable r) := by
  unfold joinedTable
  infer_instance

instance orderly_joinedTables : Orderly (joinedTables r) := by
  unfold joinedTables
  infer_instance

/-! ## Selections -/

/-- A number of rows, or a share of them. -/
instance orderly_top : Orderly (top r) := by
  unfold top
  infer_instance

/-- What makes rows equal may be told between parentheses. -/
instance orderly_distinctness : Orderly (distinctness r) := by
  unfold distinctness
  refine .bind fun all => .bind fun distinct => .ite ?_ inferInstance
  extract_lets -underBinder on
  suffices ∀ u, Orderly (on u) by clear_value on; infer_instance
  intro u
  infer_instance

/-- What rows are brought together by are expressions, or sets of them behind words of their own. -/
instance orderly_grouping : Orderly (grouping r) := by
  have hgroup : Orderly (do
      if ← keywords ["GROUPING", "SETS"] then
        let _ ← parenthesized (list (parenthesized (listUnless ")" r.expression)))
      else if ← oneOf ["CUBE", "ROLLUP"] then
        let _ ← parenthesized r.expressions
      else
        let _ ← r.expression) := by
    infer_instance
  unfold grouping
  refine .bind fun grouped => .ite (.bind fun all => ?_) inferInstance
  infer_instance

/-- A window between parentheses, or the name of one. -/
instance orderly_namedWindow : Orderly (namedWindow r) := by
  unfold namedWindow
  infer_instance

instance orderly_condition (w : String) : Orderly (condition r w) := by
  unfold condition
  infer_instance

instance orderly_clause (ws : List String) : Orderly (clause r ws) := by
  unfold clause
  infer_instance

/-- The windows come first or the condition on them does. -/
instance orderly_windows : Orderly (windows r) := by
  unfold windows
  refine .bind fun named => .ite inferInstance (.bind fun qualified => ?_)
  infer_instance

/-- Each view is told by its first two words. -/
instance orderly_lateralViews : Orderly (lateralViews r) := by
  unfold lateralViews
  infer_instance

/-- A selection is its clauses in their order, each of which may be missing. -/
instance orderly_selection : Orderly (selection r) := by
  unfold selection
  refine .bind fun _ => .bind fun topped => ?_
  extract_lets -underBinder items
  suffices ∀ u, Orderly (items u) by clear_value items; infer_instance
  intro u
  simp -zeta only [items]
  extract_lets -underBinder selected
  suffices ∀ empty, Orderly (selected empty) by clear_value selected; infer_instance
  intro empty
  simp -zeta only [selected]
  extract_lets -underBinder into
  suffices ∀ u, Orderly (into u) by clear_value into; infer_instance
  refine fun _ => .bind fun target => ?_
  extract_lets -underBinder origin
  suffices ∀ u, Orderly (origin u) by clear_value origin; infer_instance
  refine fun _ => .bind fun tables => ?_
  extract_lets -underBinder views
  suffices ∀ u, Orderly (views u) by clear_value views; infer_instance
  refine fun _ => .bind fun _ => ?_
  extract_lets -underBinder conditions
  suffices ∀ u, Orderly (conditions u) by clear_value conditions; infer_instance
  refine fun _ => .bind fun _ => .bind fun _ => .bind fun _ => .bind fun _ => ?_
  infer_instance

instance orderly_rows : Orderly (rows r) := by
  unfold rows
  infer_instance

/-- The set operator that comes next is seen and not taken. -/
instance orderly_setStrength : Orderly setStrength := by
  unfold setStrength
  infer_instance

/-- What becomes of equal rows is told by words. -/
instance orderly_setQuantifier : Orderly setQuantifier := by
  unfold setQuantifier
  infer_instance

/-- What is left behind a table that stands for all its rows is the end of the row, but two tokens
in front of it may be any : it is not orderly. -/
theorem isSuffix_of_wholeTable {u : Unit} {ts rest : List Token}
    (h : wholeTable ts = .ok (u, rest)) : rest <:+ ts := by
  obtain ⟨row, us, hrow, htable⟩ := bind_eq_ok.mp h
  obtain ⟨rfl, rfl⟩ := Prod.mk.inj (Except.ok.inj hrow)
  split at htable
  · next quote _ _ t vs =>
    split at htable
    · obtain ⟨-, rfl⟩ := Prod.mk.inj (Except.ok.inj htable)
      exact ⟨[_, _, t], rfl⟩
    · cases htable
  · next vs _ =>
    split at htable
    · cases htable
    · obtain ⟨-, rfl⟩ := Prod.mk.inj (Except.ok.inj htable)
      exact (List.drop_suffix 2 vs).trans (List.suffix_cons _ vs)
  · cases htable

/-- Behind the word `TABLE` tokens may be taken unseen, and what comes after them is orderly
again. -/
instance orderly_wholeTable_or (f : Unit → Reading Unit) (p : Reading Unit) [∀ u, Orderly (f u)]
    [Orderly p] :
    Orderly (do
      if ← keyword "TABLE" then
        let u ← wholeTable
        f u
      else p) where
  at_row ts := by
    intro a rest h
    obtain ⟨b, us, hkeyword, hrest⟩ := bind_eq_ok.mp h
    split at hrest
    · next hb =>
      obtain ⟨_, vs, htable, hrest⟩ := bind_eq_ok.mp hrest
      obtain ⟨t, rfl, ht⟩ := eq_of_keyword (hb ▸ hkeyword)
      have hvs : Takes (t :: us) vs := Takes.of_isBlind (Or.inr ht) (isSuffix_of_wholeTable htable)
      exact hvs.trans (Orderly.at_row vs _ _ hrest)
    · exact (Orderly.at_row ts _ _ hkeyword).trans (Orderly.at_row us _ _ hrest)

/-- Where a set operator comes next, the next token is no semicolon. -/
theorem eq_cons_of_setStrength {n : Nat} {ts us : List Token} (h : setStrength ts = .ok (n, us))
    (hn : 0 < n) : us = ts ∧ ∃ t vs, ts = t :: vs ∧ t ≠ .semicolon := by
  obtain ⟨b, vs, hahead, hrest⟩ := bind_eq_ok.mp h
  obtain rfl := eq_of_aheadOneOf hahead
  have hus : us = vs := by
    split at hrest
    · exact (pure_eq_ok.mp hrest).2.symm
    · obtain ⟨c, ws, hintersect, hlast⟩ := bind_eq_ok.mp hrest
      obtain rfl := eq_of_ahead hintersect
      split at hlast <;> exact (pure_eq_ok.mp hlast).2.symm
  refine ⟨hus, ?_⟩
  rcases vs with - | ⟨t, ws⟩
  · obtain ⟨rfl, -⟩ := Prod.mk.inj (Except.ok.inj h)
    exact absurd hn (by decide)
  · refine ⟨t, ws, rfl, ?_⟩
    rintro rfl
    obtain ⟨rfl, -⟩ := Prod.mk.inj (Except.ok.inj h)
    exact absurd hn (by decide)

/-- The sets set against a body are bodies themselves : both are orderly by induction on how many
there may be. The operator between them is skipped, once it is seen. -/
theorem orderly_body_and_further (fuel : Nat) :
    (∀ strength, Orderly (body r fuel strength)) ∧
      ∀ strength, Orderly (further r fuel strength) := by
  induction fuel with
  | zero =>
    exact ⟨fun _ => inferInstanceAs (Orderly unexpected),
      fun _ => inferInstanceAs (Orderly unexpected)⟩
  | succ fuel ih =>
    obtain ⟨_, _⟩ := ih
    constructor
    · intro strength
      unfold body
      refine .bind fun selected => ?_
      extract_lets -underBinder rest
      have hrest (u : Unit) : Orderly (rest u) :=
        inferInstanceAs (Orderly (further r fuel strength))
      clear_value rest
      refine .ite inferInstance (.bind fun enclosed => .ite inferInstance ?_)
      refine .bind fun valued => .ite inferInstance ?_
      exact orderly_wholeTable_or rest _
    · intro strength
      unfold further
      refine ⟨fun ts => .bind (Orderly.at_row ts) fun n us hn => ?_⟩
      split
      · next hlt =>
        obtain ⟨rfl, t, vs, rfl, ht⟩ := eq_cons_of_setStrength hn (Nat.zero_lt_of_lt hlt)
        exact .skip_bind ht (Orderly.at_row vs)
      · exact Orderly.at_row us

instance orderly_body (fuel strength : Nat) : Orderly (body r fuel strength) :=
  (orderly_body_and_further r fuel).1 strength

/-- A query between parentheses, behind its name. -/
instance orderly_commonTable : Orderly (commonTable r) := by
  unfold commonTable
  refine .bind fun _ => .bind fun plain => ?_
  extract_lets -underBinder query
  suffices ∀ u, Orderly (query u) by clear_value query; infer_instance
  refine fun _ => .bind fun _ => .bind fun _ => .bind fun _ => ?_
  infer_instance

instance orderly_offset : Orderly (offset r) := by
  unfold offset
  infer_instance

/-- The number of rows at most and the number that is left out stand in either order. -/
instance orderly_limit : Orderly (limit r) := by
  unfold limit
  refine .bind fun skipped => ?_
  extract_lets -underBinder most
  suffices ∀ u, Orderly (most u) by clear_value most; infer_instance
  refine fun _ => .bind fun limited => .ite (.bind fun all => ?_) inferInstance
  extract_lets -underBinder pair
  suffices ∀ u, Orderly (pair u) by clear_value pair; infer_instance
  intro u
  simp -zeta only [pair]
  extract_lets -underBinder second
  suffices ∀ pair, Orderly (second pair) by clear_value second; infer_instance
  intro pair
  simp -zeta only [second]
  refine .ite inferInstance ?_
  extract_lets -underBinder late
  suffices ∀ u, Orderly (late u) by clear_value late; infer_instance
  intro u
  infer_instance

/-- The number of rows that are fetched is told by words and a value. -/
instance orderly_fetched : Orderly fetched := by
  unfold fetched
  refine .bind fun fetching => .ite (.bind fun _ => .bind fun one => ?_) inferInstance
  extract_lets -underBinder ties
  suffices ∀ u, Orderly (ties u) by clear_value ties; infer_instance
  intro u
  infer_instance

/-- Each lock is told by words and names. -/
instance orderly_locks : Orderly locks := by
  unfold locks
  refine @orderly_repeatWhile _ ?_
  refine .bind fun locked => .ite (.bind fun browse => .ite inferInstance ?_) inferInstance
  refine .bind fun _ => .bind fun named => ?_
  infer_instance

/-- A query is its parts in their order, or the statement that stands in its place. -/
instance orderly_query (change : Reading Bool) [Orderly change] : Orderly (query r change) := by
  unfold query
  refine .bind fun named => ?_
  extract_lets -underBinder main
  suffices ∀ u, Orderly (main u) by clear_value main; infer_instance
  refine fun _ => .bind fun changed => .ite inferInstance ?_
  refine .bind fun ts => .bind fun _ => .bind fun ordered => ?_
  extract_lets -underBinder rest
  suffices ∀ u, Orderly (rest u) by clear_value rest; infer_instance
  refine fun _ => .bind fun _ => ?_
  extract_lets -underBinder last
  suffices ∀ u, Orderly (last u) by clear_value last; infer_instance
  refine fun _ => .bind fun _ => .bind fun _ => ?_
  infer_instance

end AskSql.Sql.Grammar
