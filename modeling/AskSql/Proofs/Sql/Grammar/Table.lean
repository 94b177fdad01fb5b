import AskSql.Proofs.Sql.Grammar.Change

/-!
# Columns and constraints in the order of the text

The elements of a table are columns and constraints. At each `REFERENCES` that is read on the way a
foreign key is declared, and what follows the word is what the key points to (`Declares`). What is
read of an option, a column or a constraint holds the keys that are declared by it (`Tells`).

`exists_of_elements` : the columns of a table and its constraints are its elements, each kind in the
order of the text, and with the keys that they declare (`Lists`).
-/

namespace AskSql.Sql

/-- The targets of the foreign keys that an option declares. -/
def ColumnOption.targets : ColumnOption → List Reference
  | .references target => [target]
  | _ => []

/-- The targets of the foreign keys that a column declares. -/
def ColumnText.targets (c : ColumnText) : List Reference :=
  c.options.flatMap ColumnOption.targets

/-- The targets of the foreign keys that a constraint declares. -/
def TableConstraint.targets : TableConstraint → List Reference
  | .foreignKey _ target => [target]
  | _ => []

namespace Grammar

open Reading

variable (r : Rules) [r.Orderly]

/-! ## References -/

/-- What is done to a row is told by words. -/
instance orderly_referentialAction : Orderly referentialAction := by
  unfold referentialAction
  infer_instance

/-- The two actions stand in either order. -/
instance orderly_referentialActions : Orderly referentialActions := by
  unfold referentialActions
  infer_instance

/-- What has been said is not looked for again, so the induction is on how much may
still be said. -/
instance orderly_characteristicsOf (fuel : Nat) (deferrable initially enforced : Bool) :
    Orderly (characteristicsOf fuel deferrable initially enforced) := by
  induction fuel generalizing deferrable initially enforced with
  | zero => exact inferInstanceAs (Orderly (pure ()))
  | succ fuel ih =>
    unfold characteristicsOf
    extract_lets said
    have hsaid (isOpen : Bool) (ks : List String) : Orderly (said isOpen ks) :=
      inferInstanceAs (Orderly (if isOpen then keywords ks else pure false))
    clear_value said
    refine .bind fun notDeferrable => .ite inferInstance ?_
    refine .bind fun deferrable => .ite inferInstance ?_
    infer_instance

instance orderly_characteristics : Orderly characteristics := by
  unfold characteristics
  infer_instance

/-- The target of a key, the columns there, and what is said about the key. -/
instance orderly_reference : Orderly reference := by
  unfold reference
  infer_instance

/-! ## Options -/

/-- The options of a sequence of numbers stand in one order, and each may be missing. -/
instance orderly_sequenceOptions : Orderly sequenceOptions := by
  unfold sequenceOptions
  refine .bind fun increment => ?_
  extract_lets -underBinder least
  suffices ∀ u, Orderly (least u) by clear_value least; infer_instance
  refine fun _ => .bind fun bounded => ?_
  extract_lets -underBinder greatest
  suffices ∀ u, Orderly (greatest u) by clear_value greatest; infer_instance
  refine fun _ => .bind fun bounded => ?_
  extract_lets -underBinder start
  suffices ∀ u, Orderly (start u) by clear_value start; infer_instance
  refine fun _ => .bind fun started => ?_
  extract_lets -underBinder cache
  suffices ∀ u, Orderly (cache u) by clear_value cache; infer_instance
  intro u
  infer_instance

instance orderly_storage : Orderly storage := by
  unfold storage
  infer_instance

/-- A computed column is a sequence of numbers or an expression between parentheses. -/
instance orderly_generated : Orderly (generated r) := by
  unfold generated
  refine .bind fun always => ?_
  extract_lets -underBinder rest
  suffices ∀ identity, Orderly (rest identity) by clear_value rest; infer_instance
  refine fun identity => .ite ?_ ?_
  · infer_instance
  · refine .bind fun computed => .ite ?_ inferInstance
    infer_instance

/-- A comment is a literal, and no literal is a semicolon. -/
instance orderly_commentText : Orderly commentText := by
  unfold commentText
  refine Orderly.next_bind (fun t _ => ?_) rfl
  split <;> infer_instance

instance orderly_indexName : Orderly indexName := by
  unfold indexName
  infer_instance

instance orderly_indexKind : Orderly indexKind := by
  unfold indexKind
  infer_instance

instance orderly_indexOptions : Orderly indexOptions := by
  unfold indexOptions
  infer_instance

instance orderly_keyColumns : Orderly keyColumns := by
  unfold keyColumns
  infer_instance

instance orderly_ofColumn (d : Dialect) : Orderly (DataType.ofColumn d) := by
  unfold DataType.ofColumn
  split
  · refine .peek_bind (Orderly.at_row _) fun t ts => ?_
    exact Orderly.at_row _
  · infer_instance

/-! ## Declared keys -/

/-- On the way from a row of tokens to the rest of it, the foreign keys that point to `targets` are
declared : each of them at a `REFERENCES` behind the one before it, and by what is read there. -/
inductive Declares : List Token → List Token → List Reference → Prop
  | done {ts rest : List Token} (h : rest <:+ ts) : Declares ts rest []
  | key {t : Token} {ts us vs rest : List Token} {target : Reference} {targets : List Reference}
    (h : t :: us <:+ ts) (ht : t.isKeyword "REFERENCES" = true)
    (htarget : reference us = .ok (target, vs)) (hrest : Declares vs rest targets) :
    Declares ts rest (target :: targets)

section Declares

variable {ts us rest : List Token} {targets targets' : List Reference}

/-- What is skipped in front of the keys declares none. -/
theorem Declares.of_isSuffix (hsuffix : us <:+ ts) (h : Declares us rest targets) :
    Declares ts rest targets := by
  cases h with
  | done h => exact .done (h.trans hsuffix)
  | key h ht htarget hrest => exact .key (h.trans hsuffix) ht htarget hrest

/-- The keys of one stretch and then those of the next one. -/
theorem Declares.trans (h : Declares ts us targets) (h' : Declares us rest targets') :
    Declares ts rest (targets ++ targets') := by
  induction h with
  | done hsuffix => exact h'.of_isSuffix hsuffix
  | key hsuffix ht htarget _ ih => exact .key hsuffix ht htarget (ih h')

/-- What is left is the end of the row. -/
theorem Declares.isSuffix (h : Declares ts rest targets) : rest <:+ ts := by
  induction h with
  | done h => exact h
  | key h _ htarget _ ih =>
    have hvs := (Orderly.at_row _ _ _ htarget).isSuffix
    exact ih.trans (hvs.trans ((List.suffix_cons _ _).trans h))

/-- What is skipped behind the keys declares none. -/
theorem Declares.trans_isSuffix (h : Declares ts us targets) (hsuffix : rest <:+ us) :
    Declares ts rest targets := by
  have htargets := h.trans (.done hsuffix)
  rwa [List.append_nil] at htargets

end Declares

/-- What the reading gives holds the targets of the keys that it declares, behind `before`. -/
def Tells {α : Type} (before : List Reference) (targets : α → List Reference) (p : Reading α) :
    Prop :=
  ∀ ts a rest, p ts = .ok (a, rest) → ∃ new, Declares ts rest new ∧ targets a = before ++ new

section Tells

variable {α β : Type} {before : List Reference} {targets : α → List Reference}
  {targets' : β → List Reference} {p q : Reading α} {f : α → Reading β} {g : β → Reading α}

/-- The keys of one reading are held by what the next one gives, with its own behind them. -/
theorem Tells.bind (hp : Tells before targets p) (hf : ∀ a, Tells (targets a) targets' (f a)) :
    Tells before targets' (p >>= f) := by
  intro ts b rest h
  obtain ⟨a, us, ha, hb⟩ := bind_eq_ok.mp h
  obtain ⟨new, hnew, htargets⟩ := hp ts a us ha
  obtain ⟨new', hnew', htargets'⟩ := hf a us b rest hb
  exact ⟨new ++ new', hnew.trans hnew', by rw [htargets', htargets, List.append_assoc]⟩

/-- An orderly reading in front declares nothing that would be told. -/
theorem Tells.orderly_bind {p : Reading β} [Orderly p] (hg : ∀ b, Tells before targets (g b)) :
    Tells before targets (p >>= g) := by
  intro ts a rest h
  obtain ⟨b, us, hb, ha⟩ := bind_eq_ok.mp h
  obtain ⟨new, hnew, htargets⟩ := hg b us a rest ha
  exact ⟨new, hnew.of_isSuffix (Orderly.at_row ts b us hb).isSuffix, htargets⟩

/-- Each way of a branch tells its keys. -/
theorem Tells.ite {c : Prop} [Decidable c] (hp : Tells before targets p)
    (hq : Tells before targets q) : Tells before targets (if c then p else q) := by
  split
  · exact hp
  · exact hq

theorem Tells.pure {a : α} (h : targets a = before) : Tells before targets (Pure.pure a) := by
  intro ts b rest hb
  obtain ⟨rfl, rfl⟩ := pure_eq_ok.mp hb
  exact ⟨[], .done (List.suffix_refl _), by rw [h, List.append_nil]⟩

theorem Tells.unexpected : Tells before targets unexpected := by
  intro ts a rest h
  cases h

/-- A key is declared at `REFERENCES`. -/
theorem Tells.keyword_bind {g : Reference → Reading α}
    (hg : ∀ target, Tells (before ++ [target]) targets (g target))
    (hq : Tells before targets q) :
    Tells before targets
      (keyword "REFERENCES" >>= fun found => if found then reference >>= g else q) := by
  intro ts a rest h
  obtain ⟨found, us, hfound, ha⟩ := bind_eq_ok.mp h
  cases found with
  | true =>
    obtain ⟨t, rfl, ht⟩ := eq_of_keyword hfound
    obtain ⟨target, vs, htarget, ha⟩ := bind_eq_ok.mp ha
    obtain ⟨new, hnew, htargets⟩ := hg target vs a rest ha
    refine ⟨target :: new, .key (List.suffix_refl _) ht htarget hnew, ?_⟩
    rw [htargets, List.append_assoc]
    rfl
  | false =>
    obtain ⟨new, hnew, htargets⟩ := hq us a rest ha
    exact ⟨new, hnew.of_isSuffix (Orderly.at_row ts _ us hfound).isSuffix, htargets⟩

/-- A key is declared at a `REFERENCES` that has to be there. -/
theorem Tells.require_bind {g : Reference → Reading α}
    (hg : ∀ target, Tells (before ++ [target]) targets (g target)) :
    Tells before targets (do require "REFERENCES"; reference >>= g) := by
  intro ts a rest h
  obtain ⟨⟨⟩, us, hrequire, ha⟩ := bind_eq_ok.mp h
  obtain ⟨found, vs, hfound, hend⟩ := bind_eq_ok.mp hrequire
  cases found with
  | true =>
    obtain ⟨-, rfl⟩ := pure_eq_ok.mp hend
    exact Tells.keyword_bind hg .unexpected ts a rest (bind_eq_ok.mpr ⟨true, vs, hfound, ha⟩)
  | false => cases hend

end Tells

/-! ## Columns -/

/-- The targets of an option, if there is one. -/
def optionTargets (o : Option ColumnOption) : List Reference :=
  o.toList.flatMap ColumnOption.targets

/-- The targets of a constraint, if there is one. -/
def constraintTargets (c : Option TableConstraint) : List Reference :=
  c.toList.flatMap TableConstraint.targets

/-- What the reading gives satisfies `P`. -/
class Gives {α : Type} (P : α → Prop) (p : Reading α) : Prop where
  of_eq_ok : ∀ {ts a rest}, p ts = .ok (a, rest) → P a

section Gives

variable {α β : Type} {P : α → Prop} {targets : α → List Reference}

/-- What is given is given last. -/
instance gives_bind (p : Reading β) (f : β → Reading α) [∀ b, Gives P (f b)] :
    Gives P (p >>= f) where
  of_eq_ok h := by
    obtain ⟨b, us, -, hb⟩ := bind_eq_ok.mp h
    exact Gives.of_eq_ok hb

instance gives_ite (c : Prop) [Decidable c] (p q : Reading α) [Gives P p] [Gives P q] :
    Gives P (if c then p else q) := by
  split <;> infer_instance

instance gives_unexpected : Gives P unexpected where
  of_eq_ok h := by cases h

theorem Gives.pure {a : α} (h : P a) : Gives P (Pure.pure a) where
  of_eq_ok ha := by
    obtain ⟨rfl, -⟩ := pure_eq_ok.mp ha
    exact h

instance gives_option_none : Gives (optionTargets · = []) (pure none) :=
  .pure rfl

instance gives_option_other : Gives (optionTargets · = []) (pure (some .other)) :=
  .pure rfl

instance gives_option_primaryKey : Gives (optionTargets · = []) (pure (some .primaryKey)) :=
  .pure rfl

instance gives_option_nullable (b : Bool) :
    Gives (optionTargets · = []) (pure (some (.nullable b))) :=
  .pure rfl

instance gives_constraint_none : Gives (constraintTargets · = []) (pure none) :=
  .pure rfl

instance gives_constraint_other : Gives (constraintTargets · = []) (pure (some .other)) :=
  .pure rfl

instance gives_constraint_primaryKey (columns : List Name) :
    Gives (constraintTargets · = []) (pure (some (.primaryKey columns))) :=
  .pure rfl

/-- What gives no targets tells all keys, since it declares none. -/
theorem Tells.of_gives (p : Reading α) [Orderly p] [Gives (targets · = []) p] :
    Tells [] targets p := by
  intro ts a rest h
  exact ⟨[], .done (Orderly.at_row ts a rest h).isSuffix,
    Gives.of_eq_ok (P := (targets · = [])) h⟩

end Gives

/-- The options that come last declare no key. Each of them ends what is read or is passed over. -/
theorem tells_lateOption : Tells [] optionTargets (lateOption r) := by
  unfold lateOption
  refine .orderly_bind fun counted => .ite (.of_gives _) ?_
  refine .orderly_bind fun ordered => .ite (.of_gives _) ?_
  refine .orderly_bind fun updated => ?_
  extract_lets -underBinder computed
  suffices ∀ u, Tells [] optionTargets (computed u) from
    .ite (.ite (.orderly_bind fun _ => .of_gives _) (this ())) (this ())
  refine fun _ => .orderly_bind fun generated => .ite (.of_gives _) ?_
  extract_lets -underBinder kept
  suffices ∀ u, Tells [] optionTargets (kept u) from
    .ite (.orderly_bind fun given => .ite (.of_gives _) (this ())) (this ())
  refine fun _ => .orderly_bind fun as => .ite (.of_gives _) ?_
  refine .orderly_bind fun identity => ?_
  extract_lets -underBinder conflict
  suffices ∀ u, Tells [] optionTargets (conflict u) from
    .ite (.ite (.orderly_bind fun opened => .ite (.of_gives _) (.of_gives _)) (this ())) (this ())
  exact fun _ => .orderly_bind fun conflicting => .ite (.of_gives _) (.of_gives _)

/-- The options of a column are told apart by their words, and `REFERENCES` alone declares a key. -/
theorem tells_columnOption? : Tells [] optionTargets (columnOption? r) := by
  unfold columnOption?
  exact .orderly_bind fun isCharacterSet => .ite (.of_gives _) <|
    .orderly_bind fun isCollation => .ite (.of_gives _) <|
    .orderly_bind fun isNotNull => .ite (.of_gives _) <|
    .orderly_bind fun isComment => .ite (.of_gives _) <|
    .orderly_bind fun isNull => .ite (.of_gives _) <|
    .orderly_bind fun isDefault => .ite (.of_gives _) <|
    .orderly_bind fun isPrimary => .ite (.of_gives _) <|
    .orderly_bind fun isUnique => .ite (.of_gives _) <|
    .keyword_bind (fun target => .pure rfl) <|
    .orderly_bind fun isCheck => .ite (.of_gives _) (tells_lateOption r)

/-- The options of a column are told in their order, by induction on how many there may be. -/
theorem tells_columnOptions (fuel : Nat) :
    Tells [] (·.flatMap ColumnOption.targets) (columnOptions r fuel) := by
  induction fuel with
  | zero => exact .unexpected
  | succ fuel ih =>
    unfold columnOptions
    refine .orderly_bind fun named => ?_
    extract_lets -underBinder option
    have hoption : Tells [] (·.flatMap ColumnOption.targets) (option ()) := by
      refine (tells_columnOption? r).bind fun o => ?_
      cases o with
      | none => exact .ite .unexpected (.pure rfl)
      | some o =>
        intro ts os rest h
        obtain ⟨more, us, hmore, hend⟩ := bind_eq_ok.mp h
        obtain ⟨rfl, rfl⟩ := pure_eq_ok.mp hend
        obtain ⟨new, hnew, htargets⟩ := ih ts more us hmore
        exact ⟨new, hnew, by simp_all [optionTargets]⟩
    exact .ite (.orderly_bind fun n => hoption) hoption

/-- A column holds the keys of its options. -/
theorem tells_column : Tells [] ColumnText.targets (column r) := by
  unfold column
  refine .orderly_bind fun n => .orderly_bind fun declared => .orderly_bind fun ts => ?_
  exact (tells_columnOptions r _).bind fun options => .pure rfl

/-- The constraints of a table are told apart by their words, and `FOREIGN KEY` alone declares a
key. -/
theorem tells_constraint? : Tells [] constraintTargets (constraint? r) := by
  unfold constraint?
  refine .orderly_bind fun named => ?_
  extract_lets -underBinder constraint
  have hconstraint : Tells [] constraintTargets (constraint ()) := by
    refine .orderly_bind fun isUnique => .ite ?_ ?_
    · refine .orderly_bind fun indexed => ?_
      extract_lets -underBinder nulls
      suffices ∀ u, Tells [] constraintTargets (nulls u) from
        .ite (.ite (this ()) (.orderly_bind this)) (this ())
      exact fun _ => .orderly_bind fun told => .of_gives _
    · refine .orderly_bind fun isPrimary => .ite (.of_gives _) ?_
      refine .orderly_bind fun isForeign => .ite ?_ ?_
      · exact .orderly_bind fun _ => .orderly_bind fun columns =>
          .require_bind fun target => .pure rfl
      · refine .orderly_bind fun isCheck => .ite (.of_gives _) (.ite .unexpected (.ite ?_ ?_))
        · exact .orderly_bind fun isIndex => .ite (.orderly_bind fun bare => .of_gives _)
            (.of_gives _)
        · exact .of_gives _
  exact .ite (.orderly_bind fun n => hconstraint) hconstraint

/-! ## Elements -/

/-- A column or a constraint, as it stands in the text of a table. -/
abbrev Element := ColumnText ⊕ TableConstraint

/-- The targets of the foreign keys that an element declares. -/
def Element.targets : Element → List Reference :=
  Sum.elim ColumnText.targets TableConstraint.targets

/-- The columns and the constraints that a row of tokens lists on the way to the rest of it are the
elements `es`, which are in the order of the text with the keys that they declare. -/
structure Lists (ts rest : List Token) (es : List Element) (columns : List ColumnText)
    (constraints : List TableConstraint) : Prop where
  columns_eq : columns = es.filterMap Sum.getLeft?
  constraints_eq : constraints = es.filterMap Sum.getRight?
  declares : Declares ts rest (es.flatMap Element.targets)

section Lists

variable {ts us rest : List Token} {es es' : List Element} {columns columns' : List ColumnText}
  {constraints constraints' : List TableConstraint}

/-- The elements of one stretch of the text and then those of the next one. -/
theorem Lists.append (h : Lists ts us es columns constraints)
    (h' : Lists us rest es' columns' constraints') :
    Lists ts rest (es ++ es') (columns ++ columns') (constraints ++ constraints') where
  columns_eq := by rw [h.columns_eq, h'.columns_eq, List.filterMap_append]
  constraints_eq := by rw [h.constraints_eq, h'.constraints_eq, List.filterMap_append]
  declares := by
    rw [List.flatMap_append]
    exact h.declares.trans h'.declares

theorem Lists.of_isSuffix (hsuffix : us <:+ ts) (h : Lists us rest es columns constraints) :
    Lists ts rest es columns constraints :=
  { h with declares := h.declares.of_isSuffix hsuffix }

theorem Lists.trans_isSuffix (h : Lists ts us es columns constraints) (hsuffix : rest <:+ us) :
    Lists ts rest es columns constraints :=
  { h with declares := h.declares.trans_isSuffix hsuffix }

theorem Lists.nil (hsuffix : rest <:+ ts) : Lists ts rest [] [] [] :=
  ⟨rfl, rfl, .done hsuffix⟩

variable {r}

/-- A constraint that is read is one element. -/
theorem lists_of_constraint? {c : TableConstraint} (h : constraint? r ts = .ok (some c, rest)) :
    Lists ts rest [.inr c] [] [c] := by
  obtain ⟨new, hnew, htargets⟩ := tells_constraint? r ts _ _ h
  refine ⟨rfl, rfl, ?_⟩
  have htargets : c.targets = new := by simpa [constraintTargets] using htargets
  simpa [Element.targets, htargets] using hnew

/-- A column that is read is one element. -/
theorem lists_of_column {c : ColumnText} (h : column r ts = .ok (c, rest)) :
    Lists ts rest [.inl c] [c] [] := by
  obtain ⟨new, hnew, htargets⟩ := tells_column r ts _ _ h
  refine ⟨rfl, rfl, ?_⟩
  simpa [Element.targets, htargets] using hnew

theorem isSuffix_of_constraint? {o : Option TableConstraint}
    (h : constraint? r ts = .ok (o, rest)) : rest <:+ ts := by
  obtain ⟨new, hnew, -⟩ := tells_constraint? r ts _ _ h
  exact hnew.isSuffix

omit [r.Orderly] in
/-- Behind an element the text ends, or lists more. -/
theorem exists_of_elementEnd {fuel : Nat} {e : Element}
    (ih : ∀ {ts rest columns constraints}, elements r fuel ts = .ok ((columns, constraints), rest) →
      ∃ es, Lists ts rest es columns constraints)
    (he : Lists ts us [e] columns constraints)
    (h : (do
      if ← symbol ")" then return (columns, constraints)
      else
        requireSymbol ","
        let (columns', constraints') ← elements r fuel
        return (columns ++ columns', constraints ++ constraints')) us =
      .ok ((columns', constraints'), rest)) : ∃ es, Lists ts rest es columns' constraints' := by
  obtain ⟨closes, vs, hcloses, hend⟩ := bind_eq_ok.mp h
  have hvs : vs <:+ us := (Orderly.at_row us closes vs hcloses).isSuffix
  split at hend
  · obtain ⟨heq, rfl⟩ := pure_eq_ok.mp hend
    cases heq
    exact ⟨_, he.trans_isSuffix hvs⟩
  · obtain ⟨⟨⟩, ws, hcomma, hmore⟩ := bind_eq_ok.mp hend
    have hws : ws <:+ vs := (Orderly.at_row vs _ ws hcomma).isSuffix
    obtain ⟨⟨columns'', constraints''⟩, xs, helements, hlast⟩ := bind_eq_ok.mp hmore
    obtain ⟨heq, rfl⟩ := pure_eq_ok.mp hlast
    cases heq
    obtain ⟨es, hes⟩ := ih helements
    exact ⟨_, he.append (hes.of_isSuffix (hws.trans hvs))⟩

/-- The elements of a table are listed in the order of its text. -/
theorem exists_of_elements {fuel : Nat}
    (h : elements r fuel ts = .ok ((columns, constraints), rest)) :
    ∃ es, Lists ts rest es columns constraints := by
  induction fuel generalizing ts rest columns constraints with
  | zero => cases h
  | succ fuel ih =>
    obtain ⟨c, us, hc, hafter⟩ := bind_eq_ok.mp h
    cases c with
    | some c => exact exists_of_elementEnd ih (lists_of_constraint? hc) hafter
    | none =>
      have hus : us <:+ ts := isSuffix_of_constraint? hc
      obtain ⟨t, vs, ht, hword⟩ := bind_eq_ok.mp hafter
      have hvs : vs <:+ us := (Orderly.at_row us t vs ht).isSuffix
      dsimp only at hword
      split at hword
      · obtain ⟨c, ws, hc, hend⟩ := bind_eq_ok.mp hword
        have hlists : Lists ts ws [.inl c] [c] [] :=
          (lists_of_column hc).of_isSuffix (hvs.trans hus)
        exact exists_of_elementEnd ih hlists hend
      · cases hword

end Lists

end Grammar
end AskSql.Sql
