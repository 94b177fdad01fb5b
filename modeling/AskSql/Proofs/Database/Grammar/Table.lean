import AskSql.Database.Grammar.Table
import AskSql.Proofs.Database.Draft
import AskSql.Proofs.Database.Grammar.Query

/-!
# Keys in the order of the text

The columns and constraints of a table are read into a draft. At each `REFERENCES` that is read on
the way a foreign key is declared, and what follows the word is what the key points to
(`Declares`). Each reader of the grammar adds to the draft the keys that it declares, behind those
that are there (`Drafts`).

`drafts_elements` : reading the elements of a table adds to its draft the keys that they declare, in
the order of the text.
-/

namespace AskSql.Database.Grammar

open Reader

variable {p : Piece} {ps qs rest : List Piece} {k : KeyShape} {ks ls : List KeyShape}

/-! ## What follows a key -/

/-- The words for a conflict are not `REFERENCES`. -/
instance sparesName_conflictNamed? : SparesName conflictNamed? where
  isReference_eq_false {t c} h := by
    obtain ⟨⟨k, c'⟩, hmem, hk⟩ := List.exists_of_findSome?_eq_some h
    have hwords : ∀ e ∈ [("ROLLBACK", Conflict.rollback), ("ABORT", .abort), ("FAIL", .fail),
        ("IGNORE", .ignore), ("REPLACE", .replace)], e.1 ≠ "REFERENCES" := by decide
    obtain ⟨ht, -⟩ := Option.ite_none_right_eq_some.mp hk
    exact isReference_eq_false_of_isKeyword ht (hwords _ hmem)

/-- What is done about a conflict stands behind two words. -/
instance keyless_onConflict : Keyless onConflict := by
  unfold onConflict
  infer_instance

instance keyless_autoincrement : Keyless autoincrement := by
  unfold autoincrement
  infer_instance

instance keyless_sortOrder : Keyless sortOrder := by
  unfold sortOrder
  infer_instance

/-- A name in a list, which may be refused for what follows it. -/
instance keyless_columnName : Keyless columnName := by
  unfold columnName
  infer_instance

instance keyless_columnNames : Keyless columnNames := by
  unfold columnNames
  infer_instance

/-- What becomes of a row is told by words. -/
instance keyless_keyAction : Keyless keyAction := by
  unfold keyAction
  refine .bind fun set => .ite (.bind fun null => .ite inferInstance inferInstance) ?_
  exact .bind fun cascade => .ite inferInstance (.bind fun restrict => inferInstance)

/-- What is said about a key is told by words and names, by induction on how much there may be. -/
instance keyless_keyParts (k : KeyShape) (fuel : Nat) : Keyless (keyParts k fuel) := by
  induction fuel generalizing k with
  | zero => exact inferInstanceAs (Keyless stuck)
  | succ fuel ih =>
    unfold keyParts
    refine .bind fun isMatch => .ite (.bind fun n => inferInstance) (.bind fun isOn => .ite ?_ ?_)
    · refine .bind fun isDelete => .ite (.bind fun action => inferInstance) ?_
      exact .bind fun isUpdate => .ite (.bind fun action => inferInstance) inferInstance
    · infer_instance

/-- The target of a key, the columns there, and what is said about the key. -/
instance keyless_keyTarget : Keyless keyTarget := by
  unfold keyTarget
  infer_instance

/-- When a key is looked at is told by words. -/
instance keyless_deferral : Keyless deferral := by
  unfold deferral
  refine .bind fun initially => .ite (.bind fun deferred => ?_) inferInstance
  infer_instance

/-- A value of its own is an operand, which is seen before it is read. -/
instance keyless_literal (r : Rules) [r.Keyless] : Keyless (literal r) := by
  unfold literal
  infer_instance

instance sparesName_nameOf?_notValues : SparesName (nameOf? notValues) :=
  inferInstanceAs (SparesName (nameOf? (reserved ++ joining)))

/-- A default is an expression between parentheses, a number with its sign, a value or a word. -/
instance keyless_defaultValue (r : Rules) [r.Keyless] : Keyless (defaultValue r) := by
  unfold defaultValue
  refine .bind fun opened => .ite inferInstance (.bind fun signed => .ite inferInstance ?_)
  exact .bind fun valued => .ite inferInstance inferInstance

/-- A column of a key with its order. -/
instance keyless_keyPart (r : Rules) [r.Keyless] : Keyless (keyPart r) := by
  unfold keyPart
  refine .bind fun ⟨o, taken⟩ => ?_
  cases o
  infer_instance

/-! ## Declared keys -/

/-- On the way from a row of pieces to the rest of it, the keys `ks` are declared : each of them at
a `REFERENCES` behind the one before it, and by what is read there. -/
inductive Declares : List Piece → List Piece → List KeyShape → Prop
  | done {ps rest : List Piece} (h : Passes ps rest) : Declares ps rest []
  | key {p : Piece} {ps qs us rest : List Piece} {k : KeyShape} {written : Text}
    {ks : List KeyShape} (h : Passes ps (p :: qs)) (hp : p.token.isReference = true)
    (htarget : keyTarget qs = .ok ((k, written), us)) (hrest : Declares us rest ks) :
    Declares ps rest (k :: ks)

/-- What is passed in front of the keys declares none. -/
theorem Declares.of_passes (hpass : Passes ps qs) (h : Declares qs rest ks) :
    Declares ps rest ks := by
  cases h with
  | done h => exact .done (hpass.trans h)
  | key h hp htarget hrest => exact .key (hpass.trans h) hp htarget hrest

/-- The keys of one stretch and then those of the next one. -/
theorem Declares.trans (h : Declares ps qs ks) (h' : Declares qs rest ls) :
    Declares ps rest (ks ++ ls) := by
  induction h with
  | done hpass => exact h'.of_passes hpass
  | key hpass hp htarget _ ih => exact .key hpass hp htarget (ih h')

/-- What is said about a key names no column of its own and does not put it off. -/
theorem columns_deferred_keyParts {fuel : Nat} {k' : KeyShape}
    (hk : k.columns = [] ∧ k.deferred = false) (h : keyParts k fuel ps = .ok (k', rest)) :
    k'.columns = [] ∧ k'.deferred = false := by
  induction fuel generalizing k ps with
  | zero => cases h
  | succ fuel ih =>
    obtain ⟨isMatch, qs, -, h⟩ := bind_eq_ok.mp h
    split at h
    · obtain ⟨n, us, -, h⟩ := bind_eq_ok.mp h
      exact ih hk h
    obtain ⟨isOn, us, -, h⟩ := bind_eq_ok.mp h
    split at h
    · obtain ⟨isDelete, vs, -, h⟩ := bind_eq_ok.mp h
      split at h
      · obtain ⟨action, ws, -, h⟩ := bind_eq_ok.mp h
        exact ih (k := { k with onDelete := action }) hk h
      obtain ⟨isUpdate, ws, -, h⟩ := bind_eq_ok.mp h
      split at h
      · obtain ⟨action, xs, -, h⟩ := bind_eq_ok.mp h
        exact ih (k := { k with onUpdate := action }) hk h
      · obtain ⟨⟨⟩, xs, -, h⟩ := bind_eq_ok.mp h
        obtain ⟨action, ys, -, h⟩ := bind_eq_ok.mp h
        exact ih hk h
    · obtain ⟨rfl, -⟩ := pure_eq_ok.mp h
      exact hk

/-- What is read behind `REFERENCES` has no columns of its own, and is not put off. -/
theorem reference_keyTarget {written : Text} (h : keyTarget ps = .ok ((k, written), rest)) :
    k.reference = k := by
  obtain ⟨⟨target, taken⟩, qs, -, h⟩ := bind_eq_ok.mp h
  obtain ⟨targetColumns, us, -, h⟩ := bind_eq_ok.mp h
  obtain ⟨k', vs, hparts, h⟩ := bind_eq_ok.mp h
  obtain ⟨heq, -⟩ := pure_eq_ok.mp h
  obtain ⟨rfl, -⟩ := Prod.mk.inj heq
  obtain ⟨hcolumns, hdeferred⟩ := columns_deferred_keyParts ⟨rfl, rfl⟩ hparts
  rw [KeyShape.reference, ← hcolumns, ← hdeferred]

/-! ## Readers of drafts -/

/-- If there is a draft, it becomes one with the keys `ks` behind its own. -/
def Extends (o o' : Option Draft) (ks : List KeyShape) : Prop :=
  Option.Rel (fun d d' => d'.references = d.references ++ ks) o o'

/-- A reader that makes the draft `draft a` of the draft `o` : it adds the keys that it declares,
and before them the keys `ks` that have been declared right before it. -/
def Drafts {α : Type} (o : Option Draft) (ks : List KeyShape) (draft : α → Option Draft)
    (x : Reader α) : Prop :=
  ∀ ps a rest, x ps = .ok (a, rest) →
    ∃ ls, Declares ps rest ls ∧ Extends o (draft a) (ks ++ ls)

section Drafts

variable {α β : Type} {o o' o'' : Option Draft} {draft : α → Option Draft}
  {draft' : β → Option Draft} {x y : Reader α} {f : α → Reader β} {g : β → Reader α}

theorem Extends.refl : ∀ o : Option Draft, Extends o o []
  | none => .none
  | some _ => .some (List.append_nil _).symm

/-- The keys of one step and then those of the next one. -/
theorem Extends.trans (h : Extends o o' ks) (h' : Extends o' o'' ls) :
    Extends o o'' (ks ++ ls) := by
  cases h with
  | none =>
    cases h'
    exact .none
  | some heq =>
    cases h' with
    | some heq' => exact .some (by rw [heq', heq, List.append_assoc])

/-- What is read next starts from the draft that is there. -/
theorem Drafts.bind (hx : Drafts o ks draft x) (hf : ∀ a, Drafts (draft a) [] draft' (f a)) :
    Drafts o ks draft' (x >>= f) := by
  intro ps b rest h
  obtain ⟨a, qs, ha, hb⟩ := bind_eq_ok.mp h
  obtain ⟨ls, hls, hextends⟩ := hx ps a qs ha
  obtain ⟨ms, hms, hextends'⟩ := hf a qs b rest hb
  refine ⟨ls ++ ms, hls.trans hms, ?_⟩
  rw [← List.append_assoc]
  exact hextends.trans hextends'

/-- What declares no key may be read in front. -/
theorem Drafts.keyless_bind {y : Reader β} [Keyless y] (hg : ∀ b, Drafts o ks draft (g b)) :
    Drafts o ks draft (y >>= g) := by
  intro ps a rest h
  obtain ⟨b, qs, hb, ha⟩ := bind_eq_ok.mp h
  obtain ⟨ls, hls, hextends⟩ := hg b qs a rest ha
  exact ⟨ls, hls.of_passes (Keyless.passes hb), hextends⟩

/-- Each way of a branch drafts its keys. -/
theorem Drafts.ite {c : Prop} [Decidable c] (hx : Drafts o ks draft x)
    (hy : Drafts o ks draft y) : Drafts o ks draft (if c then x else y) := by
  split
  · exact hx
  · exact hy

/-- The pieces that a reader takes are no part of the draft. -/
theorem Drafts.spanned (hx : Drafts o ks draft x) :
    Drafts o ks (fun a => draft a.1) (Reader.spanned x) := by
  intro ps a rest h
  unfold Reader.spanned at h
  split at h
  · next b us hb =>
    obtain ⟨rfl, rfl⟩ := Prod.mk.inj (Except.ok.inj h)
    exact hx ps b us hb
  · cases h

theorem Drafts.pure {a : α} (h : draft a = o) : Drafts o [] draft (Pure.pure a) := by
  intro ps b rest hb
  obtain ⟨rfl, rfl⟩ := pure_eq_ok.mp hb
  rw [← h]
  exact ⟨[], .done (.refl _), .refl _⟩

theorem Drafts.stuck : Drafts o ks draft Reader.stuck := by
  intro ps a rest h
  cases h

/-- A step on the draft adds keys if it does so wherever it succeeds ; without a draft there is
nothing to add to. -/
theorem drafts_drafting {step : Draft → Except StoreError Draft}
    (h : ∀ d d', step d = .ok d' → d'.references = d.references ++ ks) :
    Drafts o ks id (drafting step o) := by
  intro ps o' rest hx
  cases o with
  | none =>
    obtain ⟨rfl, rfl⟩ := pure_eq_ok.mp hx
    exact ⟨[], .done (.refl _), .none⟩
  | some d =>
    cases hd : step d with
    | error e =>
      simp only [drafting, hd] at hx
      cases hx
    | ok d' =>
      simp only [drafting, hd] at hx
      obtain ⟨rfl, rfl⟩ := pure_eq_ok.mp hx
      exact ⟨[], .done (.refl _), .some (by rw [List.append_nil, h d d' hd])⟩

/-- A step that adds no key. -/
theorem drafts_drafting_of_eq {step : Draft → Except StoreError Draft}
    (h : ∀ d d', step d = .ok d' → d'.references = d.references) :
    Drafts o [] id (drafting step o) :=
  drafts_drafting fun d d' hd => by rw [h d d' hd, List.append_nil]

/-- A step that adds the key that has been declared right before it. -/
theorem drafts_addForeignKey (columns : Option (List Text)) {written : Text}
    (hk : k.reference = k) :
    Drafts o [k] id (drafting (·.addForeignKey columns k written) o) :=
  drafts_drafting fun d d' hd => by rw [Draft.references_addForeignKey hd, hk]

/-- A key is declared at `REFERENCES`. -/
theorem Drafts.keyword_bind {g : KeyShape × Text → Reader α}
    (hg : ∀ k written, k.reference = k → Drafts o [k] draft (g (k, written))) :
    Drafts o [] draft (do keyword "REFERENCES"; keyTarget >>= g) := by
  intro ps a rest h
  cases ps with
  | nil => cases h
  | cons p ps =>
    cases hp : p.token.isReference with
    | false =>
      rw [bind_apply, keyword_cons_of_not hp] at h
      cases h
    | true =>
      rw [bind_apply, keyword_cons hp] at h
      obtain ⟨⟨k, written⟩, qs, htarget, ha⟩ := bind_eq_ok.mp h
      obtain ⟨ls, hls, hextends⟩ := hg k written (reference_keyTarget htarget) qs a rest ha
      exact ⟨k :: ls, .key (.refl _) hp htarget hls, hextends⟩

/-- A key is declared at a `REFERENCES` that may be missing. -/
theorem Drafts.acceptsKeyword_bind {g : KeyShape × Text → Reader α}
    (hg : ∀ k written, k.reference = k → Drafts o [k] draft (g (k, written)))
    (hy : Drafts o [] draft y) :
    Drafts o [] draft
      (acceptsKeyword "REFERENCES" >>= fun found => if found then keyTarget >>= g else y) := by
  intro ps a rest h
  cases ps with
  | nil => exact hy [] a rest h
  | cons p ps =>
    cases hp : p.token.isKeyword "REFERENCES" with
    | false =>
      rw [bind_apply, acceptsKeyword_cons, hp] at h
      exact hy (p :: ps) a rest h
    | true =>
      have hkeyword : (do keyword "REFERENCES"; keyTarget >>= g : Reader α) (p :: ps) =
          .ok (a, rest) := by
        rw [bind_apply, acceptsKeyword_cons, hp] at h
        rw [bind_apply, keyword_cons hp]
        exact h
      exact Drafts.keyword_bind hg (p :: ps) a rest hkeyword

end Drafts

/-! ## Elements -/

variable (r : Rules) [r.Keyless] (o : Option Draft)

/-- A condition adds no key. -/
theorem drafts_condition : Drafts o [] id (condition r o) := by
  unfold condition
  refine .keyless_bind fun opening => .keyless_bind fun ⟨e, taken⟩ => .keyless_bind fun _ => ?_
  exact drafts_drafting_of_eq fun d d' hd => by rw [← Except.ok.inj hd]; rfl

/-- How a column is computed adds no key. -/
theorem drafts_generation : Drafts o [] id (generation r o) := by
  unfold generation
  refine .keyless_bind fun _ => .keyless_bind fun ⟨e, taken⟩ => .keyless_bind fun _ => ?_
  extract_lets isKind add
  have hadd (kind : Option Text) : Drafts o [] id (add kind) :=
    drafts_drafting_of_eq fun d d' hd => Draft.references_addGenerated hd
  refine .keyless_bind fun seen => .ite ?_ ?_
  · exact .keyless_bind fun kind => hadd kind
  · exact .keyless_bind fun kind => hadd kind

/-- What is told of a column : only a reference adds a key. -/
theorem drafts_columnPart? : Drafts o [] (·.getD o) (columnPart? r o) := by
  unfold columnPart?
  extract_lets some'
  have hsome {ks : List KeyShape} {x : Reader (Option Draft)} (hx : Drafts o ks id x) :
      Drafts o ks (·.getD o) (some' x) :=
    hx.bind fun o' => .pure rfl
  refine .keyless_bind fun isLabel => .ite ?label <|
    .keyless_bind fun isDefault => .ite ?default <|
    .keyless_bind fun isNull => .ite ?null <|
    .keyless_bind fun isNegated => .ite ?negated <|
    .keyless_bind fun isDeferrable => .ite ?deferrable <|
    .keyless_bind fun isPrimary => .ite ?primary <|
    .keyless_bind fun isUnique => .ite ?unique <|
    .keyless_bind fun isCheck => .ite (hsome (drafts_condition r o)) <|
    .acceptsKeyword_bind (fun k written hk => hsome (drafts_addForeignKey none hk)) <|
    .keyless_bind fun isCollate => .ite ?collate <|
    .keyless_bind fun isGenerated => .ite (hsome (drafts_generation r o)) <|
    .keyless_bind fun isAs => .ite (hsome (drafts_generation r o)) (.pure rfl)
  case label =>
    exact .keyless_bind fun n => hsome (drafts_drafting_of_eq fun d d' hd => by
      rw [← Except.ok.inj hd]; rfl)
  case default =>
    exact .keyless_bind fun x =>
      hsome (drafts_drafting_of_eq fun d d' hd => Draft.references_addDefault hd)
  case null =>
    exact .keyless_bind fun conflict => .pure rfl
  case negated =>
    refine .keyless_bind fun isDeferrable => .ite ?_ ?_
    · exact .keyless_bind fun deferred => hsome (drafts_drafting_of_eq fun d d' hd => by
        rw [← Except.ok.inj hd, Draft.references_deferKey])
    · exact .keyless_bind fun _ => .keyless_bind fun conflict =>
        hsome (drafts_drafting_of_eq fun d d' hd => by
          rw [← Except.ok.inj hd, Draft.references_addNotNull])
  case deferrable =>
    exact .keyless_bind fun deferred => hsome (drafts_drafting_of_eq fun d d' hd => by
      rw [← Except.ok.inj hd, Draft.references_deferKey])
  case primary =>
    exact .keyless_bind fun descending => .keyless_bind fun conflict => .keyless_bind fun counted =>
      hsome (drafts_drafting_of_eq fun d d' hd => Draft.references_addPrimaryKey hd)
  case unique =>
    exact .keyless_bind fun conflict =>
      hsome (drafts_drafting_of_eq fun d d' hd => Draft.references_addUnique hd)
  case collate =>
    exact .keyless_bind fun n =>
      hsome (drafts_drafting_of_eq fun d d' hd => Draft.references_addCollation hd)

/-- What is told of a column is told in order, by induction on how much there may be. -/
theorem drafts_columnParts (fuel : Nat) : Drafts o [] id (columnParts r fuel o) := by
  induction fuel generalizing o with
  | zero => exact .stuck
  | succ fuel ih =>
    refine (drafts_columnPart? r o).bind fun part => ?_
    cases part with
    | none => exact .pure rfl
    | some o' => exact ih o'

/-- A column adds the keys that are told of it. -/
theorem drafts_column : Drafts o [] id (column r o) := by
  unfold column
  refine .keyless_bind fun n => .keyless_bind fun type => ?_
  refine (drafts_drafting_of_eq fun d d' hd => Draft.references_addColumn hd).bind fun o' => ?_
  exact fun ps a rest h => drafts_columnParts r o' (ps.length + 1) ps a rest h

/-- Of the constraints, only a foreign key adds one. -/
theorem drafts_tableConstraint : Drafts o [] id (tableConstraint r o) := by
  unfold tableConstraint
  refine .keyless_bind fun isLabel => .ite ?label <|
    .keyless_bind fun isPrimary => .ite ?primary <|
    .keyless_bind fun isUnique => .ite ?unique <|
    .keyless_bind fun isCheck => .ite ?check ?foreign
  case label =>
    exact .keyless_bind fun n => drafts_drafting_of_eq fun d d' hd => by
      rw [← Except.ok.inj hd]; rfl
  case primary =>
    exact .keyless_bind fun _ => .keyless_bind fun parts => .keyless_bind fun counted =>
      .keyless_bind fun _ => .keyless_bind fun conflict =>
        drafts_drafting_of_eq fun d d' hd => Draft.references_addPrimaryKey hd
  case unique =>
    exact .keyless_bind fun parts => .keyless_bind fun conflict =>
      drafts_drafting_of_eq fun d d' hd => Draft.references_addUnique hd
  case check =>
    exact (drafts_condition r o).bind fun o' => .keyless_bind fun conflict => .pure rfl
  case foreign =>
    refine .keyless_bind fun _ => .keyless_bind fun columns => .keyword_bind fun k written hk => ?_
    refine (drafts_addForeignKey (some columns) hk).bind fun o' => ?_
    refine .keyless_bind fun isNegated => .keyless_bind fun isFollowed => ?_
    extract_lets -underBinder negated end'
    have hend : Drafts o' [] id (end' ()) := by
      refine .keyless_bind fun isDeferrable => .ite ?_ (.pure rfl)
      exact .keyless_bind fun deferred => drafts_drafting_of_eq fun d d' hd => by
        rw [← Except.ok.inj hd, Draft.references_deferKey]
    exact .ite (.keyless_bind fun _ => hend) hend

/-- The constraints add their keys in order, by induction on how many there may be. -/
theorem drafts_tableConstraints (fuel : Nat) : Drafts o [] id (tableConstraints r fuel o) := by
  induction fuel generalizing o with
  | zero => exact .stuck
  | succ fuel ih =>
    refine (drafts_tableConstraint r o).bind fun o' => .keyless_bind fun comma => .ite ?_ ?_
    · have hlabel : Drafts o' [] id (drafting (fun d => .ok { d with label := none }) o') :=
        drafts_drafting_of_eq fun d d' hd => by
          rw [← Except.ok.inj hd]
          rfl
      exact hlabel.bind fun o'' => ih o''
    · exact .keyless_bind fun more => .ite (ih o') (.pure rfl)

/-- The keys that the columns of a table declare, and those of the constraints behind them. -/
theorem drafts_elements (fuel : Nat) : Drafts o [] id (elements r fuel o) := by
  induction fuel generalizing o with
  | zero => exact .stuck
  | succ fuel ih =>
    refine (drafts_column r o).bind fun o' => .keyless_bind fun comma => .ite ?_ (.pure rfl)
    refine .keyless_bind fun constraint => .ite ?_ (ih o')
    exact fun ps a rest h => drafts_tableConstraints r o' (ps.length + 1) ps a rest h

end AskSql.Database.Grammar
