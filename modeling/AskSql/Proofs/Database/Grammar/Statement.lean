import AskSql.Database.Grammar.Statement
import AskSql.Proofs.Database.Grammar.Table

/-!
# Statements that define a table

Of all statements, one that starts with `CREATE TABLE` defines a table with a draft, and the draft
has the foreign keys that the statement declares (`declares_wholeStatement`).
-/

namespace AskSql.Database

/-- The definition is one of a table with columns. -/
def Definition.isTable : Definition → Bool
  | .table .. => true
  | _ => false

/-- The statement defines something. -/
def Statement.isDefinition : Statement → Bool
  | .define _ => true
  | _ => false

/-- What a statement drafts, if it defines a table with columns. -/
def Statement.drafted? : Statement → Option (NewName × Draft × Grammar.TableOptions × Text)
  | .define (.table n (some d) o sql) => some (n, d, o, sql)
  | _ => none

/-- What a statement drafts tells which statement it is. -/
theorem Statement.eq_of_drafted? {s : Statement} {n : NewName} {d : Draft}
    {o : Grammar.TableOptions} {sql : Text} (h : s.drafted? = some (n, d, o, sql)) :
    s = .define (.table n (some d) o sql) := by
  unfold drafted? at h
  split at h
  · cases h
    rfl
  · cases h

/-! ## Readers of other things -/

namespace Reader

variable {α β : Type} {p : α → Bool}

/-- What the reader gives does not satisfy `p`. -/
class Avoids (p : α → Bool) (x : Reader α) : Prop where
  eq_false : ∀ {ps a rest}, x ps = .ok (a, rest) → p a = false

/-- What is given is given last. -/
theorem Avoids.bind {x : Reader β} {f : β → Reader α} (h : ∀ b, Avoids p (f b)) :
    Avoids p (x >>= f) where
  eq_false hx := by
    obtain ⟨b, qs, -, hb⟩ := bind_eq_ok.mp hx
    exact (h b).eq_false hb

/-- Neither way of a branch gives what is avoided. -/
theorem Avoids.ite {c : Prop} [Decidable c] {x y : Reader α} (hx : Avoids p x) (hy : Avoids p y) :
    Avoids p (if c then x else y) := by
  split
  · exact hx
  · exact hy

instance avoids_bind (x : Reader β) (f : β → Reader α) [∀ b, Avoids p (f b)] :
    Avoids p (x >>= f) :=
  .bind fun _ => inferInstance

instance avoids_ite (c : Prop) [Decidable c] (x y : Reader α) [Avoids p x] [Avoids p y] :
    Avoids p (if c then x else y) :=
  .ite inferInstance inferInstance

theorem Avoids.pure {a : α} (h : p a = false) : Avoids p (Pure.pure a) where
  eq_false hb := by
    obtain ⟨rfl, -⟩ := pure_eq_ok.mp hb
    exact h

end Reader

namespace Grammar

open Reader

variable {r : Rules} {free : Naming}

section Others

open Statement Definition

instance avoids_table_pure_view (n : NewName) (columns : List Text) (q : Query)
    (body : List Piece) (sql : Text) :
    Avoids isTable (pure (.view n columns q body sql)) :=
  .pure rfl

instance avoids_table_pure_index (n : NewName) (table : Text) (parts : List KeyPart) (unique : Bool)
    (condition : Option (Expr × List Piece)) (sql : Text) :
    Avoids isTable (pure (.index n table parts unique condition sql)) :=
  .pure rfl

instance avoids_table_pure_virtual (n : NewName) (provider sql : Text) :
    Avoids isTable (pure (.virtual n provider sql)) :=
  .pure rfl

instance avoids_table_pure_result (n : NewName) (isNew : Bool) (q : Query) :
    Avoids isTable (pure (.result n isNew q)) :=
  .pure rfl

/-- What is given of a view is a view. -/
instance avoids_table_view (temporary : Bool) : Avoids isTable (view r temporary) := by
  unfold view
  infer_instance

/-- What is given of an index is an index. -/
instance avoids_table_index (unique : Bool) : Avoids isTable (index r unique) := by
  unfold index
  infer_instance

/-- A virtual table has no columns of its own. -/
instance avoids_table_virtualTable : Avoids isTable virtualTable := by
  unfold virtualTable
  infer_instance

instance avoids_definition_pure_drop (kind : DroppedKind) (ifThere : Bool) (target : Target) :
    Avoids isDefinition (pure (.drop kind ifThere target)) :=
  .pure rfl

instance avoids_definition_pure_insert (i : Insertion) : Avoids isDefinition (pure (.insert i)) :=
  .pure rfl

instance avoids_definition_pure_modify (m : Modification) :
    Avoids isDefinition (pure (.modify m)) :=
  .pure rfl

instance avoids_definition_pure_query (q : Query) : Avoids isDefinition (pure (.query q)) :=
  .pure rfl

instance avoids_definition_pure_switch (name : Text) (value : Option Text) :
    Avoids isDefinition (pure (.switch name value)) :=
  .pure rfl

instance avoids_definition_pure_transaction (t : Transaction) :
    Avoids isDefinition (pure (.transaction t)) :=
  .pure rfl

instance avoids_definition_pure_rest : Avoids isDefinition (pure .rest) :=
  .pure rfl

instance avoids_definition_dropping : Avoids isDefinition dropping := by
  unfold dropping
  infer_instance

instance avoids_definition_switch : Avoids isDefinition switch := by
  unfold switch
  infer_instance

/-- Each change of rows ends with an insertion or a modification. -/
instance avoids_definition_change (commons : List Common) :
    Avoids isDefinition (change r commons) := by
  unfold change
  refine .bind fun inserted => .ite inferInstance (.bind fun replaced => .ite inferInstance ?_)
  refine .bind fun deleted => .ite ?_ ?_
  · exact .bind fun target => .bind fun _ => .bind fun condition => inferInstance
  · exact .bind fun _ => .bind fun conflict => .bind fun target => .bind fun _ => .bind fun _ =>
      .bind fun changes => inferInstance

/-- A change of rows, or a query. -/
instance avoids_definition_rowStatement : Avoids isDefinition (rowStatement r) := by
  unfold rowStatement
  infer_instance

end Others

/-! ## Tables -/

/-- A name, behind the words that make its table optional. -/
instance keyless_newName (temporary : Bool) : Keyless (newName temporary) := by
  unfold newName
  refine .bind fun unlessThere => ?_
  infer_instance

/-- An option of a table is told by its words, and any other is refused. -/
instance keyless_tableOption (o : TableOptions) : Keyless (tableOption o) := by
  unfold tableOption
  extract_lets unknown
  have hunknown (taken : List Piece) : Keyless (unknown taken) :=
    inferInstanceAs (Keyless (refuse _))
  infer_instance

/-- One option after the other, by induction on how many there may be. -/
instance keyless_tableOptions (fuel : Nat) (o : TableOptions) : Keyless (tableOptions fuel o) := by
  induction fuel generalizing o with
  | zero => exact inferInstanceAs (Keyless stuck)
  | succ fuel ih =>
    unfold tableOptions
    infer_instance

variable {ps rest : List Piece} {n : NewName} {d : Draft} {o : TableOptions} {sql : Text}

/-- Whether a name is free is told without a look at the text. -/
theorem eq_of_isFree {isNew : Bool} (h : isFree free n ps = .ok (isNew, rest)) :
    free n = .ok isNew ∧ rest = ps := by
  unfold isFree at h
  cases hfree : free n with
  | error e =>
    rw [hfree] at h
    cases h
  | ok b =>
    rw [hfree] at h
    obtain ⟨rfl, rfl⟩ := pure_eq_ok.mp h
    exact ⟨rfl, rfl⟩

/-- The elements of a table between their parentheses. -/
theorem drafts_body [r.Keyless] (o : Option Draft) :
    Drafts o [] Prod.fst (spanned do
      symbol "("
      let d ← fun ps => elements r (ps.length + 1) o ps
      symbol ")"
      return d) := by
  have helements : Drafts o [] id fun ps => elements r (ps.length + 1) o ps :=
    fun ps a rest h => drafts_elements r o (ps.length + 1) ps a rest h
  have hbody : Drafts o [] id (do
      symbol "("
      let d ← fun ps => elements r (ps.length + 1) o ps
      symbol ")"
      return d) :=
    .keyless_bind fun _ => helements.bind fun o' => .keyless_bind fun _ => .pure rfl
  exact hbody.spanned

instance keyless_allTableOptions : Keyless fun ps => tableOptions (ps.length + 1) {} ps where
  passes h := Keyless.passes (x := tableOptions _ _) h

/-- What is read behind the elements of a table. -/
theorem eq_of_tableEnd {o' : Option Draft} {own body : List Piece} {n' : NewName}
    (h : (do
      if ← sees fun t => (looseNameOf? reserved t).isSome then
        let (options, taken) ← spanned fun ps => tableOptions (ps.length + 1) {} ps
        return .table n' o' options
          ("CREATE TABLE ".toList ++ Piece.writtenWithGap (own ++ body ++ taken))
      else return .table n' o' {} ("CREATE TABLE ".toList ++ Piece.written (own ++ body)) :
        Reader Definition) ps = .ok (.table n (some d) o sql, rest)) :
    n' = n ∧ o' = some d ∧ "CREATE TABLE ".toList <+: sql ∧ Passes ps rest := by
  obtain ⟨hasOptions, qs, hqs, hend⟩ := bind_eq_ok.mp h
  split at hend
  · obtain ⟨⟨options, taken⟩, us, hus, hlast⟩ := bind_eq_ok.mp hend
    obtain ⟨heq, rfl⟩ := pure_eq_ok.mp hlast
    cases heq
    exact ⟨rfl, rfl, List.prefix_append _ _, (Keyless.passes hqs).trans (Keyless.passes hus)⟩
  · obtain ⟨heq, rfl⟩ := pure_eq_ok.mp hend
    cases heq
    exact ⟨rfl, rfl, List.prefix_append _ _, Keyless.passes hqs⟩

/-- A draft comes from a name that is free, and has the keys that are declared. The database keeps
a text for it that begins as a table does. -/
theorem declares_table [r.Keyless] {temporary : Bool}
    (h : table free r temporary ps = .ok (.table n (some d) o sql, rest)) :
    free n = .ok true ∧ "CREATE TABLE ".toList <+: sql ∧ Declares ps rest d.references := by
  obtain ⟨⟨n', own⟩, qs, hname, hafterName⟩ := bind_eq_ok.mp h
  obtain ⟨isQuery, us, hquery, hafterAs⟩ := bind_eq_ok.mp hafterName
  have hpass : Passes ps us := (Keyless.passes hname).trans (Keyless.passes hquery)
  split at hafterAs
  · obtain ⟨isNew, vs, -, hresult⟩ := bind_eq_ok.mp hafterAs
    obtain ⟨q, ws, -, hresult⟩ := bind_eq_ok.mp hresult
    cases (pure_eq_ok.mp hresult).1
  obtain ⟨opens, us', hopens, hafterSeen⟩ := bind_eq_ok.mp hafterAs
  obtain ⟨-, rfl⟩ := Prod.mk.inj (Except.ok.inj hopens)
  split at hafterSeen
  · obtain ⟨isNew, vs, hfree, hafterFree⟩ := bind_eq_ok.mp hafterSeen
    obtain ⟨hnew, rfl⟩ := eq_of_isFree hfree
    obtain ⟨⟨o', body⟩, ws, hbody, hafterBody⟩ := bind_eq_ok.mp hafterFree
    obtain ⟨ks, hks, hextends⟩ := drafts_body _ _ _ _ hbody
    obtain ⟨rfl, rfl, hsql, hrest⟩ := eq_of_tableEnd hafterBody
    cases isNew with
    | false => cases hextends
    | true =>
      cases hextends with
      | some heq =>
        have hkeys : d.references = ks := heq
        rw [hkeys, ← List.append_nil ks]
        exact ⟨hnew, hsql, (hks.of_passes hpass).trans (.done hrest)⟩
  · cases hafterSeen

/-- Of what may be defined, only a table that is not made from a query has a draft. -/
theorem declares_definition [r.Keyless]
    (h : definition free r ps = .ok (.table n (some d) o sql, rest)) :
    free n = .ok true ∧ "CREATE TABLE ".toList <+: sql ∧ Declares ps rest d.references := by
  have hother {x : Reader Definition} (h : Avoids Definition.isTable x) {qs : List Piece}
      (hx : x qs = .ok (.table n (some d) o sql, rest)) : False := by
    cases h.eq_false hx
  have htemporary : Spares (·.isAmong ["TEMP", "TEMPORARY"]) :=
    ⟨fun ht => isReference_eq_false_of_isAmong ht (by decide)⟩
  obtain ⟨isTemporary, qs, hqs, hafter⟩ := bind_eq_ok.mp h
  have hpass : Passes ps qs := Keyless.passes hqs
  have htable {temporary isTable : Bool} {us : List Piece}
      (hus : acceptsKeyword "TABLE" qs = .ok (isTable, us))
      (hkind : table free r temporary us = .ok (.table n (some d) o sql, rest)) :
      free n = .ok true ∧ "CREATE TABLE ".toList <+: sql ∧ Declares ps rest d.references := by
    obtain ⟨hnew, hsql, hdeclares⟩ := declares_table hkind
    exact ⟨hnew, hsql, hdeclares.of_passes (hpass.trans (Keyless.passes hus))⟩
  split at hafter
  · obtain ⟨isTable, us, hus, hkind⟩ := bind_eq_ok.mp hafter
    split at hkind
    · exact htable hus hkind
    · exact (hother inferInstance hkind).elim
  · obtain ⟨isTable, us, hus, hkind⟩ := bind_eq_ok.mp hafter
    split at hkind
    · exact htable hus hkind
    · refine (hother ?_ hkind).elim
      refine .bind fun isView => .ite inferInstance (.bind fun isUnique => .ite inferInstance ?_)
      exact .bind fun isIndex => inferInstance

/-- A statement that defines a table with a draft has a name that is free, and declares the foreign
keys of the draft. The text that the database keeps for it begins as a table does. -/
theorem declares_wholeStatement
    (h : wholeStatement free ps = .ok (.define (.table n (some d) o sql), rest)) :
    free n = .ok true ∧ "CREATE TABLE ".toList <+: sql ∧ Declares ps rest d.references := by
  obtain ⟨s, qs, hs, hend⟩ := bind_eq_ok.mp h
  have hlast : s = .define (.table n (some d) o sql) ∧ Passes qs rest := by
    cases qs with
    | nil =>
      obtain ⟨rfl, rfl⟩ := Prod.mk.inj (Except.ok.inj hend)
      exact ⟨rfl, .refl _⟩
    | cons p qs =>
      dsimp only at hend
      split at hend
      · next hp =>
        obtain ⟨rfl, rfl⟩ := Prod.mk.inj (Except.ok.inj hend)
        exact ⟨rfl, .tail (isReference_eq_false_of_isSymbol hp) qs⟩
      · cases hend
  obtain ⟨rfl, hrest⟩ := hlast
  have hstatement : statement free (rules (ps.length + 1)) ps =
      .ok (.define (.table n (some d) o sql), qs) := hs
  obtain ⟨isCreate, us, hus, hafter⟩ := bind_eq_ok.mp hstatement
  split at hafter
  · obtain ⟨definition, vs, hdefinition, hpure⟩ := bind_eq_ok.mp hafter
    obtain ⟨heq, rfl⟩ := pure_eq_ok.mp hpure
    obtain rfl := Statement.define.inj heq
    obtain ⟨hnew, hsql, hdeclares⟩ := declares_definition hdefinition
    refine ⟨hnew, hsql, ?_⟩
    rw [← List.append_nil d.references]
    exact (hdeclares.of_passes (Keyless.passes hus)).trans (.done hrest)
  · refine absurd ((Avoids.bind (p := Statement.isDefinition) fun isDrop => ?_).eq_false hafter)
      (nomatch ·)
    refine .ite inferInstance (.bind fun isSwitch => .ite inferInstance ?_)
    refine .bind fun isTransaction => .ite inferInstance (.bind fun isRest => ?_)
    infer_instance

end Grammar
end AskSql.Database
