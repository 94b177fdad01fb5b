import AskSql.Database.Draft

/-!
# Keys of drafts

Of all steps by which the shape of a table is drafted, one adds a foreign key, behind those that are
there; no other step changes what the keys point to, nor does the end of the definition.

`Draft.references_complete` : the keys of a table point to what the keys of its draft point to.
-/

namespace AskSql.Database

open Text

/-- Steps in sequence succeed if each of them does. -/
theorem ok_of_bind {ε α β : Type} {x : Except ε α} {f : α → Except ε β} {b : β}
    (h : x >>= f = .ok b) : ∃ a, x = .ok a ∧ f a = .ok b := by
  cases x with
  | error e => cases h
  | ok a => exact ⟨a, rfl, h⟩

/-- What a key points to and what becomes of its rows, as it is said at `REFERENCES`. -/
def KeyShape.reference (k : KeyShape) : KeyShape :=
  { k with columns := [], deferred := false }

namespace Draft

variable {d d' : Draft}

/-- What the keys of a draft point to, in the order in which they have been added. -/
def references (d : Draft) : List KeyShape :=
  d.shape.foreignKeys.map KeyShape.reference

/-- What becomes of the last column is no matter of the keys. -/
@[simp] theorem references_withColumn (d : Draft) (f : ColumnShape → ColumnShape) :
    (d.withColumn f).references = d.references := by
  unfold withColumn
  split <;> rfl

/-- A column comes without a key. -/
theorem references_addColumn {name type : Text} (h : d.addColumn name type = .ok d') :
    d'.references = d.references := by
  unfold addColumn at h
  split at h
  · cases h
  · rw [← Except.ok.inj h]
    rfl

theorem references_addDefault {isConstant : Bool} {pieces : List Piece}
    (h : d.addDefault isConstant pieces = .ok d') : d'.references = d.references := by
  unfold addDefault at h
  split at h
  · rw [← Except.ok.inj h]
  split at h
  · cases h
  split at h
  · cases h
  · rw [← Except.ok.inj h, references_withColumn]

theorem references_addGenerated {pieces : List Piece} {kind : Option Text}
    (h : d.addGenerated pieces kind = .ok d') : d'.references = d.references := by
  unfold addGenerated at h
  split at h
  · rw [← Except.ok.inj h]
  extract_lets kindIs at h
  split at h
  · cases h
  split at h
  · cases h
  · rw [← Except.ok.inj h, references_withColumn]

theorem references_addNotNull (d : Draft) (conflict : Conflict) :
    (d.addNotNull conflict).references = d.references :=
  references_withColumn d _

theorem references_addCollation {name : Text} (h : d.addCollation name = .ok d') :
    d'.references = d.references := by
  obtain ⟨c, -, h⟩ := ok_of_bind h
  split at h
  · rw [← Except.ok.inj h]
  · rw [← Except.ok.inj h]
    exact references_withColumn d _

/-- An index is no key that points to another table. -/
theorem references_addIndex {columns : List IndexColumn} {conflict : Option Conflict}
    {isPrimary : Bool} (h : d.addIndex columns conflict isPrimary = .ok d') :
    d'.references = d.references := by
  unfold addIndex at h
  extract_lets index at h
  split at h
  · rw [← Except.ok.inj h]
    rfl
  · extract_lets isSettled unique merged at h
    split at h
    · cases h
    · rw [← Except.ok.inj h]
      rfl

theorem references_addUnique {parts : Option (List KeyPart)} {conflict : Option Conflict}
    (h : d.addUnique parts conflict = .ok d') : d'.references = d.references := by
  cases parts with
  | none => exact references_addIndex h
  | some parts =>
    obtain ⟨columns, -, h⟩ := ok_of_bind h
    exact references_addIndex h

/-- A primary key points to no other table. -/
theorem references_addPrimaryKey {parts : Option (List KeyPart)} {descending : Bool}
    {conflict : Option Conflict} {autoincrement : Bool}
    (h : d.addPrimaryKey parts descending conflict autoincrement = .ok d') :
    d'.references = d.references := by
  unfold addPrimaryKey at h
  extract_lets -underBinder anew at h
  split at h
  · cases h
  unfold anew at h
  extract_lets -underBinder columns keyed at h
  split at h
  · cases h
  unfold keyed at h
  extract_lets -underBinder shape d₁ width counted at h
  have hindex (h : counted () = .ok d') : d'.references = d.references := by
    unfold counted at h
    extract_lets -underBinder indexed at h
    split at h
    · cases h
    unfold indexed at h
    extract_lets -underBinder index at h
    split at h
    · exact references_addIndex (d := d₁) h
    · obtain ⟨columns, -, h⟩ := ok_of_bind h
      exact references_addIndex (d := d₁) h
  clear_value columns
  split at h
  · split at h
    · rw [← Except.ok.inj h]
      rfl
    · exact hindex h
  · exact hindex h

/-- When a key is looked at is no matter of what it points to. -/
theorem references_deferKey (d : Draft) (deferred : Bool) :
    (d.deferKey deferred).references = d.references := by
  unfold deferKey
  split
  · next k before h =>
    have hkeys : d.shape.foreignKeys = (k :: before).reverse := by
      rw [← h, List.reverse_reverse]
    simp [references, hkeys, KeyShape.reference]
  · rfl

/-- A key that is added stands behind the others. -/
theorem references_addForeignKey {columns : Option (List Text)} {key : KeyShape} {written : Text}
    (h : d.addForeignKey columns key written = .ok d') :
    d'.references = d.references ++ [key.reference] := by
  unfold addForeignKey at h
  extract_lets -underBinder add at h
  have hadd {own : List Text} (h : add own = .ok d') :
      d'.references = d.references ++ [key.reference] := by
    rw [← Except.ok.inj h]
    simp [references, KeyShape.reference]
  split at h
  · split at h
    · cases h
    · exact hadd h
  · exact hadd h
  · split at h
    · cases h
    · obtain ⟨own, -, h⟩ := ok_of_bind h
      exact hadd h

/-- What a strict table allows is no matter of its keys. -/
theorem references_makeStrict (h : d.makeStrict = .ok d') : d'.references = d.references := by
  obtain ⟨columns, -, h⟩ := ok_of_bind h
  rw [← Except.ok.inj h]
  rfl

/-- A table without numbers of rows has the same keys. -/
theorem references_dropRowNumber (h : d.dropRowNumber = .ok d') :
    d'.references = d.references := by
  unfold dropRowNumber at h
  extract_lets -underBinder keyed at h
  split at h
  · cases h
  unfold keyed at h
  extract_lets -underBinder indexed at h
  split at h
  · cases h
  unfold indexed at h
  extract_lets -underBinder columns last at h
  split at h
  · extract_lets -underBinder collation at h
    obtain ⟨d₁, hindex, h⟩ := ok_of_bind h
    have hkept : d₁.references = d.references := references_addIndex hindex
    rw [← Except.ok.inj h]
    exact hkept
  · rw [← Except.ok.inj h]
    rfl

/-- The table that a draft becomes has the keys of the draft. -/
theorem references_complete {withoutRowNumber strict : Bool} {shape : TableShape}
    (h : d.complete withoutRowNumber strict = .ok shape) :
    shape.foreignKeys.map KeyShape.reference = d.references := by
  have hnumber {d₁ : Draft} (hd₁ : d₁.references = d.references)
      (h : (if withoutRowNumber then d₁.dropRowNumber >>= fun d => pure d.shape
        else pure d₁.shape) = .ok shape) :
      shape.foreignKeys.map KeyShape.reference = d.references := by
    split at h
    · obtain ⟨d₂, hdrop, h⟩ := ok_of_bind h
      rw [← Except.ok.inj h]
      exact (references_dropRowNumber hdrop).trans hd₁
    · rw [← Except.ok.inj h]
      exact hd₁
  unfold complete at h
  extract_lets jp at h
  split at h
  · obtain ⟨d₁, hstrict, h⟩ := ok_of_bind h
    exact hnumber (references_makeStrict hstrict) h
  · exact hnumber rfl h

end Draft
end AskSql.Database
