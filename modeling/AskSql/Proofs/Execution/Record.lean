import AskSql.Database.Record
import AskSql.Proofs.Execution.Row
import AskSql.Proofs.Text.Utf8
import Mathlib.Data.List.Forall2

/-!
# What a record is decoded to

Of a value of the database, a row tells what it is (`Database.Value.Shows`), with two exceptions.
An infinite number is told as a null. And a text whose bytes are no UTF-8 is not told at all, so
that the record has no row (`Database.Record.exists_decode_eq_error_iff`).

A row keeps a record if it has an entry for each column, in their order, that shows its value. It
does if and only if no label occurs twice and no number is infinite
(`Database.Record.isKept_iff`).
-/

namespace AskSql.Database

open Text

/-! ## Values -/

theorem textOf_eq_ok_iff {bytes : List UInt8} {s : Text} :
    textOf bytes = .ok s ↔ bytes = bytesOf s := by
  rw [textOf, ofUtf8_eq_ok_iff, bytesOf]
  constructor
  · intro h
    rw [← h, List.map_map]
    exact (List.map_id' bytes).symm.trans (List.map_congr_left fun b _ => UInt8.ofNat_toNat.symm)
  · rintro rfl
    rw [List.map_map]
    refine (List.map_congr_left fun n hn => ?_).trans (List.map_id' _)
    obtain ⟨c, -, hc⟩ := List.mem_flatMap.mp hn
    exact UInt8.toNat_ofNat_of_lt' (lt_of_mem_utf8 hc)

namespace Value

/-- A text whose bytes are those of no text. -/
def IsGarbled (v : Value) : Prop :=
  ∃ bytes, v = .garbled bytes ∧ ∀ s, bytes ≠ bytesOf s

/-- A number beyond all others. -/
def IsInfinite (v : Value) : Prop :=
  ∃ negative, v = .real (.infinite negative)

/-- What stands in a row says what a value of the database is. -/
inductive Shows : Json → Value → Prop
  | null : Shows .null .null
  | integer (n : Int) : Shows (.number (.integer n)) (.integer n)
  | real (negative : Bool) (m : Nat) (e : Int) :
    Shows (.number (.real (.finite negative m e))) (.real (.finite negative m e))
  | text (s : Text) : Shows (.string s) (.text s)
  | bytes (s : Text) : Shows (.string s) (.garbled (bytesOf s))
  | blob (bytes : List UInt8) :
    Shows (.array (bytes.map fun b => .natural b.toNat)) (.blob bytes)

variable {v : Value} {j : Json}

theorem Shows.not_isInfinite (h : Shows j v) : ¬ v.IsInfinite := by
  rintro ⟨negative, rfl⟩
  cases h

/-- A value is decoded to what shows it, or to a null if it is infinite. -/
theorem decode_eq_ok_iff : v.decode = .ok j ↔ Shows j v ∨ v.IsInfinite ∧ j = .null := by
  constructor
  · intro h
    cases v with
    | null => exact .inl (Except.ok.inj h ▸ .null)
    | integer n => exact .inl (Except.ok.inj h ▸ .integer n)
    | real x =>
      cases x with
      | finite negative m e => exact .inl (Except.ok.inj h ▸ .real negative m e)
      | infinite negative => exact .inr ⟨⟨negative, rfl⟩, (Except.ok.inj h).symm⟩
    | text s => exact .inl (Except.ok.inj h ▸ .text s)
    | garbled bytes =>
      cases htext : textOf bytes with
      | error fault => simp [decode, htext, Except.map] at h
      | ok s =>
        obtain rfl := textOf_eq_ok_iff.mp htext
        obtain rfl : .string s = j := by simpa [decode, htext, Except.map] using h
        exact .inl (.bytes s)
    | blob bytes => exact .inl (Except.ok.inj h ▸ .blob bytes)
  · rintro (h | ⟨⟨negative, rfl⟩, rfl⟩)
    · cases h with
      | bytes s => rw [decode, textOf_eq_ok_iff.mpr rfl]; rfl
      | _ => rfl
    · rfl

theorem exists_decode_eq_error_iff : (∃ e, v.decode = .error e) ↔ v.IsGarbled := by
  constructor
  · rintro ⟨e, h⟩
    cases v with
    | garbled bytes =>
      refine ⟨bytes, rfl, fun s hs => ?_⟩
      rw [decode, textOf_eq_ok_iff.mpr hs] at h
      cases h
    | real x => cases x <;> cases h
    | null | integer | text | blob => cases h
  · rintro ⟨bytes, rfl, hbytes⟩
    cases htext : textOf bytes with
    | error e => exact ⟨e, by rw [decode, htext]; rfl⟩
    | ok s => exact absurd (textOf_eq_ok_iff.mp htext) (hbytes s)

end Value

/-! ## Records -/

namespace Record

variable {r : Record} {rs : List Record} {row : Row} {rows : List Row}
  {pairs : List (Text × Json)}

/-- The row has an entry for each column of the record, in their order, that shows its value. -/
def IsKept (r : Record) (row : Row) : Prop :=
  List.Forall₂ (fun p q => q.1 = p.1 ∧ Value.Shows q.2 p.2) r row

theorem decodeFrom_eq_ok_iff (column : Nat) : r.decodeFrom column = .ok pairs ↔
    List.Forall₂ (fun p q => q.1 = p.1 ∧ p.2.decode = .ok q.2) r pairs := by
  induction r generalizing column pairs with
  | nil => simp [decodeFrom, eq_comm]
  | cons p r ih =>
    obtain ⟨label, v⟩ := p
    rw [decodeFrom, List.forall₂_cons_left_iff]
    cases v.decode with
    | error e => simp
    | ok value =>
      simp only [← ih (column + 1)]
      cases decodeFrom (column + 1) r with
      | error e => simp
      | ok rest => simp [eq_comm]

theorem exists_decodeFrom_eq_error_iff (column : Nat) :
    (∃ e, r.decodeFrom column = .error e) ↔ ∃ p ∈ r, p.2.IsGarbled := by
  induction r generalizing column with
  | nil => simp [decodeFrom]
  | cons p r ih =>
    obtain ⟨label, v⟩ := p
    rw [decodeFrom, List.exists_mem_cons_iff, ← ih (column + 1),
      ← Value.exists_decode_eq_error_iff]
    cases v.decode with
    | error e => simp
    | ok value => cases decodeFrom (column + 1) r <;> simp

/-- A record has no row exactly if one of its values is a text that is no UTF-8. -/
theorem exists_decode_eq_error_iff :
    (∃ e, r.decode = .error e) ↔ ∃ p ∈ r, p.2.IsGarbled := by
  rw [decode, ← exists_decodeFrom_eq_error_iff 0]
  cases r.decodeFrom 0 <;> simp

/-- The row of a record has the decoded values. -/
theorem decode_eq_ok_iff : r.decode = .ok row ↔ ∃ pairs,
    List.Forall₂ (fun p q => q.1 = p.1 ∧ p.2.decode = .ok q.2) r pairs ∧ row = .ofPairs pairs := by
  simp only [← decodeFrom_eq_ok_iff 0, decode]
  cases r.decodeFrom 0 with
  | error e => simp
  | ok pairs => simp [eq_comm]

/-- All records of a result have rows, or the result has none. -/
theorem decodeAll_eq_ok_iff :
    decodeAll rs = .ok rows ↔ List.Forall₂ (fun r row => decode r = .ok row) rs rows := by
  induction rs generalizing rows with
  | nil => simp [decodeAll, eq_comm]
  | cons r rs ih =>
    rw [decodeAll, List.forall₂_cons_left_iff]
    cases r.decode with
    | error e => simp
    | ok row =>
      simp only [← ih]
      cases decodeAll rs with
      | error e => simp
      | ok rest => simp [eq_comm]

/-! ## What is kept -/

theorem map_fst_eq_of_forall₂ {R : Text × Value → Text × Json → Prop}
    (h : List.Forall₂ (fun p q => q.1 = p.1 ∧ R p q) r row) :
    row.map Prod.fst = r.map Prod.fst := by
  induction h with
  | nil => rfl
  | cons hpq _ ih => rw [List.map_cons, List.map_cons, hpq.1, ih]

/-- A row has each label once. -/
theorem map_fst_of_decode (h : r.decode = .ok row) :
    row.map Prod.fst = distinct (r.map Prod.fst) := by
  obtain ⟨pairs, hpairs, rfl⟩ := decode_eq_ok_iff.mp h
  rw [(Row.keepsLast_ofPairs pairs).names, map_fst_eq_of_forall₂ hpairs]

/-- A row keeps the record that it is decoded from exactly if no label occurs twice and no number is
infinite. -/
theorem isKept_iff (h : r.decode = .ok row) :
    r.IsKept row ↔ (r.map Prod.fst).Nodup ∧ ∀ p ∈ r, ¬ p.2.IsInfinite := by
  constructor
  · intro hkept
    have hfinite : ∀ p ∈ r, ¬ p.2.IsInfinite :=
      ((List.forall₂_and_left _ _).mp (hkept.imp fun p q hpq => ⟨hpq.2.not_isInfinite, hpq⟩)).1
    refine ⟨?_, hfinite⟩
    -- a row never repeats a label
    rw [← map_fst_eq_of_forall₂ hkept, map_fst_of_decode h]
    exact nodup_distinct _
  · rintro ⟨hnodup, hfinite⟩
    obtain ⟨pairs, hpairs, rfl⟩ := decode_eq_ok_iff.mp h
    have hself : Row.ofPairs pairs = pairs :=
      Row.ofPairs_eq_self_iff.mpr (map_fst_eq_of_forall₂ hpairs ▸ hnodup)
    rw [IsKept, hself]
    refine ((List.forall₂_and_left _ _).mpr ⟨hfinite, hpairs⟩).imp ?_
    rintro p q ⟨hp, hname, hvalue⟩
    exact ⟨hname, (Value.decode_eq_ok_iff.mp hvalue).resolve_right fun hinfinite => hp hinfinite.1⟩

end Record
end AskSql.Database
