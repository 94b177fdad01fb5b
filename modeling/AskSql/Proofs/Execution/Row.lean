import AskSql.Proofs.Text.Pieces
import AskSql.Row
import Mathlib.Data.List.Induction

/-!
# What a row keeps

A result row comes as pairs of names and values, one for each column. The row that is built from
them has each name once, where it first stood, with the value that came last (`Row.KeepsLast`). So
it is the row that came if no name occurs twice, and otherwise a value is lost
(`Row.ofPairs_eq_self_iff`).
-/

namespace AskSql.Row

open Text

variable {name : Text} {value : Json} {row : Row} {pairs : List (Text × Json)}

/-! ## Setting a value -/

theorem map_fst_insert (name : Text) (value : Json) (row : Row) :
    (row.insert name value).map Prod.fst =
      if name ∈ row.map Prod.fst then row.map Prod.fst else row.map Prod.fst ++ [name] := by
  induction row with
  | nil => rfl
  | cons first row ih =>
    obtain ⟨n, v⟩ := first
    by_cases hn : n = name
    · simp [insert, hn]
    · have hne : name ≠ n := Ne.symm hn
      simp only [insert, hn, if_false, List.map_cons, ih, List.mem_cons, hne, false_or]
      split <;> rfl

theorem lookup_cons (other name : Text) (value : Json) (row : Row) :
    List.lookup other ((name, value) :: row) =
      if other = name then some value else row.lookup other := by
  by_cases h : other = name
  · simp [h]
  · simp [List.lookup_cons, h, beq_eq_false_iff_ne.mpr h]

theorem lookup_insert (name : Text) (value : Json) (row : Row) (other : Text) :
    (row.insert name value).lookup other =
      if other = name then some value else row.lookup other := by
  induction row with
  | nil => exact lookup_cons other name value []
  | cons first row ih =>
    obtain ⟨n, v⟩ := first
    by_cases hn : n = name
    · rw [insert, if_pos hn, lookup_cons, lookup_cons, hn]
      split <;> rfl
    · rw [insert, if_neg hn, lookup_cons, lookup_cons, ih]
      by_cases h : other = n <;> simp [h, hn]

theorem insert_of_not_mem (h : name ∉ row.map Prod.fst) (value : Json) :
    row.insert name value = row ++ [(name, value)] := by
  induction row with
  | nil => rfl
  | cons first row ih =>
    obtain ⟨n, v⟩ := first
    obtain ⟨hn, hrow⟩ : name ≠ n ∧ name ∉ row.map Prod.fst := by simpa [not_or] using h
    rw [insert, if_neg (Ne.symm hn), ih hrow, List.cons_append]

/-! ## Pairs -/

/-- The row has each name of the pairs once, where it first stands, with its last value. -/
structure KeepsLast (pairs : List (Text × Json)) (row : Row) : Prop where
  names : row.map Prod.fst = distinct (pairs.map Prod.fst)
  values : ∀ name, row.lookup name = pairs.reverse.lookup name

theorem ofPairs_append_singleton (pairs : List (Text × Json)) (name : Text) (value : Json) :
    ofPairs (pairs ++ [(name, value)]) = (ofPairs pairs).insert name value := by
  rw [ofPairs, List.foldl_append]
  rfl

theorem keepsLast_ofPairs (pairs : List (Text × Json)) : KeepsLast pairs (ofPairs pairs) := by
  induction pairs using List.reverseRecOn with
  | nil => exact ⟨rfl, fun _ => rfl⟩
  | append_singleton pairs pair ih =>
    obtain ⟨name, value⟩ := pair
    rw [ofPairs_append_singleton]
    refine ⟨?_, fun other => ?_⟩
    · rw [map_fst_insert, ih.names, List.map_append, List.map_singleton, distinct_append_singleton]
      simp only [mem_distinct]
    · rw [lookup_insert, ih.values, List.reverse_concat, lookup_cons]

/-- Nothing is lost if and only if no name occurs twice. -/
theorem ofPairs_eq_self_iff : ofPairs pairs = pairs ↔ (pairs.map Prod.fst).Nodup := by
  constructor
  · intro h
    have hnames := (keepsLast_ofPairs pairs).names
    rw [h] at hnames
    rw [hnames]
    exact nodup_distinct _
  · intro h
    induction pairs using List.reverseRecOn with
    | nil => rfl
    | append_singleton pairs pair ih =>
      obtain ⟨name, value⟩ := pair
      rw [List.map_append, List.map_singleton, List.nodup_append] at h
      obtain ⟨hpairs, -, hne⟩ := h
      have hname : name ∉ pairs.map Prod.fst := fun hmem =>
        hne name hmem name List.mem_cons_self rfl
      rw [ofPairs_append_singleton, ih hpairs, insert_of_not_mem hname]

end AskSql.Row
