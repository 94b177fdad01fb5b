import AskSql.Database.Change.Terms

/-!
# Assignments

What the columns of a row become: for each of them a value that is computed from the row as it was
before.
-/

namespace AskSql.Database

open Text

/-- What a column becomes. -/
structure Assignment where
  /-- The place of the column; behind all columns for the number of the row. -/
  place : Nat
  value : Computed

/-- The place of a column that is assigned to. -/
def assignedPlace (t : StoredTable) (name : Text) : Except StoreError Nat :=
  match (t.shape.place? name).map fun p => (p, t.shape.columns[p]?) with
  | some (p, c) =>
    match c.bind (·.generated) with
    | some _ => .error (fault ("cannot UPDATE generated column \"".toList ++
        ((c.map (·.name)).getD name) ++ ['"']))
    | none => .ok p
  | none =>
    if isRowNumberName name && !t.shape.withoutRowNumber then
      .ok (t.shape.rowNumberPlace?.getD t.shape.columns.length)
    else .error (noColumn name)

/-- What some columns become, in the scope of their table. -/
def assignments (ev : Evaluator) (scope : Scope) (t : StoredTable)
    (changes : List (List Text × Expr)) : Except StoreError (List Assignment) := do
  let all ← changes.mapM fun (names, e) => do
    let term ← ev.expr [scope] e
    let values := if term.parts.isEmpty then [term.value] else term.parts
    if values.length != names.length then
      throw (fault (ofNat names.length ++ " columns assigned ".toList ++ ofNat values.length ++
        " values".toList))
    else
      (names.zip values).mapM fun (n, value) => do
        let place ← assignedPlace t n
        return (⟨place, value⟩ : Assignment)
  return all.flatten

/-- The values of a row with its number behind them after some assignments. -/
def assigned (frames : Frames) (assignments : List Assignment) (row : List Value) :
    Except StoreError (List Value) := do
  let new ← assignments.mapM fun a => do return (a.place, ← a.value frames)
  return new.foldl (fun row (place, v) => row.set place v) row

end AskSql.Database
