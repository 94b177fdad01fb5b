import AskSql.Database.Value
import AskSql.Failure
import AskSql.Row

/-!
# Records

A statement gives records: a value under the label of each column. A record becomes a row when its
values are decoded, one column after the other, and each is entered under its label. All records of
a result are decoded or none, for the first value that cannot be decoded fails the result.
-/

namespace AskSql.Database

/-- The values of a result row under the labels of their columns, in order. -/
abbrev Record := List (Text × Value)

namespace Record

/-- The record with its values decoded. The first column has the number `column`. -/
def decodeFrom (column : Nat) : Record → Except StoreError (List (Text × Json))
  | [] => .ok []
  | (label, v) :: r =>
    match v.decode with
    | .error (fault, index) => .error (.undecodable column (fault.message index))
    | .ok value =>
      match decodeFrom (column + 1) r with
      | .error e => .error e
      | .ok pairs => .ok ((label, value) :: pairs)

/-- The row that a record is decoded to. -/
def decode (r : Record) : Except StoreError Row :=
  match r.decodeFrom 0 with
  | .error e => .error e
  | .ok pairs => .ok (.ofPairs pairs)

/-- The rows that records are decoded to. -/
def decodeAll : List Record → Except StoreError (List Row)
  | [] => .ok []
  | r :: rs =>
    match r.decode with
    | .error e => .error e
    | .ok row =>
      match decodeAll rs with
      | .error e => .error e
      | .ok rows => .ok (row :: rows)

end Record
end AskSql.Database
