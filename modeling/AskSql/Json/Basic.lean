import AskSql.Decimal.Binary64
import AskSql.Text.Basic

/-!
# JSON values

The values that rows and envelopes are made of. The members of an object keep their order;
nothing here forbids a repeated name.
-/

namespace AskSql

/-- A number, written without a fraction or with one. -/
inductive Json.Number where
  | integer (n : Int)
  | real (x : Binary64)
  deriving Repr, DecidableEq

/-- A JSON value. -/
inductive Json where
  | null
  | bool (b : Bool)
  | number (n : Json.Number)
  | string (s : Text)
  | array (items : List Json)
  | object (members : List (Text × Json))
  deriving Repr

namespace Json

/-- A text, or `null` if there is none. -/
def ofOption : Option Text → Json
  | some s => .string s
  | none => .null

/-- A natural number. -/
def natural (n : Nat) : Json :=
  .number (.integer n)

end Json
end AskSql
