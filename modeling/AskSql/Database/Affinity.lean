import AskSql.Database.Number
import AskSql.Text.Case

/-!
# Affinities

The declared type of a column prefers a storage class, its affinity. A value is stored in that
class if nothing of it is lost. A cast takes a value into the class whatever is lost.
-/

namespace AskSql.Database

/-- The class that a column prefers. -/
inductive Affinity where
  | integer
  | text
  | blob
  | real
  | numeric
  deriving Repr, DecidableEq

namespace Affinity

/-- The affinity of a declared type, by the names that occur in it. -/
def ofType (declared : Text) : Affinity :=
  let declared := declared.map Char.toUpper
  let names := fun (ns : List String) => ns.any fun n => Text.occursIn n.toList declared
  if names ["INT"] then .integer
  else if names ["CHAR", "CLOB", "TEXT"] then .text
  else if declared.isEmpty || names ["BLOB"] then .blob
  else if names ["REAL", "FLOA", "DOUB"] then .real
  else .numeric

/-- The column prefers numbers. -/
def isNumeric : Affinity → Bool
  | .integer => true
  | .real => true
  | .numeric => true
  | .text => false
  | .blob => false

/-- A real as an integer, if it is one. -/
def asInteger (v : Value) : Value :=
  match v with
  | .real x => ((integral? x).map .integer).getD v
  | v => v

/-- A text that is a number, as the number. Other values stay as they are. -/
def asNumber (v : Value) : Value :=
  match v with
  | .text s => (numberOf? s).getD v
  | v => v

/-- An integer as a real. -/
def asReal (v : Value) : Value :=
  match v with
  | .integer n => .real (realOf n)
  | v => v

/-- A number as a text. -/
def asText (v : Value) : Value :=
  match v with
  | .integer _ | .real _ => Value.ofText? v.text?
  | v => v

/-- A real that is stored as an integer has lost the sign of its zero. -/
def asStoredReal (v : Value) : Value :=
  match asReal (asNumber v) with
  | .real x => .real (if x.isZero then .zero else x)
  | v => v

/-- What a column stores of a value. -/
def store : Affinity → Value → Value
  | .real, v => asStoredReal v
  | .integer, v | .numeric, v => asInteger (asNumber v)
  | .text, v => asText v
  | .blob, v => v

/-- A value taken into a class, whatever is lost. -/
def cast (a : Affinity) (v : Value) : Value :=
  match a, v with
  | _, .null => .null
  | .blob, .blob _ => v
  | .blob, v => (v.bytes?.map Value.blob).getD .null
  | .text, v => (v.bytes?.map Value.ofBytes).getD .null
  | .integer, v => .integer v.toInt
  | .real, v => .real v.toReal
  | .numeric, .integer _ => v
  | .numeric, .real _ => v
  | .numeric, v =>
    match (v.number?).getD .null with
    | .real x => if -2251799813685248 ≤ truncated x ∧ truncated x < 2251799813685248 then
        asInteger (.real x) else .real x
    | w => w

end Affinity
end AskSql.Database
