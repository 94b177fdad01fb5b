import AskSql.Sql.Reading

/-!
# Data types

The types of columns, as they are written back: a type known by keyword in upper case with its
lengths between parentheses, any other type by its name as it stands.
-/

namespace AskSql.Sql

open Text Reading

/-- A data type as it is written back. -/
inductive DataType where
  /-- The type of stretches of time, whose literals go on after the text. -/
  | interval
  /-- A type known by keyword. -/
  | known (written : Text)
  /-- A type of any other name. -/
  | named (written : Text)
  deriving Repr, DecidableEq

namespace DataType

/-- The type as it is written back. -/
def text : DataType → Text
  | interval => "INTERVAL".toList
  | known written => written
  | named written => written

/-- The rest of a type that is known by keyword, written back. -/
abbrev Rest := Reading Text

/-- `base` without arguments. -/
def plain (base : String) : Rest :=
  return base.toList

/-- `base` with one argument. -/
def withArgument (base : String) (argument : Text) : Text :=
  base.toList ++ '(' :: argument ++ [')']

/-- `base` and a length. -/
def withLength (base : String) : Rest := do
  return withArgument base (ofNat (← parenthesized natural))

/-- `base` and an optional length. -/
def withOptionalLength (base : String) : Rest := do
  if ← symbolAhead "(" then withLength base else return base.toList

/-- `base` and an optional length, which may be followed by `UNSIGNED`. -/
def integer (base : String) : Rest := do
  let written ← withOptionalLength base
  if ← keyword "UNSIGNED" then return written ++ " UNSIGNED".toList else return written

/-- `base` and an optional precision with an optional scale. -/
def exact (base : String) : Rest := do
  if ← symbol "(" then
    let precision ← natural
    let scale ← if ← symbol "," then pure (',' :: ofNat (← natural)) else pure []
    requireSymbol ")"
    return withArgument base (ofNat precision ++ scale)
  else return base.toList

/-- `base` and an optional length or `MAX`; `units` tells whether a unit may follow the
length. -/
def upToMaximum (base : String) (units : Bool) : Rest := do
  if ← symbol "(" then
    if ← keyword "MAX" then
      requireSymbol ")"
      return withArgument base "MAX".toList
    else
      let n ← natural
      let unit ← if units then oneOf? ["CHARACTERS", "OCTETS"] else pure none
      requireSymbol ")"
      return withArgument base
        (ofNat n ++ match unit with
          | some unit => ' ' :: unit.toList
          | none => [])
  else return base.toList

/-- `base`, possibly as a varying or a large type. -/
def characterFamily (base : String) : Rest := do
  if ← keyword "VARYING" then upToMaximum (base ++ " VARYING") true
  else if ← keywords ["LARGE", "OBJECT"] then withOptionalLength (base ++ " LARGE OBJECT")
  else upToMaximum base true

/-- `base`, an optional precision and an optional time zone. -/
def temporal (base : String) : Rest := do
  let written ← withOptionalLength base
  if ← keyword "WITH" then
    requireAll ["TIME", "ZONE"]
    return written ++ " WITH TIME ZONE".toList
  else if ← keyword "WITHOUT" then
    requireAll ["TIME", "ZONE"]
    return written ++ " WITHOUT TIME ZONE".toList
  else return written

/-- `base` and its texts between parentheses, each possibly with a number. -/
def enumeration (base : String) : Rest := do
  let _ ← parenthesized (list do
    let _ ← literalText
    if ← symbol "=" then signedNumber)
  return withArgument base []

/-- `base` and its literals between parentheses. -/
def literals (base : String) : Rest := do
  let _ ← parenthesized (list do
    match ← next with
    | .literal .plain _ => pure ()
    | _ => unexpected)
  return withArgument base []

/-- `base`, possibly followed by `INTEGER`. -/
def signed (base : String) : Rest := do
  if ← keyword "INTEGER" then return base.toList ++ " INTEGER".toList else return base.toList

/-- `DOUBLE`, with or without `PRECISION`. -/
def double : Rest := do
  if ← keyword "PRECISION" then return "DOUBLE PRECISION".toList else exact "DOUBLE"

/-- `BIT`, possibly varying. -/
def bit : Rest := do
  if ← keyword "VARYING" then withOptionalLength "BIT VARYING" else withOptionalLength "BIT"

/-- A point in time with a precision and an optional time zone. -/
def datetime64 : Rest := do
  requireSymbol "("
  let precision ← natural
  if ← symbol "," then
    let _ ← literalText
  requireSymbol ")"
  return withArgument "DateTime64" (ofNat precision)

/-- The types known by keyword that hold no other type. -/
def simple : List (String × Rest) :=
  [("BOOLEAN", plain "BOOLEAN"), ("BOOL", plain "BOOL"), ("FLOAT", withOptionalLength "FLOAT"),
   ("REAL", plain "REAL"), ("FLOAT4", plain "FLOAT4"), ("FLOAT8", plain "FLOAT8"),
   ("FLOAT32", plain "Float32"), ("FLOAT64", plain "FLOAT64"), ("DOUBLE", double),
   ("TINYINT", integer "TINYINT"), ("INT2", integer "INT2"), ("SMALLINT", integer "SMALLINT"),
   ("MEDIUMINT", integer "MEDIUMINT"), ("INT", integer "INT"), ("INT4", integer "INT4"),
   ("INT8", integer "INT8"), ("INTEGER", integer "INTEGER"), ("BIGINT", integer "BIGINT"),
   ("INT16", plain "Int16"), ("INT32", plain "Int32"), ("INT64", plain "INT64"),
   ("INT128", plain "Int128"), ("INT256", plain "Int256"), ("HUGEINT", plain "HUGEINT"),
   ("UBIGINT", plain "UBIGINT"), ("UHUGEINT", plain "UHUGEINT"),
   ("USMALLINT", plain "USMALLINT"), ("UTINYINT", plain "UTINYINT"), ("UINT8", plain "UInt8"),
   ("UINT16", plain "UInt16"), ("UINT32", plain "UInt32"), ("UINT64", plain "UInt64"),
   ("UINT128", plain "UInt128"), ("UINT256", plain "UInt256"),
   ("VARCHAR", upToMaximum "VARCHAR" true), ("NVARCHAR", upToMaximum "NVARCHAR" true),
   ("CHAR", characterFamily "CHAR"), ("CHARACTER", characterFamily "CHARACTER"),
   ("CLOB", withOptionalLength "CLOB"), ("BINARY", withOptionalLength "BINARY"),
   ("VARBINARY", upToMaximum "VARBINARY" false), ("BLOB", withOptionalLength "BLOB"),
   ("TINYBLOB", plain "TINYBLOB"), ("MEDIUMBLOB", plain "MEDIUMBLOB"),
   ("LONGBLOB", plain "LONGBLOB"), ("BYTES", withOptionalLength "BYTES"), ("BIT", bit),
   ("VARBIT", withOptionalLength "VARBIT"), ("UUID", plain "UUID"), ("DATE", plain "DATE"),
   ("DATE32", plain "Date32"), ("DATETIME", withOptionalLength "DATETIME"),
   ("DATETIME64", datetime64), ("TIMESTAMP", temporal "TIMESTAMP"), ("TIME", temporal "TIME"),
   ("TIMESTAMPTZ", withOptionalLength "TIMESTAMPTZ"), ("TIMESTAMP_NTZ", plain "TIMESTAMP_NTZ"),
   ("TIMETZ", withOptionalLength "TIMETZ"), ("JSON", plain "JSON"), ("JSONB", plain "JSONB"),
   ("REGCLASS", plain "REGCLASS"), ("STRING", withOptionalLength "STRING"),
   ("FIXEDSTRING", withLength "FixedString"), ("TEXT", plain "TEXT"),
   ("TINYTEXT", plain "TINYTEXT"), ("MEDIUMTEXT", plain "MEDIUMTEXT"),
   ("LONGTEXT", plain "LONGTEXT"), ("BYTEA", plain "BYTEA"), ("NUMERIC", exact "NUMERIC"),
   ("DECIMAL", exact "DECIMAL"), ("DEC", exact "DEC"), ("BIGNUMERIC", exact "BIGNUMERIC"),
   ("BIGDECIMAL", exact "BIGDECIMAL"), ("ENUM", enumeration "ENUM"),
   ("ENUM8", enumeration "ENUM8"), ("ENUM16", enumeration "ENUM16"), ("SET", literals "SET"),
   ("SIGNED", signed "SIGNED"), ("UNSIGNED", signed "UNSIGNED"), ("TRIGGER", plain "TRIGGER")]

/-- The arguments of a type of any other name, up to the closing parenthesis. Commas may stand
anywhere between them. -/
def arguments? : List Token → Option (List Text × List Token)
  | .symbol [')'] :: ts => some ([], ts)
  | .symbol [','] :: ts => arguments? ts
  | .number digits :: ts => (arguments? ts).map fun (as, ts) => (digits :: as, ts)
  | .literal .plain value :: ts => (arguments? ts).map fun (as, ts) => (value :: as, ts)
  | .word value quote :: ts =>
    (arguments? ts).map fun (as, ts) => (Name.text ⟨value, quote⟩ :: as, ts)
  | _ => none

/-- A type of any other name. -/
def other : Reading DataType := do
  let name ← dottedName
  let written := Name.dottedText name
  if ← symbol "(" then
    match arguments? (← get) with
    | some (as, ts) =>
      set ts
      if as.isEmpty then return .named written
      else return .named (written ++ '(' :: join [','] as ++ [')'])
    | none => unexpected
  else return .named written

/-- A type, and whether a closing bracket after it has been taken that belongs to the type
around it. The types that hold it and the types that it holds are at most `fuel`. -/
def nested : (fuel : Nat) → Reading (DataType × Bool)
  | 0 => unexpected
  | fuel + 1 => do
    match ← peek with
    | some (.word value quote) =>
      let t := Token.word value quote
      match simple.find? fun (k, _) => t.isKeyword k with
      | some (_, rest) => do
        skip
        return (.known (← rest), false)
      | none => do
        if ← keyword "INTERVAL" then return (.interval, false)
        else if ← keyword "ARRAY" then
          requireSymbol "<"
          let (element, closed) ← nested fuel
          let written := "ARRAY<".toList ++ element.text ++ ['>']
          if closed then return (.known written, false)
          else if ← symbol ">" then return (.known written, false)
          else
            requireSymbol ">>"
            return (.known written, true)
        else if ← keyword "TABLE" then
          let _ ← parenthesized (list do
            let _ ← name
            let (_, closed) ← nested fuel
            if closed then unexpected)
          return (.known (withArgument "TABLE" []), false)
        else if ← keywords ["ANY", "TYPE"] then return (.known "ANY TYPE".toList, false)
        else return (← other, false)
    | _ => unexpected

/-- A type, possibly followed by brackets that make it the type of a row of values. -/
def read : Reading DataType := do
  let (type, closed) ← nested ((← get).length + 1)
  if closed then unexpected
  repeatWhile do
    if ← symbol "[" then
      let _ ← attempt natural
      requireSymbol "]"
      return true
    else return false
  return type

/-- The words before which a column may go without a type. -/
def afterUntyped : List String :=
  ["CONSTRAINT", "PRIMARY", "NOT", "UNIQUE", "CHECK", "DEFAULT", "COLLATE", "REFERENCES",
   "GENERATED", "AS"]

/-- The type of a column, written back. Where columns may go without a type, the text of a
missing one is empty. -/
def ofColumn (d : Dialect) : Reading Text := do
  if d.untypedColumns then
    match ← peek with
    | some t =>
      if !t.isWord || afterUntyped.any t.isKeyword then return [] else return (← read).text
    | none => return []
  else return (← read).text

end DataType
end AskSql.Sql
