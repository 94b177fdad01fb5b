import AskSql.Database.Token
import AskSql.Database.Value

/-!
# Statements as data

Expressions, queries and the other statements of the database as they are written, before names
are looked up. What is kept of the writing itself is what later shows: the text of a result
column, and the text of a definition.
-/

namespace AskSql.Database

/-! ## Operators -/

/-- An operator in front of one operand. -/
inductive Sign where
  | minus
  | plus
  | complement
  | not
  deriving Repr, DecidableEq

/-- An operator that compares. -/
inductive Comparison where
  | equal
  | differ
  | less
  | atMost
  | greater
  | atLeast
  /-- Equal, where a null equals a null. -/
  | same
  | notSame
  deriving Repr, DecidableEq

/-- An operator that computes. -/
inductive Arithmetic where
  | add
  | subtract
  | multiply
  | divide
  | remainder
  | bitAnd
  | bitOr
  | shiftLeft
  | shiftRight
  | concat
  deriving Repr, DecidableEq

/-- An operator between two operands. -/
inductive Operator where
  | and
  | or
  | compare (c : Comparison)
  | compute (a : Arithmetic)
  /-- Takes a part out of a JSON text. -/
  | extract (asText : Bool)
  deriving Repr, DecidableEq

/-- An operator that looks for a pattern. -/
inductive Pattern where
  | like
  | glob
  | regexp
  | fullText
  deriving Repr, DecidableEq

/-- What becomes of a conflict. -/
inductive Conflict where
  | rollback
  | abort
  | fail
  | ignore
  | replace
  deriving Repr, DecidableEq

/-- How two sources are joined. -/
structure Join where
  natural : Bool := false
  /-- Rows of the first source that match nothing are kept. -/
  keepsLeft : Bool := false
  /-- Rows of the second source that match nothing are kept. -/
  keepsRight : Bool := false
  /-- The sources are run through in this order. -/
  ordered : Bool := false
  deriving Repr, DecidableEq

/-- How two queries are put together. -/
inductive Combination where
  | unionAll
  | union
  | intersect
  | except
  deriving Repr, DecidableEq

/-! ## Expressions and queries -/

mutual

/-- An expression. -/
inductive Expr where
  | value (v : Value)
  /-- An unsigned numeral. -/
  | numeral (text : Text)
  /-- A name with the names in front of it; between double quotes it may be a text. -/
  | name (quoted : Bool) (parts : List Text)
  | parameter (text : Text)
  | unary (op : Sign) (e : Expr)
  | binary (op : Operator) (a b : Expr)
  | pattern (op : Pattern) (negated : Bool) (e pattern : Expr) (escape : Option Expr)
  | between (negated : Bool) (e low high : Expr)
  | isNull (negated : Bool) (e : Expr)
  | among (negated : Bool) (e : Expr) (values : List Expr)
  | amongRows (negated : Bool) (e : Expr) (q : Query)
  | collate (e : Expr) (name : Text)
  | cast (e : Expr) (type : Text)
  | choice (base : Option Expr) (branches : List (Expr × Expr)) (otherwise : Option Expr)
  | call (name : Text) (call : Call)
  | anyRow (q : Query)
  | query (q : Query)
  | row (es : List Expr)
  | raise (message : Option Text)

/-- The arguments of a function. -/
inductive Call where
  /-- A star in place of arguments. -/
  | star (filter : Option Expr) (windowed : Bool)
  | arguments (distinct : Bool) (es : List Expr) (order : List Order) (filter : Option Expr)
      (windowed : Bool)

/-- What rows are ordered by. -/
inductive Order where
  | by (e : Expr) (descending : Bool) (nullsLast : Option Bool)

/-- What a query takes from each row. -/
inductive Item where
  | all
  | allOf (table : Text)
  | expr (e : Expr) (label : Option Text) (written : Text)

/-- Where rows come from. -/
inductive Source where
  | table (schema : Option Text) (name : Text)
  /-- The rows that the query of a name around it has given so far. -/
  | own (name : Text)
  | call (name : Text) (arguments : List Expr)
  | query (q : Query)
  | sources (ss : List Joined)

/-- A source with what ties it to those before it. -/
inductive Joined where
  | joined (join : Join) (source : Source) (called : Option Text) (on : Option Expr)
      (shared : List Text)

/-- One of the queries that are put together. -/
inductive Core where
  | select (distinct : Bool) (items : List Item) (sources : List Joined)
      (condition : Option Expr) (groups : List Expr) (having : Option Expr)
  | values (rows : List (List Expr))

/-- A query with a name of its own. Its rows may be asked for all at once, and not be taken
apart. -/
inductive Common where
  | common (name : Text) (columns : List Text) (whole : Bool) (q : Query)

/-- A query. -/
inductive Query where
  | query (commons : List Common) (first : Core) (rest : List (Combination × Core))
      (order : List Order) (limit offset : Option Expr)

end

instance : Inhabited Expr := ⟨.value .null⟩

/-- The query for all rows of a source. -/
def Query.allOf (source : Source) : Query :=
  .query [] (.select false [.all] [.joined {} source none none []] none [] none) [] [] none none

/-! ## Parts of expressions -/

/-- What an expression depends on besides values that are written in it. -/
inductive Ingredient where
  | name (quoted : Bool) (parts : List Text)
  | parameter
  | query
  | function (name : Text)

mutual

/-- What an expression depends on, from left to right. -/
def Expr.ingredients : Expr → List Ingredient
  | .value _ | .numeral _ | .raise _ => []
  | .name quoted parts => [.name quoted parts]
  | .parameter _ => [.parameter]
  | .unary _ e | .isNull _ e | .collate e _ | .cast e _ => e.ingredients
  | .binary _ a b => a.ingredients ++ b.ingredients
  | .pattern _ _ e p escape => e.ingredients ++ p.ingredients ++ Ingredient.ofOptional escape
  | .between _ e low high => e.ingredients ++ low.ingredients ++ high.ingredients
  | .among _ e es => e.ingredients ++ Ingredient.ofAll es
  | .amongRows _ e _ => e.ingredients ++ [.query]
  | .choice base branches otherwise =>
    Ingredient.ofOptional base ++ Ingredient.ofBranches branches ++ Ingredient.ofOptional otherwise
  | .call name c => .function name :: c.ingredients
  | .anyRow _ | .query _ => [.query]
  | .row es => Ingredient.ofAll es

/-- What the arguments of a function depend on. -/
def Call.ingredients : Call → List Ingredient
  | .star filter _ => Ingredient.ofOptional filter
  | .arguments _ es order filter _ =>
    Ingredient.ofAll es ++ Ingredient.ofOrders order ++ Ingredient.ofOptional filter

/-- What an expression depends on, if it is there. -/
def Ingredient.ofOptional : Option Expr → List Ingredient
  | none => []
  | some e => e.ingredients

/-- What some expressions depend on. -/
def Ingredient.ofAll : List Expr → List Ingredient
  | [] => []
  | e :: es => e.ingredients ++ Ingredient.ofAll es

/-- What the branches of a choice depend on. -/
def Ingredient.ofBranches : List (Expr × Expr) → List Ingredient
  | [] => []
  | (a, b) :: rest => a.ingredients ++ b.ingredients ++ Ingredient.ofBranches rest

/-- What an order depends on. -/
def Ingredient.ofOrders : List Order → List Ingredient
  | [] => []
  | .by e _ _ :: rest => e.ingredients ++ Ingredient.ofOrders rest

end

/-! ## Definitions -/

/-- The name of something to define. -/
structure NewName where
  schema : Option Text
  name : Text
  /-- The name as it is written. -/
  written : Text
  /-- It is not listed in the catalog. -/
  temporary : Bool
  /-- Nothing is to be done if the name is taken. -/
  unlessThere : Bool
  deriving Repr, DecidableEq

/-- A part of a key or of an index, as it is declared. -/
structure KeyPart where
  expr : Expr
  pieces : List Piece
  descending : Bool := false
  /-- Where nulls are to be put, if it is told. -/
  nullsLast : Option Bool := none

end AskSql.Database
