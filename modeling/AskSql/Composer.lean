import AskSql.Schema.Outline
import AskSql.Select
import AskSql.Text.Case

/-!
# The composer

An answer without a provider: one `SELECT` for a request in plain words, from nothing but the
request and the schema text.

A table counts as mentioned if its name occurs in the request, whatever the case. The first
mentioned table is selected from, joined with the second one if a foreign key leads directly
from one to the other. Requests for a number become a count.
-/

namespace AskSql

/-- What a request asks for. -/
structure Intent where
  /-- The mentioned tables, in schema order. -/
  mentioned : List Text
  /-- The request asks for a number of rows. -/
  wantsCount : Bool
  deriving Repr, DecidableEq

/-- The phrases that ask for a number. -/
def Intent.countPhrases : List Text :=
  ["count".toList, "how many".toList, "number of".toList]

/-- The intent of a request about the given tables. -/
def Intent.detect (request : Text) (tables : List Outline.Table) : Intent :=
  let lowered := Text.lower request
  { mentioned :=
      Text.distinct
        ((tables.filter fun t => Text.occursIn (Text.lower t.name) lowered).map (·.name))
    wantsCount := countPhrases.any fun phrase => Text.occursIn phrase lowered }

namespace Composer

/-- The table that is selected from if the request mentions none. -/
def placeholderTable : Text := "table_name".toList

/-- The name of the counted number of rows. -/
def countAlias : Text := "cnt".toList

/-- Selects from one table. -/
def singleTable (table : Text) (wantsCount : Bool) (countAlias : Option Text) : Select :=
  ⟨if wantsCount then .count countAlias else .everything, table, none⟩

/-- The first column of `source` whose foreign key leads to `target`, as a join condition. -/
def keyBetween? (tables : List Outline.Table) (source target : Text) : Option Equality :=
  match tables.find? (·.name == source) with
  | none => none
  | some t =>
    t.columns.findSome? fun column =>
      match column.foreignKey with
      | some key =>
        if Text.equalsIgnoringCase key.table target then
          some ⟨⟨some source, column.name⟩, ⟨some target, key.column⟩⟩
        else none
      | none => none

/-- A join condition over a foreign key between `a` and `b`; keys that `a` holds come
first. -/
def joinCondition? (tables : List Outline.Table) (a b : Text) : Option Equality :=
  (keyBetween? tables a b).orElse fun _ => keyBetween? tables b a

/-- The statement for an intent about the given tables. -/
def select (tables : List Outline.Table) (intent : Intent) : Select :=
  match intent.mentioned with
  | [] => singleTable placeholderTable intent.wantsCount none
  | [table] => singleTable table intent.wantsCount (some countAlias)
  | first :: second :: _ =>
    match joinCondition? tables first second with
    | none => singleTable first intent.wantsCount (some countAlias)
    | some on =>
      let projection :=
        if intent.wantsCount then .count (some countAlias) else .allOf [first, second]
      (⟨projection, first, none⟩ : Select).join second on

end Composer

/-- One SQL statement for a request, given the schema text. Without a usable request or
schema it selects from a placeholder. -/
def compose (request schemaText : Text) : Text :=
  if Text.isBlankText request then
    (Composer.singleTable Composer.placeholderTable false none).sql
  else
    let tables := Outline.tables schemaText
    (Composer.select tables (Intent.detect request tables)).sql

end AskSql
