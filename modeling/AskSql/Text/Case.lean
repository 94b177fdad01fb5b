import AskSql.Text.Basic
import AskSql.Text.CaseTable

/-!
# Case

Full lower and upper casing of a text. One character may become several, and a capital sigma
becomes its final form at the end of a word: where a cased character comes before it and none
after it, looking through the characters that case ignores.
-/

namespace AskSql.Text

/-- `n` lies in one of the inclusive `ranges`. -/
def inRanges (ranges : List (Nat × Nat)) (n : Nat) : Bool :=
  ranges.any fun r => r.1 ≤ n && n ≤ r.2

/-- The counterpart of the code point `n` in a table of expansions and runs, or `n` itself. -/
def counterpart (expansions : List (Nat × List Nat)) (runs : List CaseRun) (n : Nat) :
    List Nat :=
  match expansions.lookup n with
  | some ns => ns
  | none =>
    match runs.findSome? (·.map? n) with
    | some m => [m]
    | none => [n]

/-- The lower-case form of a character, on its own. -/
def lowerChar (c : Char) : Text :=
  if c.toNat < 0x80 then [c.toLower]
  else (counterpart lowerExpansions lowerRuns c.toNat).map Char.ofNat

/-- The upper-case form of a character. -/
def upperChar (c : Char) : Text :=
  if c.toNat < 0x80 then [c.toUpper]
  else (counterpart upperExpansions upperRuns c.toNat).map Char.ofNat

/-- The first character that case does not ignore is cased. -/
def meetsCased (s : Text) : Bool :=
  match s.dropWhile fun c => inRanges caseIgnorableRanges c.toNat with
  | [] => false
  | c :: _ => inRanges casedRanges c.toNat

/-- Lower-casing, where `before` is the text already passed, last character first. -/
def lowerAfter (before : Text) : Text → Text
  | [] => []
  | c :: s =>
    (if c = 'Σ' then [if meetsCased before && !meetsCased s then 'ς' else 'σ']
     else lowerChar c) ++ lowerAfter (c :: before) s

/-- The lower-case form of a text. -/
def lower (s : Text) : Text :=
  lowerAfter [] s

/-- The upper-case form of a text. -/
def upper (s : Text) : Text :=
  s.flatMap upperChar

end AskSql.Text
