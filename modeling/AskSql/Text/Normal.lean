import AskSql.Text.ComposeTable
import AskSql.Text.HexTable

/-!
# Composed form

The composed form of a text, after Unicode: characters are taken apart into letters and marks,
marks on one letter are put in the order of their classes, and what then stands beside each
other is put together as far as it can be. Texts that look the same have one composed form.
-/

namespace AskSql.Text

/-! ## The tables -/

/-- The composites with their parts: letter, mark, and the composite of both. -/
def composites : List (Nat × Nat × Nat) :=
  (hexEntries compositions).filterMap fun
    | [letter, mark, composite] => some (letter, mark, composite)
    | _ => none

/-- The ranges of marks with their classes. -/
def markRuns : List (Nat × Nat × Nat) :=
  (hexEntries markClasses).filterMap fun
    | [first, last, order] => some (first, last, order)
    | _ => none

/-- The class of a character: zero for what is no mark that moves. -/
def markClass (n : Nat) : Nat :=
  if n < 0x300 then 0
  else
    match markRuns.find? fun run => run.1 ≤ n && n ≤ run.2.1 with
    | some run => run.2.2
    | none => 0

/-! ## Syllables of Hangul -/

/-- The parts of a syllable: a leading consonant, a vowel, and a trailing consonant unless the
last number is zero. -/
def syllableParts? (n : Nat) : Option (List Nat) :=
  if 0xAC00 ≤ n ∧ n ≤ 0xD7A3 then
    let index := n - 0xAC00
    let start := [0x1100 + index / 588, 0x1161 + index % 588 / 28]
    some (if index % 28 = 0 then start else start ++ [0x11A7 + index % 28])
  else none

/-- The syllable of two parts. -/
def syllable? (a b : Nat) : Option Nat :=
  if 0x1100 ≤ a ∧ a ≤ 0x1112 ∧ 0x1161 ≤ b ∧ b ≤ 0x1175 then
    some (0xAC00 + ((a - 0x1100) * 21 + (b - 0x1161)) * 28)
  else if 0xAC00 ≤ a ∧ a ≤ 0xD7A3 ∧ (a - 0xAC00) % 28 = 0 ∧ 0x11A8 ≤ b ∧ b ≤ 0x11C2 then
    some (a + (b - 0x11A7))
  else none

/-! ## Taking apart -/

/-- The parts of a character, whose letter is taken apart `depth` times. -/
def parts : (depth : Nat) → Nat → List Nat
  | 0, n => [n]
  | depth + 1, n =>
    match syllableParts? n with
    | some ns => ns
    | none =>
      if n < 0xC0 then [n]
      else
        match composites.find? (·.2.2 == n) with
        | some (letter, mark, _) => parts depth letter ++ parts depth mark
        | none => [n]

/-- No character stands for more characters than this. -/
def maxParts : Nat := 4

/-- A mark put in front of the marks that follow it, where its class places it. -/
def insertMark (n : Nat) : List Nat → List Nat
  | [] => [n]
  | m :: ms =>
    if markClass m ≠ 0 ∧ markClass m < markClass n then m :: insertMark n ms else n :: m :: ms

/-- The marks on each letter in the order of their classes. -/
def inOrder (ns : List Nat) : List Nat :=
  ns.foldr (fun n ms => if markClass n = 0 then n :: ms else insertMark n ms) []

/-! ## Putting together -/

/-- The character that stands for two. -/
def composite? (a b : Nat) : Option Nat :=
  match syllable? a b with
  | some n => some n
  | none =>
    if b < 0x300 then none
    else (composites.find? fun c => c.1 == a && c.2.1 == b).map (·.2.2)

/-- What remains of the characters after `letter`, where the marks in `passed`, last one first,
stand between and could not be put together with it. -/
def compose (letter : Nat) (passed : List Nat) : List Nat → List Nat
  | [] => letter :: passed.reverse
  | n :: ns =>
    let blocked := match passed with
      | [] => false
      | m :: _ => markClass n ≤ markClass m
    match if blocked then none else composite? letter n with
    | some c => compose c passed ns
    | none =>
      if markClass n = 0 then letter :: passed.reverse ++ compose n [] ns
      else compose letter (n :: passed) ns

/-- The composed form of a text. -/
def composed (s : Text) : Text :=
  if s.all fun c => c.toNat < 0x80 then s
  else
    match inOrder (s.flatMap fun c => parts maxParts c.toNat) with
    | [] => []
    | n :: ns =>
      (if markClass n = 0 then compose n [] ns else compose 0 [] (n :: ns) |>.drop 1).map
        Char.ofNat

end AskSql.Text
