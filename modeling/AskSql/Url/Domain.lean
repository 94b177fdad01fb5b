import AskSql.Url.DomainTable
import AskSql.Url.Label
import AskSql.Url.Punycode

/-!
# Domains

A domain in the form in which it is looked up: in ASCII, and the same for all ways of writing it
that count as one. Letters lose their case, some characters stand for others or count for
nothing, and a label that is not in ASCII then is written in Punycode after `xn--`.
-/

namespace AskSql.Url

open Text

/-! ## Characters -/

/-- The runs of characters that stand for others. -/
def foldRuns : List (List Nat) :=
  hexEntries mappedRuns

/-- The characters that stand for others. -/
def foldEntries : List (List Nat) :=
  hexEntries mappedCharacters

/-- What a run has for a character. -/
def runTarget? (n : Nat) : List Nat → Option Nat
  | [first, last, step, target] =>
    if first ≤ n ∧ n ≤ last ∧ (n - first) % step = 0 then some (target + (n - first))
    else none
  | _ => none

/-- What an entry has for a character. -/
def entryTarget? (n : Nat) : List Nat → Option (List Nat)
  | m :: target => if m = n then some target else none
  | [] => none

/-- What a character of a domain stands for, unless no domain holds it. -/
def folded? (c : Char) : Option Text :=
  if c.toNat < 0x80 then some [c.toLower]
  else
    let n := c.toNat
    if inRanges ignoredRanges n then some []
    else if inRanges forbiddenRanges n then none
    else
      match foldRuns.findSome? (runTarget? n) with
      | some m => some [Char.ofNat m]
      | none =>
        match foldEntries.findSome? (entryTarget? n) with
        | some ns => some (ns.map Char.ofNat)
        | none => some [c]

/-- What all characters of a domain stand for. -/
def foldedText? : Text → Option Text
  | [] => some []
  | c :: s => do
    let head ← folded? c
    let tail ← foldedText? s
    some (head ++ tail)

/-- The characters of ASCII that no domain holds. -/
def isForbiddenInDomain (c : Char) : Bool :=
  c.toNat ≤ 0x20 || c.toNat == 0x7F ||
    ['%', '#', '/', ':', '<', '>', '?', '@', '[', '\\', ']', '^', '|'].contains c

/-! ## Labels -/

/-- Nothing but ASCII. -/
def isAscii (s : Text) : Bool :=
  s.all fun c => c.toNat < 0x80

/-- What marks a label in Punycode. -/
def punycodeMark : Text := "xn--".toList

/-- A text is one that folding leaves as it is. -/
def isFolded (s : Text) : Bool :=
  foldedText? s == some s && composed s == s

/-- A label as it is read: one in Punycode stands for another, which is not in ASCII. -/
def readLabel? (label : Text) : Option Text :=
  match dropPrefix? punycodeMark label with
  | none => some label
  | some code => do
    if !isAscii code then none
    else
      let read ← Punycode.decode? code
      if isAscii read || !isFolded read then none else some read

/-- A label as it is looked up. -/
def asciiLabel (label : Text) : Text :=
  if isAscii label then label else punycodeMark ++ Punycode.encode label

/-- The form in which a domain is looked up. -/
def domain? (s : Text) : Option Text := do
  let s ← (foldedText? s).map composed
  if s.any isForbiddenInDomain then none
  else
    let labels := splitWhere (· == '.') s
    let read ← labels.mapM readLabel?
    if read.all (fun label => isAscii label || isWellJoined label) && readOneWay read then
      some (join ['.'] (labels.map asciiLabel))
    else none

end AskSql.Url
