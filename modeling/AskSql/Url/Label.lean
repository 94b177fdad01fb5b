import AskSql.Text.Case
import AskSql.Text.Normal
import AskSql.Url.DirectionTable

/-!
# Labels of domains

What a label may look like beside the characters that it may hold: it does not begin with a
mark, joiners stand only where they show, and where a domain has letters that are written from
right to left, every label of it can be read in one direction.
-/

namespace AskSql.Url

open Text

/-! ## Joiners -/

/-- The character that keeps letters apart. -/
def nonJoiner : Nat := 0x200C

/-- The character that joins letters. -/
def joiner : Nat := 0x200D

/-- The class of the marks that take away a vowel. -/
def viramaClass : Nat := 9

/-- The first character that letters do not join across lies in one of the ranges. -/
def joinsTo (ranges : List (List (Nat × Nat))) (s : List Nat) : Bool :=
  match s.dropWhile (inRanges transparentRanges) with
  | [] => false
  | n :: _ => ranges.any (inRanges · n)

/-- A joiner may stand where it does, with the characters before it, last one first, and those
after it: after a mark that takes away a vowel, or, if it keeps letters apart, between letters
that would join. -/
def joinerFits (n : Nat) (before after : List Nat) : Bool :=
  (match before with
    | [] => false
    | m :: _ => markClass m == viramaClass) ||
  (n == nonJoiner && joinsTo [joinsLeftRanges, joinsBothRanges] before &&
    joinsTo [joinsRightRanges, joinsBothRanges] after)

/-- Every joiner may stand where it does, after the characters `before`, last one first. -/
def joinersFit (before : List Nat) : List Nat → Bool
  | [] => true
  | n :: after =>
    (!(n == nonJoiner || n == joiner) || joinerFits n before after) &&
      joinersFit (n :: before) after

/-! ## Directions -/

/-- How a character takes part in the direction of a label. -/
inductive Direction where
  | leftToRight
  | rightToLeft
  | arabicNumber
  | europeanNumber
  /-- A sign that goes with numbers. -/
  | numberMark
  | neutral
  /-- A mark, which goes with what it stands on. -/
  | nonspacing
  | separator
  deriving Repr, DecidableEq

/-- The ranges of the directions. -/
def directionRanges : List (Direction × List (Nat × Nat)) :=
  [(.rightToLeft, rightToLeftRanges), (.arabicNumber, arabicNumberRanges),
   (.europeanNumber, europeanNumberRanges), (.numberMark, numberMarkRanges),
   (.neutral, neutralRanges), (.nonspacing, nonspacingRanges),
   (.separator, separatorRanges)]

/-- The direction of a character. -/
def direction (n : Nat) : Direction :=
  match directionRanges.find? fun d => inRanges d.2 n with
  | some d => d.1
  | none => .leftToRight

/-- A character is written from right to left. -/
def Direction.isReversed : Direction → Bool
  | .rightToLeft | .arabicNumber => true
  | _ => false

/-- The last character that is no mark on another satisfies `p`. -/
def endsWith (p : Direction → Bool) (ds : List Direction) : Bool :=
  match ds.reverse.dropWhile (· == .nonspacing) with
  | [] => false
  | d :: _ => p d

/-- A label can be read in one direction. -/
def readsOneWay (ds : List Direction) : Bool :=
  match ds with
  | [] => true
  | .rightToLeft :: _ =>
    ds.all (fun d => d != .leftToRight && d != .separator) &&
      endsWith
        (fun d => d == .rightToLeft || d == .arabicNumber || d == .europeanNumber) ds &&
      !(ds.contains .arabicNumber && ds.contains .europeanNumber)
  | .leftToRight :: _ =>
    ds.all (fun d => !d.isReversed && d != .separator) &&
      endsWith (fun d => d == .leftToRight || d == .europeanNumber) ds
  | _ => false

/-! ## Labels -/

/-- A label does not begin with a mark, and its joiners may stand where they do. -/
def isWellJoined (label : Text) : Bool :=
  let ns := label.map Char.toNat
  (match ns with
    | [] => true
    | n :: _ => !inRanges markRanges n) && joinersFit [] ns

/-- Each label can be read in one direction, if one of them has a character that is written from
right to left. -/
def readOneWay (labels : List Text) : Bool :=
  let ds := labels.map fun label => label.map fun c => direction c.toNat
  !(ds.any (·.any Direction.isReversed)) || ds.all readsOneWay

end AskSql.Url
