import AskSql.Text.Basic

/-!
# Punycode

Labels of domains in ASCII. The ASCII characters of a label come first, as they are, and a `-`
after them if there are any. Then the other characters are named, lowest first: each by the
number of steps from the one before it, where a step goes to the next place in the label, and
past its end to the first place with the next character. A number is written in digits `a` to
`z` and `0` to `9`, lowest first, whose last digit lies below a threshold. The thresholds follow
a bias that adapts to the size of the numbers.
-/

namespace AskSql.Url.Punycode

/-! ## Digits -/

/-- The digit with a value below 36. -/
def digit (n : Nat) : Char :=
  if n < 26 then Char.ofNat (0x61 + n) else Char.ofNat (0x16 + n)

/-- The value of a digit. -/
def digitValue? (c : Char) : Option Nat :=
  if 'a' ≤ c ∧ c ≤ 'z' then some (c.toNat - 0x61)
  else if 'A' ≤ c ∧ c ≤ 'Z' then some (c.toNat - 0x41)
  else if '0' ≤ c ∧ c ≤ '9' then some (c.toNat - 0x16)
  else none

/-- The threshold of a digit, where 36 is the place of the first digit, 72 that of the second,
and so on. -/
def threshold (bias place : Nat) : Nat :=
  max 1 (min 26 (place - bias))

theorem threshold_pos (bias place : Nat) : 0 < threshold bias place := by
  unfold threshold; omega

/-- The part of a bias that the size of a number gives. -/
def scale (place n : Nat) : Nat :=
  if 455 < n then scale (place + 36) (n / 35) else place + 36 * n / (n + 38)
termination_by n
decreasing_by omega

/-- The bias after a number, the first one or a later one, when there are `count` characters. -/
def adapt (first : Bool) (n count : Nat) : Nat :=
  let n := if first then n / 700 else n / 2
  scale 0 (n + n / count)

/-! ## Writing -/

/-- The digits of a number, from a place on. -/
def digits (bias place n : Nat) : Text :=
  let t := threshold bias place
  if n < t then [digit n]
  else digit (t + (n - t) % (36 - t)) :: digits bias (place + 36) ((n - t) / (36 - t))
termination_by n
decreasing_by
  have := threshold_pos bias place
  exact Nat.lt_of_le_of_lt (Nat.div_le_self _ _) (by omega)

/-- What writing has come to: the steps since the last character that was named, the bias, and
the number of characters named. -/
structure Progress where
  written : Text
  steps : Nat
  bias : Nat
  count : Nat

/-- The characters `n` of a label are named. -/
def Progress.name (basic n : Nat) (label : Text) (p : Progress) : Progress :=
  label.foldl
    (fun p c =>
      if c.toNat < n then { p with steps := p.steps + 1 }
      else if c.toNat = n then
        { written := p.written ++ digits p.bias 36 p.steps
          steps := 0
          bias := adapt (p.count == basic) p.steps (p.count + 1)
          count := p.count + 1 }
      else p)
    p

/-- The characters in `later` are named in order, when the next one to be named is `n` or comes
after it. -/
def Progress.nameAll (basic : Nat) (label : Text) : Nat → List Nat → Progress → Progress
  | _, [], p => p
  | n, m :: later, p =>
    let p := { p with steps := p.steps + (m - n) * (p.count + 1) }
    let p := p.name basic m label
    nameAll basic label (m + 1) later { p with steps := p.steps + 1 }

/-- Numbers in ascending order, each once. -/
def ascending : List Nat → List Nat
  | [] => []
  | n :: ns =>
    let rest := ascending ns
    rest.takeWhile (· < n) ++ n :: rest.dropWhile (· ≤ n)

/-- A label in ASCII. -/
def encode (label : Text) : Text :=
  let basic := label.filter fun c => c.toNat < 0x80
  let others := (label.filter fun c => 0x80 ≤ c.toNat).map Char.toNat
  let start : Progress :=
    ⟨if basic.isEmpty then [] else basic ++ ['-'], 0, 72, basic.length⟩
  (start.nameAll basic.length label 0x80 (ascending others)).written

/-! ## Reading -/

/-- The number that is written at the start of a text, added to `n`, and what follows it. The
digit at `place` counts `weight`. -/
def number? (bias : Nat) : (place weight n : Nat) → Text → Option (Nat × Text)
  | _, _, _, [] => none
  | place, weight, n, c :: s =>
    match digitValue? c with
    | none => none
    | some d =>
      let t := threshold bias place
      if d < t then some (n + d * weight, s)
      else number? bias (place + 36) (weight * (36 - t)) (n + d * weight) s

theorem length_number? {bias place weight n : Nat} {s : Text} {r : Nat × Text}
    (h : number? bias place weight n s = some r) : r.2.length < s.length := by
  induction s generalizing place weight n with
  | nil => simp [number?] at h
  | cons c s ih =>
    simp only [number?] at h
    split at h
    · cases h
    · split at h
      · simp only [Option.some.injEq] at h; subst h; simp
      · have := ih h; simp only [List.length_cons]; omega

/-- The largest code point. -/
def maxCodePoint : Nat := 0x10FFFF

/-- The characters that `s` names are put into `label`. The last one was `n`, and the next
place is `place`. -/
def insertAll (bias n place : Nat) (first : Bool) (label s : Text) : Option Text :=
  if s.isEmpty then some label
  else
    match _h : number? bias 36 1 place s with
    | none => none
    | some (steps, rest) =>
      let count := label.length + 1
      let n := n + steps / count
      if n ≤ maxCodePoint ∧ ¬(0xD800 ≤ n ∧ n ≤ 0xDFFF) then
        let place' := steps % count
        insertAll (adapt first (steps - place) count) n (place' + 1) false
          (label.take place' ++ Char.ofNat n :: label.drop place') rest
      else none
termination_by s.length
decreasing_by exact length_number? (by assumption)

/-- The label that a text in ASCII stands for. -/
def decode? (s : Text) : Option Text :=
  match s.reverse.span (· != '-') with
  | (_, []) => insertAll 72 0x80 0 true [] s
  | (others, _ :: basic) => insertAll 72 0x80 0 true basic.reverse others.reverse

end AskSql.Url.Punycode
