import AskSql.Proofs.Text.Quoted

/-!
# The search for a closing parenthesis

What `enclosedFrom` carries from one character to the next is its `Nesting` : whether it is inside
quotes, and how many parentheses are open, the one that it looks for the end of included. The depth
is an integer here, so that only the course of the search can keep it from going below zero.

The nesting behind a text is what its quotes and its unquoted parentheses make of the one in front
of it (`inside_after`, `depth_after`). Where the search goes on, the depth is positive
(`depth_after_pos`), and over a text along which it is positive the search goes on
(`body_append`); where it ends, the next character is the `)` that takes the depth to zero
(`body_eq_self_or`). `enclosedFrom_eq_body` : the search takes what `enclosedFrom` takes.
-/

namespace AskSql.Text

variable {s t : Text} {c : Char}

/-- Where a search stands in a text : inside quotes or not, and how many parentheses are open. -/
structure Nesting where
  inside : Bool
  depth : ℤ

namespace Nesting

variable {n m : Nesting}

/-- Behind an opened parenthesis. -/
def opened : Nesting :=
  ⟨false, 1⟩

/-- One character further. -/
def step (n : Nesting) (c : Char) : Nesting :=
  if c = '"' then { n with inside := !n.inside }
  else if n.inside then n
  else if c = '(' then { n with depth := n.depth + 1 }
  else if c = ')' then { n with depth := n.depth - 1 }
  else n

/-- The nesting behind a text. -/
def after (n : Nesting) (s : Text) : Nesting :=
  s.foldl step n

/-- The search ends at the character : an unquoted `)` that takes the depth to zero. -/
def EndsAt (n : Nesting) (c : Char) : Prop :=
  n.inside = false ∧ c = ')' ∧ (n.step c).depth = 0

instance (n : Nesting) (c : Char) : Decidable (n.EndsAt c) :=
  inferInstanceAs (Decidable (_ ∧ _))

/-- The text in front of the character that the search ends at, or all of it. -/
def body (n : Nesting) : Text → Text
  | [] => []
  | c :: s => if n.EndsAt c then [] else c :: (n.step c).body s

/-- The nestings that the search comes to, from the first one to the one that it ends in. -/
def visited (n : Nesting) : Text → List Nesting
  | [] => [n]
  | c :: s => n :: if n.EndsAt c then [n.step c] else (n.step c).visited s

/-! ### One step -/

theorem step_quote (n : Nesting) : n.step '"' = ⟨!n.inside, n.depth⟩ := rfl

theorem step_of_inside (d : ℤ) (hc : c ≠ '"') : step ⟨true, d⟩ c = ⟨true, d⟩ := by
  simp [step, hc]

theorem step_open (d : ℤ) : step ⟨false, d⟩ '(' = ⟨false, d + 1⟩ := rfl

theorem step_close (d : ℤ) : step ⟨false, d⟩ ')' = ⟨false, d - 1⟩ := rfl

theorem step_of_ne (d : ℤ) (hq : c ≠ '"') (ho : c ≠ '(') (hc : c ≠ ')') :
    step ⟨false, d⟩ c = ⟨false, d⟩ := by
  simp [step, hq, ho, hc]

theorem endsAt_iff : n.EndsAt c ↔ n = opened ∧ c = ')' := by
  obtain ⟨inside, d⟩ := n
  constructor
  · rintro ⟨rfl, rfl, h⟩
    simp only [step_close] at h
    simp only [opened, Nesting.mk.injEq, and_true, true_and]
    omega
  · rintro ⟨h, rfl⟩
    rw [h]
    exact ⟨rfl, rfl, rfl⟩

/-- A step that does not end the search leaves a parenthesis open. -/
theorem depth_step_pos (h : 0 < n.depth) (hc : ¬ n.EndsAt c) : 0 < (n.step c).depth := by
  obtain ⟨inside, d⟩ := n
  simp only at h
  by_cases hq : c = '"'
  · rwa [hq, step_quote]
  cases inside with
  | true => rwa [step_of_inside d hq]
  | false =>
    by_cases ho : c = '('
    · rw [ho, step_open]
      exact Int.lt_add_one_of_le (Int.le_of_lt h)
    by_cases hclose : c = ')'
    · have hne : d - 1 ≠ 0 := fun h0 => hc ⟨rfl, hclose, by rw [hclose]; exact h0⟩
      rw [hclose, step_close]
      dsimp only
      omega
    · rwa [step_of_ne d hq ho hclose]

/-- No step takes the depth below zero. -/
theorem depth_step_nonneg (h : 0 < n.depth) (c : Char) : 0 ≤ (n.step c).depth := by
  by_cases hc : n.EndsAt c
  · exact Int.le_of_eq hc.2.2.symm
  · exact Int.le_of_lt (depth_step_pos h hc)

/-! ### Along a text -/

@[simp] theorem after_nil (n : Nesting) : n.after [] = n := rfl

@[simp] theorem after_cons (n : Nesting) (c : Char) (s : Text) :
    n.after (c :: s) = (n.step c).after s := rfl

theorem inside_after (n : Nesting) (s : Text) :
    (n.after s).inside = insideAfter n.inside s := by
  induction s generalizing n with
  | nil => rfl
  | cons c s ih =>
    rw [after_cons, ih, insideAfter_cons]
    congr 1
    unfold step
    split_ifs <;> rfl

/-- The depth grows with each unquoted `(` and falls with each unquoted `)`. -/
theorem depth_after (n : Nesting) (s : Text) :
    (n.after s).depth =
      n.depth + (unquotedFrom n.inside s).count '(' - (unquotedFrom n.inside s).count ')' := by
  induction s generalizing n with
  | nil => simp [unquotedFrom]
  | cons c s ih =>
    obtain ⟨inside, d⟩ := n
    rw [after_cons, ih]
    by_cases hq : c = '"'
    · simp [hq, step_quote, unquotedFrom]
    cases inside with
    | true => simp [step_of_inside d hq, unquotedFrom, hq]
    | false =>
      have hseen : unquotedFrom false (c :: s) = c :: unquotedFrom false s := by
        simp [unquotedFrom, hq]
      rw [hseen]
      by_cases ho : c = '('
      · rw [ho, step_open, List.count_cons_self, List.count_cons_of_ne (by decide)]
        dsimp only
        omega
      by_cases hc : c = ')'
      · rw [hc, step_close, List.count_cons_self, List.count_cons_of_ne (by decide)]
        dsimp only
        omega
      · rw [step_of_ne d hq ho hc, List.count_cons_of_ne ho, List.count_cons_of_ne hc]

/-- Wherever the search goes on, a parenthesis is open. -/
theorem depth_after_pos (h : 0 < n.depth) (ht : t <+: n.body s) : 0 < (n.after t).depth := by
  induction s generalizing n t with
  | nil =>
    rw [body, List.prefix_nil] at ht
    rwa [ht]
  | cons c s ih =>
    rw [body] at ht
    split_ifs at ht with hc
    · rw [List.prefix_nil] at ht
      rwa [ht]
    · rcases List.prefix_cons_iff.mp ht with rfl | ⟨t, rfl, hrest⟩
      · exact h
      · rw [after_cons]
        exact ih (depth_step_pos h hc) hrest

/-- Wherever the search comes to, the depth is not below zero. -/
theorem depth_nonneg_of_mem_visited (h : 0 < n.depth) (hm : m ∈ n.visited s) : 0 ≤ m.depth := by
  induction s generalizing n with
  | nil =>
    rw [visited, List.mem_singleton] at hm
    rw [hm]
    exact Int.le_of_lt h
  | cons c s ih =>
    rw [visited, List.mem_cons] at hm
    rcases hm with rfl | hm
    · exact Int.le_of_lt h
    split_ifs at hm with hc
    · rw [List.mem_singleton.mp hm]
      exact depth_step_nonneg h c
    · exact ih (depth_step_pos h hc) hm

/-- The search passes over a text along which a parenthesis is open. -/
theorem body_append (t : Text) (h : ∀ p, p <+: s → 0 < (n.after p).depth) :
    n.body (s ++ t) = s ++ (n.after s).body t := by
  induction s generalizing n with
  | nil => rfl
  | cons c s ih =>
    -- The search would end at `c` with depth zero, but no beginning of the text leads there.
    have hc : ¬ n.EndsAt c := by
      intro hends
      have hpos := h [c] (List.prefix_append [c] s)
      rw [after_cons, after_nil, hends.2.2] at hpos
      exact Int.lt_irrefl 0 hpos
    have hrest : ∀ p, p <+: s → 0 < ((n.step c).after p).depth := fun p hp =>
      h (c :: p) (List.prefix_cons_inj c |>.mpr hp)
    rw [List.cons_append, body, if_neg hc, ih hrest]
    rfl

/-- The search takes all of the text, or it ends at a `)` in front of which one parenthesis is
open. -/
theorem body_eq_self_or (n : Nesting) (s : Text) :
    n.body s = s ∨ ∃ v, s = n.body s ++ ')' :: v ∧ n.after (n.body s) = opened := by
  induction s generalizing n with
  | nil => exact Or.inl rfl
  | cons c s ih =>
    rw [body]
    split_ifs with hc
    · obtain ⟨rfl, rfl⟩ := endsAt_iff.mp hc
      exact Or.inr ⟨s, rfl, rfl⟩
    · rcases ih (n.step c) with hs | ⟨v, hs, hn⟩
      · exact Or.inl (congrArg (c :: ·) hs)
      · exact Or.inr ⟨v, congrArg (c :: ·) hs, hn⟩

/-- `enclosedFrom` counts the open parentheses besides the one that it looks for the end of, the
search counts this one, too; they take the same. -/
theorem enclosedFrom_eq_body (inside : Bool) (depth : ℕ) (s : Text) :
    enclosedFrom inside depth s = body ⟨inside, depth + 1⟩ s := by
  induction s generalizing inside depth with
  | nil => rfl
  | cons c s ih =>
    by_cases hq : c = '"'
    · simp [enclosedFrom, body, endsAt_iff, hq, step_quote, ih]
    cases inside with
    | true => simp [enclosedFrom, body, endsAt_iff, hq, step_of_inside, opened, ih]
    | false =>
      by_cases ho : c = '('
      · simp [enclosedFrom, body, endsAt_iff, ho, step_open, ih]
      by_cases hc : c = ')'
      · cases depth with
        | zero => simp [enclosedFrom, body, endsAt_iff, hc, opened]
        | succ depth =>
          have hd : ¬ (depth : ℤ) + 1 + 1 = 1 := by omega
          simp [enclosedFrom, body, endsAt_iff, hc, step_close, opened, ih, hd]
      · simp [enclosedFrom, body, endsAt_iff, hq, ho, hc, step_of_ne, ih]

end Nesting
end AskSql.Text
