import AskSql.Text.Basic
import Mathlib.Data.List.Infix

/-!
# Replaced occurrences

Replacing reads a text from the left : where an occurrence of the needle starts, it is passed
over as a whole, and elsewhere one character is kept (`occurrence_induction`). Taking out
the occurrences can bring new ones about, because what stood around an occurrence then stands
side by side. It cannot if the needle is a repeated character : of every run of the character,
what remains is shorter than the needle (`runLength_replaceAll`), and runs do not meet.

No occurrence reaches over a character that the needle does not hold, so what stands before such a
character and what stands behind it are read each as if it stood alone
(`replaceAll_append_cons`).
-/

namespace AskSql.Text

variable {needle sub s t : Text} {c d : Char} {n : Nat}

/-! ## Occurrences from the left -/

theorem replaceFrom_eq_drop (needle sub : Text) (skip : Nat) (s : Text) :
    replaceFrom needle sub skip s = replaceAll needle sub (s.drop skip) := by
  induction s generalizing skip with
  | nil => cases skip <;> rfl
  | cons c s ih =>
    cases skip with
    | zero => rfl
    | succ skip => exact ih skip

@[simp] theorem replaceAll_nil (needle sub : Text) : replaceAll needle sub [] = [] := rfl

theorem replaceAll_append (hne : needle ≠ []) (sub s : Text) :
    replaceAll needle sub (needle ++ s) = sub ++ replaceAll needle sub s := by
  obtain ⟨c, rest, rfl⟩ := List.exists_cons_of_ne_nil hne
  have hhere : (c :: rest).isPrefixOf (c :: (rest ++ s)) = true := by
    rw [List.isPrefixOf_iff_prefix]
    exact List.prefix_append (c :: rest) s
  rw [replaceAll, List.cons_append, replaceFrom, if_pos hhere, replaceFrom_eq_drop]
  simp

theorem replaceAll_cons (h : ¬ needle <+: c :: s) (sub : Text) :
    replaceAll needle sub (c :: s) = c :: replaceAll needle sub s := by
  rw [replaceAll, replaceFrom, if_neg (by simpa using h)]
  rfl

/-- Induction on a text as it is read when a needle is replaced. -/
@[elab_as_elim]
theorem occurrence_induction (hne : needle ≠ []) {motive : Text → Prop} (nil : motive [])
    (occurrence : ∀ s, motive s → motive (needle ++ s))
    (char : ∀ c s, ¬ needle <+: c :: s → motive s → motive (c :: s)) (s : Text) : motive s := by
  match s with
  | [] => exact nil
  | c :: s =>
    by_cases h : needle <+: c :: s
    · obtain ⟨rest, hrest⟩ := h
      rw [← hrest]
      exact occurrence rest (occurrence_induction hne nil occurrence char rest)
    · exact char c s h (occurrence_induction hne nil occurrence char s)
termination_by s.length
decreasing_by
  · have hlength := congrArg List.length hrest
    have := List.length_pos_of_ne_nil hne
    simp only [List.length_append, List.length_cons] at hlength
    simp only [List.length_cons]
    omega
  · simp

theorem replaceAll_eq_self (h : ¬ needle <:+: s) (sub : Text) : replaceAll needle sub s = s := by
  induction s with
  | nil => rfl
  | cons c s ih =>
    rw [List.infix_cons_iff, not_or] at h
    rw [replaceAll_cons h.1, ih h.2]

/-! ## Characters that are not in the needle -/

theorem not_isPrefix_of_not_mem (hne : needle ≠ []) (hc : c ∉ needle) (s : Text) :
    ¬ needle <+: c :: s := by
  obtain ⟨d, rest, rfl⟩ := List.exists_cons_of_ne_nil hne
  rw [List.cons_prefix_cons]
  rintro ⟨rfl, -⟩
  exact hc List.mem_cons_self

/-- An occurrence ends before a character that the needle does not hold. -/
theorem isPrefix_of_isPrefix_append_cons (hc : c ∉ needle) (h : needle <+: s ++ c :: t) :
    needle <+: s := by
  rcases List.prefix_or_prefix_of_prefix h (List.prefix_append s (c :: t)) with h' | ⟨u, rfl⟩
  · exact h'
  · have hu : u <+: c :: t := (List.prefix_append_right_inj s).mp h
    rcases List.prefix_cons_iff.mp hu with rfl | ⟨v, rfl, -⟩
    · simp
    · simp at hc

section Apart

variable (hne : needle ≠ [])
include hne

theorem replaceAll_append_cons (hc : c ∉ needle) (sub s t : Text) :
    replaceAll needle sub (s ++ c :: t) =
      replaceAll needle sub s ++ c :: replaceAll needle sub t := by
  induction s using occurrence_induction hne with
  | nil => exact replaceAll_cons (not_isPrefix_of_not_mem hne hc t) sub
  | occurrence s ih =>
    rw [List.append_assoc, replaceAll_append hne, replaceAll_append hne, ih, List.append_assoc]
  | char d s hstart ih =>
    have hstart' : ¬ needle <+: d :: (s ++ c :: t) := fun h =>
      hstart (isPrefix_of_isPrefix_append_cons hc h)
    rw [List.cons_append, replaceAll_cons hstart', replaceAll_cons hstart, ih, List.cons_append]

/-- Characters that the needle does not hold stay, and the text behind them is read as if it stood
alone. -/
theorem replaceAll_gap_append {gap : Text} (hgap : ∀ c ∈ gap, c ∉ needle) (sub t : Text) :
    replaceAll needle sub (gap ++ t) = gap ++ replaceAll needle sub t := by
  induction gap with
  | nil => rfl
  | cons c gap ih =>
    obtain ⟨hc, hgap⟩ := List.forall_mem_cons.mp hgap
    rw [List.cons_append, replaceAll_cons (not_isPrefix_of_not_mem hne hc _), ih hgap,
      List.cons_append]

/-- A gap of characters that the needle does not hold divides a text. -/
theorem replaceAll_append_gap_append {gap : Text} (hgap : ∀ c ∈ gap, c ∉ needle) (hgap' : gap ≠ [])
    (sub s t : Text) :
    replaceAll needle sub (s ++ (gap ++ t)) =
      replaceAll needle sub s ++ (gap ++ replaceAll needle sub t) := by
  obtain ⟨c, gap, rfl⟩ := List.exists_cons_of_ne_nil hgap'
  obtain ⟨hc, hgap⟩ := List.forall_mem_cons.mp hgap
  rw [List.cons_append, replaceAll_append_cons hne hc, replaceAll_gap_append hne hgap,
    List.cons_append]

theorem replaceAll_append_gap {gap : Text} (hgap : ∀ c ∈ gap, c ∉ needle) (sub s : Text) :
    replaceAll needle sub (s ++ gap) = replaceAll needle sub s ++ gap := by
  by_cases hgap' : gap = []
  · simp [hgap']
  · simpa using replaceAll_append_gap_append hne hgap hgap' sub s []

end Apart

/-! ## Runs of a character -/

/-- The number of times that a text has `c` at its start. -/
def runLength (c : Char) (s : Text) : Nat :=
  (s.takeWhile (· == c)).length

theorem runLength_cons_self (c : Char) (s : Text) :
    runLength c (c :: s) = runLength c s + 1 := by
  simp [runLength]

theorem runLength_cons_of_ne (h : d ≠ c) (s : Text) : runLength c (d :: s) = 0 := by
  simp [runLength, h]

theorem runLength_replicate_append (n : Nat) (c : Char) (s : Text) :
    runLength c (List.replicate n c ++ s) = n + runLength c s := by
  induction n with
  | zero => simp
  | succ n ih =>
    rw [List.replicate_succ, List.cons_append, runLength_cons_self, ih]
    omega

theorem replicate_isPrefix_iff : List.replicate n c <+: s ↔ n ≤ runLength c s := by
  induction n generalizing s with
  | zero => simp
  | succ n ih =>
    cases s with
    | nil => simp [runLength, List.replicate_succ]
    | cons d s =>
      by_cases hd : d = c
      · subst hd
        rw [List.replicate_succ, List.cons_prefix_cons, ih, runLength_cons_self]
        simp
      · rw [List.replicate_succ, List.cons_prefix_cons, runLength_cons_of_ne hd]
        simp [Ne.symm hd]

section Replicate

variable (hn : 0 < n)
include hn

theorem replicate_ne_nil (c : Char) : List.replicate n c ≠ [] := by
  simp only [ne_eq, List.replicate_eq_nil_iff]
  omega

/-- Of a run at the start, what remains is shorter than the needle. -/
theorem runLength_replaceAll (c : Char) (s : Text) :
    runLength c (replaceAll (List.replicate n c) [] s) = runLength c s % n := by
  induction s using occurrence_induction (replicate_ne_nil hn c) with
  | nil => rfl
  | occurrence s ih =>
    rw [replaceAll_append (replicate_ne_nil hn c), List.nil_append, ih,
      runLength_replicate_append, Nat.add_mod_left]
  | char d s hstart ih =>
    rw [replaceAll_cons hstart]
    by_cases hd : d = c
    · subst hd
      rw [replicate_isPrefix_iff, runLength_cons_self] at hstart
      rw [runLength_cons_self, runLength_cons_self, ih, Nat.mod_eq_of_lt (by omega),
        Nat.mod_eq_of_lt (by omega)]
    · rw [runLength_cons_of_ne hd, runLength_cons_of_ne hd, Nat.zero_mod]

/-- A needle of one repeated character is gone when its occurrences are. -/
theorem not_infix_replaceAll (c : Char) (s : Text) :
    ¬ List.replicate n c <:+: replaceAll (List.replicate n c) [] s := by
  induction s using occurrence_induction (replicate_ne_nil hn c) with
  | nil => simpa using replicate_ne_nil hn c
  | occurrence s ih => rwa [replaceAll_append (replicate_ne_nil hn c), List.nil_append]
  | char d s hstart ih =>
    rw [replaceAll_cons hstart, List.infix_cons_iff]
    rintro (hhere | hlater)
    · rw [← replaceAll_cons hstart, replicate_isPrefix_iff, runLength_replaceAll hn] at hhere
      have := Nat.mod_lt (runLength c (d :: s)) hn
      omega
    · exact ih hlater

end Replicate
end AskSql.Text
