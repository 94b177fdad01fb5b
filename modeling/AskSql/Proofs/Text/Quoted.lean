import AskSql.Proofs.Text.Pieces
import AskSql.Text.Quoted
import Mathlib.Algebra.Group.Nat.Even
import Mathlib.Data.List.Infix

/-!
# Quoted names

A scanner that looks outside quotes only carries one bit, whether it is inside
(`insideAfter`). A written name leaves that bit as it finds it
(`insideAfter_quoteIdentifier`) and shows the scanner at most the characters of a plain
identifier (`unquoted_quoteIdentifier`), whatever the name holds.

`unquote_quoteIdentifier` : a name is what its written form stands for.
-/

namespace AskSql.Text

variable {p : Char → Bool} {s t u : Text} {c : Char} {inside : Bool}

/-! ## Characters of identifiers -/

theorem isBlank_of_isIdentifierPart (h : isIdentifierPart c = true) : isBlank c = false := by
  simp only [isIdentifierPart, Bool.or_eq_true, beq_iff_eq, isAsciiLetter_iff,
    isAsciiDigit_iff] at h
  rcases h with h | rfl
  · simp only [isBlank, Bool.or_eq_false_iff, Bool.and_eq_false_iff, decide_eq_false_iff_not,
      beq_eq_false_iff_ne]
    omega
  · decide

theorem isIdentifierPart_of_isIdentifierStart (h : isIdentifierStart c = true) :
    isIdentifierPart c = true := by
  simp only [isIdentifierStart, isIdentifierPart, Bool.or_eq_true] at h ⊢
  rcases h with h | h
  · exact Or.inl (Or.inl h)
  · exact Or.inr h

theorem ne_of_isIdentifierPart (h : isIdentifierPart c = true) {d : Char}
    (hd : isIdentifierPart d = false) : c ≠ d := by
  rintro rfl
  simp [h] at hd

theorem forall_isIdentifierPart (h : isPlainIdentifier s = true) :
    ∀ c ∈ s, isIdentifierPart c = true := by
  cases s with
  | nil => simp [isPlainIdentifier] at h
  | cons c s =>
    simp only [isPlainIdentifier, Bool.and_eq_true, List.all_eq_true] at h
    exact h.2

theorem ne_nil_of_isPlainIdentifier (h : isPlainIdentifier s = true) : s ≠ [] := by
  rintro rfl
  simp [isPlainIdentifier] at h

/-- A character that no identifier holds is not in a plain one. -/
theorem not_mem_of_isPlainIdentifier (h : isPlainIdentifier s = true)
    (hc : isIdentifierPart c = false) : c ∉ s := by
  intro hmem
  have := forall_isIdentifierPart h c hmem
  simp [hc] at this

/-! ## Written names -/

theorem collapseQuotes_doubleQuotes (s : Text) : collapseQuotes (doubleQuotes s) = s := by
  induction s with
  | nil => rfl
  | cons c s ih =>
    by_cases hc : c = '"'
    · simp [doubleQuotes, hc, collapseQuotes, ih]
    · simp [doubleQuotes, hc, collapseQuotes, ih]

theorem quoteIdentifier_of_plain (h : isPlainIdentifier s = true) : quoteIdentifier s = s := by
  simp [quoteIdentifier, h]

theorem quoteIdentifier_of_not_plain (h : isPlainIdentifier s = false) :
    quoteIdentifier s = '"' :: (doubleQuotes s ++ ['"']) := by
  simp [quoteIdentifier, h]

/-- A written name starts with a quote or with a character of an identifier. -/
theorem exists_quoteIdentifier_eq_cons (s : Text) :
    ∃ c t, quoteIdentifier s = c :: t ∧ (c = '"' ∨ isIdentifierPart c = true) := by
  by_cases h : isPlainIdentifier s = true
  · obtain ⟨c, t, rfl⟩ := List.exists_cons_of_ne_nil (ne_nil_of_isPlainIdentifier h)
    exact ⟨c, t, quoteIdentifier_of_plain h,
      Or.inr (forall_isIdentifierPart h c List.mem_cons_self)⟩
  · exact ⟨'"', _, quoteIdentifier_of_not_plain (by simpa using h), Or.inl rfl⟩

/-- A written name ends with a quote or with a character of an identifier. -/
theorem exists_quoteIdentifier_eq_concat (s : Text) :
    ∃ t c, quoteIdentifier s = t ++ [c] ∧ (c = '"' ∨ isIdentifierPart c = true) := by
  by_cases h : isPlainIdentifier s = true
  · obtain ⟨t, c, rfl⟩ := List.eq_nil_or_concat s |>.resolve_left (ne_nil_of_isPlainIdentifier h)
    exact ⟨t, c, by simpa using quoteIdentifier_of_plain h,
      Or.inr (forall_isIdentifierPart h c (by simp))⟩
  · refine ⟨'"' :: doubleQuotes s, '"', ?_, Or.inl rfl⟩
    rw [quoteIdentifier_of_not_plain (by simpa using h)]
    rfl

theorem isBlank_of_quote_or_isIdentifierPart (h : c = '"' ∨ isIdentifierPart c = true) :
    isBlank c = false := by
  rcases h with rfl | h
  · decide
  · exact isBlank_of_isIdentifierPart h

/-- A written name has no blanks around it. -/
theorem solid_quoteIdentifier (s : Text) : Solid (quoteIdentifier s) := by
  obtain ⟨c, t, hs, hc⟩ := exists_quoteIdentifier_eq_cons s
  obtain ⟨u, d, hu, hd⟩ := exists_quoteIdentifier_eq_concat s
  exact ⟨⟨c, t, hs, isBlank_of_quote_or_isIdentifierPart hc⟩,
    ⟨u, d, hu, isBlank_of_quote_or_isIdentifierPart hd⟩⟩

/-- A name is what its written form stands for. -/
theorem unquote_quoteIdentifier (s : Text) : unquote (quoteIdentifier s) = s := by
  rw [unquote, (solid_quoteIdentifier s).trim_eq]
  by_cases h : isPlainIdentifier s = true
  · rw [quoteIdentifier_of_plain h]
    cases s with
    | nil => rfl
    | cons c s =>
      have hc : c ≠ '"' := ne_of_isIdentifierPart
        (forall_isIdentifierPart h c List.mem_cons_self) (by decide)
      simp [hc]
  · rw [quoteIdentifier_of_not_plain (by simpa using h)]
    simp [collapseQuotes_doubleQuotes]

/-! ## Inside or outside -/

/-- Whether a scanner is inside quotes after a text, if it was `inside` before. -/
def insideAfter (inside : Bool) : Text → Bool
  | [] => inside
  | c :: s => insideAfter (if c = '"' then !inside else inside) s

@[simp] theorem insideAfter_nil : insideAfter inside [] = inside := rfl

theorem insideAfter_cons (c : Char) (s : Text) :
    insideAfter inside (c :: s) = insideAfter (if c = '"' then !inside else inside) s := rfl

@[simp] theorem insideAfter_append (inside : Bool) (s t : Text) :
    insideAfter inside (s ++ t) = insideAfter (insideAfter inside s) t := by
  induction s generalizing inside with
  | nil => rfl
  | cons c s ih => exact ih _

theorem insideAfter_of_not_mem (h : '"' ∉ s) : insideAfter inside s = inside := by
  induction s with
  | nil => rfl
  | cons c s ih =>
    simp only [List.mem_cons, not_or] at h
    rw [insideAfter_cons, if_neg (Ne.symm h.1), ih h.2]

/-- Quotes come in pairs if and only if a scanner ends where it starts. -/
theorem even_count_quote_iff (inside : Bool) :
    Even (s.count '"') ↔ insideAfter inside s = inside := by
  induction s generalizing inside with
  | nil => simp
  | cons c s ih =>
    by_cases hc : c = '"'
    · subst hc
      have := ih (!inside)
      rw [List.count_cons_self, Nat.even_add_one, insideAfter_cons, if_pos rfl, this]
      cases inside <;> cases insideAfter _ s <;> simp
    · rw [List.count_cons_of_ne hc, insideAfter_cons, if_neg hc, ih inside]

/-- A doubled quote leaves the quotes and comes back at once. -/
theorem insideAfter_doubleQuotes (s : Text) : insideAfter inside (doubleQuotes s) = inside := by
  induction s with
  | nil => rfl
  | cons c s ih =>
    by_cases hc : c = '"'
    · simp [doubleQuotes, hc, insideAfter_cons, ih]
    · simp [doubleQuotes, hc, insideAfter_cons, ih]

/-- A written name ends as far inside or outside as it starts. -/
@[simp] theorem insideAfter_quoteIdentifier (s : Text) :
    insideAfter inside (quoteIdentifier s) = inside := by
  by_cases h : isPlainIdentifier s = true
  · rw [quoteIdentifier_of_plain h]
    exact insideAfter_of_not_mem (not_mem_of_isPlainIdentifier h (by decide))
  · rw [quoteIdentifier_of_not_plain (by simpa using h), insideAfter_cons, insideAfter_append,
      insideAfter_doubleQuotes]
    simp [insideAfter_cons]

/-! ## What a scanner sees -/

@[simp] theorem unquotedFrom_append (inside : Bool) (s t : Text) :
    unquotedFrom inside (s ++ t) =
      unquotedFrom inside s ++ unquotedFrom (insideAfter inside s) t := by
  induction s generalizing inside with
  | nil => rfl
  | cons c s ih =>
    by_cases hc : c = '"'
    · simp [unquotedFrom, insideAfter_cons, hc, ih]
    · cases inside <;> simp [unquotedFrom, insideAfter_cons, hc, ih]

theorem unquotedFrom_isPrefix (inside : Bool) (h : t <+: s) :
    unquotedFrom inside t <+: unquotedFrom inside s := by
  obtain ⟨v, rfl⟩ := h
  rw [unquotedFrom_append]
  exact List.prefix_append _ _

/-- A beginning of what a scanner sees is what it sees of a beginning. -/
theorem exists_isPrefix_unquotedFrom_eq (h : u <+: unquotedFrom inside s) :
    ∃ t, t <+: s ∧ unquotedFrom inside t = u := by
  induction s generalizing inside u with
  | nil => exact ⟨[], List.nil_prefix, (List.prefix_nil.mp h).symm⟩
  | cons c s ih =>
    have hcons : ∀ t, t <+: s → c :: t <+: c :: s := fun t => (List.prefix_cons_inj c).mpr
    by_cases hq : c = '"'
    · simp only [unquotedFrom, hq, if_true] at h
      obtain ⟨t, ht, rfl⟩ := ih h
      exact ⟨c :: t, hcons t ht, by simp [unquotedFrom, hq]⟩
    cases inside with
    | true =>
      simp only [unquotedFrom, hq, if_true, if_false] at h
      obtain ⟨t, ht, rfl⟩ := ih h
      exact ⟨c :: t, hcons t ht, by simp [unquotedFrom, hq]⟩
    | false =>
      simp only [unquotedFrom, hq, if_false, Bool.false_eq_true] at h
      rcases List.prefix_cons_iff.mp h with rfl | ⟨u, rfl, hu⟩
      · exact ⟨[], List.nil_prefix, rfl⟩
      · obtain ⟨t, ht, rfl⟩ := ih hu
        exact ⟨c :: t, hcons t ht, by simp [unquotedFrom, hq]⟩

theorem unquotedFrom_false_of_not_mem (h : '"' ∉ s) : unquotedFrom false s = s := by
  induction s with
  | nil => rfl
  | cons c s ih =>
    simp only [List.mem_cons, not_or] at h
    simp [unquotedFrom, Ne.symm h.1, ih h.2]

theorem unquotedFrom_true_doubleQuotes (s : Text) : unquotedFrom true (doubleQuotes s) = [] := by
  induction s with
  | nil => rfl
  | cons c s ih =>
    by_cases hc : c = '"'
    · simp [doubleQuotes, hc, unquotedFrom, ih]
    · simp [doubleQuotes, hc, unquotedFrom, ih]

/-- Of a written name, a scanner sees a plain identifier or nothing. -/
theorem unquoted_quoteIdentifier (s : Text) :
    unquotedFrom false (quoteIdentifier s) = if isPlainIdentifier s then s else [] := by
  by_cases h : isPlainIdentifier s = true
  · rw [quoteIdentifier_of_plain h, if_pos h]
    exact unquotedFrom_false_of_not_mem (not_mem_of_isPlainIdentifier h (by decide))
  · rw [quoteIdentifier_of_not_plain (by simpa using h), if_neg h]
    simp [unquotedFrom, unquotedFrom_true_doubleQuotes]

theorem isIdentifierPart_of_mem_unquoted_quoteIdentifier
    (h : c ∈ unquotedFrom false (quoteIdentifier s)) : isIdentifierPart c = true := by
  rw [unquoted_quoteIdentifier] at h
  split at h
  · next hs => exact forall_isIdentifierPart hs c h
  · simp at h

/-- A character that no identifier holds is not seen in a written name. -/
theorem not_mem_unquoted_quoteIdentifier (s : Text) (hc : isIdentifierPart c = false) :
    c ∉ unquotedFrom false (quoteIdentifier s) := by
  intro h
  simp [isIdentifierPart_of_mem_unquoted_quoteIdentifier h] at hc

end AskSql.Text
