import AskSql.Text.Letter

/-!
# Ends and pieces of texts

What trimming and splitting do to a text that is put together from parts. A character that
stays protects everything before it from being cut off at the end (`dropEndWhile_append_cons`),
and a break ends a line wherever it stands (`lines_append_break`).
-/

namespace AskSql.Text

variable {p : Char → Bool} {s t : Text} {c : Char}

/-! ## Ends -/

/-- Nothing before a character that stays is cut off. -/
theorem dropEndWhile_append_cons (s : Text) (hc : p c = false) (t : Text) :
    dropEndWhile p (s ++ c :: t) = s ++ c :: dropEndWhile p t := by
  unfold dropEndWhile
  have hrev : (s ++ c :: t).reverse = t.reverse ++ (c :: s.reverse) := by simp
  rw [hrev, List.dropWhile_append]
  split
  · next h =>
    rw [List.isEmpty_iff.mp h]
    simp [hc]
  · simp

theorem not_of_dropWhile_eq_cons (h : s.dropWhile p = c :: t) : p c = false := by
  have hhead := List.head?_dropWhile_not p s
  simpa [h] using hhead

theorem dropEndWhile_append_singleton (s : Text) (hc : p c = false) :
    dropEndWhile p (s ++ [c]) = s ++ [c] :=
  dropEndWhile_append_cons s hc []

theorem dropEndWhile_isPrefix (p : Char → Bool) (s : Text) : dropEndWhile p s <+: s := by
  unfold dropEndWhile
  rw [← List.reverse_suffix, List.reverse_reverse]
  exact List.dropWhile_suffix p

theorem trim_isInfix (s : Text) : trim s <:+: s :=
  (dropEndWhile_isPrefix isBlank _).isInfix.trans (List.dropWhile_suffix isBlank).isInfix

theorem trim_subset (s : Text) : trim s ⊆ s :=
  (trim_isInfix s).subset

theorem not_mem_of_isBlankText {gap : Text} (hgap : isBlankText gap = true)
    (hc : isBlank c = false) : c ∉ gap := by
  intro h
  simp [List.all_eq_true.mp hgap c h] at hc

theorem isBlankText_append {gap gap' : Text} (hgap : isBlankText gap = true)
    (hgap' : isBlankText gap' = true) : isBlankText (gap ++ gap') = true := by
  rw [isBlankText, List.all_append, Bool.and_eq_true]
  exact ⟨hgap, hgap'⟩

/-- Blanks before a text go. -/
theorem trim_blank_append {gap : Text} (hgap : isBlankText gap = true) (s : Text) :
    trim (gap ++ s) = trim s := by
  rw [trim, trim, trimStart, List.dropWhile_append_of_pos (List.all_eq_true.mp hgap), ← trimStart]

/-- Blanks behind a text go. -/
theorem trim_append_blank {gap : Text} (hgap : isBlankText gap = true) (s : Text) :
    trim (s ++ gap) = trim s := by
  have hnone : gap.dropWhile isBlank = [] := by
    rw [← List.append_nil gap, List.dropWhile_append_of_pos (List.all_eq_true.mp hgap)]
    rfl
  have hend (t : Text) : trimEnd (t ++ gap) = trimEnd t := by
    rw [trimEnd, trimEnd, dropEndWhile, dropEndWhile, List.reverse_append,
      List.dropWhile_append_of_pos fun c hc => List.all_eq_true.mp hgap c (List.mem_reverse.mp hc)]
  rw [trim, trim, trimStart, trimStart, List.dropWhile_append]
  split
  · next h => rw [hnone, List.isEmpty_iff.mp h]
  · exact hend _

theorem trimStart_cons (hc : isBlank c = false) (s : Text) : trimStart (c :: s) = c :: s := by
  simp [trimStart, hc]

theorem isBlank_of_trim_eq_cons (h : trim s = c :: t) : isBlank c = false := by
  obtain ⟨u, hu⟩ := dropEndWhile_isPrefix isBlank (trimStart s)
  have hstart : s.dropWhile isBlank = c :: (t ++ u) := by
    rw [← trimEnd, ← trim, h] at hu
    exact hu.symm
  exact not_of_dropWhile_eq_cons hstart

/-- A character that is no blank is not trimmed off. -/
theorem mem_trim (h : c ∈ s) (hc : isBlank c = false) : c ∈ trim s := by
  have hdrop {t : Text} (ht : c ∈ t) : c ∈ t.dropWhile isBlank := by
    rw [← List.takeWhile_append_dropWhile (p := isBlank) (l := t), List.mem_append] at ht
    refine ht.resolve_left fun htake => ?_
    simp [List.all_eq_true.mp List.all_takeWhile c htake] at hc
  rw [trim, trimEnd, dropEndWhile, List.mem_reverse]
  exact hdrop (List.mem_reverse.mpr (hdrop h))

/-- A text that starts and ends with something else than a blank. -/
structure Solid (s : Text) : Prop where
  head : ∃ c t, s = c :: t ∧ isBlank c = false
  last : ∃ t c, s = t ++ [c] ∧ isBlank c = false

/-- What is left of a text that was trimmed, if anything is. -/
theorem solid_trim (h : trim s ≠ []) : Solid (trim s) where
  head := by
    obtain ⟨c, t, hs⟩ := List.exists_cons_of_ne_nil h
    exact ⟨c, t, hs, isBlank_of_trim_eq_cons hs⟩
  last := by
    have hne : (trimStart s).reverse.dropWhile isBlank ≠ [] := by
      simpa [trim, trimEnd, dropEndWhile] using h
    obtain ⟨c, t, hreverse⟩ := List.exists_cons_of_ne_nil hne
    have hs : trim s = t.reverse ++ [c] := by simp [trim, trimEnd, dropEndWhile, hreverse]
    exact ⟨t.reverse, c, hs, not_of_dropWhile_eq_cons hreverse⟩

theorem Solid.trim_eq (h : Solid s) : trim s = s := by
  obtain ⟨c, t, hs, hc⟩ := h.head
  obtain ⟨u, d, hu, hd⟩ := h.last
  have hstart : trimStart s = s := by rw [hs, trimStart_cons hc]
  rw [trim, trimEnd, hstart, hu, dropEndWhile_append_singleton u hd]

/-- Blanks around a solid text go. -/
theorem Solid.trim_cons_space (h : Solid s) : trim (' ' :: s) = s := by
  have hstart : trimStart (' ' :: s) = trimStart s := by
    simp [trimStart, isBlank]
  rw [trim, hstart, ← trim, h.trim_eq]

theorem Solid.append (hs : Solid s) (ht : Solid t) (u : Text) : Solid (s ++ u ++ t) := by
  obtain ⟨c, s', rfl, hc⟩ := hs.head
  obtain ⟨t', d, rfl, hd⟩ := ht.last
  exact ⟨⟨c, s' ++ u ++ (t' ++ [d]), by simp, hc⟩, ⟨c :: s' ++ u ++ t', d, by simp, hd⟩⟩

/-! ## Starts -/

/-- Nothing behind a character that stays is taken. -/
theorem takeWhile_append_cons (s : Text) (hc : p c = false) (t : Text) :
    (s ++ c :: t).takeWhile p = s.takeWhile p := by
  induction s with
  | nil => simp [hc]
  | cons d s ih => simp only [List.cons_append, List.takeWhile_cons, ih]

theorem dropWhile_append_cons (s : Text) (hc : p c = false) (t : Text) :
    (s ++ c :: t).dropWhile p = s.dropWhile p ++ c :: t := by
  induction s with
  | nil => simp [hc]
  | cons d s ih =>
    simp only [List.cons_append, List.dropWhile_cons, ih]
    split <;> rfl

/-! ## Lines -/

theorem splitWhere_ne_nil (p : Char → Bool) (s : Text) : splitWhere p s ≠ [] := by
  cases s with
  | nil => simp [splitWhere]
  | cons c s =>
    unfold splitWhere
    split
    · simp
    · split <;> simp

/-- A separator divides what stands before it from what stands behind it. -/
theorem splitWhere_append_separator (hc : p c = true) (s t : Text) :
    splitWhere p (s ++ c :: t) = splitWhere p s ++ splitWhere p t := by
  induction s with
  | nil => simp [splitWhere, hc]
  | cons d s ih =>
    obtain ⟨piece, pieces, hpieces⟩ := List.exists_cons_of_ne_nil (splitWhere_ne_nil p s)
    rw [List.cons_append, splitWhere, splitWhere, ih, hpieces]
    split <;> rfl

theorem splitWhere_of_forall_not (h : ∀ d ∈ s, p d = false) : splitWhere p s = [s] := by
  induction s with
  | nil => rfl
  | cons d s ih =>
    rw [splitWhere, ih fun e he => h e (List.mem_cons_of_mem d he)]
    simp [h d List.mem_cons_self]

/-- No piece holds a separator. -/
theorem not_of_mem_splitWhere {piece : Text} (h : piece ∈ splitWhere p s) :
    ∀ d ∈ piece, p d = false := by
  induction s generalizing piece with
  | nil =>
    obtain rfl : piece = [] := by simpa [splitWhere] using h
    simp
  | cons c s ih =>
    obtain ⟨first, pieces, hpieces⟩ := List.exists_cons_of_ne_nil (splitWhere_ne_nil p s)
    rw [hpieces] at ih
    rw [splitWhere, hpieces] at h
    split at h
    · rcases List.mem_cons.mp h with rfl | h
      · simp
      · exact ih h
    · next hc =>
      rcases List.mem_cons.mp h with rfl | h
      · exact List.forall_mem_cons.mpr ⟨by simpa using hc, ih List.mem_cons_self⟩
      · exact ih (List.mem_cons_of_mem first h)

theorem lines_append_break (s t : Text) : lines (s ++ '\n' :: t) = lines s ++ lines t :=
  splitWhere_append_separator (by simp) s t

/-- A text without a break is a line. -/
theorem lines_of_not_mem (h : '\n' ∉ s) : lines s = [s] :=
  splitWhere_of_forall_not fun d hd => by simpa using ne_of_mem_of_not_mem hd h

/-- The first line of a text with a break. -/
theorem lines_append_break_of_not_mem (h : '\n' ∉ s) (t : Text) :
    lines (s ++ '\n' :: t) = s :: lines t := by
  rw [lines_append_break, lines_of_not_mem h]
  rfl

/-- Induction on the lines of a text. -/
@[elab_as_elim]
theorem line_induction {motive : Text → Prop} (last : ∀ s, '\n' ∉ s → motive s)
    (next : ∀ line t, '\n' ∉ line → motive t → motive (line ++ '\n' :: t)) (s : Text) :
    motive s := by
  by_cases h : '\n' ∈ s
  · obtain ⟨line, t, hs, hline⟩ := List.eq_append_cons_of_mem h
    rw [hs]
    exact next line t hline (line_induction last next t)
  · exact last s h
termination_by s.length
decreasing_by
  have hlength := congrArg List.length hs
  simp only [List.length_append, List.length_cons] at hlength
  omega

theorem break_not_mem_of_mem_lines {line : Text} (h : line ∈ lines s) : '\n' ∉ line := by
  intro hmem
  simpa using not_of_mem_splitWhere h '\n' hmem

/-! ## Breaks -/

theorem breakAt?_eq_none_iff : breakAt? c s = none ↔ c ∉ s := by
  induction s with
  | nil => simp [breakAt?]
  | cons d s ih =>
    by_cases hd : d = c
    · simp [breakAt?, hd]
    · simp [breakAt?, hd, ih, Ne.symm hd]

/-- A text breaks at the first place where the character stands. -/
theorem breakAt?_eq_some {before after : Text} (h : breakAt? c s = some (before, after)) :
    s = before ++ c :: after ∧ c ∉ before := by
  induction s generalizing before with
  | nil => cases h
  | cons d s ih =>
    by_cases hd : d = c
    · simp only [breakAt?, hd, beq_self_eq_true, if_true, Option.some.injEq, Prod.mk.injEq] at h
      obtain ⟨rfl, rfl⟩ := h
      simp [hd]
    · simp only [breakAt?, beq_iff_eq, hd, if_false, Option.map_eq_some_iff] at h
      obtain ⟨⟨b, a⟩, hrest, heq⟩ := h
      obtain ⟨rfl, rfl⟩ := Prod.mk.inj heq
      obtain ⟨hs, hb⟩ := ih hrest
      exact ⟨by rw [hs, List.cons_append], by simp [hb, Ne.symm hd]⟩

/-! ## Occurrences -/

theorem occursIn_iff : occursIn t s = true ↔ t <:+: s := by
  induction s with
  | nil => simp [occursIn]
  | cons c s ih => simp [occursIn, ih, List.infix_cons_iff]

/-! ## Distinct texts -/

@[simp] theorem mem_distinct {names : List Text} :
    s ∈ distinct names ↔ s ∈ names := by
  induction names with
  | nil => rfl
  | cons name names ih =>
    by_cases hs : s = name
    · simp [distinct, hs]
    · simp [distinct, hs, ih]

theorem nodup_distinct (names : List Text) : (distinct names).Nodup := by
  induction names with
  | nil => exact List.nodup_nil
  | cons name names ih => exact List.nodup_cons.mpr ⟨by simp, ih.filter _⟩

theorem distinct_of_nodup {names : List Text} (h : names.Nodup) : distinct names = names := by
  induction names with
  | nil => rfl
  | cons name names ih =>
    obtain ⟨hname, hnames⟩ := List.nodup_cons.mp h
    have hfilter : names.filter (· != name) = names :=
      List.filter_eq_self.mpr fun s hs => by simpa using ne_of_mem_of_not_mem hs hname
    rw [distinct, ih hnames, hfilter]

theorem distinct_append_singleton (names : List Text) (s : Text) :
    distinct (names ++ [s]) = if s ∈ names then distinct names else distinct names ++ [s] := by
  induction names with
  | nil => rfl
  | cons name names ih =>
    by_cases hname : s = name
    · subst hname
      by_cases hs : s ∈ names <;> simp [distinct, ih, hs]
    · by_cases hs : s ∈ names <;> simp [distinct, ih, hname, hs]

/-! ## Characters of identifiers -/

theorem isAsciiLetter_iff :
    isAsciiLetter c = true ↔
      (97 ≤ c.toNat ∧ c.toNat ≤ 122) ∨ (65 ≤ c.toNat ∧ c.toNat ≤ 90) := by
  simp only [isAsciiLetter, Bool.or_eq_true, Bool.and_eq_true, decide_eq_true_eq, Char.le_def,
    UInt32.le_iff_toNat_le]
  rfl

theorem isAsciiDigit_iff : isAsciiDigit c = true ↔ 48 ≤ c.toNat ∧ c.toNat ≤ 57 := by
  simp only [isAsciiDigit, Bool.and_eq_true, decide_eq_true_eq, Char.le_def,
    UInt32.le_iff_toNat_le]
  rfl

end AskSql.Text
