import AskSql.Proofs.Text.Nesting

/-!
# Scanning outside quotes

Each scanner passes over a text in which it sees nothing that it looks for as over a block,
and goes on behind it inside or outside of quotes as the text leaves it : there is one lemma
on `s ++ t` for each scanner. If the block leaves the scanner outside and the character that
is looked for follows, the scan ends there.

`enclosedBody_append_close` : what an opened parenthesis encloses is any text in which the
parentheses outside quotes are balanced and no quote is left open, up to the next `)`.
-/

namespace AskSql.Text

variable {p : Char → Bool} {s t u : Text} {c : Char} {inside : Bool}

/-! ## Up to a character -/

/-- A stretch that nothing ends goes on into what follows, from the state behind it. -/
theorem spanUnquoted_append (t : Text) (h : ∀ c ∈ unquotedFrom inside s, p c = false) :
    spanUnquoted p inside (s ++ t) =
      (s ++ (spanUnquoted p (insideAfter inside s) t).1,
        (spanUnquoted p (insideAfter inside s) t).2) := by
  induction s generalizing inside with
  | nil => rfl
  | cons c s ih =>
    by_cases hc : c = '"'
    · simp only [unquotedFrom, hc, if_true] at h
      simp [spanUnquoted, insideAfter_cons, hc, ih h]
    · cases inside with
      | true =>
        simp only [unquotedFrom, hc, if_true, if_false] at h
        simp [spanUnquoted, insideAfter_cons, hc, ih h]
      | false =>
        simp only [unquotedFrom, hc, if_false, Bool.false_eq_true, List.forall_mem_cons] at h
        simp [spanUnquoted, insideAfter_cons, hc, h.1, ih h.2]

theorem spanUnquoted_of_forall_not (h : ∀ c ∈ unquotedFrom inside s, p c = false) :
    spanUnquoted p inside s = (s, []) := by
  have := spanUnquoted_append [] h
  simpa [spanUnquoted] using this

/-- A stretch ends at the first character outside quotes that ends it. -/
theorem spanUnquoted_append_cons (t : Text) (h : ∀ c ∈ unquotedFrom inside s, p c = false)
    (hs : insideAfter inside s = false) (hc : p c = true) (hq : c ≠ '"') :
    spanUnquoted p inside (s ++ c :: t) = (s, c :: t) := by
  rw [spanUnquoted_append _ h, hs]
  simp [spanUnquoted, hc, hq]

/-- A text breaks at the first character outside quotes that breaks it. -/
theorem breakUnquoted?_append_cons (t : Text) (h : ∀ c ∈ unquotedFrom false s, p c = false)
    (hs : insideAfter false s = false) (hc : p c = true) (hq : c ≠ '"') :
    breakUnquoted? p (s ++ c :: t) = some (s, t) := by
  rw [breakUnquoted?, spanUnquoted_append_cons t h hs hc hq]

theorem breakUnquoted?_eq_none (h : ∀ c ∈ unquotedFrom false s, p c = false) :
    breakUnquoted? p s = none := by
  rw [breakUnquoted?, spanUnquoted_of_forall_not h]

/-- Where a stretch does not have the character, the last one is looked for behind it. -/
theorem beforeLastUnquoted?_append (t : Text) (h : c ∉ unquotedFrom inside s) :
    beforeLastUnquoted? c inside (s ++ t) =
      (beforeLastUnquoted? c (insideAfter inside s) t).map (s ++ ·) := by
  induction s generalizing inside with
  | nil => exact Option.map_id'.symm
  | cons d s ih =>
    have hstep : (!inside && d != '"' && d == c) = false := by
      cases inside with
      | true => rfl
      | false =>
        by_cases hd : d = '"'
        · simp [hd]
        · simp only [unquotedFrom, hd, if_false, Bool.false_eq_true, List.mem_cons, not_or] at h
          simp [Ne.symm h.1]
    have hrest : c ∉ unquotedFrom (if d = '"' then !inside else inside) s := by
      by_cases hd : d = '"'
      · simpa [unquotedFrom, hd] using h
      · cases inside <;> simp_all [unquotedFrom]
    rw [List.cons_append, beforeLastUnquoted?, ih hrest, insideAfter_cons]
    cases beforeLastUnquoted? c (insideAfter (if d = '"' then !inside else inside) s) t with
    | none => simp [hstep]
    | some before => rfl

theorem beforeLastUnquoted?_eq_none (h : c ∉ unquotedFrom inside s) :
    beforeLastUnquoted? c inside s = none := by
  have := beforeLastUnquoted?_append [] h
  simpa [beforeLastUnquoted?] using this

/-- An unquoted character that is not seen again is the last one. -/
theorem beforeLastUnquoted?_append_cons (hs : insideAfter inside s = false) (hc : c ≠ '"')
    (ht : c ∉ unquotedFrom false t) : beforeLastUnquoted? c inside (s ++ c :: t) = some s := by
  induction s generalizing inside with
  | nil =>
    simp only [insideAfter_nil] at hs
    simp [beforeLastUnquoted?, hs, hc, beforeLastUnquoted?_eq_none ht]
  | cons d s ih =>
    rw [insideAfter_cons] at hs
    rw [List.cons_append, beforeLastUnquoted?, ih hs]

/-! ## Between separators -/

theorem splitUnquotedFrom_ne_nil (separator : Char) (inside : Bool) (s : Text) :
    splitUnquotedFrom separator inside s ≠ [] := by
  cases s with
  | nil => simp [splitUnquotedFrom]
  | cons c s =>
    unfold splitUnquotedFrom
    split
    · simp
    · split <;> simp

/-- A character that does not separate goes to the first piece. -/
theorem splitUnquotedFrom_cons {separator : Char} (s : Text)
    (h : ¬(inside = false ∧ c ≠ '"' ∧ c = separator)) :
    splitUnquotedFrom separator inside (c :: s) =
      (splitUnquotedFrom separator (if c = '"' then !inside else inside) s).modifyHead
        (c :: ·) := by
  have hsep : ¬((!inside && c != '"' && c == separator) = true) := by
    simpa [and_assoc] using h
  obtain ⟨x, xs, hx⟩ := List.exists_cons_of_ne_nil
    (splitUnquotedFrom_ne_nil separator (if c = '"' then !inside else inside) s)
  rw [splitUnquotedFrom, if_neg hsep, hx, List.modifyHead_cons]

/-- A stretch without a separator belongs to the first piece. -/
theorem splitUnquotedFrom_append (separator : Char) (t : Text)
    (h : separator ∉ unquotedFrom inside s) :
    splitUnquotedFrom separator inside (s ++ t) =
      (splitUnquotedFrom separator (insideAfter inside s) t).modifyHead (s ++ ·) := by
  induction s generalizing inside with
  | nil => exact (congrFun List.modifyHead_id _).symm
  | cons c s ih =>
    have hstep : ¬(inside = false ∧ c ≠ '"' ∧ c = separator) := by
      rintro ⟨rfl, hq, rfl⟩
      simp [unquotedFrom, hq] at h
    have hrest : separator ∉ unquotedFrom (if c = '"' then !inside else inside) s := by
      by_cases hc : c = '"'
      · simpa [unquotedFrom, hc] using h
      · cases inside <;> simp_all [unquotedFrom]
    rw [List.cons_append, splitUnquotedFrom_cons _ hstep, ih hrest, List.modifyHead_modifyHead,
      insideAfter_cons]
    rfl

theorem splitUnquoted_of_not_mem {separator : Char} (h : separator ∉ unquotedFrom false s) :
    splitUnquoted separator s = [s] := by
  have := splitUnquotedFrom_append separator [] h
  simpa [splitUnquoted, splitUnquotedFrom] using this

/-- Of two texts, the last piece of the first and the first piece of the second are one piece. -/
theorem exists_splitUnquotedFrom_append (separator : Char) (inside : Bool) (s : Text) :
    ∃ pieces last, splitUnquotedFrom separator inside s = pieces ++ [last] ∧
      ∀ t, splitUnquotedFrom separator inside (s ++ t) = pieces ++
        (splitUnquotedFrom separator (insideAfter inside s) t).modifyHead (last ++ ·) := by
  induction s generalizing inside with
  | nil => exact ⟨[], [], rfl, fun t => (congrFun List.modifyHead_id _).symm⟩
  | cons c s ih =>
    by_cases hsep : inside = false ∧ c ≠ '"' ∧ c = separator
    · obtain ⟨rfl, hq, rfl⟩ := hsep
      obtain ⟨pieces, last, hs, happend⟩ := ih false
      refine ⟨[] :: pieces, last, ?_, fun t => ?_⟩
      · simp [splitUnquotedFrom, hq, hs]
      · simp [splitUnquotedFrom, hq, happend, insideAfter_cons]
    · obtain ⟨pieces, last, hs, happend⟩ := ih (if c = '"' then !inside else inside)
      simp only [List.cons_append, splitUnquotedFrom_cons _ hsep, hs, happend, insideAfter_cons]
      cases pieces with
      | nil => exact ⟨[], c :: last, rfl, fun t => List.modifyHead_modifyHead ..⟩
      | cons first pieces => exact ⟨(c :: first) :: pieces, last, rfl, fun t => rfl⟩

/-- What holds no separator joins the last piece in front of it and the first one behind it. -/
theorem exists_splitUnquoted_append_append {separator : Char} {glue : Text}
    (hs : insideAfter false s = false) (hquote : '"' ∉ glue) (hsep : separator ∉ glue) :
    ∃ pieces last, ∀ t, ∃ first, splitUnquoted separator (s ++ (glue ++ t)) =
      pieces ++ (last ++ (glue ++ first)) :: (splitUnquoted separator t).tail := by
  obtain ⟨pieces, last, -, happend⟩ := exists_splitUnquotedFrom_append separator false s
  refine ⟨pieces, last, fun t => ?_⟩
  obtain ⟨first, others, ht⟩ :=
    List.exists_cons_of_ne_nil (splitUnquotedFrom_ne_nil separator false t)
  have hglue : splitUnquotedFrom separator false (glue ++ t) = (glue ++ first) :: others := by
    rw [← unquotedFrom_false_of_not_mem hquote] at hsep
    rw [splitUnquotedFrom_append separator t hsep, insideAfter_of_not_mem hquote, ht,
      List.modifyHead_cons]
  refine ⟨first, ?_⟩
  rw [splitUnquoted, happend, hs, hglue, splitUnquoted, ht]
  rfl

/-- A text splits at a separator outside quotes. -/
theorem splitUnquoted_append_cons {separator : Char} (t : Text)
    (h : separator ∉ unquotedFrom false s) (hs : insideAfter false s = false)
    (hq : separator ≠ '"') :
    splitUnquoted separator (s ++ separator :: t) = s :: splitUnquoted separator t := by
  rw [splitUnquoted, splitUnquotedFrom_append _ _ h, hs]
  simp [splitUnquotedFrom, splitUnquoted, hq]

/-! ## Parts of a text

What a scanner takes from a text, it has found there. -/

/-- Nothing of a text is lost where it is cut. -/
theorem spanUnquoted_append_eq (p : Char → Bool) (inside : Bool) (s : Text) :
    (spanUnquoted p inside s).1 ++ (spanUnquoted p inside s).2 = s := by
  induction s generalizing inside with
  | nil => rfl
  | cons c s ih =>
    rw [spanUnquoted]
    split
    · rfl
    · exact congrArg (c :: ·) (ih _)

/-- Where a text breaks, one character is left out. -/
theorem breakUnquoted?_eq_some (h : breakUnquoted? p s = some (t, u)) :
    ∃ c, s = t ++ c :: u := by
  have hspan := spanUnquoted_append_eq p false s
  rw [breakUnquoted?] at h
  split at h
  · cases h
  · next before c after heq =>
    obtain ⟨rfl, rfl⟩ := Prod.mk.inj (Option.some.inj h)
    exact ⟨c, by rw [← hspan, heq]⟩

theorem beforeLastUnquoted?_isPrefix (h : beforeLastUnquoted? c inside s = some t) : t <+: s := by
  induction s generalizing inside t with
  | nil => cases h
  | cons d s ih =>
    rw [beforeLastUnquoted?] at h
    split at h
    · next before hbefore =>
      obtain rfl := Option.some.inj h
      exact List.prefix_cons_inj d |>.mpr (ih hbefore)
    · split at h
      · obtain rfl := Option.some.inj h
        exact List.nil_prefix
      · cases h

/-- The pieces of a text have only its characters. -/
theorem subset_of_mem_splitUnquotedFrom {separator : Char} {piece : Text}
    (h : piece ∈ splitUnquotedFrom separator inside s) : piece ⊆ s := by
  induction s generalizing inside piece with
  | nil =>
    obtain rfl : piece = [] := by simpa [splitUnquotedFrom] using h
    exact List.nil_subset []
  | cons c s ih =>
    by_cases hsep : inside = false ∧ c ≠ '"' ∧ c = separator
    · obtain ⟨rfl, hq, rfl⟩ := hsep
      rw [splitUnquotedFrom, if_pos (by simp [hq])] at h
      rcases List.mem_cons.mp h with rfl | h
      · exact List.nil_subset _
      · exact List.Subset.trans (ih h) (List.subset_cons_self c s)
    · obtain ⟨first, pieces, hpieces⟩ := List.exists_cons_of_ne_nil
        (splitUnquotedFrom_ne_nil separator (if c = '"' then !inside else inside) s)
      rw [splitUnquotedFrom_cons s hsep, hpieces, List.modifyHead_cons] at h
      rcases List.mem_cons.mp h with rfl | h
      · exact List.cons_subset_cons c (ih (by rw [hpieces]; exact List.mem_cons_self))
      · exact List.Subset.trans (ih (by rw [hpieces]; exact List.mem_cons_of_mem first h))
          (List.subset_cons_self c s)

/-! ## Up to a closing parenthesis -/

/-- No beginning of the text closes more parentheses than it opens, and the text closes all
of them. -/
structure Balanced (s : Text) : Prop where
  le : ∀ u, u <+: s → u.count ')' ≤ u.count '('
  eq : s.count ')' = s.count '('

instance (s : Text) : Decidable (Balanced s) :=
  decidable_of_iff ((∀ u ∈ s.inits, u.count ')' ≤ u.count '(') ∧ s.count ')' = s.count '(')
    ⟨fun h => ⟨fun u hu => h.1 u ((List.mem_inits u s).mpr hu), h.2⟩,
      fun h => ⟨fun u hu => h.le u ((List.mem_inits u s).mp hu), h.eq⟩⟩

theorem balanced_of_not_mem (ho : '(' ∉ s) (hc : ')' ∉ s) : Balanced s where
  le u hu := by
    rw [List.count_eq_zero_of_not_mem fun h => hc (hu.subset h)]
    exact Nat.zero_le _
  eq := by rw [List.count_eq_zero_of_not_mem ho, List.count_eq_zero_of_not_mem hc]

/-- Balanced texts are balanced together. -/
theorem Balanced.append (hs : Balanced s) (ht : Balanced t) : Balanced (s ++ t) where
  le u hu := by
    rcases List.prefix_or_prefix_of_prefix hu (List.prefix_append s t) with h | ⟨v, rfl⟩
    · exact hs.le u h
    · have h := ht.le v ((List.prefix_append_right_inj s).mp hu)
      have heq := hs.eq
      simp only [List.count_append]
      omega
  eq := by rw [List.count_append, List.count_append, hs.eq, ht.eq]

/-- Where no beginning of what the scanner sees closes more than `depth` parentheses besides
its own, the scanner passes over the text and goes on at the depth that is left. -/
theorem enclosedFrom_append (t : Text) {depth : Nat}
    (h : ∀ u, u <+: unquotedFrom inside s → u.count ')' ≤ u.count '(' + depth) :
    enclosedFrom inside depth (s ++ t) =
      s ++ enclosedFrom (insideAfter inside s)
        (depth + (unquotedFrom inside s).count '(' - (unquotedFrom inside s).count ')') t := by
  have hpos : ∀ p, p <+: s → 0 < (Nesting.after ⟨inside, depth + 1⟩ p).depth := by
    intro p hp
    have hle := h _ (unquotedFrom_isPrefix inside hp)
    rw [Nesting.depth_after]
    dsimp only
    omega
  have hdepth : (Nesting.after ⟨inside, depth + 1⟩ s).depth = ((depth +
      (unquotedFrom inside s).count '(' - (unquotedFrom inside s).count ')' : ℕ) : ℤ) + 1 := by
    have hle := h _ List.prefix_rfl
    rw [Nesting.depth_after]
    dsimp only
    omega
  have hafter := congrArg₂ Nesting.mk (Nesting.inside_after ⟨inside, depth + 1⟩ s) hdepth
  rw [Nesting.enclosedFrom_eq_body, Nesting.body_append t hpos, Nesting.enclosedFrom_eq_body]
  exact congrArg (fun n : Nesting => s ++ n.body t) hafter

/-- An opened parenthesis encloses a text that is balanced and leaves no quote open. -/
theorem enclosedBody_append_close (t : Text) (hs : insideAfter false s = false)
    (hb : Balanced (unquotedFrom false s)) : enclosedBody (s ++ ')' :: t) = s := by
  have heq := hb.eq
  rw [enclosedBody, enclosedFrom_append _ fun u hu => by simpa using hb.le u hu, hs,
    show 0 + (unquotedFrom false s).count '(' - (unquotedFrom false s).count ')' = 0 by omega]
  simp [enclosedFrom]

/-! ## Joined texts -/

section Join

variable {separator : Text} {xs : List Text}

theorem join_cons_of_ne_nil (x : Text) (h : xs ≠ []) :
    join separator (x :: xs) = x ++ separator ++ join separator xs := by
  cases xs with
  | nil => exact absurd rfl h
  | cons y ys => rfl

/-- Texts that close their quotes close them together. -/
theorem insideAfter_join (hsep : insideAfter false separator = false)
    (h : ∀ x ∈ xs, insideAfter false x = false) :
    insideAfter false (join separator xs) = false := by
  induction xs with
  | nil => rfl
  | cons x xs ih =>
    simp only [List.forall_mem_cons] at h
    by_cases hxs : xs = []
    · subst hxs
      exact h.1
    · rw [join_cons_of_ne_nil x hxs, insideAfter_append, insideAfter_append, h.1, hsep, ih h.2]

/-- What is seen of joined texts is seen of the separator or of one of the texts. -/
theorem mem_unquoted_join (hsep : insideAfter false separator = false)
    (h : ∀ x ∈ xs, insideAfter false x = false)
    (hc : c ∈ unquotedFrom false (join separator xs)) :
    c ∈ unquotedFrom false separator ∨ ∃ x ∈ xs, c ∈ unquotedFrom false x := by
  induction xs with
  | nil => simp [join, unquotedFrom] at hc
  | cons x xs ih =>
    simp only [List.forall_mem_cons] at h
    by_cases hxs : xs = []
    · subst hxs
      exact Or.inr ⟨x, List.mem_cons_self, hc⟩
    · rw [join_cons_of_ne_nil x hxs, unquotedFrom_append, unquotedFrom_append,
        insideAfter_append, h.1, hsep] at hc
      rcases List.mem_append.mp hc with hc | hc
      · rcases List.mem_append.mp hc with hc | hc
        · exact Or.inr ⟨x, List.mem_cons_self, hc⟩
        · exact Or.inl hc
      · rcases ih h.2 hc with hc | ⟨y, hy, hc⟩
        · exact Or.inl hc
        · exact Or.inr ⟨y, List.mem_cons_of_mem x hy, hc⟩

theorem mem_of_mem_join (hc : c ∈ join separator xs) : c ∈ separator ∨ ∃ x ∈ xs, c ∈ x := by
  induction xs with
  | nil => simp [join] at hc
  | cons x xs ih =>
    by_cases hxs : xs = []
    · subst hxs
      exact Or.inr ⟨x, List.mem_cons_self, hc⟩
    · rw [join_cons_of_ne_nil x hxs] at hc
      simp only [List.mem_append] at hc
      rcases hc with (hc | hc) | hc
      · exact Or.inr ⟨x, List.mem_cons_self, hc⟩
      · exact Or.inl hc
      · rcases ih hc with hc | ⟨y, hy, hc⟩
        · exact Or.inl hc
        · exact Or.inr ⟨y, List.mem_cons_of_mem x hy, hc⟩

/-- Solid texts are solid together. -/
theorem solid_join (hne : xs ≠ []) (h : ∀ x ∈ xs, Solid x) : Solid (join separator xs) := by
  induction xs with
  | nil => exact absurd rfl hne
  | cons x xs ih =>
    simp only [List.forall_mem_cons] at h
    by_cases hxs : xs = []
    · subst hxs
      exact h.1
    · rw [join_cons_of_ne_nil x hxs]
      exact h.1.append (ih hxs h.2) separator

end Join
end AskSql.Text
