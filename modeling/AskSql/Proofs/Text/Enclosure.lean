import AskSql.Proofs.Text.Scanning

/-!
# The matching parenthesis

A text is closed if its quotes come in pairs and its parentheses outside of them are balanced
(`Closed`). To the search for a closing parenthesis that is a text along which one parenthesis stays
open and behind which no other one is (`closed_iff`).

`enclosedBody_matching` : an opened parenthesis encloses the closed text in front of a `)`, and all
of a text that does not start with a closed text and a `)`; the depth never goes below zero.
-/

namespace AskSql.Text

variable {s : Text}

/-! ## Closed texts -/

/-- A text that closes what it opens : its quotes come in pairs, and the parentheses outside of
them are balanced. -/
structure Closed (s : Text) : Prop where
  quotes : Even (s.count '"')
  parentheses : Balanced (unquoted s)

instance (s : Text) : Decidable (Closed s) :=
  decidable_of_iff (Even (s.count '"') ∧ Balanced (unquoted s))
    ⟨fun h => ⟨h.1, h.2⟩, fun h => ⟨h.quotes, h.parentheses⟩⟩

/-- Where a text can be split behind a closed text is decided on its beginnings. -/
instance (s : Text) : Decidable (∃ u v, s = u ++ ')' :: v ∧ Closed u) :=
  decidable_of_iff (∃ u ∈ s.inits, u ++ [')'] <+: s ∧ Closed u)
    ⟨fun ⟨u, _, ⟨v, hv⟩, hu⟩ => ⟨u, v, by simp [← hv], hu⟩,
      fun ⟨u, v, hs, hu⟩ =>
        ⟨u, (List.mem_inits u s).mpr ⟨')' :: v, hs.symm⟩, ⟨v, by simp [hs]⟩, hu⟩⟩

/-- A text is closed if and only if a parenthesis is open all along it and the nesting behind it is
the one in front of it. -/
theorem closed_iff :
    Closed s ↔ (∀ t, t <+: s → 0 < (Nesting.opened.after t).depth) ∧
      Nesting.opened.after s = Nesting.opened := by
  have hdepth : ∀ t, (Nesting.opened.after t).depth =
      1 + (unquoted t).count '(' - (unquoted t).count ')' := Nesting.depth_after Nesting.opened
  have hinside : (Nesting.opened.after s).inside = false ↔ Even (s.count '"') := by
    rw [Nesting.inside_after]
    exact (even_count_quote_iff false).symm
  constructor
  · rintro ⟨hq, hb⟩
    refine ⟨fun t ht => ?_, ?_⟩
    · have hle : (unquoted t).count ')' ≤ (unquoted t).count '(' :=
        hb.le _ (unquotedFrom_isPrefix false ht)
      rw [hdepth]
      omega
    · have hd : (Nesting.opened.after s).depth = 1 := by
        rw [hdepth, hb.eq]
        omega
      exact congrArg₂ Nesting.mk (hinside.mpr hq) hd
  · rintro ⟨hpos, hs⟩
    refine ⟨hinside.mp (by rw [hs]; rfl), ⟨fun w hw => ?_, ?_⟩⟩
    · obtain ⟨t, ht, rfl⟩ := exists_isPrefix_unquotedFrom_eq hw
      have hlt := hpos t ht
      rw [hdepth, unquoted] at hlt
      omega
    · have hone : (1 : ℤ) = 1 + (unquoted s).count '(' - (unquoted s).count ')' := by
        rw [← hdepth, hs]
        rfl
      omega

/-! ## What is enclosed -/

theorem enclosedBody_eq_body (s : Text) : enclosedBody s = Nesting.opened.body s :=
  Nesting.enclosedFrom_eq_body false 0 s

/-- What is not all of the text is closed and stands in front of a `)`. -/
theorem enclosedBody_eq_self_or (s : Text) :
    enclosedBody s = s ∨ ∃ v, s = enclosedBody s ++ ')' :: v ∧ Closed (enclosedBody s) := by
  rw [enclosedBody_eq_body]
  rcases Nesting.opened.body_eq_self_or s with h | ⟨v, hs, hn⟩
  · exact Or.inl h
  · have hpos : ∀ t, t <+: Nesting.opened.body s → 0 < (Nesting.opened.after t).depth :=
      fun t => Nesting.depth_after_pos Int.one_pos
    exact Or.inr ⟨v, hs, closed_iff.mpr ⟨hpos, hn⟩⟩

/-- An opened parenthesis encloses the closed text in front of a `)`, whatever follows, and all of a
text that has no closed text in front of a `)` at its start. The search that counts open
parentheses in integers takes the same, and wherever it comes to, its count is not below zero. -/
theorem enclosedBody_matching :
    (∀ u v : Text, Closed u → enclosedBody (u ++ ')' :: v) = u) ∧
    (∀ r : Text, (¬ ∃ u v, r = u ++ ')' :: v ∧ Closed u) → enclosedBody r = r) ∧
    ∀ r : Text, Nesting.opened.body r = enclosedBody r ∧
      ∀ n ∈ Nesting.opened.visited r, 0 ≤ n.depth := by
  refine ⟨fun u v hu => ?_, fun r hr => ?_, fun r => ⟨?_, fun n hn => ?_⟩⟩
  · exact enclosedBody_append_close v ((even_count_quote_iff false).mp hu.quotes) hu.parentheses
  · rcases enclosedBody_eq_self_or r with h | ⟨v, hs, hu⟩
    · exact h
    · exact absurd ⟨_, v, hs, hu⟩ hr
  · exact (enclosedBody_eq_body r).symm
  · exact Nesting.depth_nonneg_of_mem_visited Int.one_pos hn

/-- A column with parentheses in its type, and one whose quoted name holds more `)` than `(` : the
table ends behind them. A table that is not closed has no end, nor has one with an open quote. -/
theorem enclosedBody_matching_of_columns :
    let columns : Text := "price DECIMAL(10, 2), \"a))\" INT".toList
    let unclosed : Text := "price DECIMAL(10, 2) [PK]".toList
    let quoted : Text := "\"a INT)".toList
    enclosedBody (columns ++ ')' :: "\nb (id INT)".toList) = columns ∧
      enclosedBody unclosed = unclosed ∧ enclosedBody quoted = quoted := by
  intro columns unclosed quoted
  obtain ⟨hclosed, hwhole, -⟩ := enclosedBody_matching
  refine ⟨hclosed columns _ ?_, hwhole unclosed ?_, hwhole quoted ?_⟩
  · decide
  · decide
  · decide

end AskSql.Text
