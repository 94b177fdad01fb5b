import AskSql.Proofs.Text.Pieces
import AskSql.Text.Case
import Mathlib.Data.List.Forall2

/-!
# Words in upper case

A character may have an upper-case form of several characters, so the start of an upper-cased
text does not line up with the start of the text. Where that start is a word of ASCII letters it
does : beyond ASCII, sixteen characters have a form that starts with such a letter
(`letterForms`), and where a form has further characters, most words go on in another way.

`Spelled` : the characters that each letter of a word can be written with.
`isPrefix_upper_iff` : a text starts with a word in upper case exactly if it starts with one
of these characters for each letter.
-/

namespace AskSql.Text

variable {c d L : Char} {s w word : Text} {cs : List Char} {forms : List (List Char)}

/-! ## Forms that start with a letter -/

/-- The letters of ASCII, and the other characters with an upper-case form that starts with one,
each with its form. -/
def letterForms : List (Char × Text) :=
  ("ABCDEFGHIJKLMNOPQRSTUVWXYZabcdefghijklmnopqrstuvwxyz".toList.map fun c => (c, [c.toUpper])) ++
    [('ß', ['S', 'S']), ('ı', ['I']), ('ſ', ['S']), ('ǰ', ['J', '\u030C']), ('ẖ', ['H', '\u0331']),
     ('ẗ', ['T', '\u0308']), ('ẘ', ['W', '\u030A']), ('ẙ', ['Y', '\u030A']),
     ('ẚ', ['A', '\u02BE']), ('ﬀ', ['F', 'F']), ('ﬁ', ['F', 'I']), ('ﬂ', ['F', 'L']),
     ('ﬃ', ['F', 'F', 'I']), ('ﬄ', ['F', 'F', 'L']), ('ﬅ', ['S', 'T']), ('ﬆ', ['S', 'T'])]

theorem upperChar_of_mem_letterForms : ∀ e ∈ letterForms, upperChar e.1 = e.2 := by
  decide +kernel

theorem isBlank_of_mem_letterForms : ∀ e ∈ letterForms, isBlank e.1 = false := by
  decide +kernel

/-- A number that no character has stands for the one with the number zero. -/
theorem toNat_ofNat_eq_or (n : Nat) :
    (Char.ofNat n).toNat = n ∨ (Char.ofNat n).toNat = 0 := by
  by_cases hvalid : n.isValidChar
  · have hchar : Char.ofNat n = Char.ofNatAux n hvalid := dif_pos hvalid
    exact Or.inl ((congrArg Char.toNat hchar).trans UInt32.toNat_ofNatLT)
  · have hchar : Char.ofNat n = Char.ofNat 0 := dif_neg hvalid
    exact Or.inr (congrArg Char.toNat hchar)

theorem lt_of_isAsciiLetter_ofNat {n : Nat} (h : isAsciiLetter (Char.ofNat n) = true) :
    n < 0x80 := by
  rw [isAsciiLetter_iff] at h
  rcases toNat_ofNat_eq_or n with hn | hn <;> omega

theorem ascii_letterForms : ∀ n < 0x80, isAsciiLetter (Char.ofNat n).toUpper = true →
    (Char.ofNat n, [(Char.ofNat n).toUpper]) ∈ letterForms := by
  decide +kernel

theorem upperExpansions_letterForms : ∀ e ∈ upperExpansions,
    e.2 ≠ [] ∧ (isAsciiLetter (Char.ofNat (e.2.headD 0)) = true →
      (Char.ofNat e.1, e.2.map Char.ofNat) ∈ letterForms) := by
  decide +kernel

/-- A run that leads to ASCII has one character. -/
theorem upperRuns_letterForms : ∀ r ∈ upperRuns, r.target < 0x80 →
    r.first = r.last ∧ (Char.ofNat r.first, [Char.ofNat r.target]) ∈ letterForms := by
  decide +kernel

theorem mem_of_lookup_eq_some {α : Type*} {table : List (Nat × α)} {n : Nat} {a : α}
    (h : table.lookup n = some a) : (n, a) ∈ table := by
  obtain ⟨before, after, rfl, -⟩ := List.lookup_eq_some_iff.mp h
  simp

theorem upperChar_ne_nil (c : Char) : upperChar c ≠ [] := by
  unfold upperChar counterpart
  split
  · simp
  · split
    · next ns hns => simpa using (upperExpansions_letterForms _ (mem_of_lookup_eq_some hns)).1
    · split <;> simp

theorem counterpart_mem_letterForms {n m : Nat} {ms : List Nat}
    (h : counterpart upperExpansions upperRuns n = m :: ms)
    (hm : isAsciiLetter (Char.ofNat m) = true) (hn : 0x80 ≤ n) :
    (Char.ofNat n, (m :: ms).map Char.ofNat) ∈ letterForms := by
  have hlt := lt_of_isAsciiLetter_ofNat hm
  unfold counterpart at h
  split at h
  · next ns hns =>
    subst h
    exact (upperExpansions_letterForms _ (mem_of_lookup_eq_some hns)).2 hm
  · split at h
    · next k hk =>
      obtain ⟨rfl, rfl⟩ := List.cons.inj h
      obtain ⟨r, hr, hmap⟩ := List.exists_of_findSome?_eq_some hk
      unfold CaseRun.map? at hmap
      split at hmap
      · next hrange =>
        have htarget : r.target + (n - r.first) = k := Option.some.inj hmap
        obtain ⟨hone, hmem⟩ := upperRuns_letterForms r hr (by omega)
        obtain rfl : r.first = n := by omega
        obtain rfl : r.target = k := by omega
        exact hmem
      · cases hmap
    · obtain ⟨rfl, -⟩ := List.cons.inj h
      omega

/-- Only the characters that are listed have a form that starts with a letter of ASCII. -/
theorem mem_letterForms {rest : Text} (h : upperChar c = d :: rest)
    (hd : isAsciiLetter d = true) : (c, upperChar c) ∈ letterForms := by
  rw [h]
  unfold upperChar at h
  split at h
  · next hc =>
    obtain ⟨rfl, rfl⟩ := List.cons.inj h
    have := ascii_letterForms c.toNat hc
    rw [Char.ofNat_toNat] at this
    exact this hd
  · next hc =>
    obtain ⟨m, ms, hcounterpart, rfl, rfl⟩ := List.map_eq_cons_iff.mp h
    have := counterpart_mem_letterForms hcounterpart hd (Nat.le_of_not_lt hc)
    rwa [Char.ofNat_toNat] at this

/-! ## Spellings -/

theorem upper_isPrefix {t : Text} (h : s <+: t) : upper s <+: upper t := by
  obtain ⟨u, rfl⟩ := h
  exact ⟨upper u, by simp [upper]⟩

/-- The characters `cs` are those that the letter `L` can be written with where the word goes on
with `w`. -/
structure Spells (L : Char) (w : Text) (cs : List Char) : Prop where
  letter : isAsciiLetter L = true
  subset : cs ⊆ letterForms.map Prod.fst
  /-- A form of several characters will do where the word is at its end. -/
  form : ∀ e ∈ letterForms, e.1 ∈ cs → e.2 = [L] ∨ w = [] ∧ [L] <+: e.2
  /-- No other form agrees with the word as far as both go. -/
  other : ∀ e ∈ letterForms, e.1 ∉ cs → ¬ L :: w <+: e.2 ∧ ¬ e.2 <+: L :: w

instance (L : Char) (w : Text) (cs : List Char) : Decidable (Spells L w cs) :=
  decidable_of_iff (isAsciiLetter L = true ∧ cs ⊆ letterForms.map Prod.fst ∧
      (∀ e ∈ letterForms, e.1 ∈ cs → e.2 = [L] ∨ w = [] ∧ [L] <+: e.2) ∧
      ∀ e ∈ letterForms, e.1 ∉ cs → ¬ L :: w <+: e.2 ∧ ¬ e.2 <+: L :: w)
    ⟨fun h => ⟨h.1, h.2.1, h.2.2.1, h.2.2.2⟩, fun h => ⟨h.letter, h.subset, h.form, h.other⟩⟩

/-- `forms` tells, letter by letter, the characters that a word can be written with. -/
inductive Spelled : Text → List (List Char) → Prop
  | nil : Spelled [] []
  | cons {L : Char} {w : Text} {cs : List Char} {forms : List (List Char)}
    (letter : Spells L w cs) (rest : Spelled w forms) : Spelled (L :: w) (cs :: forms)

theorem Spells.mem_letterForms (h : Spells L w cs) (hc : c ∈ cs) :
    (c, upperChar c) ∈ letterForms := by
  obtain ⟨e, he, rfl⟩ := List.mem_map.mp (h.subset hc)
  rwa [upperChar_of_mem_letterForms e he]

theorem Spells.upperChar_eq (h : Spells L w cs) (hc : c ∈ cs) :
    upperChar c = [L] ∨ w = [] ∧ [L] <+: upperChar c :=
  h.form (c, upperChar c) (h.mem_letterForms hc) hc

theorem Spells.not_isBlank (h : Spells L w cs) (hc : c ∈ cs) : isBlank c = false :=
  isBlank_of_mem_letterForms (c, upperChar c) (h.mem_letterForms hc)

/-- A character that cannot stand for the letter is in the way of the word. -/
theorem Spells.mem_of_isPrefix (h : Spells L w cs) (hword : L :: w <+: upperChar c ++ s) :
    c ∈ cs := by
  by_contra hc
  obtain ⟨d, rest, hform⟩ := List.exists_cons_of_ne_nil (upperChar_ne_nil c)
  have hd : L = d := by
    rw [hform] at hword
    exact (List.cons_prefix_cons.mp hword).1
  have hother := h.other _ (Text.mem_letterForms hform (hd ▸ h.letter)) hc
  rcases List.prefix_or_prefix_of_prefix hword (List.prefix_append _ s) with hle | hle
  · exact hother.1 hle
  · exact hother.2 hle

theorem Spells.cons_isPrefix_iff (h : Spells L w cs) :
    L :: w <+: upper s ↔ ∃ c t, s = c :: t ∧ c ∈ cs ∧ w <+: upper t := by
  cases s with
  | nil => simp [upper]
  | cons c t =>
    have hupper : upper (c :: t) = upperChar c ++ upper t := rfl
    rw [hupper]
    constructor
    · intro hword
      have hc := h.mem_of_isPrefix hword
      refine ⟨c, t, rfl, hc, ?_⟩
      rcases h.upperChar_eq hc with hone | ⟨rfl, -⟩
      · rw [hone] at hword
        exact (List.cons_prefix_cons.mp hword).2
      · exact List.nil_prefix
    · rintro ⟨c, t, ⟨rfl, rfl⟩, hc, hw⟩
      rcases h.upperChar_eq hc with hone | ⟨rfl, hform⟩
      · rw [hone]
        exact List.cons_prefix_cons.mpr ⟨rfl, hw⟩
      · exact hform.trans (List.prefix_append _ _)

/-- An upper-cased text starts with a word exactly if the text starts with a spelling of it. -/
theorem isPrefix_upper_iff (h : Spelled word forms) :
    word <+: upper s ↔
      ∃ written rest, s = written ++ rest ∧ List.Forall₂ (· ∈ ·) written forms := by
  induction h generalizing s with
  | nil => simp
  | cons letter _ ih =>
    rw [letter.cons_isPrefix_iff]
    constructor
    · rintro ⟨c, t, rfl, hc, ht⟩
      obtain ⟨written, rest, rfl, hwritten⟩ := ih.mp ht
      exact ⟨c :: written, rest, rfl, .cons hc hwritten⟩
    · rintro ⟨_, rest, rfl, hforms⟩
      cases hforms with
      | cons hc hwritten => exact ⟨_, _, rfl, hc, ih.mpr ⟨_, rest, rfl, hwritten⟩⟩

/-- There are no blanks in the spelling of a word. -/
theorem Spelled.not_isBlank (h : Spelled word forms) {written : Text}
    (hwritten : List.Forall₂ (· ∈ ·) written forms) : ∀ c ∈ written, isBlank c = false := by
  induction h generalizing written with
  | nil => simp [List.forall₂_nil_right_iff.mp hwritten]
  | cons letter _ ih =>
    cases hwritten with
    | cons hc hrest =>
      rw [List.forall_mem_cons]
      exact ⟨letter.not_isBlank hc, ih hrest⟩

end AskSql.Text
