import AskSql.Execution
import AskSql.Proofs.Text.Casing

/-!
# What passes the gate

The gate upper-cases a statement as a whole, and one character may become several on the way.
Yet the verdict rests on the first six characters behind the blanks alone, each of them in
its own place (`isReadOnly_iff_forall₂`) : `SELECT` in either case, where `ſ` will do for the
`S` and `ẗ` for the last `T`. Nothing else in Unicode comes to these letters : the sharp s and
the ligatures of `st` give an `S` with a wrong letter behind it.
-/

namespace AskSql

open Text

variable {c : Char} {s written word : Text} {forms : List (List Char)}

/-- The characters that pass for each letter of `SELECT`. -/
def selectForms : List (List Char) :=
  ["Ss\u017F", "Ee", "Ll", "Ee", "Cc", "Tt\u1E97"].map String.toList

theorem spelled_select : Spelled "SELECT".toList selectForms :=
  .cons (by decide +kernel) <| .cons (by decide +kernel) <| .cons (by decide +kernel) <|
    .cons (by decide +kernel) <| .cons (by decide +kernel) <| .cons (by decide +kernel) .nil

/-! ## Spellings at the start of a text -/

theorem forall₂_take_iff : List.Forall₂ (· ∈ ·) (s.take forms.length) forms ↔
    ∃ written rest, s = written ++ rest ∧ List.Forall₂ (· ∈ ·) written forms := by
  constructor
  · intro h
    exact ⟨_, s.drop forms.length, (List.take_append_drop _ s).symm, h⟩
  · rintro ⟨written, rest, rfl, h⟩
    rwa [← h.length_eq, List.take_left]

/-- What stays at the start of a text stays there when the blanks at its end go. -/
theorem exists_trimEnd_append (h : ∀ c ∈ written, isBlank c = false) (rest : Text) :
    ∃ u, trimEnd (written ++ rest) = written ++ u := by
  rcases List.eq_nil_or_concat written with rfl | ⟨before, c, rfl⟩
  · exact ⟨trimEnd rest, rfl⟩
  · have hc : isBlank c = false := h c (by simp)
    refine ⟨trimEnd rest, ?_⟩
    simpa [trimEnd] using dropEndWhile_append_cons before hc rest

/-- The verdict on a text that starts with no blank. -/
theorem isPrefix_upper_trimEnd_iff :
    "SELECT".toList <+: upper (trimEnd s) ↔ List.Forall₂ (· ∈ ·) (s.take 6) selectForms := by
  have hlength : selectForms.length = 6 := rfl
  rw [isPrefix_upper_iff spelled_select, ← hlength, forall₂_take_iff]
  constructor
  · rintro ⟨written, rest, htrim, h⟩
    obtain ⟨blanks, hs⟩ := dropEndWhile_isPrefix isBlank s
    refine ⟨written, rest ++ blanks, ?_, h⟩
    rw [← hs, ← trimEnd, htrim, List.append_assoc]
  · rintro ⟨written, rest, rfl, h⟩
    obtain ⟨u, hu⟩ := exists_trimEnd_append (spelled_select.not_isBlank h) rest
    exact ⟨written, u, hu, h⟩

theorem trimStart_take_trimStart (s : Text) (n : Nat) :
    trimStart ((trimStart s).take n) = (trimStart s).take n := by
  cases n with
  | zero => rfl
  | succ n =>
    cases hs : trimStart s with
    | nil => rfl
    | cons c t => exact trimStart_cons (not_of_dropWhile_eq_cons hs) _

/-! ## Spellings in ASCII -/

theorem lt_of_toLower_lt (h : c.toLower.toNat < 0x80) : c.toNat < 0x80 := by
  unfold Char.toLower at h
  split at h
  · next hupper =>
    have hle : c.toNat ≤ 'Z'.toNat := hupper.2
    exact Nat.lt_of_le_of_lt hle (by decide)
  · exact h

/-- Of ASCII, the two cases of a letter pass for it. -/
def PassesInAscii (cs : List Char) (L : Char) : Prop :=
  L.toLower.toNat < 0x80 ∧
    ∀ n < 0x80, (Char.ofNat n ∈ cs ↔ (Char.ofNat n).toLower = L.toLower)

instance : DecidableRel PassesInAscii := fun cs L =>
  inferInstanceAs (Decidable (L.toLower.toNat < 0x80 ∧
    ∀ n < 0x80, (Char.ofNat n ∈ cs ↔ (Char.ofNat n).toLower = L.toLower)))

theorem passesInAscii_selectForms :
    List.Forall₂ PassesInAscii selectForms "SELECT".toList := by
  decide +kernel

theorem PassesInAscii.mem_and_lt_iff {cs : List Char} {L : Char} (h : PassesInAscii cs L) :
    c ∈ cs ∧ c.toNat < 0x80 ↔ c.toLower = L.toLower := by
  have hc := h.2 c.toNat
  rw [Char.ofNat_toNat] at hc
  constructor
  · rintro ⟨hmem, hlt⟩
    exact (hc hlt).mp hmem
  · intro heq
    have hlt := lt_of_toLower_lt (heq ▸ h.1)
    exact ⟨(hc hlt).mpr heq, hlt⟩

theorem forall₂_and_forall_lt_iff (h : List.Forall₂ PassesInAscii forms word) :
    List.Forall₂ (· ∈ ·) s forms ∧ (∀ c ∈ s, c.toNat < 0x80) ↔
      s.map Char.toLower = word.map Char.toLower := by
  induction h generalizing s with
  | nil => cases s <;> simp
  | cons hpasses _ ih =>
    cases s with
    | nil => simp
    | cons c s =>
      simp only [List.forall₂_cons, List.forall_mem_cons, List.map_cons, List.cons.injEq,
        ← hpasses.mem_and_lt_iff, ← ih]
      tauto

/-! ## The language of the gate -/

/-- A statement passes exactly if its first six characters behind the blanks spell `SELECT`. What
follows them is not looked at. In ASCII, that is the word in either case. -/
theorem isReadOnly_iff_forall₂ (sql : Text) :
    let start := (trimStart sql).take 6
    (isReadOnly sql = true ↔ List.Forall₂ (· ∈ ·) start selectForms) ∧
      isReadOnly start = isReadOnly sql ∧
      (isReadOnly sql = true ∧ (∀ c ∈ start, c.toNat < 0x80) ↔
        equalsIgnoringCase start "SELECT".toList = true) := by
  intro start
  have hiff (sql : Text) :
      isReadOnly sql = true ↔ List.Forall₂ (· ∈ ·) ((trimStart sql).take 6) selectForms := by
    rw [isReadOnly, List.isPrefixOf_iff_prefix, trim, isPrefix_upper_trimEnd_iff]
  refine ⟨hiff sql, ?_, ?_⟩
  · rw [Bool.eq_iff_iff, hiff, hiff, trimStart_take_trimStart, List.take_take, Nat.min_self]
  · rw [hiff, forall₂_and_forall_lt_iff passesInAscii_selectForms, equalsIgnoringCase, beq_iff_eq]

/-- The long s is taken for an `S`, the sharp s is not taken for two of them. -/
example : isReadOnly "\u3000 \u017Felec\u1E97 1".toList = true ∧
    isReadOnly "\u00DFELECT 1".toList = false := by
  decide +kernel

end AskSql
