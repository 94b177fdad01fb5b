import AskSql.Text.Utf8

/-!
# Bytes that stand for a text

One to four bytes stand for a code point (`Text.StandsFor`). There are no longer forms, no
surrogates and no bytes left out, so these are the bytes of the code point
(`Text.StandsFor.utf8Of_eq`), every character has such bytes (`Text.exists_standsFor`), and nothing
else is read as a character (`Text.characterAt_eq_ok_iff`). So bytes are read as a text exactly if
they are the bytes of the text (`Text.ofUtf8_eq_ok_iff`).
-/

namespace AskSql.Text

variable {b n read : Nat} {c : Char} {inside rest : List Nat}

/-! ## Code points -/

/-- A byte and the ones behind it stand for a code point. -/
inductive StandsFor : Nat → List Nat → Nat → Prop
  | one {b : Nat} (hb : b < 0x80) : StandsFor b [] b
  | two {b x : Nat} (hb : 0xC2 ≤ b ∧ b ≤ 0xDF) (hx : 0x80 ≤ x ∧ x ≤ 0xBF) :
    StandsFor b [x] (0x40 * (b % 0x20) + x % 0x40)
  | three {b x y : Nat} (hb : 0xE0 ≤ b ∧ b ≤ 0xEF) (hx : 0x80 ≤ x ∧ x ≤ 0xBF)
    (hy : 0x80 ≤ y ∧ y ≤ 0xBF) (hlonger : b = 0xE0 → 0xA0 ≤ x)
    (hsurrogate : b = 0xED → x ≤ 0x9F) :
    StandsFor b [x, y] (0x40 * (0x40 * (b % 0x10) + x % 0x40) + y % 0x40)
  | four {b x y z : Nat} (hb : 0xF0 ≤ b ∧ b ≤ 0xF4) (hx : 0x80 ≤ x ∧ x ≤ 0xBF)
    (hy : 0x80 ≤ y ∧ y ≤ 0xBF) (hz : 0x80 ≤ z ∧ z ≤ 0xBF) (hlonger : b = 0xF0 → 0x90 ≤ x)
    (hbeyond : b = 0xF4 → x ≤ 0x8F) :
    StandsFor b [x, y, z] (0x40 * (0x40 * (0x40 * (b % 0x08) + x % 0x40) + y % 0x40) + z % 0x40)

/-- Bytes that stand for a number are the ones that it is written with. -/
theorem StandsFor.utf8Of_eq (h : StandsFor b inside n) : utf8Of n = b :: inside := by
  cases h with
  | one hb => rw [utf8Of, if_pos hb]
  | two hb hx =>
    rw [utf8Of, if_neg (by omega), if_pos (by omega)]
    simp only [List.cons.injEq, and_true]
    omega
  | three hb hx hy hlonger hsurrogate =>
    rw [utf8Of, if_neg (by omega), if_neg (by omega), if_pos (by omega)]
    simp only [List.cons.injEq, and_true]
    omega
  | four hb hx hy hz hlonger hbeyond =>
    rw [utf8Of, if_neg (by omega), if_neg (by omega), if_neg (by omega)]
    simp only [List.cons.injEq, and_true]
    omega

/-- What bytes stand for is a character : they are neither too long for it nor a half of a pair. -/
theorem StandsFor.isValidChar (h : StandsFor b inside n) : n.isValidChar := by
  unfold Nat.isValidChar
  cases h <;> omega

theorem StandsFor.utf8_eq (h : StandsFor b inside n) : utf8 (Char.ofNat n) = b :: inside := by
  have hchar : Char.ofNat n = Char.ofNatAux n h.isValidChar := dif_pos h.isValidChar
  have hn : (Char.ofNat n).toNat = n := (congrArg Char.toNat hchar).trans UInt32.toNat_ofNatLT
  rw [utf8, hn, h.utf8Of_eq]

/-- Each character has bytes that stand for it. -/
theorem exists_standsFor (h : n.isValidChar) : ∃ b inside, StandsFor b inside n := by
  have h : n < 0xD800 ∨ 0xDFFF < n ∧ n < 0x110000 := h
  by_cases h1 : n < 0x80
  · exact ⟨n, [], .one h1⟩
  by_cases h2 : n < 0x800
  · have htwo := @StandsFor.two (0xC0 + n / 0x40) (0x80 + n % 0x40) (by omega) (by omega)
    have hn : 0x40 * ((0xC0 + n / 0x40) % 0x20) + (0x80 + n % 0x40) % 0x40 = n := by omega
    rw [hn] at htwo
    exact ⟨_, _, htwo⟩
  by_cases h3 : n < 0x10000
  · have hthree := @StandsFor.three (0xE0 + n / 0x1000) (0x80 + n / 0x40 % 0x40) (0x80 + n % 0x40)
      (by omega) (by omega) (by omega) (by omega) (by omega)
    have hn : 0x40 * (0x40 * ((0xE0 + n / 0x1000) % 0x10) + (0x80 + n / 0x40 % 0x40) % 0x40) +
        (0x80 + n % 0x40) % 0x40 = n := by omega
    rw [hn] at hthree
    exact ⟨_, _, hthree⟩
  · have hfour := @StandsFor.four (0xF0 + n / 0x40000) (0x80 + n / 0x1000 % 0x40)
      (0x80 + n / 0x40 % 0x40) (0x80 + n % 0x40) (by omega) (by omega) (by omega) (by omega)
      (by omega) (by omega)
    have hn : 0x40 * (0x40 * (0x40 * ((0xF0 + n / 0x40000) % 0x08) +
        (0x80 + n / 0x1000 % 0x40) % 0x40) + (0x80 + n / 0x40 % 0x40) % 0x40) +
        (0x80 + n % 0x40) % 0x40 = n := by omega
    rw [hn] at hfour
    exact ⟨_, _, hfour⟩

/-! ## Characters -/

/-- How many bytes follow a byte, and between which bounds the first of them lies. -/
theorem continuationAfter?_eq (b : Nat) : continuationAfter? b =
    if 0xC2 ≤ b ∧ b ≤ 0xDF then some (1, 0x80, 0xBF)
    else if 0xE0 ≤ b ∧ b ≤ 0xEF then
      some (2, if b = 0xE0 then 0xA0 else 0x80, if b = 0xED then 0x9F else 0xBF)
    else if 0xF0 ≤ b ∧ b ≤ 0xF4 then
      some (3, if b = 0xF0 then 0x90 else 0x80, if b = 0xF4 then 0x8F else 0xBF)
    else none := by
  grind [continuationAfter?]

/-- A byte within the bounds is taken, and the bounds of the next one are the usual ones. -/
theorem continuation_cons_of_mem {low high count : Nat} (h : low ≤ b ∧ b ≤ high) :
    continuation n low high (count + 1) read (b :: rest) =
      continuation (0x40 * n + b % 0x40) 0x80 0xBF count (read + 1) rest :=
  if_pos h

/-- Where a character is read to its end, its next byte is within the bounds. -/
theorem exists_cons_of_continuation {low high count m read' : Nat} {bytes : List Nat}
    (h : continuation n low high (count + 1) read bytes = .ok (m, read')) :
    ∃ b rest, bytes = b :: rest ∧ (low ≤ b ∧ b ≤ high) ∧
      continuation (0x40 * n + b % 0x40) 0x80 0xBF count (read + 1) rest = .ok (m, read') := by
  cases bytes with
  | nil => cases h
  | cons b rest =>
    by_cases hb : low ≤ b ∧ b ≤ high
    · rw [continuation_cons_of_mem hb] at h
      exact ⟨b, rest, rfl, hb, h⟩
    · rw [continuation, if_neg hb] at h
      cases h

/-- Bytes that stand for a character are read as it, whatever comes behind them. -/
theorem StandsFor.characterAt_append (h : StandsFor b inside n) (rest : List Nat) :
    characterAt b (inside ++ rest) = .ok (Char.ofNat n, inside.length + 1) := by
  cases h with
  | one hb => rw [characterAt, if_pos hb]; rfl
  | two hb hx =>
    rw [characterAt, if_neg (by omega), continuationAfter?_eq, if_pos hb]
    simp only [List.cons_append, continuation_cons_of_mem hx]
    rfl
  | three hb hx hy hlonger hsurrogate =>
    rw [characterAt, if_neg (by omega), continuationAfter?_eq, if_neg (by omega), if_pos hb]
    simp only [List.cons_append]
    rw [continuation_cons_of_mem (by split <;> split <;> omega), continuation_cons_of_mem hy]
    rfl
  | four hb hx hy hz hlonger hbeyond =>
    rw [characterAt, if_neg (by omega), continuationAfter?_eq, if_neg (by omega),
      if_neg (by omega), if_pos hb]
    simp only [List.cons_append]
    rw [continuation_cons_of_mem (by split <;> split <;> omega), continuation_cons_of_mem hy,
      continuation_cons_of_mem hz]
    rfl

theorem exists_of_map_ofNat_eq_ok {k : Nat} {result : Except Utf8Fault (Nat × Nat)}
    (h : (result.map fun (n, read) => (Char.ofNat n, read)) = .ok (c, k)) :
    ∃ n, result = .ok (n, k) ∧ c = Char.ofNat n := by
  cases result with
  | error fault => cases h
  | ok p =>
    obtain ⟨rfl, rfl⟩ := Prod.mk.inj (Except.ok.inj h)
    exact ⟨p.1, rfl, rfl⟩

/-- What is read as a character are bytes that stand for it. -/
theorem exists_standsFor_of_characterAt {k : Nat} (h : characterAt b rest = .ok (c, k)) :
    ∃ inside tail n, StandsFor b inside n ∧ rest = inside ++ tail ∧ c = Char.ofNat n ∧
      k = inside.length + 1 := by
  unfold characterAt at h
  split at h
  · next hb =>
    obtain ⟨rfl, rfl⟩ := Prod.mk.inj (Except.ok.inj h)
    exact ⟨[], rest, b, .one hb, rfl, rfl, rfl⟩
  rw [continuationAfter?_eq] at h
  by_cases htwo : 0xC2 ≤ b ∧ b ≤ 0xDF
  · rw [if_pos htwo] at h
    obtain ⟨m, hm, rfl⟩ := exists_of_map_ofNat_eq_ok h
    obtain ⟨x, rest, rfl, hx, hm⟩ := exists_cons_of_continuation hm
    obtain ⟨rfl, rfl⟩ := Prod.mk.inj (Except.ok.inj hm)
    exact ⟨[x], rest, _, .two htwo hx, rfl, rfl, rfl⟩
  by_cases hthree : 0xE0 ≤ b ∧ b ≤ 0xEF
  · rw [if_neg htwo, if_pos hthree] at h
    obtain ⟨m, hm, rfl⟩ := exists_of_map_ofNat_eq_ok h
    obtain ⟨x, rest, rfl, hx, hm⟩ := exists_cons_of_continuation hm
    obtain ⟨y, rest, rfl, hy, hm⟩ := exists_cons_of_continuation hm
    obtain ⟨rfl, rfl⟩ := Prod.mk.inj (Except.ok.inj hm)
    refine ⟨[x, y], rest, _, .three hthree ?_ hy ?_ ?_, rfl, rfl, rfl⟩ <;>
      (split at hx <;> split at hx <;> omega)
  by_cases hfour : 0xF0 ≤ b ∧ b ≤ 0xF4
  · rw [if_neg htwo, if_neg hthree, if_pos hfour] at h
    obtain ⟨m, hm, rfl⟩ := exists_of_map_ofNat_eq_ok h
    obtain ⟨x, rest, rfl, hx, hm⟩ := exists_cons_of_continuation hm
    obtain ⟨y, rest, rfl, hy, hm⟩ := exists_cons_of_continuation hm
    obtain ⟨z, rest, rfl, hz, hm⟩ := exists_cons_of_continuation hm
    obtain ⟨rfl, rfl⟩ := Prod.mk.inj (Except.ok.inj hm)
    refine ⟨[x, y, z], rest, _, .four hfour ?_ hy hz ?_ ?_, rfl, rfl, rfl⟩ <;>
      (split at hx <;> split at hx <;> omega)
  · rw [if_neg htwo, if_neg hthree, if_neg hfour] at h
    cases h

/-- A character is read where its bytes are, and nowhere else. -/
theorem characterAt_eq_ok_iff {k : Nat} :
    characterAt b rest = .ok (c, k) ↔ k = (utf8 c).length ∧ utf8 c <+: b :: rest := by
  constructor
  · intro h
    obtain ⟨inside, tail, n, hn, rfl, rfl, rfl⟩ := exists_standsFor_of_characterAt h
    rw [hn.utf8_eq]
    exact ⟨rfl, tail, rfl⟩
  · rintro ⟨rfl, tail, h⟩
    obtain ⟨b', inside, hn⟩ := exists_standsFor c.valid
    have hchar : Char.ofNat c.val.toNat = c := Char.ofNat_toNat c
    have hc : utf8 c = b' :: inside := by rw [← hn.utf8_eq, hchar]
    rw [hc, List.cons_append] at h
    obtain ⟨rfl, rfl⟩ := List.cons.inj h
    rw [hn.characterAt_append, hchar, hc]
    rfl

/-! ## Texts -/

/-- No character is written with no byte. -/
theorem utf8_ne_nil (c : Char) : utf8 c ≠ [] := by
  unfold utf8 utf8Of
  split
  · simp
  · split
    · simp
    · split <;> simp

theorem lt_of_mem_utf8 (h : n ∈ utf8 c) : n < 0x100 := by
  obtain ⟨b, inside, hn⟩ := exists_standsFor c.valid
  have hchar : Char.ofNat c.val.toNat = c := Char.ofNat_toNat c
  generalize c.val.toNat = code at hn hchar
  rw [← hchar, hn.utf8_eq] at h
  cases hn <;> simp only [List.mem_cons, List.not_mem_nil, or_false] at h <;> omega

/-- Behind the bytes of the first character come those of the rest. -/
theorem drop_of_append_eq_cons {tail : List Nat} (h : utf8 c ++ tail = b :: rest) :
    rest.drop ((utf8 c).length - 1) = tail := by
  obtain ⟨b', inside, hc⟩ := List.exists_cons_of_ne_nil (utf8_ne_nil c)
  rw [hc, List.cons_append] at h
  rw [hc, ← (List.cons.inj h).2, List.length_cons, Nat.add_sub_cancel, List.drop_left]

/-- Bytes are read as a text exactly if they are the bytes of the text. -/
theorem ofUtf8_eq_ok_iff {index : Nat} {bytes : List Nat} {s : Text} :
    ofUtf8 index bytes = .ok s ↔ bytes = s.flatMap utf8 := by
  fun_induction ofUtf8 index bytes generalizing s with
  | case1 index =>
    cases s with
    | nil => simp
    | cons c s => simp [utf8_ne_nil]
  | case2 index b rest fault hfault =>
    constructor
    · intro h
      cases h
    · intro h
      cases s with
      | nil => cases h
      | cons c s =>
        have hread : characterAt b rest = .ok (c, (utf8 c).length) :=
          characterAt_eq_ok_iff.mpr ⟨rfl, _, h.symm⟩
        rw [hread] at hfault
        cases hfault
  | case3 index b rest c n hread ih =>
    constructor
    · intro h
      obtain ⟨rfl, tail, htail⟩ := characterAt_eq_ok_iff.mp hread
      rw [drop_of_append_eq_cons htail] at ih h
      cases hrest : ofUtf8 (index + (utf8 c).length) tail with
      | error e =>
        rw [hrest] at h
        cases h
      | ok s' =>
        rw [hrest] at h
        obtain rfl := Except.ok.inj h
        rw [← htail, ih.mp hrest]
        rfl
    · intro h
      cases s with
      | nil => cases h
      | cons c' s =>
        have hread' := characterAt_eq_ok_iff.mpr ⟨rfl, _, h.symm⟩
        obtain ⟨rfl, rfl⟩ := Prod.mk.inj (Except.ok.inj (hread.symm.trans hread'))
        rw [ih.mpr (drop_of_append_eq_cons h.symm)]
        rfl

end AskSql.Text
