import AskSql.Proofs.Sql.Lexing
import Mathlib.Data.List.TakeWhile

/-!
# How the parts of SQL end

A literal and a quoted name end with their quote and a closed comment with a slash, and neither
a number nor an operator has a semicolon in it. So a semicolon at the end of any of them is not
their own (`EndsOtherwise`).
-/

namespace AskSql.Sql

open Text

/-! ## Texts that end otherwise -/

/-- The text ends with another character than a semicolon. -/
def EndsOtherwise (s : Text) : Prop :=
  ∃ t c, s = t ++ [c] ∧ c ≠ ';'

section

variable {s t : Text} {c : Char} {n m : Nat}

/-- The end of a text is the end of what stands in front of it too. -/
theorem EndsOtherwise.append (t : Text) (h : EndsOtherwise s) : EndsOtherwise (t ++ s) := by
  obtain ⟨u, d, rfl, hd⟩ := h
  exact ⟨t ++ u, d, by simp, hd⟩

theorem EndsOtherwise.cons (c : Char) (h : EndsOtherwise s) : EndsOtherwise (c :: s) :=
  h.append [c]

/-- The end of a later stretch is the end of the whole one. -/
theorem EndsOtherwise.take_add (h : EndsOtherwise ((s.drop m).take n)) :
    EndsOtherwise (s.take (m + n)) := by
  rw [List.take_add]
  exact h.append _

theorem EndsOtherwise.take_append (t : Text) (h : EndsOtherwise (s.take n)) :
    EndsOtherwise ((t ++ s).take (n + t.length)) := by
  rw [Nat.add_comm, List.take_length_add_append]
  exact h.append t

theorem endsOtherwise_singleton (hc : c ≠ ';') : EndsOtherwise [c] :=
  ⟨[], c, rfl, hc⟩

theorem endsOtherwise_cons_of_not_mem (hc : c ≠ ';') (h : ';' ∉ s) : EndsOtherwise (c :: s) := by
  rcases List.eq_nil_or_concat s with rfl | ⟨t, d, rfl⟩
  · exact endsOtherwise_singleton hc
  · rw [List.concat_eq_append] at h ⊢
    have hd : d ≠ ';' := by
      rintro rfl
      exact h (by simp)
    exact ((endsOtherwise_singleton hd).append t).cons c

/-- A text that ends otherwise does not end with a semicolon. -/
theorem EndsOtherwise.getLast?_ne (h : EndsOtherwise s) : s.getLast? ≠ some ';' := by
  obtain ⟨t, c, rfl, hc⟩ := h
  simpa using hc

end

/-! ## Literals and quoted names -/

section

variable {d : Dialect} {s : Text} {r : Rest Text}

/-- One more piece in front of a rest changes nothing about its end. -/
theorem endsOtherwise_of_map {o : Option (Rest Text)} {t : Text} {c : Char}
    (h : o.map (Rest.cons c t.length) = some r)
    (ih : ∀ {r}, o = some r → EndsOtherwise (s.take r.2)) : EndsOtherwise ((t ++ s).take r.2) := by
  obtain ⟨r, hr, rfl⟩ := Option.map_eq_some_iff.mp h
  exact (ih hr).take_append t

/-- A text between quotes ends with the quote. -/
theorem endsOtherwise_quotedRest? {quote : Char} (hquote : quote ≠ ';') {escapes : Bool}
    (h : quotedRest? quote escapes s = some r) : EndsOtherwise (s.take r.2) := by
  fun_induction quotedRest? quote escapes s generalizing r with
  | case1 => cases h
  | case2 =>
    obtain rfl := Option.some.inj h
    exact endsOtherwise_singleton hquote
  | case3 => cases h
  | case4 s ih => exact endsOtherwise_of_map (t := [quote, quote]) h ih
  | case5 d s =>
    obtain rfl := Option.some.inj h
    exact endsOtherwise_singleton hquote
  | case6 c d s _ _ ih => exact endsOtherwise_of_map (t := [c, d]) h ih
  | case7 c d s _ _ ih => exact endsOtherwise_of_map (t := [c]) h ih

/-- A text between three quotes ends with them. -/
theorem endsOtherwise_tripledRest? {quote : Char} (hquote : quote ≠ ';')
    (h : tripledRest? quote s = some r) : EndsOtherwise (s.take r.2) := by
  fun_induction tripledRest? quote s generalizing r with
  | case1 => cases h
  | case2 c s hprefix =>
    obtain rfl := Option.some.inj h
    have htake := List.prefix_iff_eq_take.mp (List.isPrefixOf_iff_prefix.mp hprefix)
    exact ⟨[quote, quote], quote, htake.symm, hquote⟩
  | case3 c s _ ih => exact endsOtherwise_of_map (t := [c]) h ih

/-- What reaches to a closing text ends as that does. -/
theorem endsOtherwise_restUntil? {close : Text} (hclose : EndsOtherwise close)
    (h : restUntil? close s = some r) : EndsOtherwise (s.take r.2) := by
  fun_induction restUntil? close s generalizing r with
  | case1 hnil =>
    obtain ⟨t, c, rfl, -⟩ := hclose
    simp at hnil
  | case2 => cases h
  | case3 c s hprefix =>
    obtain rfl := Option.some.inj h
    have htake := List.prefix_iff_eq_take.mp (List.isPrefixOf_iff_prefix.mp hprefix)
    exact htake ▸ hclose
  | case4 c s _ ih => exact endsOtherwise_of_map (t := [c]) h ih

/-- A text with escapes ends with its quote. -/
theorem endsOtherwise_escapedRest? (h : escapedRest? s = some r) : EndsOtherwise (s.take r.2) := by
  fun_induction escapedRest? s generalizing r with
  | case1 => cases h
  | case2 =>
    obtain rfl := Option.some.inj h
    exact endsOtherwise_singleton (by decide)
  | case3 => cases h
  | case4 s ih => exact endsOtherwise_of_map (t := ['\x27', '\x27']) h ih
  | case5 d s =>
    obtain rfl := Option.some.inj h
    exact endsOtherwise_singleton (by decide)
  | case6 => cases h
  | case7 => cases h
  | case8 d s e n _ _ _ ih =>
    obtain ⟨r, hr, rfl⟩ := Option.map_eq_some_iff.mp h
    have hrest := (ih hr).take_add
    rw [Nat.add_comm] at hrest
    exact hrest.cons '\\'
  | case9 c d s _ _ ih => exact endsOtherwise_of_map (t := [c]) h ih

theorem endsOtherwise_of_after {x : Except (LexicalFault × Nat) (Rest Text)} {t : Text} {c : Char}
    (h : after t.length c x = .ok r) (ih : ∀ {r}, x = .ok r → EndsOtherwise (s.take r.2)) :
    EndsOtherwise ((t ++ s).take r.2) := by
  cases x with
  | error e => cases h
  | ok x =>
    obtain rfl := Except.ok.inj h
    exact (ih rfl).take_append t

/-- A text with numbers of characters ends with its quote. -/
theorem endsOtherwise_unicodeRest (h : unicodeRest s = .ok r) : EndsOtherwise (s.take r.2) := by
  fun_induction unicodeRest s generalizing r with
  | case1 => cases h
  | case2 =>
    obtain rfl := Except.ok.inj h
    exact endsOtherwise_singleton (by decide)
  | case3 => cases h
  | case4 => cases h
  | case5 s ih => exact endsOtherwise_of_after (t := ['\x27', '\x27']) h ih
  | case6 d s =>
    obtain rfl := Except.ok.inj h
    exact endsOtherwise_singleton (by decide)
  | case7 s _ ih => exact endsOtherwise_of_after (t := ['\\', '\\']) h ih
  | case8 => cases h
  | case9 d s _ skip count hskip e k _ _ ih =>
    -- One of the `skip` characters is the backslash.
    obtain ⟨m, rfl⟩ : ∃ m, skip = m + 1 := by
      split at hskip
      · exact ⟨1, (Prod.mk.inj hskip).1.symm⟩
      · exact ⟨0, (Prod.mk.inj hskip).1.symm⟩
    cases hrest : unicodeRest ((d :: s).drop (m + 1 - 1 + k)) with
    | error fault =>
      rw [hrest] at h
      cases h
    | ok r' =>
      rw [hrest] at h
      obtain rfl := Except.ok.inj h
      have hcount : r'.2 + (k + (m + 1)) = m + 1 - 1 + k + r'.2 + 1 := by omega
      have hends := ((ih hrest).take_add).cons '\\'
      rwa [← List.take_succ_cons, ← hcount] at hends
  | case10 c d s _ _ ih => exact endsOtherwise_of_after (t := [c]) h ih

/-- A comment that is closed ends with a slash. -/
theorem endsOtherwise_commentRest? {nested : Bool} {depth n : Nat}
    (h : commentRest? nested depth s = some n) : EndsOtherwise (s.take n) := by
  fun_induction commentRest? nested depth s generalizing n with
  | case1 => cases h
  | case2 => cases h
  | case3 depth c d s _ ih =>
    obtain ⟨n, hn, rfl⟩ := Option.map_eq_some_iff.mp h
    exact (ih hn).take_append [c, d]
  | case4 c d s _ hclose =>
    obtain rfl := Option.some.inj h
    obtain ⟨rfl, rfl⟩ := hclose
    exact ⟨['*'], '/', rfl, by decide⟩
  | case5 c d s _ _ depth ih =>
    obtain ⟨n, hn, rfl⟩ := Option.map_eq_some_iff.mp h
    exact (ih hn).take_append [c, d]
  | case6 depth c d s _ _ ih =>
    obtain ⟨n, hn, rfl⟩ := Option.map_eq_some_iff.mp h
    exact (ih hn).take_append [c]

/-! ## Names, numbers and operators -/

theorem take_length_takeWhile (p : Char → Bool) (s : Text) :
    s.take (s.takeWhile p).length = s.takeWhile p :=
  (List.prefix_iff_eq_take.mp (List.takeWhile_prefix p)).symm

/-- A stretch of characters that are no semicolon has none. -/
theorem semicolon_not_mem_takeWhile {p : Char → Bool} (hp : p ';' = false) (s : Text) :
    ';' ∉ s.takeWhile p := by
  intro h
  simp [List.mem_takeWhile_imp h] at hp

theorem append_isPrefix_of_drop {x y : Text} (hx : x <+: s) (hy : y <+: s.drop x.length) :
    x ++ y <+: s := by
  obtain ⟨t, rfl⟩ := hx
  rw [List.drop_left] at hy
  exact (List.prefix_append_right_inj x).mpr hy

/-- An exponent stands at the start of the text and is made of its own characters. -/
theorem isPrefix_exponent (s : Text) : exponent s <+: s ∧ ';' ∉ exponent s := by
  have hparts {e : Char} (he : e = 'e' ∨ e = 'E') (sign : Text) (hsign : ';' ∉ sign)
      (digits : Text) : e :: sign ++ digits.takeWhile isAsciiDigit <+: e :: (sign ++ digits) ∧
        ';' ∉ e :: sign ++ digits.takeWhile isAsciiDigit := by
    have hdigits := semicolon_not_mem_takeWhile (p := isAsciiDigit) (by decide) digits
    refine ⟨(List.prefix_append_right_inj (e :: sign)).mpr (List.takeWhile_prefix _), ?_⟩
    rcases he with rfl | rfl <;> simp [hsign, hdigits]
  unfold exponent
  split
  · simp
  · next e rest =>
    split
    · next he =>
      dsimp only
      split
      · exact ⟨List.nil_prefix, by simp⟩
      · split
        · exact hparts he ['+'] (by decide) _
        · exact hparts he ['-'] (by decide) _
        · exact hparts he [] (by decide) _
    · simp

theorem singleton_isPrefix {c : Char} (h : s.head? = some c) : [c] <+: s := by
  obtain ⟨t, rfl⟩ := List.head?_eq_some_iff.mp h
  exact List.prefix_append [c] t

/-- A number is taken off the start of the text as it stands. -/
theorem semicolon_not_mem_numberAt (s : Text) : ';' ∉ s.take (numberAt s).2 := by
  have htake {x : Text} {n : Nat} (hx : x <+: s) (hn : x.length = n) (hsemicolon : ';' ∉ x) :
      ';' ∉ s.take n := by
    rwa [← hn, ← List.prefix_iff_eq_take.mp hx]
  have hdigits (s : Text) := semicolon_not_mem_takeWhile (p := isAsciiDigit) (by decide) s
  unfold numberAt
  extract_lets whole rest digits dot fraction mantissa written mark
  have hwhole : whole <+: s := List.takeWhile_prefix _
  have hmantissa : mantissa <+: s ∧ ';' ∉ mantissa := by
    have hdot : dot <+: s.drop whole.length ∧ ';' ∉ dot := by
      by_cases h : rest.head? = some '.'
      · simpa [dot, h] using singleton_isPrefix h
      · simp [dot, h]
    have hfraction : fraction <+: s.drop (whole ++ dot).length := by
      rw [List.length_append, ← List.drop_drop]
      exact List.takeWhile_prefix _
    refine ⟨append_isPrefix_of_drop (append_isPrefix_of_drop hwhole hdot.1) hfraction, ?_⟩
    simpa [mantissa, hdot.2] using ⟨hdigits s, hdigits _⟩
  split
  · next hhex =>
    have hx : ['x'] <+: s.drop whole.length := singleton_isPrefix hhex.2
    have hprefix : whole ++ ['x'] ++ digits <+: s := by
      refine append_isPrefix_of_drop (append_isPrefix_of_drop hwhole hx) ?_
      rw [List.length_append, ← List.drop_drop]
      exact List.takeWhile_prefix _
    refine htake hprefix (by simp [hhex.1]; omega) ?_
    simpa [hhex.1] using semicolon_not_mem_takeWhile (p := isHexDigit) (by decide) _
  split
  · next hdot => exact htake hmantissa.1 (by rw [hdot]; rfl) hmantissa.2
  · have hexponent := isPrefix_exponent (s.drop mantissa.length)
    have hwritten : written <+: s := append_isPrefix_of_drop hmantissa.1 hexponent.1
    have hsemicolon : ';' ∉ written := by simpa [written] using ⟨hmantissa.2, hexponent.2⟩
    by_cases h : (s.drop written.length).head? = some 'L'
    · refine htake (append_isPrefix_of_drop hwritten (singleton_isPrefix h)) ?_ ?_
      · simp [mark, h]
      · simpa using hsemicolon
    · have hmark : mark = 0 := if_neg h
      exact htake hwritten (by rw [hmark, Nat.add_zero]) hsemicolon

/-- A number has no semicolon. -/
theorem endsOtherwise_numberAt {c : Char} (hc : c ≠ ';') (s : Text) :
    EndsOtherwise (c :: s.take ((numberAt (c :: s)).2 - 1)) := by
  refine endsOtherwise_cons_of_not_mem hc fun h => semicolon_not_mem_numberAt (c :: s) ?_
  cases hn : (numberAt (c :: s)).2 with
  | zero => simp [hn] at h
  | succ n =>
    rw [hn] at h
    exact List.mem_cons_of_mem c h

/-- An operator is at the start of the text and has no semicolon. -/
theorem operatorAt?_eq_some {operator : Text} (h : operatorAt? d s = some operator) :
    operator ≠ [] ∧ ';' ∉ operator ∧ operator <+: s := by
  have hall : ∀ operator ∈ "//".toList :: operators, operator ≠ [] ∧ ';' ∉ operator := by decide
  obtain ⟨hmem, hprefix⟩ : operator ∈ "//".toList :: operators ∧ operator <+: s := by
    unfold operatorAt? at h
    split at h
    · next hslash =>
      obtain rfl := Option.some.inj h
      rw [Bool.and_eq_true] at hslash
      exact ⟨List.mem_cons_self, List.isPrefixOf_iff_prefix.mp hslash.2⟩
    · have hfound : operator.isPrefixOf s = true :=
        List.find?_some (p := (List.isPrefixOf · s)) h
      exact ⟨List.mem_cons_of_mem _ (List.mem_of_find?_eq_some h),
        List.isPrefixOf_iff_prefix.mp hfound⟩
  exact ⟨(hall operator hmem).1, (hall operator hmem).2, hprefix⟩

theorem operatorAt?_ne_semicolon {operator : Text} (h : operatorAt? d s = some operator) :
    operator ≠ [';'] := by
  rintro rfl
  exact (operatorAt?_eq_some h).2.1 List.mem_cons_self

/-- An operator has no semicolon. -/
theorem endsOtherwise_operatorAt? {c : Char} {operator : Text}
    (h : operatorAt? d (c :: s) = some operator) :
    EndsOtherwise (c :: s.take (operator.length - 1)) := by
  obtain ⟨hne, hsemicolon, hprefix⟩ := operatorAt?_eq_some h
  obtain ⟨e, operator, rfl⟩ := List.exists_cons_of_ne_nil hne
  obtain ⟨rfl, hrest⟩ := List.cons_prefix_cons.mp hprefix
  rw [List.mem_cons, not_or] at hsemicolon
  have htake : s.take operator.length = operator := (List.prefix_iff_eq_take.mp hrest).symm
  exact endsOtherwise_cons_of_not_mem (Ne.symm hsemicolon.1) (htake.symm ▸ hsemicolon.2)

end

end AskSql.Sql
