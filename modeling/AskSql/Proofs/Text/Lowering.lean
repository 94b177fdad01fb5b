import AskSql.Proofs.Text.Pieces
import AskSql.Text.Case
import Mathlib.Data.List.TakeWhile

/-!
# Lower case in context

Lower-casing goes character by character but for the capital sigma, which takes its final form at
the end of a word (`endsWord`). A part of a text (`lowerBetween`) therefore has the lower-case form
that it has on its own wherever each of its sigmas keeps its form (`KeepsSigmas`). A cased character
put in front of a text can only make sigmas final, and one put behind it can only make them not
final; so where a sigma changes, one of the two forms is too rare in the whole for the text's own
form to occur there.

`isSettled_iff` : the lower-case form of a text occurs in that of every text around it exactly if
each of its sigmas has cased characters, or none, where the rule looks for them (`IsSettled`).
-/

namespace AskSql.Text

variable {p p' q q' s u v : Text} {c d : Char}

/-! ## The final sigma -/

/-- The search for a cased character looks through the text. -/
def IsIgnorable (s : Text) : Prop :=
  ∀ c ∈ s, inRanges caseIgnorableRanges c.toNat = true

instance (s : Text) : Decidable (IsIgnorable s) :=
  inferInstanceAs (Decidable (∀ c ∈ s, _))

theorem meetsCased_append_of_isIgnorable (h : IsIgnorable s) (t : Text) :
    meetsCased (s ++ t) = meetsCased t := by
  unfold meetsCased
  rw [List.dropWhile_append_of_pos h]

theorem meetsCased_append_of_not_isIgnorable (h : ¬ IsIgnorable s) (t : Text) :
    meetsCased (s ++ t) = meetsCased s := by
  have hstop : s.dropWhile (fun c => inRanges caseIgnorableRanges c.toNat) ≠ [] :=
    fun hnil => h (List.dropWhile_eq_nil_iff.mp hnil)
  obtain ⟨c, rest, hrest⟩ := List.exists_cons_of_ne_nil hstop
  unfold meetsCased
  rw [List.dropWhile_append, hrest]
  rfl

theorem IsIgnorable.meetsCased_eq_false (h : IsIgnorable s) : meetsCased s = false := by
  have hnone := meetsCased_append_of_isIgnorable h []
  rwa [List.append_nil] at hnone

theorem isIgnorable_reverse : IsIgnorable s.reverse ↔ IsIgnorable s := by
  simp [IsIgnorable]

/-- A capital sigma that stands between two texts is at the end of a word. -/
def endsWord (before after : Text) : Bool :=
  meetsCased before.reverse && !meetsCased after

/-- The lower-case form of a capital sigma that stands between two texts. -/
def sigma (before after : Text) : Char :=
  if endsWord before after then 'ς' else 'σ'

theorem sigma_eq_final : sigma p q = 'ς' ↔ endsWord p q = true := by
  unfold sigma
  split <;> simp [*]

theorem sigma_eq_inner : sigma p q = 'σ' ↔ endsWord p q = false := by
  unfold sigma
  split <;> simp [*]

/-! ## Parts of a text -/

/-- The lower-case form of the part of a text that stands between `p` and `q`. -/
def lowerBetween (p : Text) : Text → Text → Text
  | [], _ => []
  | c :: s, q =>
    (if c = 'Σ' then [sigma p (s ++ q)] else lowerChar c) ++ lowerBetween (p ++ [c]) s q

theorem lowerAfter_reverse (p s : Text) : lowerAfter p.reverse s = lowerBetween p s [] := by
  induction s generalizing p with
  | nil => rfl
  | cons c s ih =>
    have ih := ih (p ++ [c])
    rw [List.reverse_append, List.reverse_singleton, List.singleton_append] at ih
    simp only [lowerAfter, lowerBetween, ih, sigma, endsWord, List.append_nil]

theorem lower_eq_lowerBetween (s : Text) : lower s = lowerBetween [] s [] :=
  lowerAfter_reverse [] s

theorem lowerBetween_append (p s t q : Text) :
    lowerBetween p (s ++ t) q = lowerBetween p s (t ++ q) ++ lowerBetween (p ++ s) t q := by
  induction s generalizing p with
  | nil => simp [lowerBetween]
  | cons c s ih => simp [lowerBetween, ih]

theorem lower_append_append (p s q : Text) :
    lower (p ++ s ++ q) =
      lowerBetween [] p (s ++ q) ++ lowerBetween p s q ++ lowerBetween (p ++ s) q [] := by
  simp only [lower_eq_lowerBetween, lowerBetween_append, List.append_nil, List.nil_append]

/-- Each capital sigma of the text has the same form between `p` and `q` as in the text alone. -/
def KeepsSigmas (p s q : Text) : Prop :=
  ∀ u v, s = u ++ 'Σ' :: v → sigma (p ++ u) (v ++ q) = sigma u v

/-- Only the sigmas of a part depend on what stands around it. -/
theorem lowerBetween_congr
    (h : ∀ u v, s = u ++ 'Σ' :: v → sigma (p ++ u) (v ++ q) = sigma (p' ++ u) (v ++ q')) :
    lowerBetween p s q = lowerBetween p' s q' := by
  induction s generalizing p p' with
  | nil => rfl
  | cons c s ih =>
    have hrest : lowerBetween (p ++ [c]) s q = lowerBetween (p' ++ [c]) s q' := by
      refine ih fun u v hs => ?_
      simpa using h (c :: u) v (by rw [hs, List.cons_append])
    rw [lowerBetween, lowerBetween, hrest]
    split
    · next hc =>
      have hsigma : sigma p (s ++ q) = sigma p' (s ++ q') := by
        simpa using h [] s (by rw [hc]; rfl)
      rw [hsigma]
    · rfl

/-- Where it keeps its sigmas, a text in lower case is part of the whole in lower case. -/
theorem KeepsSigmas.lower_isInfix (h : KeepsSigmas p s q) : lower s <:+: lower (p ++ s ++ q) := by
  have hpart : lowerBetween p s q = lower s := by
    rw [lower_eq_lowerBetween]
    exact lowerBetween_congr fun u v hs => by simpa using h u v hs
  rw [lower_append_append, hpart]
  exact List.infix_append _ _ _

/-- Where no cased character adjoins it, a text keeps its sigmas. -/
theorem keepsSigmas_of_apart (hp : meetsCased p.reverse = false) (hq : meetsCased q = false)
    (s : Text) : KeepsSigmas p s q := by
  intro u v _
  have hfront : meetsCased (p ++ u).reverse = meetsCased u.reverse := by
    rw [List.reverse_append]
    by_cases hu : IsIgnorable u.reverse
    · rw [meetsCased_append_of_isIgnorable hu, hp, hu.meetsCased_eq_false]
    · exact meetsCased_append_of_not_isIgnorable hu p.reverse
  have hback : meetsCased (v ++ q) = meetsCased v := by
    by_cases hv : IsIgnorable v
    · rw [meetsCased_append_of_isIgnorable hv, hq, hv.meetsCased_eq_false]
    · exact meetsCased_append_of_not_isIgnorable hv q
  rw [sigma, endsWord, hfront, hback, sigma, endsWord]

/-! ## How often a form occurs -/

/-- A form that sigmas can only lose is not more frequent afterwards. -/
theorem count_lowerBetween_le
    (h : ∀ u v, s = u ++ 'Σ' :: v → sigma (p ++ u) (v ++ q) = d → sigma (p' ++ u) (v ++ q') = d) :
    (lowerBetween p s q).count d ≤ (lowerBetween p' s q').count d := by
  induction s generalizing p p' with
  | nil => exact Nat.le_refl _
  | cons c s ih =>
    have hrest : (lowerBetween (p ++ [c]) s q).count d ≤
        (lowerBetween (p' ++ [c]) s q').count d := by
      refine ih fun u v hs => ?_
      simpa using h (c :: u) v (by rw [hs, List.cons_append])
    rw [lowerBetween, lowerBetween, List.count_append, List.count_append]
    refine Nat.add_le_add ?_ hrest
    split
    · next hc =>
      have hsigma : sigma p (s ++ q) = d → sigma p' (s ++ q') = d := by
        simpa using h [] s (by rw [hc]; rfl)
      rw [List.count_singleton, List.count_singleton]
      by_cases hd : sigma p (s ++ q) = d
      · simp [hd, hsigma hd]
      · simp [hd]
    · exact Nat.le_refl _

/-- If one sigma does lose it, the form is less frequent. -/
theorem count_lowerBetween_lt
    (h : ∀ u v, s = u ++ 'Σ' :: v → sigma (p ++ u) (v ++ q) = d → sigma (p' ++ u) (v ++ q') = d)
    (hs : s = u ++ 'Σ' :: v) (hlost : sigma (p ++ u) (v ++ q) ≠ d)
    (hhad : sigma (p' ++ u) (v ++ q') = d) :
    (lowerBetween p s q).count d < (lowerBetween p' s q').count d := by
  subst hs
  have hu : (lowerBetween p u ('Σ' :: v ++ q)).count d ≤
      (lowerBetween p' u ('Σ' :: v ++ q')).count d := by
    refine count_lowerBetween_le fun a b hab => ?_
    simpa using h a (b ++ 'Σ' :: v) (by simp [hab])
  have hv : (lowerBetween (p ++ u ++ ['Σ']) v q).count d ≤
      (lowerBetween (p' ++ u ++ ['Σ']) v q').count d := by
    refine count_lowerBetween_le fun a b hab => ?_
    simpa using h (u ++ 'Σ' :: a) b (by simp [hab])
  simp only [lowerBetween_append, lowerBetween, List.count_append, if_true, hhad,
    List.count_singleton_self, List.count_singleton, beq_eq_false_iff_ne.mpr hlost]
  simp only [Bool.false_eq_true, if_false]
  omega

/-! ## Settled texts -/

/-- What stands around the text does not matter to its sigmas : one that only ignored characters
come before has a cased character after it, and one that only ignored characters come after has no
cased character before it. -/
def IsSettled (s : Text) : Prop :=
  ∀ u v, s = u ++ 'Σ' :: v →
    (IsIgnorable u → meetsCased v = true) ∧ (IsIgnorable v → meetsCased u.reverse = false)

theorem IsSettled.keepsSigmas (h : IsSettled s) (p q : Text) : KeepsSigmas p s q := by
  intro u v hs
  obtain ⟨hfront, hback⟩ := h u v hs
  have hends : endsWord (p ++ u) (v ++ q) = endsWord u v := by
    unfold endsWord
    rw [List.reverse_append]
    by_cases hv : IsIgnorable v
    · have hu : ¬ IsIgnorable u := fun hu => by
        have hcased := hfront hu
        rw [hv.meetsCased_eq_false] at hcased
        cases hcased
      rw [meetsCased_append_of_not_isIgnorable (isIgnorable_reverse.not.mpr hu), hback hv]
      rfl
    · rw [meetsCased_append_of_not_isIgnorable hv]
      by_cases hu : IsIgnorable u
      · rw [hfront hu, Bool.not_true, Bool.and_false, Bool.and_false]
      · rw [meetsCased_append_of_not_isIgnorable (isIgnorable_reverse.not.mpr hu)]
  rw [sigma, hends, sigma]

theorem meetsCased_letter : meetsCased ['a'] = true := by
  decide +kernel

/-- A cased character in front of a text makes sigmas final only. -/
theorem endsWord_cons (h : endsWord u v = true) : endsWord ('a' :: u) v = true := by
  unfold endsWord at h ⊢
  rw [List.reverse_cons]
  by_cases hu : IsIgnorable u.reverse
  · rw [meetsCased_append_of_isIgnorable hu]
    rw [meetsCased_letter, Bool.true_and]
    exact ((Bool.and_eq_true _ _).mp h).2
  · rwa [meetsCased_append_of_not_isIgnorable hu]

/-- A cased character behind a text makes sigmas not final only. -/
theorem endsWord_of_append (h : endsWord u (v ++ ['a']) = true) : endsWord u v = true := by
  unfold endsWord at h ⊢
  by_cases hv : IsIgnorable v
  · rw [meetsCased_append_of_isIgnorable hv, meetsCased_letter, Bool.not_true,
      Bool.and_false] at h
    cases h
  · rwa [meetsCased_append_of_not_isIgnorable hv] at h

theorem not_lower_isInfix_of_front (hs : s = u ++ 'Σ' :: v) (hu : IsIgnorable u)
    (hv : meetsCased v = false) : ¬ lower s <:+: lower ('a' :: s) := by
  have hlt : (lowerBetween ['a'] s []).count 'σ' < (lower s).count 'σ' := by
    rw [lower_eq_lowerBetween]
    refine count_lowerBetween_lt (fun a b _ hab => ?_) hs ?_ ?_
    · rw [sigma_eq_inner] at hab ⊢
      cases hends : endsWord a b with
      | false => simpa using hends
      | true =>
        have hstill : endsWord (['a'] ++ a) (b ++ []) = true := by simpa using endsWord_cons hends
        rw [hstill] at hab
        cases hab
    · rw [Ne, sigma_eq_inner, endsWord, List.reverse_append,
        meetsCased_append_of_isIgnorable (isIgnorable_reverse.mpr hu), List.append_nil, hv]
      simp [meetsCased_letter]
    · rw [sigma_eq_inner, endsWord, List.nil_append,
        (isIgnorable_reverse.mpr hu).meetsCased_eq_false, Bool.false_and]
  have hwhole : (lower ('a' :: s)).count 'σ' = (lowerBetween ['a'] s []).count 'σ' := by
    rw [lower_eq_lowerBetween, lowerBetween, List.count_append]
    simp [lowerChar]
  intro hinfix
  have := hinfix.sublist.count_le 'σ'
  omega

theorem not_lower_isInfix_of_back (hs : s = u ++ 'Σ' :: v) (hv : IsIgnorable v)
    (hu : meetsCased u.reverse = true) : ¬ lower s <:+: lower (s ++ ['a']) := by
  have hlt : (lowerBetween [] s ['a']).count 'ς' < (lower s).count 'ς' := by
    rw [lower_eq_lowerBetween]
    refine count_lowerBetween_lt (fun a b _ hab => ?_) hs ?_ ?_
    · rw [sigma_eq_final] at hab ⊢
      rw [List.append_nil]
      exact endsWord_of_append hab
    · rw [Ne, sigma_eq_final, endsWord, meetsCased_append_of_isIgnorable hv]
      simp [meetsCased_letter]
    · rw [sigma_eq_final, endsWord, List.nil_append, hu, List.append_nil,
        hv.meetsCased_eq_false, Bool.not_false, Bool.and_true]
  have hwhole : (lower (s ++ ['a'])).count 'ς' = (lowerBetween [] s ['a']).count 'ς' := by
    rw [lower_eq_lowerBetween, lowerBetween_append, List.count_append]
    simp [lowerBetween, lowerChar]
  intro hinfix
  have := hinfix.sublist.count_le 'ς'
  omega

/-- A text is found, whatever the case, wherever it is written exactly if its sigmas are settled. -/
theorem isSettled_iff : IsSettled s ↔ ∀ p q, lower s <:+: lower (p ++ s ++ q) := by
  constructor
  · intro h p q
    exact (h.keepsSigmas p q).lower_isInfix
  · intro h u v hs
    constructor
    · intro hu
      cases hv : meetsCased v with
      | true => rfl
      | false => exact absurd (by simpa using h ['a'] []) (not_lower_isInfix_of_front hs hu hv)
    · intro hv
      cases hu : meetsCased u.reverse with
      | false => rfl
      | true => exact absurd (by simpa using h [] ['a']) (not_lower_isInfix_of_back hs hv hu)

end AskSql.Text
