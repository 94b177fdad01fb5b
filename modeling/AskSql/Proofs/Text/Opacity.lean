import AskSql.Proofs.Text.Scanning

/-!
# Written names are opaque

Whatever a name holds, its written form is a block to the scanners of schema text (`IsBlock`) : one
that comes to it outside of quotes passes over all of it, stops nowhere inside, and goes on behind
it outside of quotes. What it sees on the way are the characters of a plain identifier at most, and
no mark of the grammar is among these (`IsMark`).

`quoteIdentifier_opaque` : the written name stands for the name, and it is such a block wherever the
text in front of it has closed its quotes.
-/

namespace AskSql.Text

variable {w : Text} {c : Char}

/-- A character that schema text is taken apart at : a blank, a parenthesis, a bracket, a comma, a
bar or a dot. -/
def IsMark (c : Char) : Prop :=
  isBlank c = true ∨ c ∈ "()[],|.".toList

instance (c : Char) : Decidable (IsMark c) :=
  inferInstanceAs (Decidable (_ ∨ _))

theorem IsMark.isIdentifierPart_eq_false (h : IsMark c) : isIdentifierPart c = false := by
  rcases h with h | h
  · cases hc : isIdentifierPart c with
    | false => rfl
    | true => rw [isBlank_of_isIdentifierPart hc] at h; cases h
  · have hall : ("()[],|.".toList.all fun d => !isIdentifierPart d) = true := by decide
    simpa using List.all_eq_true.mp hall c h

/-- The scanners pass over a text that they come to outside of quotes, and go on behind it as if
they had started there. -/
structure IsBlock (w : Text) : Prop where
  /-- The search for the first mark. -/
  span : ∀ p : Char → Bool, (∀ c, p c = true → IsMark c) → ∀ r,
    spanUnquoted p false (w ++ r) = (w ++ (spanUnquoted p false r).1, (spanUnquoted p false r).2)
  /-- The search for the last mark. -/
  beforeLast : ∀ c, IsMark c → ∀ r,
    beforeLastUnquoted? c false (w ++ r) = (beforeLastUnquoted? c false r).map (w ++ ·)
  /-- The split at each mark. -/
  split : ∀ c, IsMark c → ∀ r,
    splitUnquotedFrom c false (w ++ r) = (splitUnquotedFrom c false r).modifyHead (w ++ ·)
  /-- The search for a closing parenthesis, however many are open. -/
  enclosed : ∀ depth r, enclosedFrom false depth (w ++ r) = w ++ enclosedFrom false depth r

/-- A text is a block if it closes its quotes and shows no mark outside of them. -/
theorem isBlock_of_forall_not_isMark (hclosed : insideAfter false w = false)
    (hw : ∀ c ∈ unquotedFrom false w, ¬ IsMark c) : IsBlock w where
  span p hp r := by
    have hseen : ∀ c ∈ unquotedFrom false w, p c = false := fun c hc => by
      cases hpc : p c with
      | false => rfl
      | true => exact absurd (hp c hpc) (hw c hc)
    rw [spanUnquoted_append r hseen, hclosed]
  beforeLast c hc r := by
    rw [beforeLastUnquoted?_append r fun hmem => hw c hmem hc, hclosed]
  split c hc r := by
    rw [splitUnquotedFrom_append c r fun hmem => hw c hmem hc, hclosed]
  enclosed depth r := by
    have hopen : '(' ∉ unquotedFrom false w := fun hmem => hw _ hmem (by decide)
    have hclose : ')' ∉ unquotedFrom false w := fun hmem => hw _ hmem (by decide)
    have hbalanced := balanced_of_not_mem hopen hclose
    rw [enclosedFrom_append r fun u hu => (hbalanced.le u hu).trans (Nat.le_add_right _ _),
      List.count_eq_zero.mpr hopen, List.count_eq_zero.mpr hclose, hclosed]
    rfl

theorem isBlock_quoteIdentifier (name : Text) : IsBlock (quoteIdentifier name) := by
  refine isBlock_of_forall_not_isMark (insideAfter_quoteIdentifier name) fun c hc hmark => ?_
  have hpart := isIdentifierPart_of_mem_unquoted_quoteIdentifier hc
  rw [hmark.isIdentifierPart_eq_false] at hpart
  cases hpart

/-- A name is what its written form stands for. Behind a text that has closed its quotes, the
characters that are seen of the written name are those of a plain identifier or none, so that no
mark is among them; what follows is seen as if it followed that text at once, and each scanner that
gets as far passes over the name. -/
theorem quoteIdentifier_opaque (name : Text) :
    unquote (quoteIdentifier name) = name ∧ IsBlock (quoteIdentifier name) ∧
      ∀ p r : Text, Even (p.count '"') →
        unquoted (p ++ quoteIdentifier name ++ r) =
            unquoted p ++ (if isPlainIdentifier name then name else []) ++ unquoted r ∧
          (∀ c ∈ unquotedFrom (insideAfter false p) (quoteIdentifier name), ¬ IsMark c) ∧
          insideAfter false (p ++ quoteIdentifier name) = insideAfter false p := by
  refine ⟨unquote_quoteIdentifier name, isBlock_quoteIdentifier name, fun p r hp => ?_⟩
  have hclosed : insideAfter false p = false := (even_count_quote_iff false).mp hp
  refine ⟨?_, fun c hc hmark => ?_, ?_⟩
  · rw [unquoted, unquotedFrom_append, unquotedFrom_append, insideAfter_append, hclosed,
      insideAfter_quoteIdentifier, unquoted_quoteIdentifier]
    rfl
  · rw [hclosed] at hc
    exact not_mem_unquoted_quoteIdentifier name hmark.isIdentifierPart_eq_false hc
  · rw [insideAfter_append, insideAfter_quoteIdentifier]

/-- A name of quotes, marks and a line break, behind the head of a table whose own name holds a dot
between quotes. -/
theorem quoteIdentifier_opaque_of_marks :
    let name : Text := "\" a\")\", [|.\n".toList
    let p : Text := "x (\n  \"y.z\" ".toList
    let r : Text := " INT,".toList
    Even (p.count '"') ∧ unquote (quoteIdentifier name) = name ∧
      unquoted (p ++ quoteIdentifier name ++ r) = "x (\n    INT,".toList ∧
      insideAfter false (p ++ quoteIdentifier name) = false := by
  intro name p r
  have heven : Even (p.count '"') := by decide
  obtain ⟨hunquote, -, hopaque⟩ := quoteIdentifier_opaque name
  obtain ⟨hseen, -, hinside⟩ := hopaque p r heven
  refine ⟨heven, hunquote, hseen.trans ?_, hinside.trans ?_⟩
  · decide
  · decide

end AskSql.Text
