import AskSql.Database.Token
import AskSql.Proofs.Composer.Tokens

/-!
# Cutting a text into pieces

A text that is written piece by piece is cut into these pieces again: `Cuts` says so of a text and
its pieces, and has one lemma for each kind of piece that can stand in front of a text. Only what
comes before the first zero character of the text counts. So a name that holds a zero character is
cut within its quotes, and the piece that is left of it is a wrong one, behind which nothing stands
(`Cuts.name`).
-/

namespace AskSql.Database

open Text

variable {c : Char} {s t : Text} {ps : List Piece}

/-! ## Texts up to a zero character -/

/-- What comes before the first zero character. -/
def untilZero (s : Text) : Text :=
  s.takeWhile (· != '\x00')

theorem untilZero_append (hs : '\x00' ∉ s) (t : Text) : untilZero (s ++ t) = s ++ untilZero t :=
  List.takeWhile_append_of_pos fun c hc => by simpa using ne_of_mem_of_not_mem hc hs

theorem untilZero_append_of_mem (hs : '\x00' ∈ s) (t : Text) :
    untilZero (s ++ t) = untilZero s := by
  obtain ⟨before, after, rfl, -⟩ := List.eq_append_cons_of_mem hs
  have hcut (t : Text) : untilZero (before ++ '\x00' :: t) = untilZero before :=
    takeWhile_append_cons before (by decide) t
  rw [List.append_assoc, List.cons_append, hcut, hcut]

theorem head?_untilZero_subset (s : Text) : ∀ c ∈ (untilZero s).head?, c ∈ s.head? := by
  cases s with
  | nil => simp [untilZero]
  | cons c s =>
    intro d hd
    by_cases hc : c = '\x00'
    · simp [untilZero, hc] at hd
    · simpa [untilZero, hc] using hd

/-! ## Blanks -/

/-- No blank and no comment stands at the start of the text. -/
def StartsPiece (s : Text) : Prop :=
  ∀ c ∈ s.head?, isSpace c = false ∧ c ∉ ['-', '/', '\uFEFF']

theorem StartsPiece.untilZero (h : StartsPiece s) : StartsPiece (untilZero s) :=
  fun c hc => h c (head?_untilZero_subset s c hc)

theorem gapLength_of_startsPiece (h : StartsPiece s) (fuel : Nat) : gapLength fuel s = 0 := by
  fun_cases gapLength fuel s <;> simp_all [StartsPiece]

/-- Nothing but blanks. -/
def IsGap (gap : Text) : Prop :=
  ∀ c ∈ gap, isSpace c = true

theorem isGap_nil : IsGap [] := by
  simp [IsGap]

theorem isGap_space : IsGap [' '] := by
  simp [IsGap, isSpace]

theorem IsGap.zero_not_mem {gap : Text} (h : IsGap gap) : '\x00' ∉ gap :=
  fun hmem => absurd (h _ hmem) (by decide)

theorem gapLength_append {gap : Text} (hgap : IsGap gap) (hs : StartsPiece s)
    {fuel : Nat} (hfuel : gap.length ≤ fuel) : gapLength fuel (gap ++ s) = gap.length := by
  induction gap generalizing fuel with
  | nil => exact gapLength_of_startsPiece hs fuel
  | cons c gap ih =>
    obtain ⟨fuel, rfl⟩ : ∃ n, fuel = n + 1 := ⟨fuel - 1, by simp at hfuel; omega⟩
    have hc : isSpace c = true := hgap c List.mem_cons_self
    have hdash : c ≠ '-' := by rintro rfl; exact absurd hc (by decide)
    have hslash : c ≠ '/' := by rintro rfl; exact absurd hc (by decide)
    have htail := ih (fun d hd => hgap d (List.mem_cons_of_mem c hd)) (by simpa using hfuel)
    rw [List.cons_append, gapLength]
    · simp [hc, htail, Nat.add_comm]
    all_goals simp [hdash, hslash]

/-! ## Pieces -/

/-- The text is cut into the pieces. -/
def Cuts (s : Text) (ps : List Piece) : Prop :=
  ∀ fuel, (untilZero s).length ≤ fuel → piecesFrom fuel (untilZero s) = ps

theorem Cuts.pieces_eq (hs : StartsPiece s) (h : Cuts s ps) : pieces s = ps := by
  have hgap := gapLength_of_startsPiece hs.untilZero (untilZero s).length
  have hpieces : pieces s = piecesFrom (untilZero s).length
      ((untilZero s).drop (gapLength (untilZero s).length (untilZero s))) := rfl
  rw [hpieces, hgap, List.drop_zero]
  exact h _ (Nat.le_refl _)

namespace Cuts

theorem nil : Cuts [] [] := by
  intro fuel _
  cases fuel <;> rfl

/-- A piece in front of a text. -/
theorem cons {word gap : Text} {token : Token} (hword : word ≠ []) (hwordzero : '\x00' ∉ word)
    (hgap : IsGap gap) (hs : StartsPiece s) (htoken : token ≠ .wrong)
    (hat : ∀ c rest, word = c :: rest →
      tokenAt c (rest ++ (gap ++ untilZero s)) = (token, word.length)) (h : Cuts s ps) :
    Cuts (word ++ (gap ++ s)) (⟨token, word, gap⟩ :: ps) := by
  have hzero : untilZero (word ++ (gap ++ s)) = word ++ (gap ++ untilZero s) := by
    rw [untilZero_append hwordzero, untilZero_append hgap.zero_not_mem]
  intro fuel hfuel
  rw [hzero] at hfuel ⊢
  obtain ⟨c, rest, rfl⟩ := List.exists_cons_of_ne_nil hword
  obtain ⟨fuel, rfl⟩ : ∃ n, fuel = n + 1 := ⟨fuel - 1, by simp at hfuel; omega⟩
  have hdrop : ((c :: rest) ++ (gap ++ untilZero s)).drop (c :: rest).length =
      gap ++ untilZero s := List.drop_left
  have htake : ((c :: rest) ++ (gap ++ untilZero s)).take (c :: rest).length = c :: rest :=
    List.take_left
  have hlength : gapLength (gap ++ untilZero s).length (gap ++ untilZero s) = gap.length :=
    gapLength_append hgap hs.untilZero (by simp)
  rw [List.cons_append] at hdrop htake ⊢
  rw [piecesFrom, hat c rest rfl]
  simp only [hdrop, htake, hlength, if_neg htoken, List.take_left, List.drop_left]
  rw [h fuel (by simp at hfuel; omega)]

end Cuts

/-! ## Names -/

theorem isNamePart_of_isIdentifierPart (h : isIdentifierPart c = true) : isNamePart c = true := by
  simp only [isIdentifierPart, Bool.or_eq_true] at h
  rcases h with (h | h) | h <;> simp [isNamePart, h]

theorem isNamePart_of_isBoundary (h : Sql.isBoundary c = true) : isNamePart c = false := by
  simp only [Sql.isBoundary, decide_eq_true_eq, List.mem_cons, List.not_mem_nil, or_false] at h
  rcases h with rfl | rfl | rfl | rfl | rfl <;> decide

/-- A token that starts with a character of an identifier is a word. -/
theorem tokenAt_of_isIdentifierStart (h : isIdentifierStart c = true)
    (hs : s.head? ≠ some '\x27') :
    tokenAt c s = (.word (c :: s.takeWhile isNamePart), (s.takeWhile isNamePart).length + 1) := by
  have hpart := isIdentifierPart_of_isIdentifierStart h
  have hne (d : Char) (hd : isIdentifierPart d = false) : c ≠ d := ne_of_isIdentifierPart hpart hd
  have hdigit := Sql.isAsciiDigit_of_isIdentifierStart h
  have hstart : isNameStart c = true := by
    simp only [isIdentifierStart, Bool.or_eq_true] at h
    rcases h with h | h <;> simp [isNameStart, h]
  simp [tokenAt, hne '\x27' (by decide), hne '"' (by decide), hne '\x60' (by decide),
    hne '[' (by decide), hne '.' (by decide), hdigit, hs, hstart]

theorem tokenAt_of_plain {name : Text} (hname : isPlainIdentifier (c :: name) = true)
    (hs : Sql.EndsName s) : tokenAt c (name ++ s) = (.word (c :: name), (c :: name).length) := by
  obtain ⟨e, rest, rfl, he⟩ := hs
  have hparts := forall_isIdentifierPart hname
  have hhead : (name ++ e :: rest).head? ≠ some '\x27' := by
    cases name with
    | nil =>
      rintro ⟨rfl⟩
      exact absurd he (by decide)
    | cons d name =>
      rintro ⟨rfl⟩
      exact absurd (hparts '\x27' (by simp)) (by decide)
  have htake : (name ++ e :: rest).takeWhile isNamePart = name := by
    rw [List.takeWhile_append_of_pos fun d hd =>
        isNamePart_of_isIdentifierPart (hparts d (List.mem_cons_of_mem c hd)),
      List.takeWhile_cons_of_neg (by simp [isNamePart_of_isBoundary he]), List.append_nil]
  simp only [isPlainIdentifier, Bool.and_eq_true] at hname
  rw [tokenAt_of_isIdentifierStart hname.1 hhead, htake]
  rfl

theorem quotedValue?_cons_of_ne {quote : Char} (hc : c ≠ quote) (n : Nat) (s : Text) :
    quotedValue? quote n (c :: s) =
      (quotedValue? quote (n + 1) s).map fun (value, n) => (c :: value, n) := by
  rw [quotedValue?.eq_def]
  simp [hc]

/-- Doubled quotes are read as the quotes that they stand for. -/
theorem quotedValue?_doubleQuotes (name : Text) (hs : s.head? ≠ some '"') (n : Nat) :
    quotedValue? '"' n (doubleQuotes name ++ '"' :: s) =
      some (name, n + (doubleQuotes name).length + 1) := by
  induction name generalizing n with
  | nil =>
    cases s with
    | nil => rfl
    | cons d s =>
      have hd : d ≠ '"' := by simpa using hs
      simp [doubleQuotes, quotedValue?, hd]
  | cons c name ih =>
    by_cases hc : c = '"'
    · simp [doubleQuotes, hc, quotedValue?, ih]
      omega
    · simp [doubleQuotes, hc, quotedValue?_cons_of_ne, ih]
      omega

/-- Doubled quotes close nothing. -/
theorem quotedValue?_doubleQuotes_eq_none (name : Text) (n : Nat) :
    quotedValue? '"' n (doubleQuotes name) = none := by
  induction name generalizing n with
  | nil => rfl
  | cons c name ih =>
    by_cases hc : c = '"'
    · simp [doubleQuotes, hc, quotedValue?, ih]
    · simp [doubleQuotes, hc, quotedValue?_cons_of_ne, ih]

theorem tokenAt_quote (s : Text) :
    tokenAt '"' s = match quotedValue? '"' 1 s with
      | some (value, n) => (.quoted value '"', n)
      | none => (.wrong, s.length + 1) :=
  rfl

theorem untilZero_doubleQuotes (name : Text) :
    untilZero (doubleQuotes name) = doubleQuotes (untilZero name) := by
  induction name with
  | nil => rfl
  | cons c name ih =>
    unfold untilZero at ih ⊢
    by_cases hquote : c = '"'
    · simp [doubleQuotes, hquote, ih]
    · by_cases hzero : c = '\x00'
      · simp [doubleQuotes, hzero]
      · simp [doubleQuotes, hquote, hzero, ih]

theorem zero_mem_doubleQuotes {name : Text} : '\x00' ∈ doubleQuotes name ↔ '\x00' ∈ name := by
  induction name with
  | nil => rfl
  | cons c name ih =>
    by_cases hquote : c = '"'
    · simp [doubleQuotes, hquote, ih]
    · simp [doubleQuotes, hquote, ih]

/-- A word as it is written. -/
def Piece.ofWord (word gap : Text) : Piece :=
  ⟨.word word, word, gap⟩

/-- A mark of one character. -/
def Piece.ofMark (c : Char) (gap : Text) : Piece :=
  ⟨.symbol [c], [c], gap⟩

/-- A written name in front of some pieces. Behind a zero character there are none. -/
def namePieces (name gap : Text) (ps : List Piece) : List Piece :=
  if isPlainIdentifier name then .ofWord name gap :: ps
  else if '\x00' ∈ name then [⟨.wrong, untilZero (quoteIdentifier name), []⟩]
  else ⟨.quoted name '"', quoteIdentifier name, gap⟩ :: ps

namespace Cuts

theorem endsName_untilZero (h : Sql.EndsName s) : Sql.EndsName (untilZero s) := by
  obtain ⟨c, rest, rfl, hc⟩ := h
  have hzero : c ≠ '\x00' := by
    rintro rfl
    exact absurd hc (by decide)
  exact ⟨c, untilZero rest, by simp [untilZero, hzero], hc⟩

/-- A plain identifier, with what separates it from the text. -/
theorem word {name gap : Text} (hname : isPlainIdentifier name = true)
    (hgap : IsGap gap) (hs : StartsPiece s) (hend : Sql.EndsName (gap ++ s))
    (h : Cuts s ps) : Cuts (name ++ (gap ++ s)) (.ofWord name gap :: ps) := by
  have hend := endsName_untilZero hend
  rw [untilZero_append hgap.zero_not_mem] at hend
  refine cons (ne_nil_of_isPlainIdentifier hname)
    (not_mem_of_isPlainIdentifier hname (by decide)) hgap hs (by simp) ?_ h
  rintro c rest rfl
  exact tokenAt_of_plain hname hend

/-- A name between quotes is cut off at its zero character, and its quote stays open. -/
theorem unclosed {name : Text} (hname : isPlainIdentifier name = false) (hzero : '\x00' ∈ name)
    (s : Text) :
    Cuts (quoteIdentifier name ++ s) [⟨.wrong, untilZero (quoteIdentifier name), []⟩] := by
  have hquote := quoteIdentifier_of_not_plain hname
  have hmem : '\x00' ∈ quoteIdentifier name := by
    simp [hquote, zero_mem_doubleQuotes, hzero]
  have hcut : untilZero (quoteIdentifier name) = '"' :: doubleQuotes (untilZero name) := by
    rw [hquote, ← untilZero_doubleQuotes,
      ← untilZero_append_of_mem (zero_mem_doubleQuotes.mpr hzero) ['"']]
    rfl
  have hat : tokenAt '"' (doubleQuotes (untilZero name)) =
      (.wrong, (doubleQuotes (untilZero name)).length + 1) := by
    rw [tokenAt_quote, quotedValue?_doubleQuotes_eq_none]
  intro fuel hfuel
  rw [untilZero_append_of_mem hmem] at hfuel ⊢
  rw [hcut] at hfuel ⊢
  obtain ⟨fuel, rfl⟩ : ∃ n, fuel = n + 1 := ⟨fuel - 1, by simp at hfuel; omega⟩
  simp [piecesFrom, hat]

/-- A name between quotes without a zero character, with what separates it from the text. -/
theorem quoted {name gap : Text} (hname : isPlainIdentifier name = false) (hzero : '\x00' ∉ name)
    (hgap : IsGap gap) (hs : StartsPiece s) (hend : Sql.EndsName (gap ++ s)) (h : Cuts s ps) :
    Cuts (quoteIdentifier name ++ (gap ++ s))
      (⟨.quoted name '"', quoteIdentifier name, gap⟩ :: ps) := by
  have hquote := quoteIdentifier_of_not_plain hname
  have hend := endsName_untilZero hend
  rw [untilZero_append hgap.zero_not_mem] at hend
  have hhead : (gap ++ untilZero s).head? ≠ some '"' := by
    obtain ⟨e, tail, heq, he⟩ := hend
    rw [heq]
    rintro ⟨rfl⟩
    exact absurd he (by decide)
  have hlength : (quoteIdentifier name).length = 1 + (doubleQuotes name).length + 1 := by
    simp [hquote, Nat.add_comm]
  refine cons (by simp [hquote]) ?_ hgap hs (by simp) ?_ h
  · simp [hquote, zero_mem_doubleQuotes, hzero]
  · intro c rest hcons
    obtain ⟨rfl, rfl⟩ := List.cons.inj (hquote.symm.trans hcons)
    rw [List.append_assoc, List.singleton_append, tokenAt_quote,
      quotedValue?_doubleQuotes name hhead, hlength]

/-- A written name, with what separates it from the text. -/
theorem name (name : Text) {gap : Text} (hgap : IsGap gap)
    (hs : StartsPiece s) (hend : Sql.EndsName (gap ++ s)) (h : Cuts s ps) :
    Cuts (quoteIdentifier name ++ (gap ++ s)) (namePieces name gap ps) := by
  unfold namePieces
  by_cases hname : isPlainIdentifier name = true
  · rw [quoteIdentifier_of_plain hname, if_pos hname]
    exact word hname hgap hs hend h
  · rw [if_neg hname]
    have hname := Bool.eq_false_iff.mpr hname
    by_cases hzero : '\x00' ∈ name
    · rw [if_pos hzero]
      exact unclosed hname hzero (gap ++ s)
    · rw [if_neg hzero]
      exact quoted hname hzero hgap hs hend h

/-! ## Marks -/

/-- A character that is a token by itself in front of what comes behind it. -/
theorem symbol {c : Char} {gap : Text} (hzero : c ≠ '\x00')
    (hat : tokenAt c (gap ++ untilZero s) = (.symbol [c], 1))
    (hgap : IsGap gap) (hs : StartsPiece s) (h : Cuts s ps) :
    Cuts (c :: (gap ++ s)) (.ofMark c gap :: ps) := by
  have hmem : '\x00' ∉ [c] := by simpa using hzero.symm
  refine cons (List.cons_ne_nil c []) hmem hgap hs (by simp) (fun d rest hd => ?_) h
  obtain ⟨rfl, rfl⟩ := List.cons.inj hd
  exact hat

theorem mark {c : Char} {gap : Text} (hc : c ∈ ['(', ')', '*', ',', ';'])
    (hgap : IsGap gap) (hs : StartsPiece s) (h : Cuts s ps) :
    Cuts (c :: (gap ++ s)) (.ofMark c gap :: ps) := by
  simp only [List.mem_cons, List.not_mem_nil, or_false] at hc
  rcases hc with rfl | rfl | rfl | rfl | rfl <;> exact symbol (by decide) rfl hgap hs h

/-- A dot where no number starts with it. -/
theorem dot (hdigit : ∀ c ∈ s.head?, isAsciiDigit c = false) (hs : StartsPiece s)
    (h : Cuts s ps) : Cuts ('.' :: s) (.ofMark '.' [] :: ps) := by
  have hhead : ((untilZero s).head?.map isAsciiDigit).getD false = false := by
    cases hcut : (untilZero s).head? with
    | none => rfl
    | some c => exact hdigit c (head?_untilZero_subset s c hcut)
  have hat : tokenAt '.' ([] ++ untilZero s) = (.symbol ['.'], 1) := by
    rw [List.nil_append, tokenAt, hhead]
    rfl
  exact symbol (by decide) hat isGap_nil hs h

theorem equals (hs : StartsPiece s) (h : Cuts s ps) :
    Cuts ('=' :: ' ' :: s) (.ofMark '=' [' '] :: ps) := by
  have hat : tokenAt '=' ([' '] ++ untilZero s) = (.symbol ['='], 1) := rfl
  exact symbol (by decide) hat isGap_space hs h

end Cuts
end AskSql.Database
