import AskSql.Database.Grammar.Expression
import AskSql.Proofs.Database.Reading

/-!
# Readers that declare no key

A foreign key is declared at the word `REFERENCES`, and nowhere else does the grammar of the
database have it : what a reader leaves of a row of pieces is behind the pieces that it takes, and
the word is among these only between parentheses that are passed over unread (`Passes`). A reader is
`Keyless` if it does so wherever it starts.

`Keyless` is a class, whose instances follow the way in which readers are put together : one
instance for each reader, found from those of its parts.
-/

namespace AskSql.Database

open Grammar.Rules (passEnclosed)

/-! ## Rows of pieces -/

/-- The word that a foreign key is declared at. -/
def Token.isReference (t : Token) : Bool :=
  t.isKeyword "REFERENCES"

/-- `rest` is what is left of a row when some pieces have been taken off its front, with no
`REFERENCES` among them except in parentheses that are passed over. -/
inductive Passes : List Piece → List Piece → Prop
  | refl (ps : List Piece) : Passes ps ps
  | piece {p : Piece} {ps rest : List Piece} (hp : p.token.isReference = false)
    (h : Passes ps rest) : Passes (p :: ps) rest
  | enclosed {p : Piece} {ps qs rest : List Piece} (hp : p.token.isSymbol "(" = true)
    (hpass : passEnclosed 0 ps = .ok ((), qs)) (h : Passes qs rest) : Passes (p :: ps) rest

namespace Passes

variable {p : Piece} {ps qs rest : List Piece}

/-- What is passed in two goes is passed in one. -/
theorem trans (h : Passes ps qs) (h' : Passes qs rest) : Passes ps rest := by
  induction h with
  | refl => exact h'
  | piece hp _ ih => exact .piece hp (ih h')
  | enclosed hp hpass _ ih => exact .enclosed hp hpass (ih h')

/-- A piece that is no `REFERENCES` may be passed alone. -/
theorem tail (hp : p.token.isReference = false) (ps : List Piece) : Passes (p :: ps) ps :=
  .piece hp (.refl ps)

end Passes

/-! ## Keyless readers -/

namespace Reader

variable {α β : Type}

/-- A reader after another succeeds where the first one has, on what that has left. -/
theorem bind_eq_ok {x : Reader α} {f : α → Reader β} {ps rest : List Piece} {b : β} :
    (x >>= f) ps = .ok (b, rest) ↔ ∃ a qs, x ps = .ok (a, qs) ∧ f a qs = .ok (b, rest) := by
  rw [bind_apply]
  cases x ps with
  | error e => simp
  | ok r =>
    obtain ⟨a, qs⟩ := r
    simp only [Except.ok.injEq, Prod.mk.injEq]
    exact ⟨fun h => ⟨a, qs, ⟨rfl, rfl⟩, h⟩, fun ⟨_, _, ⟨ha, hqs⟩, h⟩ => ha ▸ hqs ▸ h⟩

/-- A value is given and nothing is taken. -/
theorem pure_eq_ok {a b : α} {ps rest : List Piece} :
    (pure a : Reader α) ps = .ok (b, rest) ↔ a = b ∧ ps = rest := by
  rw [pure_apply]
  simp

/-- A reader that passes over no `REFERENCES`. -/
class Keyless (x : Reader α) : Prop where
  passes : ∀ {ps a rest}, x ps = .ok (a, rest) → Passes ps rest

/-- Readers in sequence. -/
theorem Keyless.bind {x : Reader α} {f : α → Reader β} [Keyless x] (h : ∀ a, Keyless (f a)) :
    Keyless (x >>= f) where
  passes hx := by
    obtain ⟨a, qs, ha, hb⟩ := bind_eq_ok.mp hx
    exact (passes ha).trans ((h a).passes hb)

/-- A branch declares no key if neither of its ways does. -/
theorem Keyless.ite {c : Prop} [Decidable c] {x y : Reader α} (hx : Keyless x) (hy : Keyless y) :
    Keyless (if c then x else y) := by
  split
  · exact hx
  · exact hy

instance keyless_bind (x : Reader α) (f : α → Reader β) [Keyless x] [∀ a, Keyless (f a)] :
    Keyless (x >>= f) :=
  .bind fun _ => inferInstance

instance keyless_ite (c : Prop) [Decidable c] (x y : Reader α) [Keyless x] [Keyless y] :
    Keyless (if c then x else y) :=
  .ite inferInstance inferInstance

/-- A value that is given takes nothing. -/
instance keyless_pure (a : α) : Keyless (pure a : Reader α) where
  passes h := by
    obtain ⟨-, rfl⟩ := pure_eq_ok.mp h
    exact .refl _

instance keyless_stuck : Keyless (stuck : Reader α) where
  passes h := by cases h

instance keyless_refuse (e : StoreError) : Keyless (refuse e : Reader α) where
  passes h := by cases h

/-- A reader that is given the number of the pieces that are left. -/
instance keyless_withLength (x : Nat → Reader α) [∀ fuel, Keyless (x fuel)] :
    Keyless (fun ps => x (ps.length + 1) ps) where
  passes {ps} _ _ h := Keyless.passes (x := x (ps.length + 1)) h

/-! ## Single pieces -/

/-- What `f` accepts is no `REFERENCES`. -/
class Spares (f : Token → Bool) : Prop where
  isReference_eq_false : ∀ {t}, f t = true → t.isReference = false

/-- What `f` makes something of is no `REFERENCES`. -/
class SparesName (f : Token → Option α) : Prop where
  isReference_eq_false : ∀ {t a}, f t = some a → t.isReference = false

/-- A word of a list. -/
class Among (k : String) (ks : List String) : Prop where
  mem : k ∈ ks

instance among_head (k : String) (ks : List String) : Among k (k :: ks) :=
  ⟨List.mem_cons_self⟩

instance among_tail (k l : String) (ks : List String) [Among k ks] : Among k (l :: ks) :=
  ⟨List.mem_cons_of_mem l Among.mem⟩

/-- The other words of the grammar of tables. -/
abbrev otherWords : List String :=
  ["ACTION", "ALL", "ALWAYS", "AND", "AS", "ASC", "AUTOINCREMENT", "BETWEEN", "BY", "CASCADE",
   "CASE", "CAST", "CHECK", "COLLATE", "CONFLICT", "CONSTRAINT", "CREATE", "CURRENT_DATE",
   "CURRENT_TIME", "CURRENT_TIMESTAMP", "DEFAULT", "DEFERRABLE", "DEFERRED", "DELETE", "DESC",
   "DISTINCT", "ELSE", "END", "ESCAPE", "EXCEPT", "EXISTS", "FILTER", "FIRST", "FOREIGN", "FROM",
   "GENERATED", "GROUP", "HAVING", "IF", "IGNORE", "IMMEDIATE", "INDEXED", "INITIALLY", "INSERT",
   "INTERSECT", "JOIN", "KEY", "LAST", "LIMIT", "MATCH", "MATERIALIZED", "NO", "NOT", "NULL",
   "NULLS", "OFFSET", "ON", "OR", "ORDER", "OVER", "PRIMARY", "RAISE", "RECURSIVE", "RESTRICT",
   "SELECT", "SET", "TABLE", "THEN", "UNION", "UNIQUE", "UPDATE", "USING", "VALUES", "WHEN",
   "WHERE", "WINDOW", "WITH", "WITHOUT"]

/-- Another word is not `REFERENCES`. -/
theorem isReference_eq_false_of_isKeyword {t : Token} {k : String} (ht : t.isKeyword k = true)
    (hk : k ≠ "REFERENCES") : t.isReference = false := by
  cases t with
  | word w =>
    refine beq_eq_false_iff_ne.mpr fun href => hk ?_
    exact String.toList_injective ((eq_of_beq ht).symm.trans href)
  | _ => rfl

/-- A symbol is not a word. -/
theorem isReference_eq_false_of_isSymbol {t : Token} {s : String} (ht : t.isSymbol s = true) :
    t.isReference = false := by
  rw [eq_of_beq ht]
  rfl

/-- None of some other words is `REFERENCES`. -/
theorem isReference_eq_false_of_isAmong {t : Token} {ks : List String} (ht : t.isAmong ks = true)
    (hks : "REFERENCES" ∉ ks) : t.isReference = false := by
  cases t with
  | word w =>
    refine beq_eq_false_iff_ne.mpr fun href => hks ?_
    have hmem := Token.isAmong_word.mp ht
    rwa [href, String.ofList_toList] at hmem
  | _ => rfl

instance spares_isKeyword (k : String) [Among k otherWords] : Spares (·.isKeyword k) where
  isReference_eq_false ht := isReference_eq_false_of_isKeyword ht fun hk => by
    have hmem : k ∈ otherWords := Among.mem
    rw [hk] at hmem
    exact absurd hmem (by decide)

instance spares_isSymbol (s : String) : Spares (·.isSymbol s) where
  isReference_eq_false := isReference_eq_false_of_isSymbol

instance spares_or (f g : Token → Bool) [Spares f] [Spares g] : Spares fun t => f t || g t where
  isReference_eq_false ht := by
    rcases (Bool.or_eq_true _ _).mp ht with ht | ht <;>
      exact Spares.isReference_eq_false ht

instance spares_isSome (f : Token → Option α) [SparesName f] : Spares fun t => (f t).isSome where
  isReference_eq_false ht := by
    obtain ⟨a, ha⟩ := Option.isSome_iff_exists.mp ht
    exact SparesName.isReference_eq_false ha

/-- Where `REFERENCES` may not be a name, what is taken as a name is another word. -/
theorem sparesName_looseNameOf? {words : List String} (h : "REFERENCES" ∈ words) :
    SparesName (looseNameOf? words) where
  isReference_eq_false {t a} ht := by
    cases t with
    | word w =>
      simp only [looseNameOf?, nameOf?, Option.ite_none_left_eq_some] at ht
      exact Token.isKeyword_eq_false_of_isAmong (Bool.eq_false_iff.mpr ht.1) h
    | _ => rfl

/-- See `sparesName_looseNameOf?`. -/
theorem sparesName_nameOf? {words : List String} (h : "REFERENCES" ∈ words) :
    SparesName (nameOf? words) where
  isReference_eq_false {t a} ht := by
    cases t with
    | word w =>
      simp only [nameOf?, Option.ite_none_left_eq_some] at ht
      exact Token.isKeyword_eq_false_of_isAmong (Bool.eq_false_iff.mpr ht.1) h
    | _ => rfl

/-- A piece is taken if it is accepted, and it is no `REFERENCES` then. -/
instance keyless_piece (f : Token → Bool) [Spares f] : Keyless (piece f) where
  passes {ps a rest} h := by
    cases ps with
    | nil => cases h
    | cons p ps =>
      rw [piece_cons] at h
      split at h
      · next hp =>
        obtain ⟨-, rfl⟩ := Prod.mk.inj (Except.ok.inj h)
        exact .tail (Spares.isReference_eq_false hp) ps
      · cases h

/-- A name is taken if it may be one, and it is no `REFERENCES` then. -/
instance keyless_take (f : Token → Option α) [SparesName f] : Keyless (take f) where
  passes {ps a rest} h := by
    unfold take at h
    split at h
    · cases h
    · next p ps =>
      split at h
      · next hp =>
        obtain ⟨-, rfl⟩ := Prod.mk.inj (Except.ok.inj h)
        exact .tail (SparesName.isReference_eq_false hp) ps
      · cases h

/-- A piece that is looked at stays in the row. -/
instance keyless_seesAt (n : Nat) (f : Token → Bool) : Keyless (seesAt n f) where
  passes h := by
    obtain ⟨-, rfl⟩ := Prod.mk.inj (Except.ok.inj h)
    exact .refl _

/-! ## Putting readers together -/

instance keyless_sees (f : Token → Bool) : Keyless (sees f) :=
  inferInstanceAs (Keyless (seesAt 0 f))

instance keyless_seesKeyword (k : String) : Keyless (seesKeyword k) :=
  inferInstanceAs (Keyless (sees _))

instance keyless_seesSymbol (s : String) : Keyless (seesSymbol s) :=
  inferInstanceAs (Keyless (sees _))

instance keyless_seesName : Keyless seesName :=
  inferInstanceAs (Keyless (sees _))

instance keyless_seesBareName : Keyless seesBareName :=
  inferInstanceAs (Keyless (sees _))

instance keyless_accepts (f : Token → Bool) [Spares f] : Keyless (accepts f) := by
  unfold accepts
  infer_instance

instance keyless_acceptsKeyword (k : String) [Among k otherWords] : Keyless (acceptsKeyword k) :=
  inferInstanceAs (Keyless (accepts (·.isKeyword k)))

instance keyless_acceptsSymbol (s : String) : Keyless (acceptsSymbol s) :=
  inferInstanceAs (Keyless (accepts (·.isSymbol s)))

instance keyless_keyword (k : String) [Among k otherWords] : Keyless (keyword k) := by
  unfold keyword
  infer_instance

instance keyless_symbol (s : String) : Keyless (symbol s) := by
  unfold symbol
  infer_instance

instance keyless_keywords_nil : Keyless (keywords []) :=
  inferInstanceAs (Keyless (pure ()))

instance keyless_keywords_cons (k : String) (ks : List String) [Among k otherWords]
    [Keyless (keywords ks)] : Keyless (keywords (k :: ks)) := by
  unfold keywords
  infer_instance

instance keyless_phrase (k : String) (ks : List String) [Among k otherWords]
    [Keyless (keywords ks)] : Keyless (phrase k ks) := by
  unfold phrase
  infer_instance

instance keyless_spanned (x : Reader α) [Keyless x] : Keyless (spanned x) where
  passes {ps a rest} h := by
    unfold spanned at h
    split at h
    · next hx =>
      obtain ⟨-, rfl⟩ := Prod.mk.inj (Except.ok.inj h)
      exact Keyless.passes hx
    · cases h

/-- One after the other, by induction on how many there may be. -/
instance keyless_commaSeparated (x : Reader α) [Keyless x] (fuel : Nat) :
    Keyless (commaSeparated x fuel) := by
  induction fuel with
  | zero => exact inferInstanceAs (Keyless stuck)
  | succ fuel ih =>
    unfold commaSeparated
    infer_instance

instance keyless_list (x : Reader α) [Keyless x] : Keyless (list x) := by
  unfold list
  infer_instance

instance keyless_parenthesized (x : Reader α) [Keyless x] : Keyless (parenthesized x) := by
  unfold parenthesized
  infer_instance

instance keyless_after (k : String) (x : Reader α) [Among k otherWords] [Keyless x] :
    Keyless (Reader.after k x) := by
  unfold Reader.after
  infer_instance

/-! ## Names -/

instance sparesName_looseNameOf?_reserved : SparesName (looseNameOf? reserved) :=
  sparesName_looseNameOf? (by decide)

instance sparesName_looseNameOf?_indexed :
    SparesName (looseNameOf? (reserved ++ joining ++ ["INDEXED"])) :=
  sparesName_looseNameOf? (by decide)

instance sparesName_nameOf?_reserved : SparesName (nameOf? reserved) :=
  sparesName_nameOf? (by decide)

instance sparesName_nameOf?_joining : SparesName (nameOf? (reserved ++ joining)) :=
  sparesName_nameOf? (by decide)

instance keyless_name : Keyless name :=
  inferInstanceAs (Keyless (take _))

instance keyless_bareName : Keyless bareName :=
  inferInstanceAs (Keyless (take _))

instance keyless_qualifiedName : Keyless qualifiedName := by
  unfold qualifiedName
  infer_instance

instance keyless_signedNumeral : Keyless signedNumeral := by
  have hnumeral : Spares fun
      | .numeral _ => true
      | _ => false :=
    ⟨fun {t} ht => by cases t <;> first | rfl | cases ht⟩
  unfold signedNumeral
  infer_instance

/-- The words of a type are names, one after the other. -/
instance keyless_typeNames (fuel : Nat) : Keyless (typeNames fuel) := by
  induction fuel with
  | zero => exact inferInstanceAs (Keyless stuck)
  | succ fuel ih =>
    unfold typeNames
    refine .bind fun _ => .bind fun more => .ite inferInstance (.bind fun sized => ?_)
    infer_instance

instance keyless_typeText : Keyless typeText := by
  unfold typeText
  infer_instance

end Reader
end AskSql.Database
