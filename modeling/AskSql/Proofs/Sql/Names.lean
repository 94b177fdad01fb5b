import AskSql.Proofs.Text.Scanning
import AskSql.Sql.Statement
import Mathlib.Data.List.DropRight
import Mathlib.Data.List.Forall2

/-!
# Names that survive

The names of the keys in a table definition are read off what is written: quotes at both ends go,
and of names with dots between only what follows the last dot stays. The names of columns are taken
as they are meant. Both ways agree on a name that `Survives` : written between its quotes it shows
no quote at an end of its own and none that had to be doubled.

`readTable_names` : in a definition that was read, each name is the one that is meant exactly if
that survives. The name of a table must hold no dot, either (`Name.SurvivesDots`).
-/

namespace AskSql.Sql

open Text

namespace Name

variable {q c : Char} {s : Text} {n : Name}

/-! ## Quotes at the ends -/

/-- A text with no quote at its ends. -/
structure IsBare (s : Text) : Prop where
  head : ∀ c ∈ s.head?, isQuote c = false
  last : ∀ c ∈ s.getLast?, isQuote c = false

theorem IsBare.strip_eq (h : IsBare s) : strip s = s := by
  have hhead : s.dropWhile isQuote = s := by
    cases s with
    | nil => rfl
    | cons c s => exact List.dropWhile_cons_of_neg (by simp [h.head c rfl])
  have hlast : s.rdropWhile isQuote = s := by
    refine List.rdropWhile_eq_self_iff.mpr fun hs => ?_
    simp [h.last _ (List.getLast?_eq_getLast_of_ne_nil hs)]
  rw [strip, hhead]
  exact hlast

theorem isBare_strip (s : Text) : IsBare (strip s) where
  head c hc := by
    obtain ⟨t, ht⟩ := dropEndWhile_isPrefix isQuote (s.dropWhile isQuote)
    cases hstrip : strip s with
    | nil => simp [hstrip] at hc
    | cons d u =>
      obtain rfl : d = c := by simpa [hstrip] using hc
      have hs : s.dropWhile isQuote = d :: (u ++ t) := by
        rw [← ht, ← List.cons_append, ← hstrip, strip]
      exact not_of_dropWhile_eq_cons hs
  last c hc := by
    have hne : (s.dropWhile isQuote).rdropWhile isQuote ≠ [] := by
      intro hnil
      have hstrip : strip s = [] := hnil
      simp [hstrip] at hc
    have hlast := List.rdropWhile_last_not isQuote (s.dropWhile isQuote) hne
    have hc : ((s.dropWhile isQuote).rdropWhile isQuote).getLast? = some c := hc
    rw [List.getLast?_eq_getLast_of_ne_nil hne] at hc
    rw [← Option.some.inj hc]
    simpa using hlast

theorem strip_cons (hc : isQuote c = true) (s : Text) : strip (c :: s) = strip s := by
  rw [strip, List.dropWhile_cons_of_pos hc, strip]

theorem strip_append_singleton (s : Text) (hc : isQuote c = true) :
    strip (s ++ [c]) = strip s := by
  unfold strip
  rw [List.dropWhile_append]
  split
  · next h =>
    rw [List.isEmpty_iff.mp h, List.dropWhile_cons_of_pos hc]
    rfl
  · exact List.rdropWhile_concat_pos _ _ _ hc

theorem strip_enclosed (hc : isQuote c = true) (s : Text) (hq : isQuote q = true) :
    strip (c :: (s ++ [q])) = strip s := by
  rw [strip_cons hc, strip_append_singleton s hq]

theorem mem_of_mem_strip (h : c ∈ strip s) : c ∈ s :=
  ((dropEndWhile_isPrefix _ _).subset h |> (List.dropWhile_suffix _).subset)

/-! ## Quotes that are doubled -/

theorem mem_escape {b : Bool} {d : Char} : d ∈ escape q b s ↔ d ∈ s := by
  fun_induction escape q b s <;> simp_all

theorem head?_escape (q : Char) (b : Bool) (s : Text) : (escape q b s).head? = s.head? := by
  fun_cases escape q b s <;> rfl

theorem getLast?_escape (q : Char) (b : Bool) (s : Text) :
    (escape q b s).getLast? = s.getLast? := by
  fun_induction escape q b s <;> simp_all [List.getLast?_cons]

theorem length_le_escape (q : Char) (b : Bool) (s : Text) :
    s.length ≤ (escape q b s).length := by
  fun_induction escape q b s
  all_goals
    simp_all
    try omega

theorem isBare_escape_iff {b : Bool} : IsBare (escape q b s) ↔ IsBare s := by
  have hhead := head?_escape q b s
  have hlast := getLast?_escape q b s
  exact ⟨fun h => ⟨hhead ▸ h.head, hlast ▸ h.last⟩, fun h => ⟨hhead ▸ h.head, hlast ▸ h.last⟩⟩

/-! ## Names that survive -/

/-- A name that is still there when it is written and freed from the quotes at both ends: its
quotes go, it has none of its own at an end, and none that is doubled where it is written. -/
structure Survives (n : Name) : Prop where
  bare : IsBare n.value
  quotes : ∀ q ∈ n.quote, isQuote q = true
  plain : ∀ q ∈ n.quote, q ≠ '[' → escape q false n.value = n.value

theorem text_of_quote {n : Name} (hq : n.quote = some q) (hne : q ≠ '[') :
    n.text = q :: (escape q false n.value ++ [q]) := by
  obtain ⟨value, quote⟩ := n
  obtain rfl : quote = some q := hq
  unfold text
  split <;> simp_all

/-- A name is the same without its quotes as it is meant exactly if it survives. -/
theorem bare_eq_value_iff : n.bare = n.value ↔ n.Survives := by
  obtain ⟨value, - | q⟩ := n
  · exact ⟨fun h => ⟨h ▸ isBare_strip _, by simp, by simp⟩, fun h => h.bare.strip_eq⟩
  by_cases hq : isQuote q = true
  · by_cases hbracket : q = '['
    · subst hbracket
      have hbare : bare ⟨value, some '['⟩ = strip value := strip_enclosed rfl value rfl
      rw [hbare]
      exact ⟨fun h => ⟨h ▸ isBare_strip _, by simp [hq], by simp⟩, fun h => h.bare.strip_eq⟩
    · have hbare : bare ⟨value, some q⟩ = strip (escape q false value) := by
        rw [bare, text_of_quote rfl hbracket, strip_enclosed hq _ hq]
      rw [hbare]
      constructor
      · intro h
        have hvalue : IsBare value := (show strip _ = value from h) ▸ isBare_strip _
        refine ⟨hvalue, by simpa using hq, fun _ hquote _ => ?_⟩
        obtain rfl := Option.some.inj hquote
        exact (isBare_escape_iff.mpr hvalue).strip_eq.symm.trans h
      · intro h
        rw [h.plain q rfl hbracket]
        exact h.bare.strip_eq
  · -- such a quote stays, and the name is longer than what it means
    refine ⟨fun h => ?_, fun h => absurd (h.quotes q rfl) hq⟩
    have hbracket : q ≠ '[' := by
      rintro rfl
      exact hq rfl
    have hends : IsBare (q :: (escape q false value ++ [q])) := by
      constructor <;> simp_all [List.getLast?_cons]
    rw [bare, text_of_quote rfl hbracket, hends.strip_eq] at h
    have hlength := congrArg List.length h
    have hle := length_le_escape q false value
    simp only [List.length_cons, List.length_append, List.length_nil] at hlength
    omega

/-! ## Names with dots between -/

/-- A name that is still there behind the dots of a written name: it survives and holds no dot.
The empty name would survive between dots as well, which are no quotes. -/
def SurvivesDots (n : Name) : Prop :=
  (n.Survives ∧ '.' ∉ n.value) ∨ n = ⟨[], some '.'⟩

/-- What comes after the last dot of some names comes after the last dot of the last one. -/
theorem getLast?_splitWhere_dottedText (ns : List Name) (n : Name) :
    (splitWhere (· == '.') (dottedText (ns ++ [n]))).getLast? =
      (splitWhere (· == '.') n.text).getLast? := by
  induction ns with
  | nil => rfl
  | cons m ns ih =>
    have hjoin : dottedText (m :: ns ++ [n]) = m.text ++ '.' :: dottedText (ns ++ [n]) := by
      have hne : (ns ++ [n]).map text ≠ [] := by simp
      have hcons : join ['.'] (m.text :: (ns ++ [n]).map text) =
          m.text ++ ['.'] ++ join ['.'] ((ns ++ [n]).map text) := join_cons_of_ne_nil m.text hne
      simpa [dottedText] using hcons
    rw [hjoin, splitWhere_append_separator (by rfl),
      List.getLast?_append_of_ne_nil _ (splitWhere_ne_nil _ _), ih]

theorem dot_mem_text : '.' ∈ n.text ↔ '.' ∈ n.value ∨ n.quote = some '.' := by
  obtain ⟨value, - | q⟩ := n
  · simp [text]
  · by_cases hq : q = '['
    · simp [text, hq]
    · rw [text_of_quote rfl hq]
      simp [mem_escape, or_comm, eq_comm]

/-- The last of some names is what comes after the last dot exactly if it survives there. -/
theorem lastPart_eq_value_iff {ns : List Name} (hn : ns.getLast? = some n) :
    lastPart ns = n.value ↔ n.SurvivesDots := by
  obtain ⟨ns, rfl⟩ := List.getLast?_eq_some_iff.mp hn
  rw [lastPart, getLast?_splitWhere_dottedText]
  by_cases hdot : '.' ∈ n.text
  · by_cases hquote : n.quote = some '.'
    · -- between dots there is nothing behind the last one
      have hlast : (splitWhere (· == '.') n.text).getLast? = some [] := by
        rw [text_of_quote hquote (by decide), ← List.cons_append,
          splitWhere_append_separator rfl]
        exact List.getLast?_concat
      have hnot : ¬ n.Survives := fun h => absurd (h.quotes '.' hquote) (by decide)
      obtain ⟨value, quote⟩ := n
      obtain rfl : quote = some '.' := hquote
      rw [hlast, SurvivesDots]
      simp [hnot, strip, dropEndWhile, eq_comm]
    · have hvalue : '.' ∈ n.value := (dot_mem_text.mp hdot).resolve_right hquote
      have hpiece := List.getLast?_eq_getLast_of_ne_nil (splitWhere_ne_nil (· == '.') n.text)
      generalize (splitWhere (· == '.') n.text).getLast _ = piece at hpiece
      have hnot : '.' ∉ strip piece := by
        intro hmem
        have := not_of_mem_splitWhere (List.mem_of_getLast? hpiece) '.' (mem_of_mem_strip hmem)
        simp at this
      rw [hpiece]
      constructor
      · intro h
        exact absurd (h ▸ hvalue) hnot
      · rintro (⟨-, h⟩ | rfl)
        · exact absurd hvalue h
        · exact absurd rfl hquote
  · have hvalue : '.' ∉ n.value := fun h => hdot (dot_mem_text.mpr (.inl h))
    have hquote : n ≠ ⟨[], some '.'⟩ := by
      rintro rfl
      exact hdot (by decide)
    have hsplit : splitWhere (· == '.') n.text = [n.text] :=
      splitWhere_of_forall_not fun c hc => by simpa using ne_of_mem_of_not_mem hc hdot
    rw [hsplit, SurvivesDots, ← bare_eq_value_iff]
    simp [bare, hvalue, hquote]

end Name

/-! ## Names in keys -/

/-- A name that a key gives. -/
structure KeyName where
  name : Name
  /-- It is the name of the column that declares the key. -/
  own : Bool

/-- A foreign key with its names as they are written. -/
structure WrittenKey where
  column : KeyName
  table : List Name
  target : Option Name

/-- What a key shows is the name that is meant exactly if the key is declared with its column or
the name survives. -/
def KeyName.Shows (k : KeyName) (shown : Text) : Prop :=
  shown = k.name.value ↔ k.own = true ∨ k.name.Survives

/-- Each name in a foreign key is the one that is meant exactly if that survives. -/
structure WrittenKey.Shows (k : WrittenKey) (shown : ForeignKey) : Prop where
  column : k.column.Shows shown.column
  table : ∀ n ∈ k.table.getLast?, (shown.targetTable = n.value ↔ n.SurvivesDots)
  target : Option.Rel (fun n shown => shown = n.value ↔ n.Survives) k.target shown.targetColumn

/-- The names in the primary key that a column declares. -/
def ColumnText.keyNames (c : ColumnText) : List KeyName :=
  c.options.filterMap fun
    | .primaryKey => some ⟨c.name, true⟩
    | _ => none

/-- The foreign keys that a column declares, each to one column or to none. -/
def ColumnText.writtenKeys (c : ColumnText) : List WrittenKey :=
  c.options.filterMap fun
    | .references target =>
      if target.columns.length ≤ 1 then
        some ⟨⟨c.name, true⟩, target.table, target.columns.head?⟩
      else none
    | _ => none

/-- The names in the primary key that a constraint declares. -/
def TableConstraint.keyNames : TableConstraint → List KeyName
  | .primaryKey columns => columns.map (⟨·, false⟩)
  | _ => []

/-- The foreign keys that a constraint declares, column by column. -/
def TableConstraint.writtenKeys : TableConstraint → List WrittenKey
  | .foreignKey columns target =>
    if target.columns.isEmpty then columns.map fun c => ⟨⟨c, false⟩, target.table, none⟩
    else (columns.zip target.columns).map fun (c, r) => ⟨⟨c, false⟩, target.table, some r⟩
  | _ => []

theorem KeyName.Shows.value (n : Name) : Shows ⟨n, true⟩ n.value := by
  simp [Shows]

theorem KeyName.Shows.bare (n : Name) : Shows ⟨n, false⟩ n.bare := by
  simp [Shows, Name.bare_eq_value_iff]

theorem WrittenKey.Shows.of_column {k : KeyName} {shown : Text} (h : k.Shows shown)
    (table : List Name) (target : Option Name) :
    Shows ⟨k, table, target⟩ ⟨shown, Name.lastPart table, target.map Name.bare⟩ where
  column := h
  table _ hn := Name.lastPart_eq_value_iff hn
  target := by
    cases target with
    | none => exact .none
    | some n => exact .some Name.bare_eq_value_iff

theorem ColumnText.forall₂_primaryKeys (c : ColumnText) :
    List.Forall₂ KeyName.Shows c.keyNames c.primaryKeys := by
  refine List.rel_filterMap (R := Eq) ?_ (List.forall₂_refl c.options)
  rintro o _ rfl
  cases o with
  | primaryKey => exact .some (.value c.name)
  | _ => exact .none

theorem ColumnText.forall₂_foreignKeys (c : ColumnText) :
    List.Forall₂ WrittenKey.Shows c.writtenKeys c.foreignKeys := by
  refine List.rel_filterMap (R := Eq) ?_ (List.forall₂_refl c.options)
  rintro o _ rfl
  cases o with
  | references target =>
    by_cases h : target.columns.length ≤ 1
    · simp only [h, if_true]
      exact .some (.of_column (.value c.name) target.table target.columns.head?)
    · simp only [h, if_false]
      exact .none
  | _ => exact .none

theorem TableConstraint.forall₂_primaryKeys (c : TableConstraint) :
    List.Forall₂ KeyName.Shows c.keyNames c.primaryKeys := by
  cases c with
  | primaryKey columns =>
    refine List.forall₂_map_left_iff.mpr (List.forall₂_map_right_iff.mpr ?_)
    exact List.forall₂_same.mpr fun n _ => .bare n
  | _ => exact .nil

theorem TableConstraint.forall₂_foreignKeys (c : TableConstraint) :
    List.Forall₂ WrittenKey.Shows c.writtenKeys c.foreignKeys := by
  cases c with
  | foreignKey columns target =>
    simp only [writtenKeys, foreignKeys]
    split
    · refine List.forall₂_map_left_iff.mpr (List.forall₂_map_right_iff.mpr ?_)
      exact List.forall₂_same.mpr fun n _ => .of_column (.bare n) target.table none
    · refine List.forall₂_map_left_iff.mpr (List.forall₂_map_right_iff.mpr ?_)
      exact List.forall₂_same.mpr fun p _ => .of_column (.bare p.1) target.table (some p.2)
  | _ => exact .nil

/-! ## Definitions -/

namespace TableText

variable (t : TableText)

/-- The names in the primary key of a table, in the order of their declaration. -/
def keyNames : List KeyName :=
  t.columns.flatMap (·.keyNames) ++ t.constraints.flatMap (·.keyNames)

/-- The foreign keys of a table, in the order of their declaration. -/
def writtenKeys : List WrittenKey :=
  t.columns.flatMap (·.writtenKeys) ++ t.constraints.flatMap (·.writtenKeys)

/-- Each name in a definition is the one that the statement means exactly if that survives, and the
names of columns are in any case. Of names in the primary key that follow each other and come out
the same, one is kept. -/
structure Shows (d : TableDefinition) : Prop where
  name : ∀ n ∈ t.name.getLast?, (d.name = n.value ↔ n.SurvivesDots)
  columns : d.columns.map (·.name) = t.columns.map (·.name.value)
  primaryKeys : ∃ shown, List.Forall₂ KeyName.Shows t.keyNames shown ∧
    d.primaryKeys = dropRepeats shown
  foreignKeys : List.Forall₂ WrittenKey.Shows t.writtenKeys d.foreignKeys

theorem shows_definition : t.Shows t.definition where
  name _ hn := Name.lastPart_eq_value_iff hn
  columns := by
    simp only [definition, List.map_map]
    refine List.map_congr_left fun c _ => ?_
    rfl
  primaryKeys := by
    refine ⟨_, List.rel_append ?_ ?_, rfl⟩
    · exact List.rel_flatMap (R := Eq) (List.forall₂_refl _) fun c _ h => h ▸ c.forall₂_primaryKeys
    · exact List.rel_flatMap (R := Eq) (List.forall₂_refl _) fun c _ h => h ▸ c.forall₂_primaryKeys
  foreignKeys := by
    refine List.rel_append ?_ ?_
    · exact List.rel_flatMap (R := Eq) (List.forall₂_refl _) fun c _ h => h ▸ c.forall₂_foreignKeys
    · exact List.rel_flatMap (R := Eq) (List.forall₂_refl _) fun c _ h => h ▸ c.forall₂_foreignKeys

end TableText

/-! ## Reading -/

/-- There is an error to report unless reading panics. -/
theorem Unread.error?_eq_none_iff {e : Unread} {wording : Wording} {s : Text} :
    e.error? wording s = none ↔ e = .abandoned := by
  cases e <;> simp [error?]

theorem readTable_eq_ok {s : Text} {d : TableDefinition} (h : readTable s = .ok d) :
    ∃ tokens before t after, tokenize .sqlite s = .ok tokens ∧
      statements .sqlite tokens = .ok (before ++ .createTable t :: after) ∧
      (∀ u, .createTable u ∉ before) ∧ d = t.definition := by
  unfold readTable at h
  split at h
  · cases h
  next tokens htokens =>
    split at h
    · cases h
    next statements hstatements =>
      split at h
      · next t ht =>
        obtain ⟨before, a, after, rfl, ha, hbefore⟩ := List.findSome?_eq_some_iff.mp ht
        have hcreate : a = .createTable t := by
          split at ha
          · rw [Option.some.inj ha]
          · cases ha
        refine ⟨tokens, before, t, after, htokens, hcreate ▸ hstatements, fun u hu => ?_,
          (Except.ok.inj h).symm⟩
        simpa using hbefore _ hu
      · cases h

/-- Each name in the definition that is read off a text is the one that the first `CREATE TABLE`
statement of the text means exactly if it survives there. -/
theorem readTable_names {s : Text} {d : TableDefinition} (h : readTable s = .ok d) :
    ∃ tokens before t after, tokenize .sqlite s = .ok tokens ∧
      statements .sqlite tokens = .ok (before ++ .createTable t :: after) ∧
      (∀ u, .createTable u ∉ before) ∧ t.Shows d := by
  obtain ⟨tokens, before, t, after, htokens, hstatements, hbefore, rfl⟩ := readTable_eq_ok h
  exact ⟨tokens, before, t, after, htokens, hstatements, hbefore, t.shows_definition⟩

/-- A dot, doubled quotes and brackets are taken for marks of the statement where keys and tables
are named, and are kept where the columns are. -/
theorem readTable_names_of_marks :
    let s := ("CREATE TABLE \"a.b\" (\"x\"\"y\" INT, \"[z]\" INT, PRIMARY KEY (\"x\"\"y\"), " ++
      "FOREIGN KEY (\"[z]\") REFERENCES \"c.d\"(\"e]\"))").toList
    let quoted (name : String) : Name := ⟨name.toList, some '"'⟩
    let column (name : String) : ColumnText := ⟨quoted name, "INT".toList, []⟩
    let t : TableText :=
      ⟨[quoted "a.b"], [column "x\"y", column "[z]"],
        [.primaryKey [quoted "x\"y"], .foreignKey [quoted "[z]"] ⟨[quoted "c.d"], [quoted "e]"]⟩]⟩
    let d : TableDefinition :=
      ⟨"b".toList, [.ofDeclared "x\"y".toList "INT".toList true,
        .ofDeclared "[z]".toList "INT".toList true], ["x\"\"y".toList],
        [⟨"z".toList, "d".toList, some "e".toList⟩]⟩
    readTable s = .ok d ∧ t.Shows d := by
  intro s quoted column t d
  have hoption : (readTable s).toOption = some d := by decide +kernel
  have hread : readTable s = .ok d := by
    cases h : readTable s with
    | error e => simp [h, Except.toOption] at hoption
    | ok d' => rw [h] at hoption; exact congrArg Except.ok (Option.some.inj hoption)
  obtain ⟨tokens, before, t', after, htokens, hstatements, -, hshows⟩ := readTable_names hread
  have hparsed : (tokenize .sqlite s).toOption.bind (fun tokens =>
      (statements .sqlite tokens).toOption) = some [.createTable t] := by decide +kernel
  rw [htokens] at hparsed
  have hall : before ++ .createTable t' :: after = [.createTable t] := by
    simpa [Except.toOption, hstatements] using hparsed
  have ht : t' = t := by
    cases before with
    | nil => exact Statement.createTable.inj (List.cons.inj hall).1
    | cons u before => simp at hall
  exact ⟨hread, ht ▸ hshows⟩

end AskSql.Sql
