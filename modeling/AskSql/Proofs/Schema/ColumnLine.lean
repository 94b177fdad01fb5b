import AskSql.Proofs.Text.Scanning
import AskSql.Schema.Annotated
import AskSql.Schema.Outline

/-!
# Column lines

The line of a column reads back as the outline of the column : its name, its mark and the
first target of its foreign keys (`Outline.column?_annotated`). Names may hold whatever the
line is taken apart at, since they are written between quotes then. What a type is made of is
not protected, so it may hold neither quotes nor brackets.
-/

namespace AskSql

open Text

/-! ## Outlines -/

/-- What can be read back of a column. -/
def Column.outline (c : Column) : Outline.Column :=
  ⟨c.name, c.primaryKey, c.targets.head?⟩

/-- A column whose line can be read back : no part of it breaks the line, the type does not
look like quotes or annotations and closes its own parentheses only, and the first target has
two parts. -/
structure Column.Legible (c : Column) : Prop where
  name : '\n' ∉ c.name
  typeName : ∀ d ∈ ['\n', '"', '[', ']'], d ∉ c.typeName
  balanced : Balanced c.typeName
  targets : ∀ t ∈ c.targets, '\n' ∉ t.table ∧ '\n' ∉ t.column
  first : ∀ t ∈ c.targets.head?, t.table ≠ [] ∧ t.column ≠ []

/-! ## Targets -/

namespace ForeignKeyTarget

variable (t : ForeignKeyTarget) {c : Char}

theorem annotated_eq : t.annotated = quoteIdentifier t.table ++ '.' :: quoteIdentifier t.column :=
  rfl

theorem solid_annotated : Solid t.annotated := by
  have := (solid_quoteIdentifier t.table).append (solid_quoteIdentifier t.column) ['.']
  simpa [annotated_eq] using this

theorem insideAfter_annotated : insideAfter false t.annotated = false := by
  simp [annotated_eq, insideAfter_cons]

theorem of_mem_unquoted_annotated (h : c ∈ unquotedFrom false t.annotated) :
    c = '.' ∨ isIdentifierPart c = true := by
  simp only [annotated_eq, unquotedFrom_append, insideAfter_quoteIdentifier, unquotedFrom,
    List.mem_append, show ('.' = '"') = False by decide, if_false, Bool.false_eq_true,
    List.mem_cons] at h
  rcases h with h | rfl | h
  · exact Or.inr (isIdentifierPart_of_mem_unquoted_quoteIdentifier h)
  · exact Or.inl rfl
  · exact Or.inr (isIdentifierPart_of_mem_unquoted_quoteIdentifier h)

/-- A target with two parts reads back. -/
theorem target?_annotated (ht : t.table ≠ []) (hc : t.column ≠ []) :
    Outline.target? t.annotated = some t := by
  have hbreak : breakUnquoted? (· == '.') t.annotated =
      some (quoteIdentifier t.table, quoteIdentifier t.column) := by
    rw [annotated_eq]
    refine breakUnquoted?_append_cons _ (fun c hc => ?_) (by simp) (by simp) (by decide)
    simpa using ne_of_isIdentifierPart
      (isIdentifierPart_of_mem_unquoted_quoteIdentifier hc) (d := '.') (by decide)
  rw [Outline.target?, t.solid_annotated.trim_eq, hbreak]
  simp [unquote_quoteIdentifier, ht, hc]

end ForeignKeyTarget

/-! ## Annotations -/

/-- A text that is cut at commas only where it is told apart from other annotations. -/
structure Outline.IsMark (m : Text) : Prop where
  solid : Solid m
  closed : insideAfter false m = false
  comma : ',' ∉ unquotedFrom false m

namespace Outline

theorem map_trim_splitUnquoted_space_join {marks : List Text} (hne : marks ≠ [])
    (h : ∀ m ∈ marks, IsMark m) :
    (splitUnquoted ',' (' ' :: join ", ".toList marks)).map trim = marks := by
  induction marks with
  | nil => exact absurd rfl hne
  | cons m marks ih =>
    simp only [List.forall_mem_cons] at h
    have hm : ',' ∉ unquotedFrom false (' ' :: m) := by
      simpa [unquotedFrom] using h.1.comma
    by_cases hmarks : marks = []
    · subst hmarks
      rw [show join ", ".toList [m] = m from rfl, splitUnquoted_of_not_mem hm]
      simp [h.1.solid.trim_cons_space]
    · have hsplit : ' ' :: join ", ".toList (m :: marks) =
          (' ' :: m) ++ ',' :: (' ' :: join ", ".toList marks) := by
        rw [join_cons_of_ne_nil m hmarks]
        simp
      rw [hsplit, splitUnquoted_append_cons _ hm (by simpa [insideAfter_cons] using h.1.closed)
        (by decide), List.map_cons, ih hmarks h.2, h.1.solid.trim_cons_space]

/-- Annotations with commas between them are told apart again. -/
theorem map_trim_splitUnquoted_join {marks : List Text} (hne : marks ≠ [])
    (h : ∀ m ∈ marks, IsMark m) :
    (splitUnquoted ',' (join ", ".toList marks)).map trim = marks := by
  obtain ⟨m, marks, rfl⟩ := List.exists_cons_of_ne_nil hne
  simp only [List.forall_mem_cons] at h
  by_cases hmarks : marks = []
  · subst hmarks
    rw [show join ", ".toList [m] = m from rfl, splitUnquoted_of_not_mem h.1.comma]
    simp [h.1.solid.trim_eq]
  · have hsplit : join ", ".toList (m :: marks) = m ++ ',' :: (' ' :: join ", ".toList marks) := by
      rw [join_cons_of_ne_nil m hmarks]
      simp
    rw [hsplit, splitUnquoted_append_cons _ h.1.comma h.1.closed (by decide), List.map_cons,
      map_trim_splitUnquoted_space_join hmarks h.2, h.1.solid.trim_eq]

end Outline

namespace Column

/-- The annotation that lists the targets of foreign keys. -/
def keyMark (targets : List ForeignKeyTarget) : Text :=
  "FK->".toList ++ join ['|'] (targets.map (·.annotated))

theorem annotations_eq (c : Column) :
    c.annotations = (if c.primaryKey then ["PK".toList] else []) ++
      if c.targets.isEmpty then [] else [keyMark c.targets] :=
  rfl

theorem insideAfter_keyMark (targets : List ForeignKeyTarget) :
    insideAfter false (keyMark targets) = false := by
  have hword : insideAfter false "FK->".toList = false := by decide
  rw [keyMark, insideAfter_append, hword]
  refine insideAfter_join (by decide) ?_
  simp only [List.forall_mem_map]
  exact fun t _ => t.insideAfter_annotated

/-- What is seen of an annotation of foreign keys. -/
theorem of_mem_unquoted_keyMark {targets : List ForeignKeyTarget} {d : Char}
    (hd : d ∈ unquotedFrom false (keyMark targets)) :
    d ∈ ['-', '>', '|', '.'] ∨ isIdentifierPart d = true := by
  have hword : unquotedFrom false "FK->".toList = ['F', 'K', '-', '>'] := by decide
  have hclosed : ∀ x ∈ targets.map (·.annotated), insideAfter false x = false := by
    simp only [List.forall_mem_map]
    exact fun t _ => t.insideAfter_annotated
  rw [keyMark, unquotedFrom_append, show insideAfter false "FK->".toList = false by decide] at hd
  rcases List.mem_append.mp hd with hd | hd
  · simp only [hword, List.mem_cons, List.not_mem_nil, or_false] at hd
    rcases hd with rfl | rfl | rfl | rfl <;> decide
  · rcases mem_unquoted_join (by decide) hclosed hd with hd | ⟨x, hx, hd⟩
    · simp [unquotedFrom] at hd
      simp [hd]
    · obtain ⟨t, -, rfl⟩ := List.mem_map.mp hx
      exact (t.of_mem_unquoted_annotated hd).imp_left fun h => by simp [h]

theorem isMark_keyMark {targets : List ForeignKeyTarget} (hne : targets ≠ []) :
    Outline.IsMark (keyMark targets) where
  solid := by
    have hjoin : Solid (join ['|'] (targets.map (·.annotated))) := by
      refine solid_join (by simpa using hne) ?_
      simp only [List.forall_mem_map]
      exact fun t _ => t.solid_annotated
    have hsolid : Solid "FK->".toList :=
      ⟨⟨'F', "K->".toList, rfl, by decide⟩, ⟨"FK-".toList, '>', rfl, by decide⟩⟩
    simpa [keyMark] using hsolid.append hjoin []
  closed := insideAfter_keyMark targets
  comma h := by rcases of_mem_unquoted_keyMark h with h | h <;> exact absurd h (by decide)

/-- An annotation marks the primary key or lists the targets of foreign keys. -/
theorem of_mem_annotations {c : Column} {m : Text} (hm : m ∈ c.annotations) :
    m = "PK".toList ∨ (m = keyMark c.targets ∧ c.targets ≠ []) := by
  rw [annotations_eq] at hm
  rcases List.mem_append.mp hm with hm | hm
  · split at hm
    · exact Or.inl (List.mem_singleton.mp hm)
    · simp at hm
  · split at hm
    · simp at hm
    · next h => exact Or.inr ⟨List.mem_singleton.mp hm, by simpa using h⟩

theorem isMark_annotations (c : Column) : ∀ m ∈ c.annotations, Outline.IsMark m := by
  intro m hm
  rcases of_mem_annotations hm with rfl | ⟨rfl, hne⟩
  · exact ⟨⟨⟨'P', "K".toList, rfl, by decide⟩, ⟨"P".toList, 'K', rfl, by decide⟩⟩,
      by decide, by decide⟩
  · exact isMark_keyMark hne

end Column

/-! ## Annotations read back -/

namespace Outline

/-- The targets after `FK->`, of which the first one counts. -/
theorem head?_splitUnquoted_bar (t : ForeignKeyTarget) (ts : List ForeignKeyTarget) :
    (splitUnquoted '|' (join ['|'] ((t :: ts).map (·.annotated)))).head? = some t.annotated := by
  have hbar : '|' ∉ unquotedFrom false t.annotated := by
    intro h
    rcases t.of_mem_unquoted_annotated h with h | h <;> exact absurd h (by decide)
  by_cases hts : ts = []
  · subst hts
    rw [show join ['|'] ([t].map (·.annotated)) = t.annotated from rfl,
      splitUnquoted_of_not_mem hbar]
    rfl
  · have hsplit : join ['|'] ((t :: ts).map (·.annotated)) =
        t.annotated ++ '|' :: join ['|'] (ts.map (·.annotated)) := by
      rw [List.map_cons, join_cons_of_ne_nil _ (by simpa using hts)]
      simp
    rw [hsplit, splitUnquoted_append_cons _ hbar t.insideAfter_annotated (by decide)]
    rfl

theorem annotate_keyMark (c : Outline.Column) {t : ForeignKeyTarget}
    (ts : List ForeignKeyTarget) (ht : t.table ≠ []) (hc : t.column ≠ []) :
    c.annotate (Column.keyMark (t :: ts)) = { c with foreignKey := some t } := by
  have hne : Column.keyMark (t :: ts) ≠ "PK".toList := by
    intro h
    have hhead := congrArg List.head? h
    simp [Column.keyMark] at hhead
  have hdrop : dropPrefix? "FK->".toList (Column.keyMark (t :: ts)) =
      some (join ['|'] ((t :: ts).map (·.annotated))) := by
    simp [dropPrefix?, Column.keyMark]
  rw [Column.annotate, if_neg hne, hdrop]
  simp only [head?_splitUnquoted_bar, Option.bind_some, t.target?_annotated ht hc]

theorem annotate_pk (c : Outline.Column) :
    c.annotate "PK".toList = { c with primaryKey := true } := by
  rw [Column.annotate, if_pos rfl]

/-- The annotations of a column say what its outline says. -/
theorem foldl_annotate_annotations {c : AskSql.Column} (h : c.Legible) :
    c.annotations.foldl Column.annotate ⟨c.name, false, none⟩ = c.outline := by
  obtain ⟨name, typeName, size, nullable, primaryKey, targets⟩ := c
  cases targets with
  | nil => cases primaryKey <;> rfl
  | cons t ts =>
    obtain ⟨ht, hc⟩ := h.first t rfl
    cases primaryKey with
    | false =>
      show [AskSql.Column.keyMark (t :: ts)].foldl Column.annotate _ = _
      rw [List.foldl_cons, annotate_keyMark _ ts ht hc]
      rfl
    | true =>
      show ["PK".toList, AskSql.Column.keyMark (t :: ts)].foldl Column.annotate _ = _
      rw [List.foldl_cons, annotate_pk, List.foldl_cons, annotate_keyMark _ ts ht hc]
      rfl

end Outline

/-! ## The line -/

namespace Column

/-- The name and the type on the line of a column. -/
def declaration (c : Column) : Text :=
  quoteIdentifier c.name ++ if c.typeName.isEmpty then [] else ' ' :: c.typeName

theorem annotated_of_nil {c : Column} (h : c.annotations = []) : c.annotated = c.declaration := by
  simp [annotated, declaration, h]

theorem annotated_of_ne_nil {c : Column} (h : c.annotations ≠ []) :
    c.annotated =
      (c.declaration ++ [' ']) ++ '[' :: (join ", ".toList c.annotations ++ [']']) := by
  simp [annotated, declaration, h]

variable {c : Column} (h : c.Legible)
include h

theorem Legible.insideAfter_declaration : insideAfter false c.declaration = false := by
  have hquote : '"' ∉ c.typeName := h.typeName '"' (by simp)
  rw [declaration, insideAfter_append, insideAfter_quoteIdentifier]
  split
  · rfl
  · rw [insideAfter_of_not_mem (by simpa using hquote)]

/-- What is seen of a declaration is seen of the name, of the blank or of the type. -/
theorem Legible.of_mem_unquoted_declaration {d : Char}
    (hd : d ∈ unquotedFrom false c.declaration) :
    isIdentifierPart d = true ∨ d = ' ' ∨ d ∈ c.typeName := by
  have hquote : '"' ∉ c.typeName := h.typeName '"' (by simp)
  rw [declaration, unquotedFrom_append, insideAfter_quoteIdentifier] at hd
  rcases List.mem_append.mp hd with hd | hd
  · exact Or.inl (isIdentifierPart_of_mem_unquoted_quoteIdentifier hd)
  · split at hd
    · simp [unquotedFrom] at hd
    · rw [unquotedFrom_false_of_not_mem (by simpa using hquote)] at hd
      exact Or.inr (List.mem_cons.mp hd)

theorem Legible.bracket_not_mem : '[' ∉ unquotedFrom false c.declaration := by
  intro hd
  rcases h.of_mem_unquoted_declaration hd with hd | hd | hd
  · exact absurd hd (by decide)
  · exact absurd hd (by decide)
  · exact h.typeName '[' (by simp) hd

end Column

namespace Outline

/-! ## Written names -/

/-- A name and how it is written on a column line : bare, if no blank, quote or opening bracket is
in it, or between quotes. -/
inductive Writes : Text → Text → Prop
  | bare {s : Text} (hne : s ≠ []) (h : ∀ c ∈ s, isBlank c = false ∧ c ≠ '"' ∧ c ≠ '[') :
    Writes s s
  | quoted (s : Text) : Writes ('"' :: (doubleQuotes s ++ ['"'])) s

namespace Writes

variable {written name : Text} (h : Writes written name)
include h

theorem insideAfter_eq : insideAfter false written = false := by
  cases h with
  | bare _ h => exact insideAfter_of_not_mem fun hmem => (h _ hmem).2.1 rfl
  | quoted => simp [insideAfter_cons, insideAfter_doubleQuotes]

/-- Of a written name, a scanner sees no blank and no opening bracket. -/
theorem of_mem_unquoted {c : Char} (hc : c ∈ unquotedFrom false written) :
    isBlank c = false ∧ c ≠ '[' := by
  cases h with
  | bare _ h =>
    rw [unquotedFrom_false_of_not_mem fun hmem => (h _ hmem).2.1 rfl] at hc
    exact ⟨(h c hc).1, (h c hc).2.2⟩
  | quoted =>
    simp [unquotedFrom, unquotedFrom_true_doubleQuotes] at hc

theorem solid : Solid written := by
  cases h with
  | bare hne h =>
    obtain ⟨c, s, hs⟩ := List.exists_cons_of_ne_nil hne
    obtain ⟨t, d, ht⟩ := (List.eq_nil_or_concat written).resolve_left hne
    rw [List.concat_eq_append] at ht
    exact ⟨⟨c, s, hs, (h c (by simp [hs])).1⟩, ⟨t, d, ht, (h d (by simp [ht])).1⟩⟩
  | quoted =>
    exact ⟨⟨'"', _, rfl, by decide⟩, ⟨'"' :: doubleQuotes name, '"', rfl, by decide⟩⟩

theorem unquote_eq : unquote written = name := by
  rw [unquote, h.solid.trim_eq]
  cases h with
  | bare hne h =>
    obtain ⟨c, s, hs⟩ := List.exists_cons_of_ne_nil hne
    have hc : c ≠ '"' := (h c (by simp [hs])).2.1
    simp [hs, hc]
  | quoted => simp [collapseQuotes_doubleQuotes]

/-- What stands behind a name up to the first bracket of the line leaves the scanner outside. -/
theorem definition (rest : Text) (hquote : '"' ∉ rest) (hbracket : '[' ∉ rest) :
    '[' ∉ unquotedFrom false (written ++ rest) ∧ insideAfter false (written ++ rest) = false := by
  rw [unquotedFrom_append, insideAfter_append, h.insideAfter_eq,
    unquotedFrom_false_of_not_mem hquote, insideAfter_of_not_mem hquote, List.mem_append, not_or]
  exact ⟨⟨fun hmem => (h.of_mem_unquoted hmem).2 rfl, hbracket⟩, rfl⟩

/-- The name of a column ends at the first blank behind it. -/
theorem spanUnquoted_eq {rest : Text} (hrest : ∀ c ∈ rest.head?, isBlank c = true) :
    (spanUnquoted isBlank false (written ++ rest)).1 = written := by
  have hblank : ∀ c ∈ unquotedFrom false written, isBlank c = false :=
    fun c hc => (h.of_mem_unquoted hc).1
  cases rest with
  | nil => rw [List.append_nil, spanUnquoted_of_forall_not hblank]
  | cons c rest =>
    have hc : isBlank c = true := hrest c rfl
    have hquote : c ≠ '"' := by
      rintro rfl
      exact absurd hc (by decide)
    rw [spanUnquoted_append_cons rest hblank h.insideAfter_eq hc hquote]

end Writes

theorem writes_quoteIdentifier (name : Text) : Writes (quoteIdentifier name) name := by
  by_cases h : isPlainIdentifier name = true
  · rw [quoteIdentifier_of_plain h]
    refine Writes.bare (ne_nil_of_isPlainIdentifier h) fun c hc => ?_
    have hpart := forall_isIdentifierPart h c hc
    exact ⟨isBlank_of_isIdentifierPart hpart, ne_of_isIdentifierPart hpart (by decide),
      ne_of_isIdentifierPart hpart (by decide)⟩
  · rw [quoteIdentifier_of_not_plain (by simpa using h)]
    exact Writes.quoted name

/-! ## Lines taken apart -/

/-- A line without the blanks and the commas at its end. -/
def stripEnd (s : Text) : Text :=
  trimEnd (dropEndWhile (· == ',') (trimEnd s))

theorem stripEnd_append_cons (s : Text) {c : Char} (hb : isBlank c = false) (hc : c ≠ ',')
    (t : Text) : stripEnd (s ++ c :: t) = s ++ c :: stripEnd t := by
  simp only [stripEnd, trimEnd]
  rw [dropEndWhile_append_cons s hb, dropEndWhile_append_cons s (by simpa using hc),
    dropEndWhile_append_cons s hb]

theorem stripEnd_isPrefix (s : Text) : stripEnd s <+: s :=
  (dropEndWhile_isPrefix _ _).trans ((dropEndWhile_isPrefix _ _).trans (dropEndWhile_isPrefix _ _))

/-- The comma behind a column goes. -/
theorem stripEnd_separator {tail : Text} (h : tail = [] ∨ tail = [',']) : stripEnd tail = [] := by
  rcases h with rfl | rfl <;> decide

/-- The blanks before a name go. -/
theorem Writes.stripColumnLine_append {written name indent : Text} (h : Writes written name)
    (hindent : isBlankText indent = true) (s : Text) :
    stripColumnLine (indent ++ (written ++ s)) = stripEnd (written ++ s) := by
  obtain ⟨c, t, ht, hc⟩ := h.solid.head
  have hstart : trimStart (indent ++ (written ++ s)) = written ++ s := by
    rw [trimStart, List.dropWhile_append_of_pos (List.all_eq_true.mp hindent), ← trimStart, ht,
      List.cons_append, trimStart_cons hc]
  have hstrip (line : Text) : stripColumnLine line = stripEnd (trimStart line) := rfl
  rw [hstrip, hstart]

/-- What a written name is followed by goes off its end, the name stays. -/
theorem stripColumnLine_indented (name s : Text) :
    stripColumnLine (' ' :: ' ' :: (quoteIdentifier name ++ s)) =
      quoteIdentifier name ++ stripEnd s := by
  obtain ⟨u, d, hu, hd⟩ := exists_quoteIdentifier_eq_concat name
  have hcomma : d ≠ ',' := by
    rcases hd with rfl | hd
    · decide
    · exact ne_of_isIdentifierPart hd (by decide)
  have hstrip := (writes_quoteIdentifier name).stripColumnLine_append
    (show isBlankText [' ', ' '] = true by decide) s
  have hend := stripEnd_append_cons u (isBlank_of_quote_or_isIdentifierPart hd) hcomma s
  rw [hu] at hstrip ⊢
  simpa [hend] using hstrip

/-- The column on a line whose definition starts with a written name. -/
theorem column?_of_splitAnnotations {line written name rest annotations : Text}
    (hname : Writes written name)
    (h : splitAnnotations (stripColumnLine line) = (written ++ rest, annotations))
    (hrest : ∀ c ∈ rest.head?, isBlank c = true) :
    column? line =
      some (((splitUnquoted ',' annotations).map trim).foldl Column.annotate
        ⟨name, false, none⟩) := by
  obtain ⟨c, t, ht, hc⟩ := hname.solid.head
  have hstart : trimStart (written ++ rest) = c :: (t ++ rest) := by
    rw [ht, List.cons_append, trimStart_cons hc]
  have hspan := hname.spanUnquoted_eq hrest
  rw [ht, List.cons_append] at hspan
  rw [column?, h]
  simp only [hstart, hspan, ← ht, hname.unquote_eq]

/-- A line on which no bracket opens has no annotations. -/
theorem splitAnnotations_of_not_mem {line : Text} (h : '[' ∉ unquotedFrom false line) :
    splitAnnotations line = (line, []) := by
  have hbreak : breakUnquoted? (· == '[') line = none :=
    breakUnquoted?_eq_none fun c hc => by simpa using ne_of_mem_of_not_mem hc h
  rw [splitAnnotations, hbreak]

/-- The annotations of a line lie between its first opening bracket and its last closing one. -/
theorem splitAnnotations_append {definition annotations t : Text}
    (hd : '[' ∉ unquotedFrom false definition) (hin : insideAfter false definition = false)
    (ha : insideAfter false annotations = false) (ht : ']' ∉ unquotedFrom false t) :
    splitAnnotations (definition ++ '[' :: (annotations ++ ']' :: t)) =
      (definition, annotations) := by
  have hbreak : breakUnquoted? (· == '[') (definition ++ '[' :: (annotations ++ ']' :: t)) =
      some (definition, annotations ++ ']' :: t) :=
    breakUnquoted?_append_cons _ (fun c hc => by simpa using ne_of_mem_of_not_mem hc hd) hin
      (by simp) (by decide)
  rw [splitAnnotations, hbreak]
  simp only [beforeLastUnquoted?_append_cons ha (show ']' ≠ '"' by decide) ht]

variable {c : AskSql.Column} (h : c.Legible)
include h

theorem column?_of_annotations_nil (hnil : c.annotations = []) {tail : Text}
    (htail : tail = [] ∨ tail = [',']) :
    column? (' ' :: ' ' :: (c.annotated ++ tail)) = some c.outline := by
  obtain ⟨rest, hline, hrest, hmem⟩ : ∃ rest,
      stripColumnLine (' ' :: ' ' :: (c.annotated ++ tail)) = quoteIdentifier c.name ++ rest ∧
        (rest = [] ∨ ∃ s, rest = ' ' :: s) ∧ rest ⊆ ' ' :: (c.typeName ++ tail) := by
    rw [AskSql.Column.annotated_of_nil hnil, AskSql.Column.declaration, List.append_assoc,
      stripColumnLine_indented]
    split
    · exact ⟨_, rfl, Or.inl (stripEnd_separator htail), by simp [stripEnd_separator htail]⟩
    · have hprefix := stripEnd_isPrefix (' ' :: (c.typeName ++ tail))
      refine ⟨_, rfl, ?_, hprefix.subset⟩
      rcases List.prefix_cons_iff.mp hprefix with hs | ⟨s, hs, -⟩
      · exact Or.inl hs
      · exact Or.inr ⟨s, hs⟩
  have hnot : ∀ d, d ≠ ' ' → d ≠ ',' → d ∉ c.typeName → d ∉ rest := by
    intro d hspace hcomma htype hd
    have := hmem hd
    rcases htail with rfl | rfl <;> simp_all
  have hunquoted : '[' ∉ unquotedFrom false (quoteIdentifier c.name ++ rest) := by
    have hquote : '"' ∉ rest :=
      hnot _ (by decide) (by decide) (h.typeName _ (by simp))
    rw [unquotedFrom_append, insideAfter_quoteIdentifier, unquotedFrom_false_of_not_mem hquote]
    intro hd
    rcases List.mem_append.mp hd with hd | hd
    · exact not_mem_unquoted_quoteIdentifier c.name (by decide) hd
    · exact hnot _ (by decide) (by decide) (h.typeName _ (by simp)) hd
  have hsplit : splitAnnotations (stripColumnLine (' ' :: ' ' :: (c.annotated ++ tail))) =
      (quoteIdentifier c.name ++ rest, []) := by
    rw [hline, splitAnnotations_of_not_mem hunquoted]
  have hhead : ∀ d ∈ rest.head?, isBlank d = true := by
    rcases hrest with rfl | ⟨s, rfl⟩ <;> simp [isBlank]
  rw [column?_of_splitAnnotations (writes_quoteIdentifier c.name) hsplit hhead,
    ← foldl_annotate_annotations h, hnil]
  rfl

theorem column?_of_annotations_ne_nil (hne : c.annotations ≠ []) {tail : Text}
    (htail : tail = [] ∨ tail = [',']) :
    column? (' ' :: ' ' :: (c.annotated ++ tail)) = some c.outline := by
  have hmarks := AskSql.Column.isMark_annotations c
  obtain ⟨type, htype, hdeclaration⟩ : ∃ type, (type = [] ∨ ∃ s, type = ' ' :: s) ∧
      c.declaration = quoteIdentifier c.name ++ type := by
    refine ⟨_, ?_, rfl⟩
    split
    · exact Or.inl rfl
    · exact Or.inr ⟨_, rfl⟩
  have hannotated := AskSql.Column.annotated_of_ne_nil hne
  have hline : stripColumnLine (' ' :: ' ' :: (c.annotated ++ tail)) = c.annotated := by
    have hend := stripEnd_append_cons (type ++ ' ' :: '[' :: join ", ".toList c.annotations)
      (show isBlank ']' = false by decide) (by decide) tail
    rw [stripEnd_separator htail] at hend
    have hstrip := stripColumnLine_indented c.name
      (type ++ ' ' :: '[' :: join ", ".toList c.annotations ++ ']' :: tail)
    rw [hend] at hstrip
    simpa [hannotated, hdeclaration] using hstrip
  have hsplit : splitAnnotations c.annotated =
      (quoteIdentifier c.name ++ (type ++ [' ']), join ", ".toList c.annotations) := by
    rw [← List.append_assoc, ← hdeclaration, hannotated]
    refine splitAnnotations_append ?_ ?_ ?_ (t := []) List.not_mem_nil
    · simpa [h.insideAfter_declaration, unquotedFrom] using h.bracket_not_mem
    · simp [h.insideAfter_declaration, insideAfter_cons]
    · exact insideAfter_join (by decide) fun m hm => (hmarks m hm).closed
  have hhead : ∀ d ∈ (type ++ [' ']).head?, isBlank d = true := by
    rcases htype with rfl | ⟨s, rfl⟩ <;> simp [isBlank]
  rw [column?_of_splitAnnotations (writes_quoteIdentifier c.name) (by rw [hline, hsplit]) hhead,
    map_trim_splitUnquoted_join hne hmarks, foldl_annotate_annotations h]

/-- The line of a column reads back, with or without a comma behind it. -/
theorem column?_annotated {tail : Text} (htail : tail = [] ∨ tail = [',']) :
    column? (' ' :: ' ' :: (c.annotated ++ tail)) = some c.outline := by
  by_cases hnil : c.annotations = []
  · exact column?_of_annotations_nil h hnil htail
  · exact column?_of_annotations_ne_nil h hnil htail

end Outline
end AskSql
