import AskSql.Composer
import AskSql.Proofs.Schema.RoundTrip
import Mathlib.Logic.ExistsUnique

/-!
# What the composer answers

The composer works on schema text, but what it answers is a matter of the schema that the text
was written from. `Schema.Answers` says so on tables and columns alone : which tables a request
mentions, which column of one table is the first that leads to another, and which statement
goes with that. Exactly one statement does, and it is the one that the composer writes
(`Schema.compose_annotated`).

Reading the text back gives the outlines of the tables (`Schema.tables_annotated`). A table is
then looked up by its name, which is why the names have to be distinct.
-/

namespace AskSql

open Text Composer

/-! ## The specification -/

/-- `c` is the first column of `a` whose first target names `b`, and that target is `key`. -/
def Table.LeadsBy (a b : Table) (c : Column) (key : ForeignKeyTarget) : Prop :=
  ∃ before after, a.columns = before ++ c :: after ∧
    c.targets.head? = some key ∧ equalsIgnoringCase key.table b.name = true ∧
    ∀ d ∈ before, ∀ k ∈ d.targets.head?, equalsIgnoringCase k.table b.name = false

/-- No column of `a` has a first target that names `b`. -/
def Table.LeadsNowhereIn (a b : Table) : Prop :=
  ∀ c key, ¬ a.LeadsBy b c key

/-- The request asks for a number of rows. -/
def asksForNumber (request : Text) : Bool :=
  Intent.countPhrases.any fun phrase => occursIn phrase (lower request)

/-- What is selected from the join of two tables. -/
def joinedProjection (request : Text) (a b : Table) : Projection :=
  if asksForNumber request then .count (some countAlias) else .allOf [a.name, b.name]

/-- The condition that the column `c` of `a` refers to `key` in `b`. -/
def Table.keyCondition (a b : Table) (c : Column) (key : ForeignKeyTarget) : Equality :=
  ⟨⟨some a.name, c.name⟩, ⟨some b.name, key.column⟩⟩

namespace Schema

variable (s : Schema) (request : Text)

/-- The tables whose names occur in a request, whatever the case. -/
def mentioned : List Table :=
  s.tables.filter fun t => occursIn (lower t.name) (lower request)

/-- The statements that answer a request about a schema. -/
inductive Answers : Select → Prop
  /-- No table is mentioned. -/
  | placeholder (h : s.mentioned request = []) :
    Answers (singleTable placeholderTable (asksForNumber request) none)
  /-- The first mentioned table leads to the second one. -/
  | forward {a b : Table} {rest : List Table} {c : Column} {key : ForeignKeyTarget}
    (h : s.mentioned request = a :: b :: rest) (hkey : a.LeadsBy b c key) :
    Answers ⟨joinedProjection request a b, a.name, some ⟨b.name, a.keyCondition b c key⟩⟩
  /-- The second mentioned table leads to the first one, which does not lead to it. -/
  | backward {a b : Table} {rest : List Table} {c : Column} {key : ForeignKeyTarget}
    (h : s.mentioned request = a :: b :: rest) (hnone : a.LeadsNowhereIn b)
    (hkey : b.LeadsBy a c key) :
    Answers ⟨joinedProjection request a b, a.name, some ⟨b.name, b.keyCondition a c key⟩⟩
  /-- One table is mentioned, or neither of the first two leads to the other. -/
  | single {a : Table} {rest : List Table} (h : s.mentioned request = a :: rest)
    (hnone : ∀ b ∈ rest.head?, a.LeadsNowhereIn b ∧ b.LeadsNowhereIn a) :
    Answers (singleTable a.name (asksForNumber request) (some countAlias))

/-- The schema with the first target of each column as its only one. -/
def withFirstTargets : Schema :=
  ⟨s.tables.map fun t =>
    { t with columns := t.columns.map fun c => { c with targets := c.targets.take 1 } }⟩

end Schema

/-! ## Reading the schema back -/

namespace Schema

variable {s : Schema} (hs : s.Legible)
include hs

theorem legible_withFirstTargets : s.withFirstTargets.Legible := by
  intro t ht
  obtain ⟨t, hmem, rfl⟩ := List.mem_map.mp ht
  refine ⟨(hs t hmem).name, fun c hc => ?_⟩
  obtain ⟨c, hcmem, rfl⟩ := List.mem_map.mp hc
  have hc := (hs t hmem).columns c hcmem
  refine ⟨hc.name, hc.typeName, hc.balanced, fun k hk => ?_, ?_⟩
  · exact hc.targets k (List.mem_of_mem_take hk)
  · simpa [List.head?_take] using hc.first

omit hs in
/-- Targets after the first one are not seen in the outlines. -/
theorem outline_withFirstTargets :
    s.withFirstTargets.tables.map (·.outline) = s.tables.map (·.outline) := by
  simp [withFirstTargets, Table.outline, Column.outline, Function.comp_def, List.head?_take]

end Schema

/-! ## Mentioned tables -/

namespace Schema

variable {s : Schema} (hnames : s.tableNames.Nodup) (request : Text)
include hnames

/-- The composer sees the mentioned tables by their names. -/
theorem detect_outlines :
    Intent.detect request (s.tables.map (·.outline)) =
      ⟨(s.mentioned request).map (·.name), asksForNumber request⟩ := by
  have hnodup : ((s.mentioned request).map (·.name)).Nodup :=
    (List.filter_sublist.map _).nodup hnames
  have hfilter : ((s.tables.map (·.outline)).filter fun t =>
      occursIn (lower t.name) (lower request)).map (·.name) =
        (s.mentioned request).map (·.name) := by
    simp [mentioned, List.filter_map, Function.comp_def, Table.outline]
  rw [Intent.detect, hfilter, distinct_of_nodup hnodup]
  rfl

omit request in
theorem find?_outlines {t : Table} (ht : t ∈ s.tables) :
    (s.tables.map (·.outline)).find? (·.name == t.name) = some t.outline := by
  obtain ⟨before, after, heq⟩ := List.append_of_mem ht
  rw [tableNames, heq, List.map_append, List.map_cons, List.nodup_append] at hnames
  rw [heq, List.map_append, List.find?_append, List.map_cons]
  have hbefore : (before.map (·.outline)).find? (·.name == t.name) = none := by
    simp only [List.find?_eq_none, List.mem_map, forall_exists_index, and_imp,
      forall_apply_eq_imp_iff₂]
    intro u hu
    have := hnames.2.2 u.name (List.mem_map_of_mem hu) t.name List.mem_cons_self
    simpa [Table.outline] using this
  rw [hbefore]
  simp [Table.outline]

/-! ## Keys -/

omit request in
/-- A join condition is found exactly if a column leads from the one table to the other. -/
theorem keyBetween?_outlines_eq_some {a b : Table} (ha : a ∈ s.tables) {e : Equality} :
    keyBetween? (s.tables.map (·.outline)) a.name b.name = some e ↔
      ∃ c key, a.LeadsBy b c key ∧ e = a.keyCondition b c key := by
  rw [keyBetween?, find?_outlines hnames ha]
  simp only [Table.outline, List.findSome?_map, List.findSome?_eq_some_iff, Function.comp_apply,
    Column.outline]
  constructor
  · rintro ⟨before, c, after, heq, hsome, hbefore⟩
    cases hkey : c.targets.head? with
    | none => simp [hkey] at hsome
    | some key =>
      simp only [hkey, Option.ite_none_right_eq_some, Option.some.injEq] at hsome
      refine ⟨c, key, ⟨before, after, heq, hkey, hsome.1, fun d hd k hk => ?_⟩, hsome.2.symm⟩
      have := hbefore d hd
      simpa [Option.mem_def.mp hk] using this
  · rintro ⟨c, key, ⟨before, after, heq, hkey, hnames, hbefore⟩, rfl⟩
    refine ⟨before, c, after, heq, by simp [hkey, hnames, Table.keyCondition], fun d hd => ?_⟩
    cases hk : d.targets.head? with
    | none => rfl
    | some k => simp [hbefore d hd k hk]

omit request in
theorem keyBetween?_outlines_eq_none {a b : Table} (ha : a ∈ s.tables) :
    keyBetween? (s.tables.map (·.outline)) a.name b.name = none ↔ a.LeadsNowhereIn b := by
  constructor
  · intro hnone c key hkey
    have := (keyBetween?_outlines_eq_some hnames ha).mpr ⟨c, key, hkey, rfl⟩
    simp [hnone] at this
  · intro hnone
    cases he : keyBetween? (s.tables.map (·.outline)) a.name b.name with
    | none => rfl
    | some e =>
      obtain ⟨c, key, hkey, -⟩ := (keyBetween?_outlines_eq_some hnames ha).mp he
      exact absurd hkey (hnone c key)

/-! ## Statements -/

/-- A statement answers a request exactly if the composer selects it. -/
theorem answers_iff {q : Select} :
    s.Answers request q ↔
      q = select (s.tables.map (·.outline))
        ⟨(s.mentioned request).map (·.name), asksForNumber request⟩ := by
  have hmem : ∀ t ∈ s.mentioned request, t ∈ s.tables := fun t ht => List.mem_of_mem_filter ht
  constructor
  · intro h
    cases h with
    | placeholder h => simp [select, h]
    | forward h hkey =>
      rename_i a b rest c key
      have hon := (keyBetween?_outlines_eq_some hnames (hmem a (by simp [h]))).mpr
        ⟨c, key, hkey, rfl⟩
      simp [select, h, joinCondition?, hon, joinedProjection, Select.join]
    | backward h hnone hkey =>
      rename_i a b rest c key
      have hnone := (keyBetween?_outlines_eq_none hnames (hmem a (by simp [h]))).mpr hnone
      have hon := (keyBetween?_outlines_eq_some hnames (hmem b (by simp [h]))).mpr
        ⟨c, key, hkey, rfl⟩
      simp [select, h, joinCondition?, hnone, hon, joinedProjection, Select.join]
    | single h hnone =>
      rename_i a rest
      cases rest with
      | nil => simp [select, h]
      | cons b rest =>
        obtain ⟨hab, hba⟩ := hnone b rfl
        have hab := (keyBetween?_outlines_eq_none hnames (hmem a (by simp [h]))).mpr hab
        have hba := (keyBetween?_outlines_eq_none hnames (hmem b (by simp [h]))).mpr hba
        simp [select, h, joinCondition?, hab, hba]
  · rintro rfl
    rcases h : s.mentioned request with - | ⟨a, - | ⟨b, rest⟩⟩
    · exact .placeholder h
    · exact .single h (by simp)
    · have ha := hmem a (by simp [h])
      have hb := hmem b (by simp [h])
      cases hab : keyBetween? (s.tables.map (·.outline)) a.name b.name with
      | some on =>
        obtain ⟨c, key, hkey, rfl⟩ := (keyBetween?_outlines_eq_some hnames ha).mp hab
        have := Answers.forward h hkey
        simpa [select, joinCondition?, hab, joinedProjection, Select.join] using this
      | none =>
        have hnone := (keyBetween?_outlines_eq_none hnames ha).mp hab
        cases hba : keyBetween? (s.tables.map (·.outline)) b.name a.name with
        | some on =>
          obtain ⟨c, key, hkey, rfl⟩ := (keyBetween?_outlines_eq_some hnames hb).mp hba
          have := Answers.backward h hnone hkey
          simpa [select, joinCondition?, hab, hba, joinedProjection, Select.join] using this
        | none =>
          have := Answers.single h fun t ht => by
            obtain rfl : b = t := by simpa using ht
            exact ⟨hnone, (keyBetween?_outlines_eq_none hnames hb).mp hba⟩
          simpa [select, joinCondition?, hab, hba] using this

end Schema

/-- Exactly one statement answers a request with words about a schema whose tables have
different names. The composer writes it for the text of the schema, and would write the same
if each column had no target but its first. -/
theorem Schema.compose_annotated {s : Schema} (hs : s.Legible) (hnames : s.tableNames.Nodup)
    {request : Text} (hrequest : isBlankText request = false) :
    (∃! q, s.Answers request q) ∧
      (∀ q, s.Answers request q → compose request s.annotated = q.sql) ∧
      compose request s.withFirstTargets.annotated = compose request s.annotated := by
  refine ⟨⟨_, (answers_iff hnames request).mpr rfl, fun q => (answers_iff hnames request).mp⟩,
    fun q hq => ?_, ?_⟩
  · obtain rfl := (answers_iff hnames request).mp hq
    simp only [compose, hrequest, Bool.false_eq_true, if_false, tables_annotated hs,
      detect_outlines hnames]
  · simp only [compose, tables_annotated hs, tables_annotated (legible_withFirstTargets hs),
      outline_withFirstTargets]

/-- A count over two tables with names that have to be quoted : the second one refers to the
first by its second column, under a name in other case. -/
theorem Schema.compose_annotated_of_backward_key :
    let plain (name : Text) (targets : List ForeignKeyTarget) : Column :=
      { name := name, typeName := "INT".toList, size := 0, nullable := true,
        primaryKey := false, targets := targets }
    let users : Table := ⟨"my users".toList, [plain "id".toList []]⟩
    let orders : Table := ⟨"or\"ders(".toList,
      [plain "at".toList [⟨"places".toList, "id".toList⟩, ⟨"my users".toList, "id".toList⟩],
        plain "by".toList [⟨"MY users".toList, "id".toList⟩, ⟨"x".toList, []⟩]]⟩
    let request := "How many OR\"DERS( have my users?".toList
    compose request (Schema.mk [users, orders]).annotated =
      ("SELECT COUNT(*) AS cnt FROM \"my users\" JOIN \"or\"\"ders(\" " ++
        "ON \"or\"\"ders(\".by = \"my users\".id;").toList := by
  intro plain users orders request
  have hlegible : (Schema.mk [users, orders]).Legible := by
    have hplain (name : Text) (targets : List ForeignKeyTarget) (hname : '\n' ∉ name)
        (htargets : ∀ t ∈ targets, '\n' ∉ t.table ∧ '\n' ∉ t.column)
        (hfirst : ∀ t ∈ targets.head?, t.table ≠ [] ∧ t.column ≠ []) :
        (plain name targets).Legible := by
      have hbalanced : Balanced "INT".toList := by decide
      exact ⟨hname, by simp [plain], hbalanced, htargets, hfirst⟩
    intro t ht
    rcases List.mem_pair.mp ht with rfl | rfl
    · refine ⟨by decide, fun c hc => ?_⟩
      obtain rfl := List.mem_singleton.mp hc
      exact hplain _ _ (by decide) (by simp) (by simp)
    · refine ⟨by decide, fun c hc => ?_⟩
      rcases List.mem_pair.mp hc with rfl | rfl
      · exact hplain _ _ (by decide) (by simp) (by simp)
      · exact hplain _ _ (by decide) (by simp) (by simp)
  have hnone : users.LeadsNowhereIn orders := by
    rintro c key ⟨before, after, hcolumns, hkey, -⟩
    have hc : c ∈ users.columns := by simp [hcolumns]
    obtain rfl := List.mem_singleton.mp hc
    simp [plain] at hkey
  have hkey : orders.LeadsBy users (plain "by".toList [⟨"MY users".toList, "id".toList⟩,
      ⟨"x".toList, []⟩]) ⟨"MY users".toList, "id".toList⟩ := by
    refine ⟨[_], [], rfl, rfl, by decide, fun d hd k hk => ?_⟩
    obtain rfl := List.mem_singleton.mp hd
    obtain rfl := Option.mem_some.mp hk
    decide
  have hmentioned : (Schema.mk [users, orders]).mentioned request = [users, orders] := by decide
  have hrequest : isBlankText request = false := by decide
  obtain ⟨-, hcompose, -⟩ := Schema.compose_annotated hlegible (by decide) hrequest
  rw [hcompose _ (.backward hmentioned hnone hkey)]
  decide

end AskSql
