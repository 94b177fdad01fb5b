import AskSql.Composer
import AskSql.Proofs.Text.Lowering

/-!
# Mentioned tables

A request and the name of a table are put in lower case apart from each other before the name is
looked for. They disagree only about capital sigmas (`Text.KeepsSigmas`) : one at the end of the
name is final there, and is not where the request goes on with a letter. So a name that is written
out in a request is found if its sigmas keep their form in that place, which they do wherever it
stands as a word of its own (`Text.keepsSigmas_of_apart`).

`Intent.mentioned_append_append` : a name is found wherever it is written, and words around a
request take no mention away from it, exactly if the sigmas of the name or of the request are
settled.
-/

namespace AskSql.Intent

open Text

variable {tables : List Outline.Table} {request name s p q : Text}

theorem mem_mentioned :
    name ∈ (detect request tables).mentioned ↔
      (∃ t ∈ tables, t.name = name) ∧ lower name <:+: lower request := by
  simp only [detect, mem_distinct, List.mem_map, List.mem_filter, occursIn_iff]
  constructor
  · rintro ⟨t, ⟨ht, hfound⟩, rfl⟩
    exact ⟨⟨t, ht, rfl⟩, hfound⟩
  · rintro ⟨⟨t, ht, rfl⟩, hfound⟩
    exact ⟨t, ⟨ht, hfound⟩, rfl⟩

/-- A request that holds the lower-case form of another mentions what the other mentions. -/
theorem mentioned_subset {request' : Text} (h : lower request <:+: lower request')
    (tables : List Outline.Table) :
    (detect request tables).mentioned ⊆ (detect request' tables).mentioned := by
  intro name hname
  obtain ⟨htable, hfound⟩ := mem_mentioned.mp hname
  exact mem_mentioned.mpr ⟨htable, hfound.trans h⟩

/-- A table that is named `s` is mentioned where `s` itself is the request. -/
theorem mem_mentioned_self {t : Outline.Table} (ht : t ∈ tables) (hname : t.name = s) :
    s ∈ (detect s tables).mentioned :=
  mem_mentioned.mpr ⟨⟨t, ht, hname⟩, List.infix_refl _⟩

/-- A request that mentions each table of the name `s` holds the lower-case form of the name. -/
theorem lower_isInfix_of_mentioned
    (h : ∀ tables : List Outline.Table, ∀ t ∈ tables, t.name = s →
      s ∈ (detect request tables).mentioned) : lower s <:+: lower request := by
  have hmem := h [⟨s, []⟩] ⟨s, []⟩ (by simp) rfl
  exact (mem_mentioned.mp hmem).2

/-- Where a text keeps its sigmas between `p` and `q`, a table of that name is mentioned there, and
each table that it mentions as a request is mentioned there too. Wherever it is written, a table of
that name is mentioned, and whatever words are put around it, it loses no mention, exactly if its
sigmas are settled. -/
theorem mentioned_append_append (s : Text) :
    (∀ p q, KeepsSigmas p s q → ∀ tables : List Outline.Table,
        (∀ t ∈ tables, t.name = s → s ∈ (detect (p ++ s ++ q) tables).mentioned) ∧
          (detect s tables).mentioned ⊆ (detect (p ++ s ++ q) tables).mentioned) ∧
      ((∀ p q (tables : List Outline.Table), ∀ t ∈ tables, t.name = s →
        s ∈ (detect (p ++ s ++ q) tables).mentioned) ↔ IsSettled s) ∧
      ((∀ p q (tables : List Outline.Table),
        (detect s tables).mentioned ⊆ (detect (p ++ s ++ q) tables).mentioned) ↔ IsSettled s) := by
  refine ⟨fun p q hkeeps tables => ?_, ⟨fun h => ?_, fun h p q tables t ht hname => ?_⟩,
    ⟨fun h => ?_, fun h p q tables => ?_⟩⟩
  · have hsubset := mentioned_subset hkeeps.lower_isInfix tables
    exact ⟨fun t ht hname => hsubset (mem_mentioned_self ht hname), hsubset⟩
  · refine isSettled_iff.mpr fun p q => lower_isInfix_of_mentioned fun tables t ht hname => ?_
    exact h p q tables t ht hname
  · exact mentioned_subset (isSettled_iff.mp h p q) tables (mem_mentioned_self ht hname)
  · refine isSettled_iff.mpr fun p q => lower_isInfix_of_mentioned fun tables t ht hname => ?_
    exact h p q tables (mem_mentioned_self ht hname)
  · exact mentioned_subset (isSettled_iff.mp h p q) tables

/-- A name that ends in a sigma, as a word of its own. -/
theorem mentioned_append_append_of_word :
    let tables : List Outline.Table := [⟨"ΟΔΟΣ".toList, []⟩]
    meetsCased "show ".toList.reverse = false ∧ meetsCased " rows".toList = false ∧
      "ΟΔΟΣ".toList ∈ (detect "show ΟΔΟΣ rows".toList tables).mentioned := by
  intro tables
  have hp : meetsCased "show ".toList.reverse = false := by decide +kernel
  have hq : meetsCased " rows".toList = false := by decide +kernel
  have hkeeps := keepsSigmas_of_apart hp hq "ΟΔΟΣ".toList
  obtain ⟨hfound, -⟩ := (mentioned_append_append "ΟΔΟΣ".toList).1 _ _ hkeeps tables
  exact ⟨hp, hq, hfound ⟨"ΟΔΟΣ".toList, []⟩ (by simp [tables]) rfl⟩

/-- The final sigma of the name is not final in the request, where an apostrophe and a letter
follow. -/
example : (detect "show the ΟΔΟΣ's rows".toList [⟨"ΟΔΟΣ".toList, []⟩]).mentioned = [] := by
  decide +kernel

end AskSql.Intent
