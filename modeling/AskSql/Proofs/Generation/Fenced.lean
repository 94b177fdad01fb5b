import AskSql.Prompt
import AskSql.Proofs.Text.Pieces
import AskSql.Proofs.Text.Replacing

/-!
# Fenced completions

A provider that was told to leave code fences out may put its statement into a block of code all
the same (`CodeBlock`). The block changes nothing of what is made of the completion : it is the
same statement, or it is refused for the same reason, whatever stands in the block, further fences
included (`normalizeSql_around`).

Fences are looked for in the whole text and not line by line, and a fence that goes may join what
stood around it. But no fence holds a blank, so the ends of lines keep apart what stands on
different lines in both passes (`unmarked_append_blank_append`) : of a block, the blanks around the
text are left, and they are trimmed off.
-/

namespace AskSql

open Text

variable {gap : Text}

/-! ## Texts without fences -/

/-- A text without code fences, before it is trimmed. -/
def unmarked (raw : Text) : Text :=
  replaceAll fence [] (replaceAll sqlFence [] raw)

theorem unfenced_eq_trim_unmarked (raw : Text) : unfenced raw = trim (unmarked raw) := rfl

theorem fence_ne_nil : fence ≠ [] := List.cons_ne_nil _ _

theorem sqlFence_ne_nil : sqlFence ≠ [] := List.cons_ne_nil _ _

/-- No fence holds a blank. -/
theorem not_mem_sqlFence_of_isBlankText (h : isBlankText gap = true) : ∀ c ∈ gap, c ∉ sqlFence := by
  have hnone : sqlFence.all (!isBlank ·) = true := by decide
  intro c hc hmem
  have hblank : isBlank c = false := by simpa using List.all_eq_true.mp hnone c hmem
  exact not_mem_of_isBlankText h hblank hc

theorem not_mem_fence_of_isBlankText (h : isBlankText gap = true) : ∀ c ∈ gap, c ∉ fence :=
  fun c hc hmem => not_mem_sqlFence_of_isBlankText h c hc (List.mem_append_left "sql".toList hmem)

theorem unmarked_blank_append (h : isBlankText gap = true) (s : Text) :
    unmarked (gap ++ s) = gap ++ unmarked s := by
  rw [unmarked, replaceAll_gap_append sqlFence_ne_nil (not_mem_sqlFence_of_isBlankText h),
    replaceAll_gap_append fence_ne_nil (not_mem_fence_of_isBlankText h), unmarked]

theorem unmarked_append_blank (h : isBlankText gap = true) (s : Text) :
    unmarked (s ++ gap) = unmarked s ++ gap := by
  rw [unmarked, replaceAll_append_gap sqlFence_ne_nil (not_mem_sqlFence_of_isBlankText h),
    replaceAll_append_gap fence_ne_nil (not_mem_fence_of_isBlankText h), unmarked]

/-- Blanks keep apart what stands on both sides of them. -/
theorem unmarked_append_blank_append (h : isBlankText gap = true) (hne : gap ≠ []) (s t : Text) :
    unmarked (s ++ (gap ++ t)) = unmarked s ++ (gap ++ unmarked t) := by
  rw [unmarked,
    replaceAll_append_gap_append sqlFence_ne_nil (not_mem_sqlFence_of_isBlankText h) hne,
    replaceAll_append_gap_append fence_ne_nil (not_mem_fence_of_isBlankText h) hne, unmarked,
    unmarked]

/-! ## Blocks of code -/

/-- A block of code for a text : a line that opens it, which may name SQL, and a line that closes
it. Blanks may stand around the block and at the ends of its lines. -/
structure CodeBlock where
  before : Text
  opening : Text
  /-- The end of the opening line. -/
  above : Text
  /-- The end of the last line of the text. -/
  below : Text
  after : Text
  opens : opening = sqlFence ∨ opening = fence
  isBlankText_before : isBlankText before = true
  isBlankText_above : isBlankText above = true
  isBlankText_below : isBlankText below = true
  isBlankText_after : isBlankText after = true
  break_mem_above : '\n' ∈ above
  break_mem_below : '\n' ∈ below

namespace CodeBlock

variable (b : CodeBlock) (s : Text)

/-- The block with `s` in it. -/
def around : Text :=
  b.before ++ (b.opening ++ (b.above ++ (s ++ (b.below ++ (fence ++ b.after)))))

/-- The block that opens with a fence and has its fences on lines of their own. -/
def ofOpening (opening : Text) (opens : opening = sqlFence ∨ opening = fence) : CodeBlock where
  before := []
  opening := opening
  above := ['\n']
  below := ['\n']
  after := []
  opens := opens
  isBlankText_before := rfl
  isBlankText_above := rfl
  isBlankText_below := rfl
  isBlankText_after := rfl
  break_mem_above := List.mem_singleton_self _
  break_mem_below := List.mem_singleton_self _

theorem around_ofOpening {opening : Text} (opens : opening = sqlFence ∨ opening = fence) :
    (ofOpening opening opens).around s = (opening ++ ['\n']) ++ s ++ ('\n' :: fence) := by
  simp [around, ofOpening]

theorem unmarked_opening : unmarked b.opening = [] := by
  rcases b.opens with h | h <;> rw [h] <;> decide

/-- The marks of a block go, the blanks around the text stay. -/
theorem unmarked_around :
    unmarked (b.around s) = b.before ++ b.above ++ unmarked s ++ (b.below ++ b.after) := by
  have habove : b.above ≠ [] := List.ne_nil_of_mem b.break_mem_above
  have hbelow : b.below ≠ [] := List.ne_nil_of_mem b.break_mem_below
  have hfence : unmarked fence = [] := by decide
  calc unmarked (b.around s)
      = b.before ++ (unmarked b.opening ++ (b.above ++ (unmarked s ++
          (b.below ++ (unmarked fence ++ b.after))))) := by
        rw [around, unmarked_blank_append b.isBlankText_before,
          unmarked_append_blank_append b.isBlankText_above habove,
          unmarked_append_blank_append b.isBlankText_below hbelow,
          unmarked_append_blank b.isBlankText_after]
    _ = b.before ++ b.above ++ unmarked s ++ (b.below ++ b.after) := by
        simp [b.unmarked_opening, hfence]

theorem unfenced_around : unfenced (b.around s) = unfenced s := by
  have hstart := isBlankText_append b.isBlankText_before b.isBlankText_above
  have hend := isBlankText_append b.isBlankText_below b.isBlankText_after
  rw [unfenced_eq_trim_unmarked, unfenced_eq_trim_unmarked, unmarked_around, trim_append_blank hend,
    trim_blank_append hstart]

end CodeBlock

/-- What is made of a completion depends on what it says without its fences. -/
theorem normalizeSql_congr {raw raw' : Text} (h : unfenced raw = unfenced raw') :
    normalizeSql raw = normalizeSql raw' := by
  simp only [normalizeSql, h]

/-- A block of code around a completion changes nothing of what is made of it. It is the same
statement, or it is refused with the same message. -/
theorem normalizeSql_around (s : Text) :
    (∀ b : CodeBlock, normalizeSql (b.around s) = normalizeSql s) ∧
      normalizeSql ("```sql\n".toList ++ s ++ "\n```".toList) = normalizeSql s ∧
      normalizeSql ("```\n".toList ++ s ++ "\n```".toList) = normalizeSql s := by
  have hblock (b : CodeBlock) : normalizeSql (b.around s) = normalizeSql s :=
    normalizeSql_congr (b.unfenced_around s)
  have hsql : "```sql\n".toList = sqlFence ++ ['\n'] := by decide
  have hplain : "```\n".toList = fence ++ ['\n'] := by decide
  have hclosing : "\n```".toList = '\n' :: fence := by decide
  refine ⟨hblock, ?_, ?_⟩
  · rw [hsql, hclosing, ← CodeBlock.around_ofOpening s (Or.inl rfl)]
    exact hblock _
  · rw [hplain, hclosing, ← CodeBlock.around_ofOpening s (Or.inr rfl)]
    exact hblock _

/-- A fence that another fence brings about when it goes hides nothing : the text is empty in the
block as it is without it. -/
example :
    let s := "`````sql` ; ".toList
    normalizeSql s = .error .empty ∧
      normalizeSql ("```sql\n".toList ++ s ++ "\n```".toList) = .error .empty := by
  decide

end AskSql
