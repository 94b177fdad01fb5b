import AskSql.Proofs.Generation.Terminated
import AskSql.Proofs.Text.Replacing

/-!
# Normalized statements

A completion is normalized once : what comes out has no blanks around it, holds no code fence
and ends with a semicolon (`IsNormalized`), and normalizing it again changes nothing
(`normalizeSql_idempotent`). That no fence is left takes the second of the two passes. The
first one takes out `sql` with the fence before it and may join the backticks on both sides of
it; the second one leaves less than a fence of each row of backticks.
-/

namespace AskSql

open Text

variable {raw s sql : Text}

/-! ## Fences -/

theorem fence_not_isInfix_unfenced (raw : Text) : ¬ fence <:+: unfenced raw := by
  have hfence : fence = List.replicate 3 '`' := rfl
  intro h
  rw [unfenced, hfence] at h
  exact not_infix_replaceAll (by decide) '`' _ (h.trans (trim_isInfix _))

theorem unfenced_eq_self (hsolid : Solid s) (hfence : ¬ fence <:+: s) : unfenced s = s := by
  have hsql : ¬ sqlFence <:+: s := fun h => hfence (List.IsInfix.trans ⟨[], "sql".toList, rfl⟩ h)
  rw [unfenced, replaceAll_eq_self hsql, replaceAll_eq_self hfence, hsolid.trim_eq]

/-! ## The terminator -/

theorem getLast?_terminated (s : Text) : (terminated s).getLast? = some ';' := by
  obtain ⟨t, ht⟩ := terminated_eq_append s
  simp [ht]

theorem terminated_eq_self (h : s.getLast? = some ';') : terminated s = s :=
  if_pos h

theorem Text.Solid.terminated (h : Solid s) : Solid (terminated s) := by
  unfold AskSql.terminated
  split
  · exact h
  · have hend : Solid [';'] := ⟨⟨';', [], rfl, rfl⟩, ⟨[], ';', rfl, rfl⟩⟩
    simpa using h.append hend []

/-- The terminator does not make a fence. -/
theorem fence_not_isInfix_terminated (h : ¬ fence <:+: s) : ¬ fence <:+: terminated s := by
  unfold terminated
  split
  · exact h
  · rw [List.infix_concat_iff, List.suffix_concat_iff]
    rintro ((hnil | ⟨t, ht, -⟩) | hs)
    · exact absurd hnil (by decide)
    · have hlast := congrArg List.getLast? ht
      rw [List.getLast?_concat] at hlast
      exact absurd hlast (by decide)
    · exact h hs

/-- What stands before the semicolons at the end is the same with the terminator. -/
theorem dropEndWhile_terminated (s : Text) :
    dropEndWhile (· == ';') (terminated s) = dropEndWhile (· == ';') s := by
  unfold terminated
  split
  · rfl
  · simp [dropEndWhile]

/-! ## Normalized texts -/

/-- A statement as it is written by normalization. -/
structure IsNormalized (sql : Text) : Prop where
  /-- There are no blanks around it. -/
  solid : Solid sql
  fenceless : ¬ fence <:+: sql
  terminated : sql.getLast? = some ';'

theorem isNormalized_of_normalizeSql (h : normalizeSql raw = .ok sql) : IsNormalized sql := by
  obtain ⟨hne, rfl, -⟩ := normalizeSql_eq_ok h
  exact {
    solid := (solid_trim hne).terminated
    fenceless := fence_not_isInfix_terminated (fence_not_isInfix_unfenced raw)
    terminated := getLast?_terminated _ }

theorem IsNormalized.unfenced_eq (h : IsNormalized sql) : unfenced sql = sql :=
  unfenced_eq_self h.solid h.fenceless

/-- What normalization makes of a completion is normalized, and stays as it is when it is
normalized again. -/
theorem normalizeSql_idempotent (h : normalizeSql raw = .ok sql) :
    IsNormalized sql ∧ normalizeSql sql = .ok sql := by
  have hnormalized := isNormalized_of_normalizeSql h
  obtain ⟨hblank, hsql, hcheck⟩ := normalizeSql_eq_ok_iff.mp h
  refine ⟨hnormalized, normalizeSql_eq_ok_iff.mpr ⟨?_, ?_, hcheck⟩⟩
  · rw [hnormalized.unfenced_eq, hsql, dropEndWhile_terminated]
    exact hblank
  · rw [hnormalized.unfenced_eq, terminated_eq_self hnormalized.terminated]

/-- Without the fence that names SQL, the backticks on both sides of it are a fence. -/
theorem normalizeSql_idempotent_of_joined_fence :
    let raw := "`````sql`SELECT 1\n".toList
    let sql := "SELECT 1;".toList
    normalizeSql raw = .ok sql ∧ IsNormalized sql ∧ normalizeSql sql = .ok sql := by
  intro raw sql
  have h : normalizeSql raw = .ok sql := by decide +kernel
  exact ⟨h, normalizeSql_idempotent h⟩

end AskSql
