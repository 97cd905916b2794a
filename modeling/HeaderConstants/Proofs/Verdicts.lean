import HeaderConstants.Doctor
import HeaderConstants.Proofs.FamilyChoice

namespace HeaderConstants.Doctor

open Surroundings (Origin)

theorem isFailure_eq_false {row : Row}
    (h : row.status = Verdict.ok.markup ∨ row.status = (Verdict.warning none).markup) :
    row.isFailure = false := by
  rw [Row.isFailure]
  rcases h with h | h <;>
  · rw [h]
    decide +kernel

theorem isFailure_interpreterRow (host : Host) :
    (interpreterRow host).isFailure = !versionSuffices host.version := by
  have hmarkup : Text.contains (Verdict.failure ">=3.10 required").markup "FAIL" = true := by
    decide +kernel
  rw [interpreterRow]
  cases versionSuffices host.version with
  | true => exact isFailure_eq_false (.inl rfl)
  | false => exact hmarkup

theorem isFailure_familyRow (active detected : Family) (origin : String) :
    (familyRow active detected origin).isFailure = false := by
  have hmarkup : ∀ detected ∈ Family.all,
      Text.contains (Verdict.warning (some ("host is " ++ detected.key))).markup "FAIL" =
        false := by
    decide +kernel
  rw [familyRow]
  split
  · exact isFailure_eq_false (.inl rfl)
  · exact hmarkup detected detected.mem_all

theorem isFailure_tableRow (table : Table) : (tableRow table).isFailure = false := by
  rw [tableRow]
  split
  · exact isFailure_eq_false (.inl rfl)
  · exact isFailure_eq_false (.inr rfl)

theorem isFailure_comparisonRow (family : Family) (machine : String) (comparison : Comparison) :
    (comparisonRow family machine comparison).isFailure = false := by
  have hstatus : (comparisonRow family machine comparison).status =
      (if (comparison.onlyInReference.length ≠ 0 ∧ ¬ Snapshot.covers family machine) ∨
          ¬ comparison.agrees then Verdict.warning none else Verdict.ok).markup := rfl
  split at hstatus
  · exact isFailure_eq_false (.inr hstatus)
  · exact isFailure_eq_false (.inl hstatus)

theorem isFailure_checkSnapshot (host : Host) (active detected : Family) (machine : String) :
    (checkSnapshot host active detected machine).1.isFailure = false := by
  rw [checkSnapshot]
  split
  · exact isFailure_eq_false (.inl rfl)
  · split
    · exact isFailure_eq_false (.inl rfl)
    · exact isFailure_comparisonRow _ _ _

theorem any_isFailure_checks (around : Surroundings) (active : Family) (origin : Origin)
    (table : Table) :
    (checks around active origin table).1.any (·.isFailure) =
      !versionSuffices around.host.version := by
  have hprogram : programRow.isFailure = false := isFailure_eq_false (.inl rfl)
  have hsystem : (systemRow around.host).isFailure = false := isFailure_eq_false (.inl rfl)
  simp only [checks, List.any_cons, List.any_nil, hprogram, hsystem, isFailure_interpreterRow,
    isFailure_familyRow, isFailure_tableRow, isFailure_checkSnapshot, Bool.false_or, Bool.or_false]

theorem versionSuffices_eq_false_iff {version : List Int} :
    versionSuffices version = false ↔ version < [3, 10] := by
  match version with
  | [] => exact iff_of_true rfl (by decide)
  | [major] =>
      simp only [versionSuffices, List.cons_lt_cons_iff, decide_eq_false_iff_not]
      simp
      omega
  | major :: minor :: rest =>
      simp only [versionSuffices, List.cons_lt_cons_iff]
      simp
      omega

variable {around : Surroundings} {asked : Option Family} {failure : Failure}

theorem selectFamily_eq_error_iff :
    selectFamily around asked = .error failure ↔
      asked = none ∧ ∃ text, around.settings.RefusesFamily text ∧
        failure = .unknownFamily text := by
  rw [← Settings.familyOverride_eq_error_iff]
  cases asked with
  | some family => simp [selectFamily]
  | none =>
      cases h : around.settings.familyOverride with
      | error stop => simp [selectFamily, h]
      | ok found => cases found <;> simp [selectFamily, h]

end HeaderConstants.Doctor
