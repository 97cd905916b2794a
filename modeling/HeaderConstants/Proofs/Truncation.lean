import HeaderConstants.Proofs.Answers
import Mathlib.Data.Int.ModEq

namespace HeaderConstants

namespace Resolver

variable {resolver : Resolver} {name : String} {value : Int}

theorem toWord_of_resolve_eq_none (h : resolver.resolve name = none) :
    resolver.toWord name = -1 := by
  rw [toWord, h]
  rfl

theorem toWord_modEq (h : resolver.resolve name = some value) :
    resolver.toWord name ≡ value [ZMOD 2 ^ 32] := by
  rw [toWord, h]
  exact Int.bmod_emod

theorem toWord_mem_range (resolver : Resolver) (name : String) :
    -2 ^ 31 ≤ resolver.toWord name ∧ resolver.toWord name < 2 ^ 31 := by
  rcases h : resolver.resolve name with _ | value
  · rw [toWord_of_resolve_eq_none h]
    decide
  · rw [toWord, h]
    have hpos : 0 < Int32.size := by decide
    exact ⟨Int.le_bmod hpos, Int.bmod_lt hpos⟩

theorem toWord_eq_iff (h : resolver.resolve name = some value) {word : Int}
    (hle : -2 ^ 31 ≤ word) (hlt : word < 2 ^ 31) :
    resolver.toWord name = word ↔ value ≡ word [ZMOD 2 ^ 32] := by
  have hmod := toWord_modEq h
  obtain ⟨hlower, hupper⟩ := toWord_mem_range resolver name
  rw [Int.ModEq] at hmod ⊢
  omega

theorem toWord_eq_self_iff (h : resolver.resolve name = some value) :
    resolver.toWord name = value ↔ -2 ^ 31 ≤ value ∧ value < 2 ^ 31 := by
  constructor
  · intro heq
    rw [← heq]
    exact toWord_mem_range resolver name
  · rintro ⟨hle, hlt⟩
    exact (toWord_eq_iff h hle hlt).mpr rfl

theorem toWord_eq_neg_one_iff :
    resolver.toWord name = -1 ↔ resolver.resolve name = none ∨
      ∃ value, resolver.resolve name = some value ∧ value ≡ -1 [ZMOD 2 ^ 32] := by
  rcases h : resolver.resolve name with _ | value
  · simp [toWord_of_resolve_eq_none h]
  · rw [toWord_eq_iff h (by decide) (by decide)]
    simp

end Resolver

namespace Snapshot

/-- The addresses of thirty-two one bits. -/
def ambiguousNames : List String := ["INADDR_NONE", "INADDR_BROADCAST"]

theorem value_cases {family : Family} {category : Category} {name : String} {value : Int}
    (h : (values family category).lookup name = some value) :
    (name ∈ ambiguousNames ∧ value = 2 ^ 32 - 1) ∨
      (name ∉ ambiguousNames ∧ 0 ≤ value ∧ value < 2 ^ 31) := by
  have hrows : ∀ family ∈ Family.all, ∀ category ∈ Category.all, ∀ row ∈ values family category,
      (row.1 ∈ ambiguousNames ∧ row.2 = 2 ^ 32 - 1) ∨
        (row.1 ∉ ambiguousNames ∧ 0 ≤ row.2 ∧ row.2 < 2 ^ 31) := by
    decide +kernel
  obtain ⟨before, after, hvalues, -⟩ := List.lookup_eq_some_iff.mp h
  apply hrows family family.mem_all category category.mem_all (name, value)
  rw [hvalues]
  simp

end Snapshot

namespace Resolver

open Snapshot Tier

variable {family : Family} {table : Table} {name : String} {value : Int}

theorem exists_resolve_of_ambiguous (hsnapshot : family ≠ .generic)
    (h : (Table.build family (.snapshot family) catalog).result = .ok table)
    (hname : name ∈ ambiguousNames) : ∃ value, (Resolver.mk table).resolve name = some value := by
  have hactive : ∀ family ∈ Family.all, commonSocket ∈ active family catalog := by decide
  have hlisted : ∀ name ∈ ambiguousNames, name ∈ commonSocket.names := by decide +kernel
  have htier := hactive family family.mem_all
  rw [resolve_of_mem_names h htier (hlisted name hname)]
  exact Option.isSome_iff_exists.mp (isSome_lookup hsnapshot htier (hlisted name hname))

theorem toWord_cases_of_snapshot
    (h : (Table.build family (.snapshot family) catalog).result = .ok table)
    (hvalue : (Resolver.mk table).resolve name = some value) :
    ((Resolver.mk table).toWord name = -1 ↔ name ∈ ambiguousNames) ∧
      ((Resolver.mk table).toWord name ≠ value ↔ name ∈ ambiguousNames) := by
  obtain ⟨tier, -, -, hlookup⟩ := (Table.valueOf_of_build h).mp hvalue
  rcases value_cases hlookup with ⟨hname, rfl⟩ | ⟨hname, hle, hlt⟩
  · have hword : (Resolver.mk table).toWord name = -1 :=
      (toWord_eq_iff hvalue (by decide) (by decide)).mpr (by decide)
    simp [hword, hname]
  · have hword : (Resolver.mk table).toWord name = value :=
      (toWord_eq_self_iff hvalue).mpr ⟨by omega, hlt⟩
    simp only [hword, hname, ne_eq, not_true_eq_false, iff_false, and_true]
    omega

/-- A word is in range, congruent to the value modulo 2^32, and the value itself just if that is in
range. It is minus one for a name without a value, and besides just for the values that end in
thirty-two one bits; in the tables of the snapshots, two names have such values, and no other name
has a value that is not its own word. -/
theorem toWord_truncates :
    (∀ (resolver : Resolver) (name : String),
      (-2 ^ 31 ≤ resolver.toWord name ∧ resolver.toWord name < 2 ^ 31) ∧
      (∀ value, resolver.resolve name = some value →
        resolver.toWord name ≡ value [ZMOD 2 ^ 32] ∧
        (resolver.toWord name = value ↔ -2 ^ 31 ≤ value ∧ value < 2 ^ 31)) ∧
      (resolver.toWord name = -1 ↔ resolver.resolve name = none ∨
        ∃ value, resolver.resolve name = some value ∧ value ≡ -1 [ZMOD 2 ^ 32])) ∧
    ∀ family, family ≠ .generic → ∃ table,
      (Table.build family (.snapshot family) catalog).result = .ok table ∧
      (∀ name ∈ ambiguousNames, ∃ value, (Resolver.mk table).resolve name = some value) ∧
      ∀ name value, (Resolver.mk table).resolve name = some value →
        ((Resolver.mk table).toWord name = -1 ↔ name ∈ ambiguousNames) ∧
        ((Resolver.mk table).toWord name ≠ value ↔ name ∈ ambiguousNames) := by
  constructor
  · intro resolver name
    refine ⟨toWord_mem_range resolver name, ?_, toWord_eq_neg_one_iff⟩
    intro value h
    exact ⟨toWord_modEq h, toWord_eq_self_iff h⟩
  · intro family hsnapshot
    obtain ⟨table, h⟩ := exists_build_catalog family (.snapshot family)
    refine ⟨table, h, ?_, ?_⟩
    · intro name hname
      exact exists_resolve_of_ambiguous hsnapshot h hname
    · intro name value hvalue
      exact toWord_cases_of_snapshot h hvalue

/-- Values on both sides of the range, and far beyond it. -/
def wideValues : Resolver where
  table :=
    { family := .generic
      entries := .ofList
        [("LEAST", ⟨"LEAST", -2 ^ 31, "wide", .errno⟩),
         ("PAST", ⟨"PAST", 2 ^ 31, "wide", .errno⟩),
         ("ONES", ⟨"ONES", 2 ^ 100 - 1, "wide", .socket⟩)] }

theorem toWord_truncates_of_wide_values :
    (wideValues.resolve "LEAST" = some (-2 ^ 31) ∧ wideValues.toWord "LEAST" = -2 ^ 31) ∧
    (wideValues.resolve "PAST" = some (2 ^ 31) ∧
      wideValues.toWord "PAST" ≡ 2 ^ 31 [ZMOD 2 ^ 32] ∧ wideValues.toWord "PAST" ≠ 2 ^ 31) ∧
    (wideValues.resolve "ONES" = some (2 ^ 100 - 1) ∧ wideValues.toWord "ONES" = -1) ∧
    ∃ table, (Table.build .darwin (.snapshot .darwin) catalog).result = .ok table ∧
      (Resolver.mk table).toWord "INADDR_NONE" = -1 ∧
      (Resolver.mk table).resolve "EPERM" = some 1 ∧ (Resolver.mk table).toWord "EPERM" = 1 := by
  obtain ⟨hwords, hsnapshots⟩ := toWord_truncates
  have hleast : wideValues.resolve "LEAST" = some (-2 ^ 31) := by decide +kernel
  have hpast : wideValues.resolve "PAST" = some (2 ^ 31) := by decide +kernel
  have hones : wideValues.resolve "ONES" = some (2 ^ 100 - 1) := by decide +kernel
  refine ⟨⟨hleast, ?_⟩, ⟨hpast, ?_, ?_⟩, ⟨hones, ?_⟩, ?_⟩
  · exact ((hwords wideValues "LEAST").2.1 _ hleast).2.mpr (by decide)
  · exact ((hwords wideValues "PAST").2.1 _ hpast).1
  · intro hsame
    exact absurd (((hwords wideValues "PAST").2.1 _ hpast).2.mp hsame) (by decide)
  · exact (hwords wideValues "ONES").2.2.mpr (.inr ⟨_, hones, by decide⟩)
  · obtain ⟨table, h, hambiguous, hcases⟩ := hsnapshots .darwin (by decide)
    have heperm : (Resolver.mk table).resolve "EPERM" = some 1 := by
      have hlisted : commonErrno ∈ active .darwin catalog ∧ "EPERM" ∈ commonErrno.names := by
        decide +kernel
      rw [resolve_of_mem_names h hlisted.1 hlisted.2]
      decide +kernel
    obtain ⟨value, hvalue⟩ := hambiguous "INADDR_NONE" (by decide)
    refine ⟨table, h, (hcases _ _ hvalue).1.mpr (by decide), heperm, ?_⟩
    exact not_not.mp fun hne => absurd ((hcases _ _ heperm).2.mp hne) (by decide)

end Resolver

end HeaderConstants
