import HeaderConstants.Proofs.Answers

namespace HeaderConstants

namespace Exclusion

theorem find?_name : ∀ exclusion ∈ all, find? exclusion.name = some exclusion := by
  decide +kernel

theorem isCapital_name {exclusion : Exclusion} (h : exclusion ∈ all) :
    Text.IsCapital exclusion.name := by
  have hbytes : ∀ exclusion ∈ all,
      (Text.bytes exclusion.name).all (Text.isCapitalCode ·.toNat) = true := by
    decide +kernel
  exact Text.isCapital_of_bytes (List.all_eq_true.mp (hbytes exclusion h))

theorem find?_eq_none_iff {name : String} :
    find? name = none ↔ ∀ exclusion ∈ all, exclusion.name ≠ name := by
  simp only [find?, List.find?_eq_none, beq_iff_eq, ne_eq]

theorem find?_eq_none_of_ne_upper {name : String} (h : name ≠ Text.upper name) :
    find? name = none := by
  apply find?_eq_none_iff.mpr
  rintro exclusion hmem rfl
  exact h (isCapital_name hmem).upper_eq.symm

end Exclusion

namespace Resolver

open Tier

/-- What there is to say about a name without a value, and the words for it. -/
inductive Advice (family : Family) (source : Source) (resolver : Resolver) (name : String) :
    Option Diagnosis → Option String → Prop
  | excluded {exclusion : Exclusion} (hmem : exclusion ∈ Exclusion.all)
      (hname : exclusion.name = name) :
      Advice family source resolver name (some (.excluded exclusion))
        (some (name ++ " is intentionally excluded: " ++ exclusion.reason ++ "."))
  | letterCase {value : Int} (hcase : name ≠ Text.upper name)
      (hvalue : resolver.resolve (Text.upper name) = some value) :
      Advice family source resolver name (some (.letterCase (Text.upper name)))
        (some ("Names are case-sensitive; did you mean " ++ Text.upper name ++ "?"))
  | undefined {tier : Tier} (htier : tier ∈ active family catalog) (hlisted : name ∈ tier.names)
      (hlookup : source.lookup tier.category name = none) :
      Advice family source resolver name (some .undefined)
        (some (name ++ " is listed for " ++ family.label ++ " but " ++ source.description ++
          " does not define it."))
  | nothing (hexcluded : ∀ exclusion ∈ Exclusion.all, exclusion.name ≠ name)
      (hcase : name ≠ Text.upper name → resolver.resolve (Text.upper name) = none)
      (hdefined : ∀ tier ∈ active family catalog, name ∈ tier.names →
        source.lookup tier.category name ≠ none) :
      Advice family source resolver name none none

variable {family : Family} {source : Source} {table : Table} {name : String}

theorem contains_iff_resolve : table.contains name = true ↔
    ∃ value, (Resolver.mk table).resolve name = some value := by
  rw [Table.contains_eq_isSome, resolve, Table.valueOf]
  cases table.find? name <;> simp

theorem diagnose_of_advice (h : (Table.build family source catalog).result = .ok table)
    {diagnosis : Option Diagnosis} {hint : Option String}
    (hadvice : Advice family source ⟨table⟩ name diagnosis hint) :
    (Resolver.mk table).diagnose name = diagnosis := by
  cases hadvice with
  | excluded hmem hname =>
      rw [diagnose, ← hname, Exclusion.find?_name _ hmem]
  | letterCase hcase hvalue =>
      rw [diagnose, Exclusion.find?_eq_none_of_ne_upper hcase]
      exact if_pos ⟨hcase, contains_iff_resolve.mpr ⟨_, hvalue⟩⟩
  | undefined htier hlisted hlookup =>
      have hcatalog := mem_catalog_of_mem_active htier
      have hfind : Exclusion.find? name = none := by
        apply Exclusion.find?_eq_none_iff.mpr
        rintro exclusion hmem rfl
        exact excluded_notMem_names hmem hcatalog hlisted
      have hcapital := (isCapital_of_mem_names hcatalog hlisted).upper_eq
      have hmissing : table.missing.contains name = true :=
        List.contains_iff_mem.mpr ((mem_missing_iff h).mpr ⟨_, htier, hlisted, hlookup⟩)
      simp only [diagnose, hfind, hcapital, hmissing, ne_eq, not_true_eq_false, false_and,
        if_false, if_true]
  | nothing hexcluded hcase hdefined =>
      have hcontains : ¬ (name ≠ Text.upper name ∧ table.contains (Text.upper name) = true) := by
        rintro ⟨hne, hcontains⟩
        obtain ⟨value, hvalue⟩ := contains_iff_resolve.mp hcontains
        exact nomatch hvalue.symm.trans (hcase hne)
      have hmissing : table.missing.contains name = false := by
        apply Bool.eq_false_iff.mpr
        intro hmem
        obtain ⟨tier, htier, hlisted, hlookup⟩ :=
          (mem_missing_iff h).mp (List.contains_iff_mem.mp hmem)
        exact hdefined tier htier hlisted hlookup
      simp only [diagnose, Exclusion.find?_eq_none_iff.mpr hexcluded, hcontains, hmissing,
        Bool.false_eq_true, if_false]

theorem map_explain_of_advice (h : (Table.build family source catalog).result = .ok table)
    {diagnosis : Option Diagnosis} {hint : Option String}
    (hadvice : Advice family source ⟨table⟩ name diagnosis hint) :
    diagnosis.map ((Resolver.mk table).explain name) = hint := by
  cases hadvice with
  | excluded => rw [Option.map_some, explain_excluded]
  | letterCase => rw [Option.map_some, explain_letterCase]
  | undefined =>
      rw [Option.map_some, explain_undefined, Resolver.family, Table.family_of_build h,
        Table.description_of_build h]
  | nothing => rfl

theorem exists_advice (family : Family) (source : Source) (resolver : Resolver) (name : String) :
    ∃ diagnosis hint, Advice family source resolver name diagnosis hint := by
  by_cases hexcluded : ∃ exclusion ∈ Exclusion.all, exclusion.name = name
  · obtain ⟨exclusion, hmem, hname⟩ := hexcluded
    exact ⟨_, _, .excluded hmem hname⟩
  by_cases hcase : name ≠ Text.upper name ∧ ∃ value, resolver.resolve (Text.upper name) = some value
  · obtain ⟨hne, value, hvalue⟩ := hcase
    exact ⟨_, _, .letterCase hne hvalue⟩
  by_cases hundefined : ∃ tier ∈ active family catalog, name ∈ tier.names ∧
      source.lookup tier.category name = none
  · obtain ⟨tier, htier, hlisted, hlookup⟩ := hundefined
    exact ⟨_, _, .undefined htier hlisted hlookup⟩
  push Not at hexcluded hcase hundefined
  exact ⟨_, _, .nothing hexcluded (fun hne => Option.eq_none_iff_forall_ne_some.mpr (hcase hne))
    hundefined⟩

/-- Exactly one piece of advice applies. -/
theorem advice_iff (h : (Table.build family source catalog).result = .ok table)
    {diagnosis : Option Diagnosis} {hint : Option String} :
    Advice family source ⟨table⟩ name diagnosis hint ↔
      diagnosis = (Resolver.mk table).diagnose name ∧
        hint = ((Resolver.mk table).diagnose name).map ((Resolver.mk table).explain name) := by
  have hdetermined : ∀ {other : Option Diagnosis} {words : Option String},
      Advice family source ⟨table⟩ name other words →
        other = (Resolver.mk table).diagnose name ∧
          words = ((Resolver.mk table).diagnose name).map
            ((Resolver.mk table).explain name) := by
    intro other words hadvice
    obtain rfl := diagnose_of_advice h hadvice
    exact ⟨rfl, (map_explain_of_advice h hadvice).symm⟩
  constructor
  · exact hdetermined
  · rintro ⟨rfl, rfl⟩
    obtain ⟨other, words, hadvice⟩ := exists_advice family source ⟨table⟩ name
    obtain ⟨rfl, rfl⟩ := hdetermined hadvice
    exact hadvice

theorem require_of_resolve_eq_none (h : (Table.build family source catalog).result = .ok table)
    (hnone : (Resolver.mk table).resolve name = none) :
    (Resolver.mk table).require name = .error (.unresolved name family.key
      (((Resolver.mk table).diagnose name).map ((Resolver.mk table).explain name))) := by
  rw [resolve, Table.valueOf, Option.map_eq_none_iff] at hnone
  rw [require, Table.get?_eq_find?, hnone, Resolver.family, Table.family_of_build h]

theorem require_of_sameLetters (h : (Table.build family source catalog).result = .ok table)
    {listed : String} {value : Int} (hvalue : (Resolver.mk table).resolve listed = some value)
    (hne : name ≠ listed) (hsame : Text.SameLetters name listed) :
    (Resolver.mk table).require name = .error (.unresolved name family.key
      (some ("Names are case-sensitive; did you mean " ++ listed ++ "?"))) := by
  have hlisted : Text.IsCapital listed := isCapital_of_resolve h (by simp [hvalue])
  have hupper : Text.upper name = listed := hlisted.upper_eq_of_sameLetters hsame
  have hnone : (Resolver.mk table).resolve name = none := by
    by_contra hsome
    exact hne ((isCapital_of_resolve h hsome).eq_of_sameLetters hlisted hsame)
  have hadvice : Advice family source ⟨table⟩ name (some (.letterCase (Text.upper name)))
      (some ("Names are case-sensitive; did you mean " ++ Text.upper name ++ "?")) :=
    .letterCase (hupper ▸ hne) (hupper ▸ hvalue)
  rw [require_of_resolve_eq_none h hnone, ← ((advice_iff h).mp hadvice).2, hupper]

/-- A name is required with success just if it has a value. Of the four things to say about a name,
exactly one applies, and that is what the failure of any other name says. A name that is suggested
has a value, and every text that differs from a name with a value in the case of ASCII letters alone
gets that name suggested. -/
theorem require_explains (family : Family) (source : Source) :
    ∃ table, (Table.build family source catalog).result = .ok table ∧
      (∀ name value, (Resolver.mk table).require name = .ok value ↔
        (Resolver.mk table).resolve name = some value) ∧
      (∀ name, ∃ diagnosis hint,
        (∀ other words, Advice family source ⟨table⟩ name other words ↔
          other = diagnosis ∧ words = hint) ∧
        ((Resolver.mk table).resolve name = none →
          (Resolver.mk table).require name = .error (.unresolved name family.key hint))) ∧
      (∀ name capitals words,
        Advice family source ⟨table⟩ name (some (.letterCase capitals)) words →
          ∃ value, (Resolver.mk table).require capitals = .ok value) ∧
      ∀ name listed value, (Resolver.mk table).resolve listed = some value → name ≠ listed →
        Text.SameLetters name listed →
          (Resolver.mk table).require name = .error (.unresolved name family.key
            (some ("Names are case-sensitive; did you mean " ++ listed ++ "?"))) := by
  obtain ⟨table, h⟩ := exists_build_catalog family source
  refine ⟨table, h, fun _ _ => require_eq_ok_iff, ?_, ?_, ?_⟩
  · intro name
    refine ⟨_, _, fun _ _ => advice_iff h, ?_⟩
    intro hnone
    exact require_of_resolve_eq_none h hnone
  · rintro name _ _ ⟨⟩
    rename_i value hcase hvalue
    exact ⟨value, require_eq_ok_iff.mpr hvalue⟩
  · intro name listed value hvalue hne hsame
    exact require_of_sameLetters h hvalue hne hsame

/-- A source that defines two of the names that are listed for Linux. -/
def twoErrors : Source := .ofValues .linux fun _ => [("ENOENT", 2), ("ESRCH", 3)]

theorem require_explains_of_two_errors :
    ∃ table, (Table.build .linux twoErrors catalog).result = .ok table ∧
      (Resolver.mk table).require "ESRCH" = .ok 3 ∧
      (Resolver.mk table).require "SO_MARK" = .error (.unresolved "SO_MARK" "linux"
        (some "SO_MARK is intentionally excluded: kernel-version-dependent socket option.")) ∧
      (Resolver.mk table).require "EPERM" = .error (.unresolved "EPERM" "linux"
        (some "EPERM is listed for Linux but linux header snapshot does not define it.")) ∧
      (Resolver.mk table).require "eNoEnt" = .error (.unresolved "eNoEnt" "linux"
        (some "Names are case-sensitive; did you mean ENOENT?")) ∧
      Advice .linux twoErrors ⟨table⟩ "e\u017Frch" (some (.letterCase "ESRCH"))
        (some ("Names are case-sensitive; did you mean " ++ "ESRCH" ++ "?")) ∧
      ∃ value, (Resolver.mk table).require "ESRCH" = .ok value := by
  obtain ⟨table, h, hrequire, hadvice, hsuggested, hsame⟩ := require_explains .linux twoErrors
  have hlisted : commonErrno ∈ active .linux catalog ∧ "EPERM" ∈ commonErrno.names ∧
      "ENOENT" ∈ commonErrno.names ∧ "ESRCH" ∈ commonErrno.names := by
    decide +kernel
  obtain ⟨htier, hpermission, hentry, hprocess⟩ := hlisted
  have hesrch : (Resolver.mk table).resolve "ESRCH" = some 3 :=
    (resolve_of_mem_names h htier hprocess).trans (by decide +kernel)
  have henoent : (Resolver.mk table).resolve "ENOENT" = some 2 :=
    (resolve_of_mem_names h htier hentry).trans (by decide +kernel)
  have hfails : ∀ {name : String} {diagnosis : Option Diagnosis} {hint : Option String},
      (Resolver.mk table).resolve name = none →
      Advice .linux twoErrors ⟨table⟩ name diagnosis hint →
      (Resolver.mk table).require name = .error (.unresolved name "linux" hint) := by
    intro name diagnosis hint hnone happlies
    obtain ⟨_, _, hunique, herror⟩ := hadvice name
    obtain ⟨rfl, rfl⟩ := (hunique _ _).mp happlies
    exact herror hnone
  have hlong : Advice .linux twoErrors ⟨table⟩ "e\u017Frch" (some (.letterCase "ESRCH"))
      (some ("Names are case-sensitive; did you mean " ++ "ESRCH" ++ "?")) := by
    have hupper : "ESRCH" = Text.upper "e\u017Frch" := by decide +kernel
    rw [hupper]
    exact .letterCase (by decide +kernel) (hupper ▸ hesrch)
  refine ⟨table, h, (hrequire _ _).mpr hesrch, ?_, ?_, ?_, hlong, hsuggested _ _ _ hlong⟩
  · have hmem : ⟨"SO_MARK", [.linux], "kernel-version-dependent socket option"⟩ ∈
        Exclusion.all := by
      decide +kernel
    apply hfails ?_ (.excluded hmem rfl)
    by_contra hsome
    obtain ⟨tier, hactive, hname⟩ := exists_tier_of_resolve h hsome
    exact excluded_notMem_names hmem (mem_catalog_of_mem_active hactive) hname
  · have hlookup : twoErrors.lookup commonErrno.category "EPERM" = none := by decide +kernel
    exact hfails ((resolve_of_mem_names h htier hpermission).trans hlookup)
      (.undefined htier hpermission hlookup)
  · exact hsame "eNoEnt" "ENOENT" 2 henoent (by decide) (by decide +kernel)

end Resolver

end HeaderConstants
