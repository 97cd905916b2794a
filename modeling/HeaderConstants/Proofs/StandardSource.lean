import HeaderConstants.Host.Reference
import HeaderConstants.Proofs.Answers
import HeaderConstants.Surroundings

namespace HeaderConstants

/-- A module exports the integer under the name, as a plain number or as a member of an enumeration
of integers. -/
def Exports.HasInteger (exports : Exports) (name : String) (value : Int) : Prop :=
  exports.lookup name = some (.integer value) ∨ exports.lookup name = some (.member value)

theorem Exports.constant?_eq_some_iff {exports : Exports} {name : String} {value : Int}
    (hname : name ≠ "") :
    exports.constant? name = some value ↔ exports.HasInteger name value := by
  rw [constant?, if_neg hname, HasInteger, Option.bind_eq_some_iff]
  constructor
  · rintro ⟨exported, hexported, hvalue⟩
    cases exported with
    | integer number =>
        obtain rfl : number = value := Option.some.inj hvalue
        exact .inl hexported
    | member number =>
        obtain rfl : number = value := Option.some.inj hvalue
        exact .inr hexported
    | truth _ => nomatch hvalue
    | other => nomatch hvalue
  · rintro (hexported | hexported)
    · exact ⟨_, hexported, rfl⟩
    · exact ⟨_, hexported, rfl⟩

theorem Exports.constant?_eq_none_iff {exports : Exports} {name : String} (hname : name ≠ "") :
    exports.constant? name = none ↔ ∀ value, ¬ exports.HasInteger name value := by
  rw [Option.eq_none_iff_forall_ne_some]
  exact forall_congr' fun _ => not_congr (constant?_eq_some_iff hname)

theorem Source.lookup_standard_self (host : Host) {family : Family} (h : family ≠ .generic)
    (category : Category) (name : String) :
    (standard host family family).lookup category name =
      ((host.exports category).constant? name).or
        ((Snapshot.values family category).lookup name) := by
  rw [standard_self host h, lookup_chain_pair]
  rfl

namespace Surroundings

open Tier

variable {around other : Surroundings} {family : Family} {table : Table}

theorem build_some_none (around : Surroundings) (family : Family) :
    around.build (some family) none = Table.build family (around.source family) catalog := rfl

theorem resolve_of_mem_names (h : (around.build (some family) none).result = .ok table)
    {tier : Tier} (htier : tier ∈ active family catalog) {name : String}
    (hname : name ∈ tier.names) :
    (Resolver.mk table).resolve name = (around.source family).lookup tier.category name := by
  rw [build_some_none] at h
  exact Resolver.resolve_of_mem_names h htier hname

theorem resolve_of_own_system (h : (around.build (some family) none).result = .ok table)
    (hsnapshot : family ≠ .generic) (hown : around.host.family = family) {tier : Tier}
    (htier : tier ∈ active family catalog) {name : String} (hname : name ∈ tier.names) :
    (∀ value, (around.host.exports tier.category).HasInteger name value →
        (Resolver.mk table).resolve name = some value) ∧
      ((∀ value, ¬ (around.host.exports tier.category).HasInteger name value) →
        ∃ value, (Snapshot.values family tier.category).lookup name = some value ∧
          (Resolver.mk table).resolve name = some value) := by
  have hne := ne_empty_of_mem_names (mem_catalog_of_mem_active htier) hname
  have hresolve := resolve_of_mem_names h htier hname
  rw [source, hown, Source.lookup_standard_self around.host hsnapshot] at hresolve
  constructor
  · intro value hvalue
    rw [hresolve, (Exports.constant?_eq_some_iff hne).mpr hvalue, Option.some_or]
  · intro hnone
    obtain ⟨value, hvalue⟩ := Option.isSome_iff_exists.mp
      (Snapshot.isSome_lookup hsnapshot htier hname)
    have hexports := (Exports.constant?_eq_none_iff hne).mpr hnone
    exact ⟨value, hvalue, by rw [hresolve, hexports, Option.none_or, hvalue]⟩

theorem missing_eq_nil_of_own_system
    (h : (around.build (some family) none).result = .ok table)
    (hsnapshot : family ≠ .generic) (hown : around.host.family = family) :
    table.missing = [] := by
  rw [build_some_none] at h
  apply (Resolver.missing_eq_nil_iff h).mpr
  intro tier htier name hname hnone
  obtain ⟨hinteger, hrest⟩ := resolve_of_own_system h hsnapshot hown htier hname
  by_cases hvalue : ∃ value, (around.host.exports tier.category).HasInteger name value
  · obtain ⟨value, hvalue⟩ := hvalue
    exact nomatch hnone.symm.trans (hinteger value hvalue)
  · obtain ⟨value, -, hvalue⟩ := hrest (not_exists.mp hvalue)
    exact nomatch hnone.symm.trans hvalue

theorem source_of_other_system (hsnapshot : family ≠ .generic)
    (hother : around.host.family ≠ family) : around.source family = .snapshot family :=
  Source.standard_other around.host hsnapshot (Ne.symm hother)

theorem build_eq_of_other_system (hsnapshot : family ≠ .generic)
    (haround : around.host.family ≠ family) (hother : other.host.family ≠ family) :
    other.build (some family) none = around.build (some family) none := by
  rw [build_some_none, build_some_none, source_of_other_system hsnapshot haround,
    source_of_other_system hsnapshot hother]

theorem resolve_of_other_system (h : (around.build (some family) none).result = .ok table)
    (hsnapshot : family ≠ .generic) (hother : around.host.family ≠ family) {tier : Tier}
    (htier : tier ∈ active family catalog) {name : String} (hname : name ∈ tier.names) :
    ∃ value, (Snapshot.values family tier.category).lookup name = some value ∧
      (Resolver.mk table).resolve name = some value := by
  obtain ⟨value, hvalue⟩ := Option.isSome_iff_exists.mp
    (Snapshot.isSome_lookup hsnapshot htier hname)
  refine ⟨value, hvalue, ?_⟩
  rw [resolve_of_mem_names h htier hname, source_of_other_system hsnapshot hother]
  exact hvalue

theorem missing_eq_nil (h : (around.build (some family) none).result = .ok table)
    (hsnapshot : family ≠ .generic) : table.missing = [] := by
  by_cases hown : around.host.family = family
  · exact missing_eq_nil_of_own_system h hsnapshot hown
  · apply (Resolver.missing_eq_nil_iff (build_some_none around family ▸ h)).mpr
    intro tier htier name hname hnone
    obtain ⟨value, -, hvalue⟩ := resolve_of_other_system h hsnapshot hown htier hname
    exact nomatch hnone.symm.trans hvalue

theorem mem_active_generic_iff {tier : Tier} :
    tier ∈ active .generic catalog ↔ tier ∈ catalog ∧ tier.family = none := by
  have hcatalog : ∀ tier ∈ catalog, tier.family ≠ some .generic := by decide
  rw [active, List.mem_filter, appliesTo_iff]
  constructor
  · rintro ⟨htier, hcommon | hgeneric⟩
    · exact ⟨htier, hcommon⟩
    · exact absurd hgeneric (hcatalog tier htier)
  · rintro ⟨htier, hcommon⟩
    exact ⟨htier, .inl hcommon⟩

theorem resolve_generic_eq_some_iff
    (h : (around.build (some .generic) none).result = .ok table) {name : String} {value : Int} :
    (Resolver.mk table).resolve name = some value ↔
      ∃ tier ∈ catalog, tier.family = none ∧ name ∈ tier.names ∧
        (around.host.exports tier.category).HasInteger name value := by
  rw [build_some_none] at h
  rw [Resolver.resolve, Table.valueOf_of_build h]
  constructor
  · rintro ⟨tier, htier, hname, hvalue⟩
    obtain ⟨hlisted, hcommon⟩ := mem_active_generic_iff.mp htier
    exact ⟨tier, hlisted, hcommon, hname,
      (Exports.constant?_eq_some_iff (ne_empty_of_mem_names hlisted hname)).mp hvalue⟩
  · rintro ⟨tier, hlisted, hcommon, hname, hvalue⟩
    exact ⟨tier, mem_active_generic_iff.mpr ⟨hlisted, hcommon⟩, hname,
      (Exports.constant?_eq_some_iff (ne_empty_of_mem_names hlisted hname)).mpr hvalue⟩

/-- The values of the tables that are built without a source, on any machine. On its own system,
every listed name of a family with a snapshot has the integer that the host exports under it, and
the snapshot's value where the host exports none. On another system it has the snapshot's value,
and the table is the same on all such systems. The generic family has the integers of the host that
common tiers list, and nothing else. -/
theorem values_without_source (around : Surroundings) :
    (∀ family, family ≠ .generic → around.host.family = family →
      ∃ table, (around.build (some family) none).result = .ok table ∧ table.missing = [] ∧
        ∀ tier ∈ active family catalog, ∀ name ∈ tier.names,
          (∀ value, (around.host.exports tier.category).HasInteger name value →
            (Resolver.mk table).resolve name = some value) ∧
          ((∀ value, ¬ (around.host.exports tier.category).HasInteger name value) →
            ∃ value, (Snapshot.values family tier.category).lookup name = some value ∧
              (Resolver.mk table).resolve name = some value)) ∧
    (∀ family, family ≠ .generic → around.host.family ≠ family →
      (∀ other : Surroundings, other.host.family ≠ family →
        other.build (some family) none = around.build (some family) none) ∧
      ∃ table, (around.build (some family) none).result = .ok table ∧
        ∀ tier ∈ active family catalog, ∀ name ∈ tier.names,
          ∃ value, (Snapshot.values family tier.category).lookup name = some value ∧
            (Resolver.mk table).resolve name = some value) ∧
    ∃ table, (around.build (some .generic) none).result = .ok table ∧
      ∀ name value, (Resolver.mk table).resolve name = some value ↔
        ∃ tier ∈ catalog, tier.family = none ∧ name ∈ tier.names ∧
          (around.host.exports tier.category).HasInteger name value := by
  have hbuild : ∀ family, ∃ table, (around.build (some family) none).result = .ok table :=
    fun family => Resolver.exists_build_catalog family (around.source family)
  refine ⟨?_, ?_, ?_⟩
  · intro family hsnapshot hown
    obtain ⟨table, h⟩ := hbuild family
    refine ⟨table, h, missing_eq_nil_of_own_system h hsnapshot hown, ?_⟩
    intro tier htier name hname
    exact resolve_of_own_system h hsnapshot hown htier hname
  · intro family hsnapshot hother
    refine ⟨fun other => build_eq_of_other_system hsnapshot hother, ?_⟩
    obtain ⟨table, h⟩ := hbuild family
    refine ⟨table, h, ?_⟩
    intro tier htier name hname
    exact resolve_of_other_system h hsnapshot hother htier hname
  · obtain ⟨table, h⟩ := hbuild .generic
    exact ⟨table, h, fun name value => resolve_generic_eq_some_iff h⟩

/-- A Linux machine that exports three error numbers, one of them under a truth value. -/
def sparse : Surroundings where
  host :=
    { Host.reference with
      exports := fun
        | .errno => [("EPERM", .integer 99), ("ENOENT", .member (-2)), ("EIO", .truth true)]
        | .socket => [] }

theorem values_without_source_of_sparse :
    (∃ table, (sparse.build (some .linux) none).result = .ok table ∧ table.missing = [] ∧
      (Resolver.mk table).resolve "EPERM" = some 99 ∧
      (Resolver.mk table).resolve "ENOENT" = some (-2) ∧
      (Resolver.mk table).resolve "EIO" = some 5) ∧
    (∃ table, (sparse.build (some .darwin) none).result = .ok table ∧
      (Resolver.mk table).resolve "EPERM" = some 1) ∧
    ∃ table, (sparse.build (some .generic) none).result = .ok table ∧
      (Resolver.mk table).resolve "ENOENT" = some (-2) ∧
      (Resolver.mk table).resolve "EIO" = none := by
  obtain ⟨hown, hother, hgeneric⟩ := values_without_source sparse
  have htruth : ∀ value, ¬ (sparse.host.exports .errno).HasInteger "EIO" value := by
    have hexported : (sparse.host.exports .errno).lookup "EIO" = some (.truth true) := by
      decide +kernel
    rintro value (hvalue | hvalue) <;> exact nomatch hexported.symm.trans hvalue
  refine ⟨?_, ?_, ?_⟩
  · obtain ⟨table, h, hmissing, hlisted⟩ := hown .linux (by decide) (by decide +kernel)
    have hcommon := hlisted commonErrno (by decide)
    refine ⟨table, h, hmissing, ?_, ?_, ?_⟩
    · exact (hcommon "EPERM" (by decide +kernel)).1 99 (.inl (by decide +kernel))
    · exact (hcommon "ENOENT" (by decide +kernel)).1 (-2) (.inr (by decide +kernel))
    · obtain ⟨value, hvalue, hresolve⟩ := (hcommon "EIO" (by decide +kernel)).2 htruth
      have hfive : (Snapshot.values .linux .errno).lookup "EIO" = some 5 := by decide +kernel
      exact hresolve.trans (hvalue.symm.trans hfive)
  · obtain ⟨-, table, h, hlisted⟩ := hother .darwin (by decide) (by decide +kernel)
    obtain ⟨value, hvalue, hresolve⟩ :=
      hlisted commonErrno (by decide) "EPERM" (by decide +kernel)
    have hone : (Snapshot.values .darwin .errno).lookup "EPERM" = some 1 := by decide +kernel
    exact ⟨table, h, hresolve.trans (hvalue.symm.trans hone)⟩
  · obtain ⟨table, h, hresolve⟩ := hgeneric
    refine ⟨table, h, (hresolve "ENOENT" (-2)).mpr ?_, ?_⟩
    · exact ⟨commonErrno, by decide, rfl, by decide +kernel, .inr (by decide +kernel)⟩
    · refine Option.eq_none_iff_forall_ne_some.mpr fun value hvalue => ?_
      obtain ⟨tier, htier, hcommon, hname, hinteger⟩ := (hresolve "EIO" value).mp hvalue
      have hcategory : tier.category = .errno := by
        rw [eq_of_mem_names (mem_active_generic_iff.mpr ⟨by decide, rfl⟩)
          (mem_active_generic_iff.mpr ⟨htier, hcommon⟩)
          (show "EIO" ∈ commonErrno.names by decide +kernel) hname]
        rfl
      rw [hcategory] at hinteger
      exact htruth value hinteger

end Surroundings

end HeaderConstants
