import HeaderConstants.Proofs.Catalog
import HeaderConstants.Resolver

namespace HeaderConstants.Resolver

open Tier

variable {family : Family} {source : Source} {table : Table}

theorem exists_build_catalog (family : Family) (source : Source) :
    ∃ table, (Table.build family source catalog).result = .ok table :=
  Table.exists_build_eq_ok_iff.mpr (separate_catalog family source)

theorem resolve_of_mem_names (h : (Table.build family source catalog).result = .ok table)
    {tier : Tier} (htier : tier ∈ active family catalog) {name : String}
    (hname : name ∈ tier.names) :
    (Resolver.mk table).resolve name = source.lookup tier.category name := by
  apply Option.ext
  intro value
  rw [resolve, Table.valueOf_of_build h]
  constructor
  · rintro ⟨other, hother, hlisted, hvalue⟩
    obtain rfl := eq_of_mem_names htier hother hname hlisted
    exact hvalue
  · intro hvalue
    exact ⟨tier, htier, hname, hvalue⟩

theorem mem_missing_iff (h : (Table.build family source catalog).result = .ok table)
    {name : String} :
    name ∈ table.missing ↔ ∃ tier ∈ active family catalog, name ∈ tier.names ∧
      source.lookup tier.category name = none := by
  rw [Table.missing_of_build h, Source.mem_lacking]
  simp only [mem_positions, and_assoc]

theorem missing_eq_nil_iff (h : (Table.build family source catalog).result = .ok table) :
    table.missing = [] ↔ ∀ tier ∈ active family catalog, ∀ name ∈ tier.names,
      (Resolver.mk table).resolve name ≠ none := by
  rw [List.eq_nil_iff_forall_not_mem]
  constructor
  · intro hmissing tier htier name hname hnone
    rw [resolve_of_mem_names h htier hname] at hnone
    exact hmissing name ((mem_missing_iff h).mpr ⟨tier, htier, hname, hnone⟩)
  · intro hall name hmem
    obtain ⟨tier, htier, hname, hnone⟩ := (mem_missing_iff h).mp hmem
    exact hall tier htier name hname ((resolve_of_mem_names h htier hname).trans hnone)

theorem exists_tier_of_resolve (h : (Table.build family source catalog).result = .ok table)
    {name : String} (hsome : (Resolver.mk table).resolve name ≠ none) :
    ∃ tier ∈ active family catalog, name ∈ tier.names := by
  obtain ⟨value, hvalue⟩ := Option.ne_none_iff_exists'.mp hsome
  obtain ⟨tier, htier, hname, -⟩ := (Table.valueOf_of_build h).mp hvalue
  exact ⟨tier, htier, hname⟩

theorem isCapital_of_resolve (h : (Table.build family source catalog).result = .ok table)
    {name : String} (hsome : (Resolver.mk table).resolve name ≠ none) : Text.IsCapital name := by
  obtain ⟨tier, htier, hlisted⟩ := exists_tier_of_resolve h hsome
  exact isCapital_of_mem_names (mem_catalog_of_mem_active htier) hlisted

theorem resolve_eq_none_of_not_isCapital
    (h : (Table.build family source catalog).result = .ok table) {name : String}
    (hname : ¬ Text.IsCapital name) : (Resolver.mk table).resolve name = none := by
  by_contra hsome
  exact hname (isCapital_of_resolve h hsome)

theorem resolve_eq_none_of_sameWord
    (h : (Table.build family source catalog).result = .ok table) {tier : Tier}
    (htier : tier ∈ catalog) {listed name : String} (hlisted : listed ∈ tier.names)
    (hne : name ≠ listed)
    (hsame : Text.plainWord name = Text.plainWord listed ∨
      Text.capitalWord name = Text.capitalWord listed) :
    (Resolver.mk table).resolve name = none := by
  by_contra hsome
  have hcapital := isCapital_of_resolve h hsome
  exact hne (hcapital.eq_of_sameWord (isCapital_of_mem_names htier hlisted) hsame)

/-- Every source gives a table of the catalogue's tiers, and a name has the value that the source
gives it under the one tier of the family that lists it. No other text has a value: not a name that
is excluded, not a listed name in another letter case or with blanks, and not the empty text. -/
theorem resolve_over_catalog (family : Family) (source : Source) :
    ∃ table, (Table.build family source catalog).result = .ok table ∧
      (∀ tier ∈ active family catalog, ∀ name ∈ tier.names,
        (∀ other ∈ active family catalog, name ∈ other.names → other = tier) ∧
          (Resolver.mk table).resolve name = source.lookup tier.category name) ∧
      (∀ name, (∀ tier ∈ active family catalog, name ∉ tier.names) →
        (Resolver.mk table).resolve name = none) ∧
      (∀ exclusion ∈ Exclusion.all, (Resolver.mk table).resolve exclusion.name = none) ∧
      (∀ tier ∈ catalog, ∀ listed ∈ tier.names, ∀ name, name ≠ listed →
        (Text.plainWord name = Text.plainWord listed ∨
          Text.capitalWord name = Text.capitalWord listed) →
        (Resolver.mk table).resolve name = none) ∧
      (Resolver.mk table).resolve "" = none := by
  obtain ⟨table, h⟩ := exists_build_catalog family source
  have hunlisted : ∀ name, (∀ tier ∈ active family catalog, name ∉ tier.names) →
      (Resolver.mk table).resolve name = none := by
    intro name hnone
    by_contra hsome
    obtain ⟨tier, htier, hname⟩ := exists_tier_of_resolve h hsome
    exact hnone tier htier hname
  refine ⟨table, h, ?_, hunlisted, ?_, ?_, ?_⟩
  · intro tier htier name hname
    exact ⟨fun other hother hlisted => eq_of_mem_names htier hother hname hlisted,
      resolve_of_mem_names h htier hname⟩
  · intro exclusion hexclusion
    exact hunlisted _ fun tier htier =>
      excluded_notMem_names hexclusion (mem_catalog_of_mem_active htier)
  · intro tier htier listed hlisted name hne hsame
    exact resolve_eq_none_of_sameWord h htier hlisted hne hsame
  · exact hunlisted _ fun tier htier hempty =>
      ne_empty_of_mem_names (mem_catalog_of_mem_active htier) hempty rfl

theorem resolve_over_catalog_of_lavish_source :
    ∃ table, (Table.build .darwin ⟨"every name", fun _ _ => some 7, none⟩ catalog).result =
        .ok table ∧
      (Resolver.mk table).resolve "ENOATTR" = some 7 ∧
      (Resolver.mk table).resolve "ECHRNG" = none ∧
      (Resolver.mk table).resolve "SO_REUSEPORT" = none ∧
      (Resolver.mk table).resolve " enoattr" = none ∧
      (Resolver.mk table).resolve "" = none := by
  obtain ⟨table, h, hlisted, hunlisted, hexcluded, hsame, hempty⟩ :=
    resolve_over_catalog .darwin ⟨"every name", fun _ _ => some 7, none⟩
  refine ⟨table, h, (hlisted darwinErrno (by decide) "ENOATTR" (by decide +kernel)).2, ?_, ?_, ?_,
    hempty⟩
  · exact hunlisted "ECHRNG" (by decide +kernel)
  · exact hexcluded ⟨"SO_REUSEPORT", [.linux, .darwin], _⟩ (List.mem_cons_self)
  · exact hsame darwinErrno (by decide) "ENOATTR" (by decide +kernel) " enoattr" (by decide)
      (.inl (by decide +kernel))

end HeaderConstants.Resolver
