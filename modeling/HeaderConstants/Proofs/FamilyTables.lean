import HeaderConstants.Proofs.Answers

namespace HeaderConstants

namespace Tier

variable {family other : Family} {tiers : List Tier}

/-- The catalogue has a tier of this name for one family alone. -/
def isOwnName (family : Family) (name : String) : Bool :=
  catalog.any fun tier => tier.family == some family && tier.name == name

theorem filter_isCommon_active (family : Family) (tiers : List Tier) :
    (active family tiers).filter (·.isCommon) = tiers.filter (·.isCommon) := by
  rw [active, List.filter_filter]
  apply List.filter_congr
  intro tier _
  cases h : tier.isCommon <;> simp [appliesTo, h]

theorem active_generic_catalog : active .generic catalog = catalog.filter (·.isCommon) := rfl

theorem positions_filter (p : Tier → Bool) (tiers : List Tier) :
    positions (tiers.filter p) = (positions tiers).filter fun position => p position.1 := by
  induction tiers with
  | nil => rfl
  | cons tier rest ih =>
      have hcons : ∀ tiers : List Tier, positions (tier :: tiers) =
          tier.names.map (tier, ·) ++ positions tiers := fun _ => rfl
      cases hp : p tier with
      | true => simp [hcons, hp, ih, List.filter_map, Function.comp_def]
      | false => simp [hcons, hp, ih, List.filter_map, Function.comp_def]

theorem isCommon_eq_not_isOwnName {tier : Tier} (h : tier ∈ active family catalog) :
    tier.isCommon = !isOwnName family tier.name := by
  have hcatalog : ∀ family ∈ Family.all, ∀ tier ∈ active family catalog,
      tier.isCommon = !isOwnName family tier.name := by
    decide +kernel
  exact hcatalog family family.mem_all tier h

end Tier

namespace Table

open Tier

variable {family other : Family} {source : Source} {table counterpart : Table}

theorem toList_of_build_generic (h : (build family source catalog).result = .ok table)
    (hgeneric : (build .generic source catalog).result = .ok counterpart) :
    counterpart.entries.toList =
      table.entries.toList.filter fun row => !isOwnName family row.2.tier := by
  rw [toList_entries_of_build h, toList_entries_of_build hgeneric, active_generic_catalog,
    ← filter_isCommon_active family, positions_filter, Source.rows, Source.rows,
    List.filter_filterMap, List.filterMap_filter]
  apply List.filterMap_congr
  rintro ⟨tier, name⟩ hposition
  have hcommon := isCommon_eq_not_isOwnName (mem_positions.mp hposition).1
  rw [Source.row?, hcommon]
  cases source.lookup tier.category name <;> simp [Option.filter]

theorem find?_of_mem_names (h : (build family source catalog).result = .ok table) {tier : Tier}
    (htier : tier ∈ active family catalog) {name : String} (hname : name ∈ tier.names) :
    table.find? name = (source.lookup tier.category name).map fun value =>
      ⟨name, value, tier.name, tier.category⟩ := by
  apply Option.ext
  intro constant
  rw [find?_of_build h, Option.map_eq_some_iff]
  constructor
  · rintro ⟨owner, value, howner, hlisted, hvalue, rfl⟩
    obtain rfl := eq_of_mem_names htier howner hname hlisted
    exact ⟨value, hvalue, rfl⟩
  · rintro ⟨value, hvalue, rfl⟩
    exact ⟨tier, value, htier, hname, hvalue, rfl⟩

theorem find?_eq_of_common (h : (build family source catalog).result = .ok table)
    (hother : (build other source catalog).result = .ok counterpart) {tier : Tier}
    (htier : tier ∈ catalog) (hcommon : tier.family = none) {name : String}
    (hname : name ∈ tier.names) : counterpart.find? name = table.find? name := by
  have hactive : ∀ family, tier ∈ active family catalog := fun _ =>
    List.mem_filter.mpr ⟨htier, appliesTo_iff.mpr (.inl hcommon)⟩
  rw [find?_of_mem_names h (hactive family) hname,
    find?_of_mem_names hother (hactive other) hname]

/-- A name with a row in both tables may be listed by different tiers, but it is looked up under the
same header. -/
theorem agree_of_find? (h : (build family source catalog).result = .ok table)
    (hother : (build other source catalog).result = .ok counterpart) {name : String}
    {constant found : Constant} (hconstant : table.find? name = some constant)
    (hfound : counterpart.find? name = some found) :
    constant.value = found.value ∧ constant.category = found.category := by
  obtain ⟨tier, value, htier, hname, hvalue, rfl⟩ := (find?_of_build h).mp hconstant
  obtain ⟨owner, number, howner, hlisted, hnumber, rfl⟩ := (find?_of_build hother).mp hfound
  have hcategory : tier.category = owner.category :=
    category_eq_of_mem_names (mem_catalog_of_mem_active htier) (mem_catalog_of_mem_active howner)
      hname hlisted
  rw [hcategory] at hvalue
  exact ⟨Option.some.inj (hvalue.symm.trans hnumber), hcategory⟩

theorem find?_eq_none_of_own (hother : (build other source catalog).result = .ok counterpart)
    (hne : other ≠ family) {name : String}
    (hown : ∀ tier ∈ catalog, name ∈ tier.names → tier.family = some family) :
    counterpart.find? name = none := by
  refine Option.eq_none_iff_forall_ne_some.mpr fun constant hconstant => ?_
  obtain ⟨tier, -, htier, hname, -⟩ := (find?_of_build hother).mp hconstant
  have hfamily := hown tier (mem_catalog_of_mem_active htier) hname
  have happlies : tier.family = none ∨ tier.family = some other :=
    appliesTo_iff.mp (List.mem_filter.mp htier).2
  simp_all

/-- One source serves all families alike. A name has one value and one header wherever it is found.
Whether a name of a common tier is found does not depend on the family, and a name of one family
alone is found under no other. The rows of the generic table are those of any other, in their order,
without the rows of that family's own tiers. -/
theorem one_source_for_all (source : Source) (family other : Family) :
    ∃ table counterpart generic,
      (build family source catalog).result = .ok table ∧
      (build other source catalog).result = .ok counterpart ∧
      (build .generic source catalog).result = .ok generic ∧
      (∀ name constant found, table.find? name = some constant →
        counterpart.find? name = some found →
        constant.value = found.value ∧ constant.category = found.category) ∧
      (∀ tier ∈ catalog, tier.family = none → ∀ name ∈ tier.names,
        ((table.find? name).isSome ↔ (counterpart.find? name).isSome)) ∧
      (∀ name, (∀ tier ∈ catalog, name ∈ tier.names → tier.family = some family) →
        other ≠ family → counterpart.find? name = none) ∧
      generic.entries.toList =
        table.entries.toList.filter fun row => !isOwnName family row.2.tier := by
  obtain ⟨table, h⟩ := Resolver.exists_build_catalog family source
  obtain ⟨counterpart, hother⟩ := Resolver.exists_build_catalog other source
  obtain ⟨generic, hgeneric⟩ := Resolver.exists_build_catalog .generic source
  refine ⟨table, counterpart, generic, h, hother, hgeneric, ?_, ?_, ?_, ?_⟩
  · intro name constant found hconstant hfound
    exact agree_of_find? h hother hconstant hfound
  · intro tier htier hcommon name hname
    rw [find?_eq_of_common h hother htier hcommon hname]
  · intro name hown hne
    exact find?_eq_none_of_own hother hne hown
  · exact toList_of_build_generic h hgeneric

theorem one_source_for_all_of_lengths :
    ∃ table counterpart generic,
      (build .linux ⟨"lengths", fun _ name => some name.length, none⟩ catalog).result =
        .ok table ∧
      (build .darwin ⟨"lengths", fun _ name => some name.length, none⟩ catalog).result =
        .ok counterpart ∧
      (build .generic ⟨"lengths", fun _ name => some name.length, none⟩ catalog).result =
        .ok generic ∧
      (∃ constant found, table.find? "ENODATA" = some constant ∧
        counterpart.find? "ENODATA" = some found ∧ constant.tier ≠ found.tier ∧
        constant.value = found.value ∧ constant.category = found.category) ∧
      ((table.find? "EPERM").isSome ↔ (counterpart.find? "EPERM").isSome) ∧
      counterpart.find? "ECHRNG" = none ∧
      generic.entries.toList =
        table.entries.toList.filter fun row => !isOwnName .linux row.2.tier := by
  obtain ⟨table, counterpart, generic, h, hother, hgeneric, hagree, hcommon, hown, hrows⟩ :=
    one_source_for_all ⟨"lengths", fun _ name => some name.length, none⟩ .linux .darwin
  have hconstant : table.find? "ENODATA" = some ⟨"ENODATA", 7, "linux-errno", .errno⟩ := by
    have hlinux : linuxErrno ∈ active .linux catalog := by decide
    exact find?_of_mem_names h hlinux (by decide +kernel)
  have hfound : counterpart.find? "ENODATA" = some ⟨"ENODATA", 7, "darwin-errno", .errno⟩ := by
    have hdarwin : darwinErrno ∈ active .darwin catalog := by decide
    exact find?_of_mem_names hother hdarwin (by decide +kernel)
  refine ⟨table, counterpart, generic, h, hother, hgeneric,
    ⟨_, _, hconstant, hfound, by decide, hagree _ _ _ hconstant hfound⟩,
    hcommon commonErrno (by decide) rfl "EPERM" (by decide +kernel),
    hown "ECHRNG" (by decide +kernel) (by decide), hrows⟩

end Table

end HeaderConstants
