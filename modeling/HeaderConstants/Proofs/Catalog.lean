import HeaderConstants.Exclusion
import HeaderConstants.Proofs.Scan
import HeaderConstants.Proofs.Spelling
import HeaderConstants.Snapshot
import Mathlib.Data.List.Nodup
import Mathlib.Data.List.Pairwise

namespace HeaderConstants

namespace Tier

theorem nodup_names : ∀ tier ∈ catalog, tier.names.Nodup := by
  have hnumbers : ∀ tier ∈ catalog, (tier.names.map Text.number).Nodup := by decide +kernel
  intro tier hmem
  exact (hnumbers tier hmem).of_map

theorem disjoint_names : catalog.Pairwise fun tier other =>
    (∃ family ∈ Family.all, tier.appliesTo family ∧ other.appliesTo family) →
      ∀ name ∈ tier.names, name ∉ other.names := by
  have hnumbers : catalog.Pairwise fun tier other =>
      (∃ family ∈ Family.all, tier.appliesTo family ∧ other.appliesTo family) →
        ∀ name ∈ tier.names, Text.number name ∉ other.names.map Text.number := by
    decide +kernel
  refine hnumbers.imp fun hdisjoint happlies name hname hother => ?_
  exact hdisjoint happlies name hname (Text.mem_map_number_iff.mpr hother)

theorem isCapital_of_mem_names {tier : Tier} (htier : tier ∈ catalog) {name : String}
    (hname : name ∈ tier.names) : Text.IsCapital name := by
  -- With `∀ byte ∈ Text.bytes name`, the test would run through every value that a byte can have.
  have hbytes : ∀ tier ∈ catalog, ∀ name ∈ tier.names,
      (Text.bytes name).all (Text.isCapitalCode ·.toNat) = true := by
    decide +kernel
  exact Text.isCapital_of_bytes (List.all_eq_true.mp (hbytes tier htier name hname))

theorem ne_empty_of_mem_names {tier : Tier} (htier : tier ∈ catalog) {name : String}
    (hname : name ∈ tier.names) : name ≠ "" := by
  have hempty : ∀ tier ∈ catalog, Text.number "" ∉ tier.names.map Text.number := by decide +kernel
  rintro rfl
  exact hempty tier htier (Text.mem_map_number_iff.mpr hname)

theorem excluded_notMem_names {exclusion : Exclusion} (h : exclusion ∈ Exclusion.all)
    {tier : Tier} (htier : tier ∈ catalog) : exclusion.name ∉ tier.names := by
  have hnumbers : ∀ exclusion ∈ Exclusion.all, ∀ tier ∈ catalog,
      Text.number exclusion.name ∉ tier.names.map Text.number := by
    decide +kernel
  exact fun hname => hnumbers exclusion h tier htier (Text.mem_map_number_iff.mpr hname)

theorem mem_catalog_of_mem_active {family : Family} {tier : Tier}
    (h : tier ∈ active family catalog) : tier ∈ catalog :=
  List.mem_of_mem_filter h

theorem disjoint_active (family : Family) :
    (active family catalog).Pairwise fun tier other => ∀ name ∈ tier.names, name ∉ other.names := by
  refine List.pairwise_filter.mpr (disjoint_names.imp fun hdisjoint htier hother => ?_)
  exact hdisjoint ⟨family, family.mem_all, htier, hother⟩

theorem eq_of_mem_names {family : Family} {tier other : Tier}
    (htier : tier ∈ active family catalog) (hother : other ∈ active family catalog)
    {name : String} (hname : name ∈ tier.names) (hname' : name ∈ other.names) : other = tier := by
  by_contra hne
  have : Std.Symm fun tier other : Tier => ∀ name ∈ tier.names, name ∉ other.names :=
    ⟨fun _ _ hdisjoint name hname hother => hdisjoint name hother hname⟩
  exact (disjoint_active family).forall htier hother (Ne.symm hne) name hname hname'

theorem category_eq_of_mem_names {tier other : Tier} (htier : tier ∈ catalog)
    (hother : other ∈ catalog) {name : String} (hname : name ∈ tier.names)
    (hname' : name ∈ other.names) : tier.category = other.category := by
  have hletter : ∀ tier ∈ catalog, ∀ name ∈ tier.names, tier.category =
      if (Text.bytes name).head? = some 'E'.toUInt8 then .errno else .socket := by
    decide +kernel
  rw [hletter tier htier name hname, hletter other hother name hname']

theorem separate_catalog (family : Family) (source : Source) :
    Separate source (active family catalog) where
  nodup tier htier := nodup_names tier (mem_catalog_of_mem_active htier)
  undefined := (disjoint_active family).imp fun hdisjoint name hname hother =>
    absurd hother (hdisjoint name hname)

end Tier

theorem Snapshot.isSome_lookup {family : Family} (h : family ≠ .generic) {tier : Tier}
    (htier : tier ∈ Tier.active family Tier.catalog) {name : String} (hname : name ∈ tier.names) :
    ((Snapshot.values family tier.category).lookup name).isSome := by
  have hnumbers : ∀ family ∈ [Family.linux, Family.darwin],
      ∀ tier ∈ Tier.active family Tier.catalog, ∀ name ∈ tier.names,
        Text.number name ∈
          ((Snapshot.values family tier.category).map (·.1)).map Text.number := by
    decide +kernel
  have hfamily : family ∈ [Family.linux, Family.darwin] := by
    cases family <;> simp_all
  have hkey := Text.mem_map_number_iff.mp (hnumbers family hfamily tier htier name hname)
  obtain ⟨row, hrow, rfl⟩ := List.mem_map.mp hkey
  exact List.lookup_isSome_iff.mpr ⟨row, hrow, by simp⟩

end HeaderConstants
