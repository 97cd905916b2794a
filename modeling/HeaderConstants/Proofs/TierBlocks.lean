import HeaderConstants.Proofs.Scan
import Mathlib.Data.List.Basic

namespace HeaderConstants

namespace Source

/-- The constants of those names of a tier that the source defines. -/
def block (source : Source) (tier : Tier) : List Constant :=
  tier.names.filterMap fun name =>
    (source.lookup tier.category name).map fun value => ⟨name, value, tier.name, tier.category⟩

theorem map_snd_rows_positions (source : Source) (tiers : List Tier) :
    (source.rows (Tier.positions tiers)).map (·.2) = tiers.flatMap source.block := by
  rw [rows, Tier.positions, List.filterMap_flatMap, List.map_flatMap]
  apply List.flatMap_congr
  intro tier _
  rw [List.filterMap_map, List.map_filterMap, block]
  apply List.filterMap_congr
  intro name _
  simp [row?, Function.comp_def]

theorem tier_of_mem_block {source : Source} {tier : Tier} {constant : Constant}
    (h : constant ∈ source.block tier) : constant.tier = tier.name := by
  obtain ⟨name, -, hvalue⟩ := List.mem_filterMap.mp h
  obtain ⟨value, -, rfl⟩ := Option.map_eq_some_iff.mp hvalue
  rfl

theorem map_name_block (source : Source) (tier : Tier) :
    (source.block tier).map (·.name) =
      tier.names.filter fun name => (source.lookup tier.category name).isSome := by
  rw [block, List.map_filterMap, ← List.filterMap_eq_filter]
  apply List.filterMap_congr
  intro name _
  cases h : source.lookup tier.category name <;> simp [Option.guard, h]

section Filter

variable {source : Source} {tier : Tier} {tiers : List Tier} {text : String}

theorem filter_block_self (source : Source) (tier : Tier) :
    (source.block tier).filter (·.tier == tier.name) = source.block tier := by
  apply List.filter_eq_self.mpr
  intro constant hconstant
  simp [tier_of_mem_block hconstant]

theorem filter_block_of_ne (h : tier.name ≠ text) :
    (source.block tier).filter (·.tier == text) = [] := by
  apply List.filter_eq_nil_iff.mpr
  intro constant hconstant
  simpa [tier_of_mem_block hconstant] using h

theorem filter_blocks_of_notMem (h : text ∉ tiers.map (·.name)) :
    (tiers.flatMap source.block).filter (·.tier == text) = [] := by
  rw [List.filter_flatMap, List.flatMap_eq_nil_iff]
  intro tier htier
  apply filter_block_of_ne
  rintro rfl
  exact h (List.mem_map_of_mem htier)

theorem filter_blocks_of_mem (hnodup : (tiers.map (·.name)).Nodup) (htier : tier ∈ tiers) :
    (tiers.flatMap source.block).filter (·.tier == tier.name) = source.block tier := by
  induction tiers with
  | nil => cases htier
  | cons first rest ih =>
      rw [List.map_cons, List.nodup_cons] at hnodup
      rw [List.flatMap_cons, List.filter_append]
      rcases List.mem_cons.mp htier with rfl | hrest
      · rw [filter_block_self, filter_blocks_of_notMem hnodup.1, List.append_nil]
      · have hne : first.name ≠ tier.name := by
          intro heq
          exact hnodup.1 (heq ▸ List.mem_map_of_mem hrest)
        rw [filter_block_of_ne hne, ih hnodup.2 hrest, List.nil_append]

end Filter

end Source

namespace Table

variable {family : Family} {source : Source} {tiers : List Tier} {table : Table}

theorem constants_of_build (h : (build family source tiers).result = .ok table) :
    table.constants = (Tier.active family tiers).flatMap source.block := by
  rw [constants, Entries.constants, toList_entries_of_build h, Source.map_snd_rows_positions]

theorem ofTier_of_mem (h : (build family source tiers).result = .ok table)
    (hnodup : ((Tier.active family tiers).map (·.name)).Nodup) {tier : Tier}
    (htier : tier ∈ Tier.active family tiers) : table.ofTier tier.name = source.block tier := by
  rw [ofTier, constants_of_build h, Source.filter_blocks_of_mem hnodup htier]

theorem ofTier_of_notMem (h : (build family source tiers).result = .ok table) {text : String}
    (hnone : text ∉ (Tier.active family tiers).map (·.name)) : table.ofTier text = [] := by
  rw [ofTier, constants_of_build h, Source.filter_blocks_of_notMem hnone]

theorem flatMap_ofTier (h : (build family source tiers).result = .ok table)
    (hnodup : ((Tier.active family tiers).map (·.name)).Nodup) :
    ((Tier.active family tiers).flatMap fun tier => table.ofTier tier.name) =
      table.constants := by
  rw [constants_of_build h]
  apply List.flatMap_congr
  intro tier htier
  exact ofTier_of_mem h hnodup htier

theorem map_name_ofTier (h : (build family source tiers).result = .ok table)
    (hnodup : ((Tier.active family tiers).map (·.name)).Nodup) {tier : Tier}
    (htier : tier ∈ Tier.active family tiers) :
    (table.ofTier tier.name).map (·.name) =
      tier.names.filter fun name => (source.lookup tier.category name).isSome := by
  rw [ofTier_of_mem h hnodup htier, Source.map_name_block]

theorem exists_tier_of_mem_constants (h : (build family source tiers).result = .ok table)
    {constant : Constant} (hconstant : constant ∈ table.constants) :
    ∃ tier ∈ Tier.active family tiers, constant.tier = tier.name := by
  rw [constants_of_build h] at hconstant
  obtain ⟨tier, htier, hblock⟩ := List.mem_flatMap.mp hconstant
  exact ⟨tier, htier, Source.tier_of_mem_block hblock⟩

end Table

end HeaderConstants
