import HeaderConstants.Proofs.Sameness
import HeaderConstants.Proofs.Scan

namespace HeaderConstants

section Positions

variable {positions others : List (Tier × String)}

theorem Tier.perm_positions_active {tiers permuted : List Tier} (h : tiers.Perm permuted)
    (family : Family) :
    (Tier.positions (active family tiers)).Perm (Tier.positions (active family permuted)) :=
  (h.filter _).flatMap_right _

theorem Source.perm_rows (source : Source) (h : positions.Perm others) :
    (source.rows positions).Perm (source.rows others) :=
  h.filterMap _

theorem Source.perm_lacking (source : Source) (h : positions.Perm others) :
    (source.lacking positions).Perm (source.lacking others) :=
  (h.filter _).map _

end Positions

namespace Table

variable {family : Family} {source : Source} {tiers others : List Tier} {table other : Table}

theorem perm_entries_of_perm (hperm : tiers.Perm others)
    (h : (build family source tiers).result = .ok table)
    (hother : (build family source others).result = .ok other) :
    table.entries.toList.Perm other.entries.toList := by
  rw [toList_entries_of_build h, toList_entries_of_build hother]
  exact source.perm_rows (Tier.perm_positions_active hperm family)

theorem perm_missing_of_perm (hperm : tiers.Perm others)
    (h : (build family source tiers).result = .ok table)
    (hother : (build family source others).result = .ok other) :
    table.missing.Perm other.missing := by
  rw [missing_of_build h, missing_of_build hother]
  exact source.perm_lacking (Tier.perm_positions_active hperm family)

/-- Two builds over the same tiers in different orders, if both go through, give the same table, in
which every name has the same value, tier and header. Their missing names are the same in some
order, each as often. -/
theorem same_table_in_any_order (hperm : tiers.Perm others)
    (h : (build family source tiers).result = .ok table)
    (hother : (build family source others).result = .ok other) :
    table.sameAs other = true ∧ (∀ name, table.find? name = other.find? name) ∧
      table.missing.Perm other.missing := by
  have hfind : ∀ name, table.find? name = other.find? name := fun name =>
    Entries.find?_eq_of_perm (perm_entries_of_perm hperm h hother) name
  exact ⟨sameAs_iff.mpr hfind, hfind, perm_missing_of_perm hperm h hother⟩

/-- A name that is missing under the first tier and has a value under the second. -/
def errnoFirst : List Tier :=
  [⟨"numbers", none, .errno, ["X", "Z"]⟩, ⟨"options", none, .socket, ["W", "X"]⟩,
    ⟨"own", some .linux, .errno, ["Y", "W"]⟩]

/-- Tiers of one family in front of the common ones. -/
def ownFirst : List Tier :=
  [⟨"own", some .linux, .errno, ["Y", "W"]⟩, ⟨"numbers", none, .errno, ["X", "Z"]⟩,
    ⟨"options", none, .socket, ["W", "X"]⟩]

def twoValues : Source := .ofValues .linux fun | .errno => [("Y", 0)] | .socket => [("X", -7)]

theorem same_table_in_any_order_of_own_first :
    errnoFirst.Perm ownFirst ∧
    ∃ table other, (build .linux twoValues errnoFirst).result = .ok table ∧
      (build .linux twoValues ownFirst).result = .ok other ∧
      table.names ≠ other.names ∧ table.missing ≠ other.missing ∧
      table.sameAs other = true ∧ (∀ name, table.find? name = other.find? name) ∧
      table.missing.Perm other.missing := by
  have hperm : errnoFirst.Perm ownFirst := by decide
  have h : (build .linux twoValues errnoFirst).result = .ok _ := rfl
  have hother : (build .linux twoValues ownFirst).result = .ok _ := rfl
  exact ⟨hperm, _, _, h, hother, by decide, by decide, same_table_in_any_order hperm h hother⟩

end Table

end HeaderConstants
