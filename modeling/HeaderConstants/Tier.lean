import HeaderConstants.Family

namespace HeaderConstants

/-- A named list of constant names of one header, for one family or, without a family, for all. -/
structure Tier where
  name : String
  family : Option Family
  category : Category
  names : List String
  deriving DecidableEq

namespace Tier

/-- Whether a tier belongs to all families. -/
def isCommon (tier : Tier) : Bool := tier.family.isNone

/-- Whether the names of a tier are looked up when `family` is active. -/
def appliesTo (tier : Tier) (family : Family) : Bool :=
  tier.isCommon || tier.family == some family

def size (tier : Tier) : Nat := tier.names.length

theorem appliesTo_iff {tier : Tier} {family : Family} :
    tier.appliesTo family = true ↔ tier.family = none ∨ tier.family = some family := by
  simp [appliesTo, isCommon]

/-- The names of several tiers in the order of a scan, each with its tier. -/
def positions (tiers : List Tier) : List (Tier × String) :=
  tiers.flatMap fun tier => tier.names.map (tier, ·)

theorem mem_positions {tiers : List Tier} {tier : Tier} {name : String} :
    (tier, name) ∈ positions tiers ↔ tier ∈ tiers ∧ name ∈ tier.names := by
  simp only [positions, List.mem_flatMap, List.mem_map, Prod.mk.injEq]
  constructor
  · rintro ⟨_, ht, _, hn, rfl, rfl⟩
    exact ⟨ht, hn⟩
  · rintro ⟨ht, hn⟩
    exact ⟨tier, ht, name, hn, rfl, rfl⟩

end Tier

end HeaderConstants
