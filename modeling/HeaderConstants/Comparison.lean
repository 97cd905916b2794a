import HeaderConstants.Source
import HeaderConstants.Tier.Catalog

namespace HeaderConstants

/-- A name to which two sources give different values. -/
structure Mismatch where
  name : String
  tier : String
  value : Int
  reference : Int
  deriving DecidableEq

/-- What comes out where one source is held against another. -/
structure Comparison where
  /-- The number of names that both define. -/
  compared : Nat
  mismatches : List Mismatch
  onlyInReference : List String
  deriving DecidableEq

namespace Comparison

/-- Whether no name has two values. -/
def agrees (comparison : Comparison) : Bool := comparison.mismatches.isEmpty

def empty : Comparison := ⟨0, [], []⟩

/-- Adds what the two sources say about one name of a tier. -/
def add (source reference : Source) (comparison : Comparison) : Tier × String → Comparison
  | (tier, name) =>
    match source.lookup tier.category name, reference.lookup tier.category name with
    | _, none => comparison
    | none, some _ =>
      { comparison with onlyInReference := comparison.onlyInReference ++ [name] }
    | some value, some expected =>
      { comparison with
        compared := comparison.compared + 1
        mismatches :=
          if value = expected then comparison.mismatches
          else comparison.mismatches ++ [⟨name, tier.name, value, expected⟩] }

/-- Compares two sources on all names that are looked up for a family. -/
def ofSources (family : Family) (source reference : Source) : Comparison :=
  (Tier.positions (Tier.active family Tier.catalog)).foldl (add source reference) empty

end Comparison

end HeaderConstants
