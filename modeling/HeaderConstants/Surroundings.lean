import HeaderConstants.Host
import HeaderConstants.Resolver
import HeaderConstants.Settings

namespace HeaderConstants

/-- What decides which constants a program sees: the machine and the environment variables. -/
structure Surroundings where
  host : Host
  settings : Settings := {}

namespace Surroundings

/-- What decides a family: that it is asked for, a setting, or else the machine. -/
inductive Origin
  | commandLine
  | environment
  | detected
  deriving DecidableEq, Repr

/-- The word by which a report names what decided. -/
def Origin.name : Origin → String
  | .commandLine => "--family"
  | .environment => Variable.family.name
  | .detected => "detected"

/-- The family that counts where none is asked for. It is looked up anew each time. -/
def activeFamily (around : Surroundings) : Except Failure Family :=
  around.settings.familyOverride.map (·.getD around.host.family)

/-- The family that is asked for, or else the active one. -/
def chooseFamily (around : Surroundings) (asked : Option Family) : Except Failure Family :=
  match asked with
  | some family => .ok family
  | none => around.activeFamily

/-- The source of a table when its caller names none. -/
def source (around : Surroundings) (family : Family) : Source :=
  .standard around.host around.host.family family

/-- A table of the catalogue's tiers, for a family and a source that default to the active family
and to its own source. -/
def build (around : Surroundings) (family : Option Family) (source : Option Source) :
    Table.Outcome :=
  match around.chooseFamily family with
  | .error failure => ⟨[], .error failure⟩
  | .ok family => Table.build family (source.getD (around.source family)) Tier.catalog

end Surroundings

end HeaderConstants
