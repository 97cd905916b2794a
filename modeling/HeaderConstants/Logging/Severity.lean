import HeaderConstants.Logging.Level
import HeaderConstants.Text.Numeral

namespace HeaderConstants.Logging

/-- How severe a record is. A record may have any number, not only that of a level. -/
structure Severity where
  number : Int
  deriving DecidableEq, Repr

def Level.severity (level : Level) : Severity := ⟨level.number⟩

namespace Severity

/-- The name of the level with this number, or else the number itself. -/
def name (severity : Severity) : String :=
  match Level.all.find? (·.severity == severity) with
  | some level => level.name
  | none => "Level " ++ Text.decimal severity.number

end Severity

end HeaderConstants.Logging
