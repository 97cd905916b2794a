import HeaderConstants.Family.Recognition

namespace HeaderConstants

/-- The values of the environment variables, none for one that is not set. -/
structure Settings where
  family : Option String := none
  logLevel : Option String := none
  deriving DecidableEq, Repr

namespace Settings

/-- The text of a variable, if it is set. -/
def value (settings : Settings) : Variable → Option String
  | .family => settings.family
  | .logLevel => settings.logLevel

/-- A variable with another text, or without one. -/
def set (settings : Settings) (value : Option String) : Variable → Settings
  | .family => { settings with family := value }
  | .logLevel => { settings with logLevel := value }

/-- The value of a variable. A blank value counts as unset. -/
def get? (settings : Settings) (v : Variable) : Option String :=
  (settings.value v).filter fun text => Text.trim text ≠ ""

/-- The family that the environment names, if it names one. -/
def familyOverride (settings : Settings) : Except Failure (Option Family) :=
  match settings.get? .family with
  | none => .ok none
  | some text => (Family.ofText text).map some

/-- The log level of the environment, or the default. -/
def logThreshold (settings : Settings) : Except Failure Logging.Level :=
  let text := (settings.get? .logLevel).getD Logging.Level.warning.name
  match Logging.Level.choices.find? (·.name == Text.capitalWord text) with
  | some level => .ok level
  | none => .error (.invalidLogLevel text)

end Settings

end HeaderConstants
