import HeaderConstants.Family
import HeaderConstants.Logging.Level
import HeaderConstants.Settings.Variable
import HeaderConstants.Text.Layout
import HeaderConstants.Text.Quoted

namespace HeaderConstants

/-- What a failure is about when its wording comes from outside this library. -/
inductive Topic
  | general
  | unknownFamily
  | configuration
  | environment
  deriving DecidableEq, Repr

/-- Why a request cannot be met, in terms that its user can act on. -/
inductive Failure
  | unresolved (name family : String) (hint : Option String)
  /-- Two tiers, or one tier twice, list the same name. -/
  | duplicate (name first second : String)
  | unknownFamily (text : String)
  | invalidLogLevel (text : String)
  /-- Styled output was asked for where it is not available. -/
  | stylesUnavailable
  | worded (topic : Topic) (message : String) (hint : Option String)
  deriving DecidableEq

namespace Failure

/-- What went wrong, as it is told. -/
def message : Failure → String
  | .unresolved name family _ =>
    Text.quote name ++ " is not defined for platform family " ++ Text.quote family ++ "."
  | .duplicate name first second =>
    Text.quote name ++ " is defined by both tier " ++ Text.quote first ++ " and tier " ++
      Text.quote second ++ "."
  | .unknownFamily text => "Unknown platform family: " ++ Text.quote text
  | .invalidLogLevel text => "Invalid " ++ Variable.logLevel.name ++ ": " ++ Text.quote text
  | .stylesUnavailable => "rich is not installed. Install with: pip install rich"
  | .worded _ message _ => message

/-- What could help, where there is something to say. -/
def hint : Failure → Option String
  | .unresolved _ _ hint => hint
  | .duplicate .. => some "Each name may appear in at most one tier per platform family."
  | .unknownFamily _ =>
    some ("Choose one of: " ++ Text.commaSeparated (Family.spellings.map (·.1)))
  | .invalidLogLevel _ =>
    some ("Choose one of: " ++ Text.commaSeparated (Logging.Level.choices.map (·.name)))
  | .stylesUnavailable => none
  | .worded _ _ hint => hint

end Failure

/-- A call that breaks the rules of the library: a mistake of the caller, not of its user. -/
inductive Misuse
  | emptyChain
  | unknownLevel (text : String)
  deriving DecidableEq, Repr

/-- What was wrong with a call. -/
def Misuse.message : Misuse → String
  | .emptyChain => "ChainedSource needs at least one source"
  | .unknownLevel text => "Invalid log level: " ++ text

end HeaderConstants
