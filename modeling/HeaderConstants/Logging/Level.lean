namespace HeaderConstants.Logging

/-- How severe a log record is, or from where on records are let through. -/
inductive Level
  | unset
  | debug
  | info
  | warning
  | error
  | critical
  deriving DecidableEq, Repr

namespace Level

/-- The severity that a level stands for. -/
def number : Level → Nat
  | .unset => 0
  | .debug => 10
  | .info => 20
  | .warning => 30
  | .error => 40
  | .critical => 50

def name : Level → String
  | .unset => "NOTSET"
  | .debug => "DEBUG"
  | .info => "INFO"
  | .warning => "WARNING"
  | .error => "ERROR"
  | .critical => "CRITICAL"

def all : List Level := [.unset, .debug, .info, .warning, .error, .critical]

/-- The levels a setting may name, the most talkative first. -/
def choices : List Level := [.debug, .info, .warning, .error, .critical]

/-- Every name of a level, with the two that are second names. -/
def names : List (String × Level) :=
  [("DEBUG", .debug), ("INFO", .info), ("WARN", .warning), ("WARNING", .warning),
   ("ERROR", .error), ("CRITICAL", .critical), ("FATAL", .critical), ("NOTSET", .unset)]

/-- The level of a name, in capitals. -/
def named? (name : String) : Option Level := names.lookup name

end Level

end HeaderConstants.Logging
