import HeaderConstants.Failure
import HeaderConstants.Logging.Layout
import HeaderConstants.Text.LetterCase

namespace HeaderConstants

/-- Where log lines go to: records from a level on, in a layout. -/
structure Logging.Handler where
  level : Logging.Level
  layout : Logging.Layout
  deriving DecidableEq

/-- The state of the package's logger. -/
structure Logging where
  level : Logging.Level
  handlers : List Logging.Handler
  /-- Whether records go on to the root logger, which has no handler of its own. -/
  propagates : Bool
  deriving DecidableEq

namespace Logging

/-- What a setup of the log asks for. The level only counts where both switches are off. -/
structure Request where
  level : String := "WARNING"
  quiet : Bool := false
  verbose : Bool := false
  style : String := "simple"

/-- The logger before any setup. -/
def initial : Logging where
  level := .unset
  handlers := []
  propagates := true

def rootLevel : Level := .warning

/-- The level that the two switches ask for, if one of them is on. To be quiet wins. -/
def switchedLevel? (quiet verbose : Bool) : Option Level :=
  if quiet then some .error else if verbose then some .debug else none

/-- The level that a request comes to, unless it names one that does not exist. -/
def Request.threshold (request : Request) : Except Misuse Level :=
  match switchedLevel? request.quiet request.verbose, Level.named? (Text.upper request.level) with
  | some level, _ => .ok level
  | none, some level => .ok level
  | none, none => .error (.unknownLevel request.level)

def removeHandler (logging : Logging) (handler : Handler) : Logging :=
  { logging with handlers := logging.handlers.erase handler }

/-- The logger with one more handler, unless it has that one. -/
def addHandler (logging : Logging) (handler : Handler) : Logging :=
  if handler ∈ logging.handlers then logging
  else { logging with handlers := logging.handlers ++ [handler] }

/-- A setup takes all handlers away and adds one of its own, which shares the logger's new level,
and it cuts the logger off from the root logger. A request that is refused changes nothing. -/
def setUp (request : Request) (previous : Logging := .initial) : Except Misuse Logging :=
  request.threshold.map fun level =>
    let cleared := previous.handlers.foldl removeHandler previous
    let handling := addHandler { cleared with level := level } ⟨level, Layout.named request.style⟩
    { handling with propagates := false }

/-- The logger with one handler of the given level, cut off from the root logger. -/
def withHandler (level : Level) (layout : Layout) : Logging where
  level := level
  handlers := [⟨level, layout⟩]
  propagates := false

/-- The level from which records are let through; without one of its own, that of the root. -/
def threshold (logging : Logging) : Level :=
  if logging.level = .unset then rootLevel else logging.level

/-- The lines for a record that reaches handlers. Where there is no handler at all, the bare
messages of the more severe records are written. -/
def handled (handlers : List Handler) (record : Record) : List String :=
  if handlers.isEmpty then
    if rootLevel.number ≤ record.severity.number then [record.message] else []
  else
    (handlers.filter (·.level.number ≤ record.severity.number)).map (·.layout.render record)

/-- Whether the logger takes a record, before its handlers do. -/
def passes (logging : Logging) (severity : Severity) : Bool :=
  logging.threshold.number ≤ severity.number

/-- The lines that a record of the package is written as. -/
def lines (logging : Logging) (record : Record) : List String :=
  if logging.passes record.severity then handled logging.handlers record else []

theorem foldl_removeHandler {handlers : List Handler} {logging : Logging}
    (h : logging.handlers = handlers) :
    handlers.foldl removeHandler logging = { logging with handlers := [] } := by
  induction handlers generalizing logging with
  | nil => rw [List.foldl_nil, ← h]
  | cons handler rest ih =>
    have hrest : (logging.removeHandler handler).handlers = rest := by simp [removeHandler, h]
    rw [List.foldl_cons, ih hrest]
    rfl

/-- Whatever handlers there were before, a setup leaves the one that it adds. -/
theorem setUp_eq_ok_iff {request : Request} {previous logging : Logging} :
    setUp request previous = .ok logging ↔
      ∃ level, request.threshold = .ok level ∧
        logging = withHandler level (Layout.named request.style) := by
  rw [setUp, foldl_removeHandler rfl]
  cases request.threshold with
  | error misuse => simp [Except.map]
  | ok level => simp [Except.map, addHandler, withHandler, eq_comm]

end Logging

/-- The package's name, which the names of its loggers begin with. -/
def Logging.package : String := "platconst"

/-- The full name of a logger below the package. -/
def Logging.loggerName (logger : String) : String := package ++ "." ++ logger

end HeaderConstants
