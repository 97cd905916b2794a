import HeaderConstants.Logging.Severity
import HeaderConstants.Text.Layout

namespace HeaderConstants.Logging

/-- One event worth noting, by the part of the program that `logger` names. -/
structure Record where
  logger : String
  severity : Severity
  message : String
  time : String := ""
  line : Nat := 0
  deriving DecidableEq

/-- The parts that a log line is put together from. -/
inductive Piece
  | time
  | level
  | logger
  | line
  | message
  | literal (text : String)
  deriving DecidableEq

namespace Piece

/-- A piece as the text of a layout spells it. -/
def pattern : Piece → String
  | .time => "%(asctime)s"
  | .level => "%(levelname)-8s"
  | .logger => "%(name)s"
  | .line => "%(lineno)d"
  | .message => "%(message)s"
  | .literal text => text

/-- What a piece stands for in the line of a record. -/
def render (record : Record) : Piece → String
  | .time => record.time
  | .level => Text.padRight 8 record.severity.name
  | .logger => record.logger
  | .line => Text.decimal record.line
  | .message => record.message
  | .literal text => text

end Piece

/-- The pieces of a log line, from left to right. -/
abbrev Layout := List Piece

namespace Layout

def simple : Layout := [.level, .literal " ", .message]

def detailed : Layout :=
  [.time, .literal " [", .level, .literal "] ", .logger, .literal ":", .line, .literal " - ",
   .message]

/-- The layout with this name, the simple one for an unknown name. -/
def named (style : String) : Layout := if style = "detailed" then detailed else simple

def pattern (layout : Layout) : String := String.join (layout.map (·.pattern))

/-- The line of a record. -/
def render (layout : Layout) (record : Record) : String :=
  String.join (layout.map (·.render record))

end Layout

end HeaderConstants.Logging
