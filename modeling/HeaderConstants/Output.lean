import HeaderConstants.Text.Layout
import HeaderConstants.Text.Markup

namespace HeaderConstants

inductive Justify
  | left
  | center
  | right
  deriving DecidableEq, Repr

def Justify.name : Justify → String
  | .left => "left"
  | .center => "center"
  | .right => "right"

/-- One column of a grid. -/
structure Column where
  header : String
  style : String := ""
  justify : Justify := .left
  minWidth : Option Nat := none
  deriving DecidableEq

/-- A table for a terminal that draws tables. The cells may hold style markup. -/
structure Grid where
  title : String
  columns : List Column
  rows : List (List String)
  showHeader : Bool := true
  headerStyle : String := "bold cyan"
  borderStyle : String := "dim"
  deriving DecidableEq

/-- What a terminal with styles is given to show. -/
inductive Display
  | markup (text : String)
  | grid (grid : Grid)
  deriving DecidableEq

/-- What a run shows, and where. -/
inductive Event
  | stdout (text : String)
  | stderr (text : String)
  | styled (displays : List Display)
  deriving DecidableEq

namespace Event

/-- The text for the standard output, if the event has one. -/
def stdoutText? : Event → Option String
  | .stdout text => some text
  | _ => none

def stderrText? : Event → Option String
  | .stderr text => some text
  | _ => none

def displays? : Event → Option (List Display)
  | .styled displays => some displays
  | _ => none

/-- A line of diagnostics. -/
def errorLine (text : String) : Event := .stderr (text ++ "\n")

end Event

/-- What diagnostics are shown on: a terminal that interprets style markup, or plain text. -/
inductive Terminal
  | plain
  | styled
  deriving DecidableEq, Repr

namespace Terminal

/-- Prints texts with a space between them. Where there are no styles, markup shows as it is. -/
def print (terminal : Terminal) (texts : List String) : Event :=
  match terminal with
  | .plain => .errorLine (" ".intercalate texts)
  | .styled => .styled (texts.map .markup)

/-- A text in the form in which `print` shows it literally. -/
def literal (terminal : Terminal) (text : String) : String :=
  match terminal with
  | .plain => text
  | .styled => Text.escapeMarkup text

end Terminal

end HeaderConstants
