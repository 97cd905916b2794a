import HeaderConstants.Entries
import HeaderConstants.Exclusion
import HeaderConstants.Output
import HeaderConstants.Text.Numeral

/-!
Lists of constants and of the names left out on purpose, one row each.
-/

namespace HeaderConstants.Listing

/-- A value in decimal. A value that could be a set of flags is given in hexadecimal as well. -/
def formatValue (value : Int) : String :=
  if 0 ≤ value ∧ value < 16 then Text.decimal value
  else Text.decimal value ++ " (" ++ Text.hexadecimal value ++ ")"

def families (exclusion : Exclusion) : String :=
  Text.commaSeparated (exclusion.families.map (·.key))

/-- The columns of a constant where there are no styles. -/
def constantLine (constant : Constant) : String :=
  Text.padRight 20 constant.name ++ " " ++ Text.padRight 22 (formatValue constant.value) ++ " " ++
    constant.tier

/-- Constants as a terminal with styles draws them. -/
def constantGrid (title : String) (constants : List Constant) : Grid where
  title := title
  columns :=
    [{ header := "Name", style := "bold", minWidth := some 16 },
     { header := "Value", justify := .right, minWidth := some 8 },
     { header := "Tier", minWidth := some 12 }]
  rows := constants.map fun constant => [constant.name, formatValue constant.value, constant.tier]

def count (constants : List Constant) : String :=
  Text.decimal constants.length ++ " constant(s)"

/-- A title, a row for each constant, and their number. -/
def showConstants (terminal : Terminal) (title : String) (constants : List Constant) :
    List Event :=
  match terminal with
  | .plain =>
    [.errorLine ("\n" ++ title), .errorLine (Text.rule 64 '-')] ++
      constants.map (fun constant => .errorLine (constantLine constant)) ++
      [.errorLine (count constants)]
  | .styled =>
    [.styled [.grid (constantGrid title constants)],
     terminal.print ["[dim]" ++ count constants ++ "[/dim]"]]

def exclusionLine (exclusion : Exclusion) : String :=
  Text.padRight 16 exclusion.name ++ " " ++ Text.padRight 16 (families exclusion) ++ " " ++
    exclusion.reason

def exclusionGrid (exclusions : List Exclusion) : Grid where
  title := "Known gaps"
  columns :=
    [{ header := "Name", style := "bold", minWidth := some 14 },
     { header := "Families", minWidth := some 12 },
     { header := "Reason" }]
  rows := exclusions.map fun exclusion =>
    [exclusion.name, families exclusion, exclusion.reason]

/-- A title and a row for each name left out on purpose. -/
def showExclusions (terminal : Terminal) (exclusions : List Exclusion) : List Event :=
  match terminal with
  | .plain =>
    [.errorLine "\nKnown gaps", .errorLine (Text.rule 64 '-')] ++
      exclusions.map fun exclusion => .errorLine (exclusionLine exclusion)
  | .styled => [.styled [.grid (exclusionGrid exclusions)]]

end HeaderConstants.Listing
