import HeaderConstants.Failure
import HeaderConstants.Text.Word

namespace HeaderConstants

namespace Family

/-- The family that a word typed by a user names, whatever its letter case. -/
def ofText? (text : String) : Option Family := spellings.lookup (Text.plainWord text)

/-- The family that a text names, or else a failure that quotes the text. -/
def ofText (text : String) : Except Failure Family :=
  match ofText? text with
  | some family => .ok family
  | none => .error (.unknownFamily text)

/-- The systems that a family is made for, by the name they report. The headers of any other
system agree with neither, so it counts as generic. -/
def systems : List (String × Family) := [("linux", .linux), ("darwin", .darwin)]

/-- The family of a system by the name that it reports. What is not known is generic. -/
def ofSystem (system : String) : Family :=
  (systems.lookup (Text.plainWord system)).getD .generic

theorem ofText_eq_ok_iff {text : String} {family : Family} :
    ofText text = .ok family ↔ ofText? text = some family := by
  cases h : ofText? text <;> simp [ofText, h]

theorem ofText_eq_error_iff {text : String} {failure : Failure} :
    ofText text = .error failure ↔ ofText? text = none ∧ failure = .unknownFamily text := by
  cases h : ofText? text <;> simp [ofText, h, eq_comm]

end Family

def systemTitle (system : String) : String :=
  if system = "Darwin" then "macOS" else if system = "" then "unknown" else system

end HeaderConstants
