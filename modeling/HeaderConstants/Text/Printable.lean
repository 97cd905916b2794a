import HeaderConstants.Text.Printable.Ranges

namespace HeaderConstants.Text

/-- Whether a quoted text shows a character as it is. -/
def isPrintable (c : Char) : Bool := !unprintableRanges.has c

end HeaderConstants.Text
