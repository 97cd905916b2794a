import HeaderConstants.Text.Blank
import HeaderConstants.Text.LetterCase

namespace HeaderConstants.Text

/-- The form in which a word from outside is compared with the words of a list: small letters, no
blanks at the ends. -/
def plainWord (text : String) : String := lower (trim text)

/-- The same in capitals. -/
def capitalWord (text : String) : String := upper (trim text)

end HeaderConstants.Text
