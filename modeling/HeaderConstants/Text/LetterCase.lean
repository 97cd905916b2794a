import HeaderConstants.Text.LetterCase.Upper
import HeaderConstants.Text.LetterCase.Lower

/-!
The full letter case mappings, one character at a time. A mapped text may be longer than the
text itself, and a character without the other case is kept.
-/

namespace HeaderConstants.Text

def upperChar (c : Char) : List Char := changeCase upperExpansions upperSpans c

/-- A capital sigma becomes the same small sigma at the end of a word as elsewhere: small forms
serve here to recognise words of unaccented Latin letters only. -/
def lowerChar (c : Char) : List Char := changeCase lowerExpansions lowerSpans c

/-- A text in capitals. Some characters become several. -/
def upper (s : String) : String := String.ofList (s.toList.flatMap upperChar)

/-- A text in small letters. -/
def lower (s : String) : String := String.ofList (s.toList.flatMap lowerChar)

theorem toList_lower (s : String) : (lower s).toList = s.toList.flatMap lowerChar := by
  simp [lower]

end HeaderConstants.Text
