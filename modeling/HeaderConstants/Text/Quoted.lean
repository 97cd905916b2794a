import HeaderConstants.Text.Numeral
import HeaderConstants.Text.Printable

/-!
Texts between quotation marks, as error messages show them: on one line, with nothing invisible.
-/

namespace HeaderConstants.Text

/-- The mark around a text: an apostrophe, but a double quotation mark for a text that holds
apostrophes and no double quotation mark. -/
def enclosingMark (s : List Char) : Char :=
  if s.contains '\'' && !s.contains '"' then '"' else '\''

/-- One character between marks. The mark itself and the backslash follow a backslash, the common
controls have letters of their own, and any other unprintable character is written by its code
point, in as many digits as the letter after the backslash announces. -/
def quoteChar (mark c : Char) : List Char :=
  if c = mark ∨ c = '\\' then ['\\', c]
  else if c = '\n' then ['\\', 'n']
  else if c = '\r' then ['\\', 'r']
  else if c = '\t' then ['\\', 't']
  else if isPrintable c then [c]
  else if c.toNat < 0x100 then '\\' :: 'x' :: lastDigits 16 2 c.toNat
  else if c.toNat < 0x10000 then '\\' :: 'u' :: lastDigits 16 4 c.toNat
  else '\\' :: 'U' :: lastDigits 16 8 c.toNat

def quoteChars (s : List Char) : List Char :=
  enclosingMark s :: s.flatMap (quoteChar (enclosingMark s)) ++ [enclosingMark s]

/-- A text between quotation marks, with escapes for what does not show. -/
def quote (s : String) : String := String.ofList (quoteChars s.toList)

theorem toList_quote (s : String) : (quote s).toList = quoteChars s.toList := by
  simp [quote]

theorem enclosingMark_eq (s : List Char) : enclosingMark s = '"' ∨ enclosingMark s = '\'' := by
  rw [enclosingMark]
  split
  · exact .inl rfl
  · exact .inr rfl

end HeaderConstants.Text
