/-!
Style markup: a tag is an opening bracket, a small letter or one of `#`, `/`, `@`, and then
anything without an opening bracket up to the next closing bracket. Backslashes in front of a tag
escape it.
-/

namespace HeaderConstants.Text

/-- Whether a tag can begin with the character, behind its bracket. -/
def startsTag (c : Char) : Bool := ('a' ≤ c && c ≤ 'z') || c = '#' || c = '/' || c = '@'

def isBracket (c : Char) : Bool := c = '[' || c = ']'

/-- Whether an opening bracket followed by `rest` opens a tag: the first bracket after a proper
first character closes it. -/
def opensTag : List Char → Bool
  | [] => false
  | c :: rest => startsTag c && rest.find? isBracket == some ']'

/-- Changes a text so that no bracket in it opens a tag: the backslashes in front of a tag are
doubled and one more is added. The number of backslashes just passed is `run`. -/
def escapeTagsAfter (run : Nat) : List Char → List Char
  | [] => List.replicate run '\\'
  | c :: rest =>
    if c = '\\' then escapeTagsAfter (run + 1) rest
    else
      let written := if c = '[' && opensTag rest then 2 * run + 1 else run
      List.replicate written '\\' ++ c :: escapeTagsAfter 0 rest

def escapeTags (s : List Char) : List Char := escapeTagsAfter 0 s

/-- Doubles a single backslash at the very end, which would escape a tag that is put after it. -/
def closeMarkup (s : List Char) : List Char :=
  if s.getLast? = some '\\' ∧ s.dropLast.getLast? ≠ some '\\' then s ++ ['\\'] else s

/-- A text written so that it shows literally where markup is interpreted. -/
def escapeMarkup (s : String) : String := String.ofList (closeMarkup (escapeTags s.toList))

theorem toList_escapeMarkup (s : String) :
    (escapeMarkup s).toList = closeMarkup (escapeTags s.toList) := by
  simp [escapeMarkup]

end HeaderConstants.Text
