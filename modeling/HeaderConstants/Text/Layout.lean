/-!
Texts in columns and lines. Widths count code points.
-/

namespace HeaderConstants.Text

/-- A text filled up with spaces to a width; a text that is as wide already is kept. -/
def padRight (width : Nat) (s : String) : String :=
  s ++ String.ofList (List.replicate (width - s.length) ' ')

/-- A line of one character. -/
def rule (width : Nat) (c : Char) : String := String.ofList (List.replicate width c)

def commaSeparated (items : List String) : String := ", ".intercalate items

/-- Whether `part` occurs somewhere in a text. -/
def occursIn (part : List Char) : List Char → Bool
  | [] => part.isEmpty
  | c :: rest => part.isPrefixOf (c :: rest) || occursIn part rest

/-- Whether a text holds another. -/
def contains (s part : String) : Bool := occursIn part.toList s.toList

theorem toList_padRight (width : Nat) (s : String) :
    (padRight width s).toList = s.toList ++ List.replicate (width - s.length) ' ' := by
  simp [padRight]

theorem occursIn_iff {part s : List Char} : occursIn part s = true ↔ part <:+: s := by
  induction s with
  | nil => simp [occursIn]
  | cons c rest ih =>
    rw [occursIn, Bool.or_eq_true, List.isPrefixOf_iff_prefix, ih, List.infix_cons_iff]

end HeaderConstants.Text
