import HeaderConstants.Text.Ranges

namespace HeaderConstants.Text

/-- The blank characters: the controls that separate lines, pages and fields, the space
separators, and the line and paragraph separators. A zero-width space is not one of them. -/
def blankRanges : Ranges :=
  [(0x09, 0x0D), (0x1C, 0x20), (0x85, 0x85), (0xA0, 0xA0), (0x1680, 0x1680), (0x2000, 0x200A),
   (0x2028, 0x2029), (0x202F, 0x202F), (0x205F, 0x205F), (0x3000, 0x3000)]

/-- Whether a character counts as a blank around a text. -/
def isBlank (c : Char) : Bool := blankRanges.has c

def dropTrailingBlanks : List Char → List Char
  | [] => []
  | c :: rest =>
    match dropTrailingBlanks rest with
    | [] => if isBlank c then [] else [c]
    | kept => c :: kept

/-- A text without the blanks at its two ends. -/
def trimChars (s : List Char) : List Char := dropTrailingBlanks (s.dropWhile isBlank)

/-- A text without the blanks around it. -/
def trim (s : String) : String := String.ofList (trimChars s.toList)

theorem dropTrailingBlanks_eq_nil_iff {s : List Char} :
    dropTrailingBlanks s = [] ↔ ∀ c ∈ s, isBlank c = true := by
  induction s with
  | nil => simp [dropTrailingBlanks]
  | cons c rest ih =>
    rw [dropTrailingBlanks]
    split
    · rename_i h
      have hrest := ih.mp h
      by_cases hc : isBlank c = true
      · simpa [hc] using hrest
      · simp [hc]
    · rename_i kept h
      constructor
      · intro hnil
        cases hnil
      · intro hall
        exact absurd (ih.mpr fun d hd => hall d (by simp [hd])) h

theorem trimChars_eq_nil_iff {s : List Char} :
    trimChars s = [] ↔ ∀ c ∈ s, isBlank c = true := by
  rw [trimChars, dropTrailingBlanks_eq_nil_iff]
  constructor
  · intro h c hc
    rw [← List.takeWhile_append_dropWhile (p := isBlank) (l := s)] at hc
    rcases List.mem_append.mp hc with hc | hc
    · exact List.all_eq_true.mp List.all_takeWhile c hc
    · exact h c hc
  · intro h c hc
    exact h c (List.dropWhile_sublist isBlank |>.subset hc)

end HeaderConstants.Text
