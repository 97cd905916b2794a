import HeaderConstants.Listing
import HeaderConstants.Proofs.Assignments
import HeaderConstants.Text.Blank

namespace HeaderConstants

namespace Text

variable {s : List Char} {c : Char}

/-- The words of a text, which blanks divide. -/
def words (s : List Char) : List (List Char) := (s.splitOnP isBlank).filter (· ≠ [])

/-- Characters without blanks, and at least one. -/
structure IsWord (s : List Char) : Prop where
  filled : s ≠ []
  solid : ∀ c ∈ s, isBlank c = false

instance : Decidable (IsWord s) :=
  decidable_of_iff (s ≠ [] ∧ (s.all fun c => !isBlank c) = true)
    ⟨fun h => ⟨h.1, by simpa using h.2⟩, fun h => ⟨h.filled, by simpa using h.solid⟩⟩

theorem words_append_cons (hc : isBlank c = true) (s rest : List Char) :
    words (s ++ c :: rest) = words s ++ words rest := by
  rw [words, List.splitOnP_append_cons _ _ hc, List.filter_append, words, words]

theorem words_replicate_append (n : Nat) (rest : List Char) :
    words (List.replicate n ' ' ++ rest) = words rest := by
  induction n with
  | zero => rfl
  | succ n ih =>
      have hcons := words_append_cons (c := ' ') (by decide) []
      rw [List.replicate_succ, List.cons_append, ← List.nil_append (' ' :: _), hcons, ih]
      rfl

theorem words_padRight (width : Nat) (s rest : String) :
    words (padRight width s ++ " " ++ rest).toList = words s.toList ++ words rest.toList := by
  have hblanks : (padRight width s ++ " " ++ rest).toList =
      s.toList ++ (List.replicate (width - s.length + 1) ' ' ++ rest.toList) := by
    simp [toList_padRight, List.replicate_succ']
  rw [hblanks, List.replicate_succ, List.cons_append, words_append_cons (by decide),
    words_replicate_append]

namespace IsWord

theorem words_eq (h : IsWord s) : words s = [s] := by
  rw [words, List.splitOnP_eq_singleton h.solid]
  simp [h.filled]

theorem newline_notMem (h : IsWord s) : '\n' ∉ s :=
  fun hmem => nomatch h.solid '\n' hmem

theorem cons (hc : isBlank c = false) (h : IsWord s) : IsWord (c :: s) :=
  ⟨List.cons_ne_nil c s, List.forall_mem_cons.mpr ⟨hc, h.solid⟩⟩

theorem concat (h : IsWord s) (hc : isBlank c = false) : IsWord (s ++ [c]) :=
  ⟨List.append_ne_nil_of_right_ne_nil s (List.cons_ne_nil c []),
    List.forall_mem_append.mpr ⟨h.solid, by simpa using hc⟩⟩

theorem toList_signed (h : IsWord s) (n : Int) : IsWord (signed n s).toList := by
  rw [signed, String.toList_ofList]
  split
  · exact h.cons (by decide)
  · exact h

end IsWord

theorem isWord_digits {base : Nat} (h : 2 ≤ base) (h' : base ≤ 16) (n : Nat) :
    IsWord (digits base n) := by
  have hsolid : ∀ d < 16, isBlank (digitChar d) = false := by decide
  exact ⟨digits_ne_nil base n, forall_mem_digits h (fun d hd => hsolid d (by omega)) n⟩

theorem isWord_decimal (n : Int) : IsWord (decimal n).toList :=
  (isWord_digits (by decide) (by decide) _).toList_signed n

theorem isWord_hexadecimal (n : Int) : IsWord (hexadecimal n).toList := by
  have hdigits : IsWord (digits 16 n.natAbs) := isWord_digits (by decide) (by decide) _
  exact ((hdigits.cons (by decide)).cons (by decide)).toList_signed n

def isHexDigit (c : Char) : Bool := c.isDigit || ('a' ≤ c && c ≤ 'f')

/-- The number that hexadecimal digits behind their mark stand for. -/
def readHexNatural? : List Char → Option Nat
  | '0' :: 'x' :: digits =>
    if digits ≠ [] ∧ digits.all isHexDigit then some (readDigits 16 digits) else none
  | _ => none

/-- The integer that hexadecimal digits behind `0x` denote, perhaps with a minus sign in front. -/
def readHexadecimal? (s : List Char) : Option Int := readSigned? readHexNatural? s

theorem readHexNatural?_digits (n : Nat) :
    readHexNatural? ('0' :: 'x' :: digits 16 n) = some n := by
  have hdigit : ∀ d < 16, isHexDigit (digitChar d) = true := by decide
  have hall : (digits 16 n).all isHexDigit = true :=
    List.all_eq_true.mpr (forall_mem_digits (by decide) hdigit n)
  rw [readHexNatural?, if_pos ⟨digits_ne_nil 16 n, hall⟩,
    readDigits_digits (by decide) (by decide)]

theorem readHexadecimal?_hexadecimal (n : Int) :
    readHexadecimal? (hexadecimal n).toList = some n :=
  readSigned?_signed (readHexNatural?_digits n.natAbs) (by simp)

theorem lines_eq_nil_iff : lines s = [] ↔ s = [] := by
  cases s with
  | nil => simp [lines]
  | cons c s =>
      rw [lines]
      split
      · simp
      · split <;> simp

theorem lines_append_newline (s rest : List Char) :
    lines (s ++ '\n' :: rest) = lines (s ++ ['\n']) ++ lines rest := by
  induction s with
  | nil => simp [lines]
  | cons c s ih =>
      rw [List.cons_append, List.cons_append, lines, lines, ih]
      split
      · rfl
      · cases hlines : lines (s ++ ['\n']) with
        | nil => exact absurd (lines_eq_nil_iff.mp hlines) (by simp)
        | cons line others => rfl

end Text

namespace Constant

/-- What a row is about. -/
def row (constant : Constant) : String × Int × String :=
  (constant.name, constant.value, constant.tier)

/-- A constant whose name and tier are words. -/
structure InWords (constant : Constant) : Prop where
  name : Text.IsWord constant.name.toList
  tier : Text.IsWord constant.tier.toList

end Constant

namespace Listing

open Text

variable {constant : Constant} {constants others : List Constant}

/-- A value as words: in decimal, and in hexadecimal where it could be a set of flags. -/
def valueWords (value : Int) : List (List Char) :=
  (decimal value).toList ::
    if 0 ≤ value ∧ value < 16 then [] else ['(' :: ((hexadecimal value).toList ++ [')'])]

/-- The words of a row. -/
def rowWords (constant : Constant) : List (List Char) :=
  constant.name.toList :: (valueWords constant.value ++ [constant.tier.toList])

theorem words_formatValue (value : Int) : words (formatValue value).toList = valueWords value := by
  have hdecimal := (isWord_decimal value).words_eq
  rw [formatValue, valueWords]
  split
  · exact hdecimal
  · have hparts : (decimal value ++ " (" ++ hexadecimal value ++ ")").toList =
        (decimal value).toList ++ ' ' :: ('(' :: ((hexadecimal value).toList ++ [')'])) := by
      simp
    have hword := ((isWord_hexadecimal value).concat (c := ')') (by decide)).cons (c := '(')
      (by decide)
    rw [hparts, words_append_cons (by decide), hdecimal, hword.words_eq]
    rfl

theorem words_constantLine (h : constant.InWords) :
    words (constantLine constant).toList = rowWords constant := by
  rw [constantLine, String.append_assoc, String.append_assoc, words_padRight, ← String.append_assoc,
    words_padRight, h.name.words_eq, words_formatValue, h.tier.words_eq]
  rfl

/-- The name, the value and the tier that the words of a row tell. -/
def readRow? : List (List Char) → Option (String × Int × String)
  | name :: value :: rest =>
    match readDecimal? value, rest.getLast? with
    | some value, some tier => some (.ofList name, value, .ofList tier)
    | _, _ => none
  | _ => none

theorem readRow?_rowWords (constant : Constant) :
    readRow? (rowWords constant) = some constant.row := by
  rw [rowWords, valueWords, List.cons_append, readRow?, readDecimal?_decimal, List.getLast?_concat]
  simp [Constant.row]

theorem newline_notMem_formatValue (value : Int) : '\n' ∉ (formatValue value).toList := by
  have hdecimal := newline_notMem_decimal value
  have hhexadecimal := (isWord_hexadecimal value).newline_notMem
  rw [formatValue]
  split
  · exact hdecimal
  · simp [hdecimal, hhexadecimal]

theorem newline_notMem_constantLine (h : constant.InWords) :
    '\n' ∉ (constantLine constant).toList := by
  have hname := h.name.newline_notMem
  have htier := h.tier.newline_notMem
  have hvalue := newline_notMem_formatValue constant.value
  simp [constantLine, toList_padRight, hname, hvalue, htier]

/-- The lines of what is printed as diagnostics. -/
def printedLines (events : List Event) : List (List Char) :=
  lines (String.join (events.filterMap Event.stderrText?)).toList

theorem printedLines_map_errorLine (first : String) {others : List String}
    (h : ∀ text ∈ others, '\n' ∉ text.toList) :
    printedLines ((first :: others).map Event.errorLine) =
      lines (first ++ "\n").toList ++ others.map String.toList := by
  have htexts (texts : List String) : (texts.map Event.errorLine).filterMap Event.stderrText? =
      texts.map fun text => text ++ "\n" := by
    rw [List.filterMap_map]
    exact congrFun List.filterMap_eq_map texts
  have hjoin : (String.join ((first :: others).map fun text => text ++ "\n")).toList =
      first.toList ++ '\n' :: (String.join (others.map fun text => text ++ "\n")).toList := by
    simp
  rw [printedLines, htexts, hjoin, lines_append_newline, lines_join h, String.toList_append]
  rfl

/-- The lines before the rows. A title may have several. -/
def heading (title : String) : List (List Char) :=
  lines ("\n" ++ title ++ "\n").toList ++ [(rule 64 '-').toList]

theorem printedLines_showConstants (title : String)
    (h : ∀ constant ∈ constants, constant.InWords) :
    printedLines (showConstants .plain title constants) =
      heading title ++ constants.map (fun constant => (constantLine constant).toList) ++
        [(count constants).toList] := by
  let body := rule 64 '-' :: (constants.map constantLine ++ [count constants])
  have hbody : ∀ line ∈ body, '\n' ∉ line.toList := by
    intro line hline
    rcases List.mem_cons.mp hline with rfl | hline
    · simp [rule]
    rcases List.mem_append.mp hline with hline | hline
    · obtain ⟨constant, hmem, rfl⟩ := List.mem_map.mp hline
      exact newline_notMem_constantLine (h constant hmem)
    · obtain rfl := List.mem_singleton.mp hline
      have hcount := newline_notMem_decimal constants.length
      simp [count, hcount]
  have hevents : showConstants .plain title constants =
      (("\n" ++ title) :: body).map Event.errorLine := by
    simp [showConstants, body]
  rw [hevents, printedLines_map_errorLine _ hbody]
  simp [heading, body]

theorem map_words_lines (h : ∀ constant ∈ constants, constant.InWords) :
    (constants.map constantLine).map (fun line => words line.toList) = constants.map rowWords := by
  rw [List.map_map]
  exact List.map_congr_left fun constant hmem => words_constantLine (h constant hmem)

theorem map_words_cells (title : String) (h : ∀ constant ∈ constants, constant.InWords) :
    (constantGrid title constants).rows.map (·.flatMap fun cell => words cell.toList) =
      constants.map rowWords := by
  rw [constantGrid, List.map_map]
  apply List.map_congr_left
  intro constant hmem
  simp [rowWords, words_formatValue, (h constant hmem).name.words_eq,
    (h constant hmem).tier.words_eq]

theorem map_row_of_rowWords (h : constants.map rowWords = others.map rowWords) :
    constants.map Constant.row = others.map Constant.row := by
  have hcomp : readRow? ∘ rowWords = some ∘ Constant.row := funext readRow?_rowWords
  have hread (constants : List Constant) :
      (constants.map rowWords).filterMap readRow? = constants.map Constant.row := by
    rw [List.filterMap_map, hcomp, List.filterMap_eq_map]
  rw [← hread constants, ← hread others, h]

/-- A list of constants whose names and tiers are words. Without styles it has a line for each of
them, in order, whose words are the name, the numerals for the value, and the tier; each numeral
denotes the value. With styles the grid has the same name, numerals and tier in each row. Both forms
end with the number of rows. So lists that differ in a name, a value or a tier differ in their
rows, in either form. -/
theorem showConstants_lossless (title : String)
    (h : ∀ constant ∈ constants, constant.InWords) :
    printedLines (showConstants .plain title constants) =
      heading title ++ constants.map (fun constant => (constantLine constant).toList) ++
        [(decimal constants.length ++ " constant(s)").toList] ∧
    (∀ constant ∈ constants, words (constantLine constant).toList =
      constant.name.toList :: (valueWords constant.value ++ [constant.tier.toList])) ∧
    (∀ value, readDecimal? (decimal value).toList = some value ∧
      readHexadecimal? (hexadecimal value).toList = some value) ∧
    (∃ grid : Grid, showConstants .styled title constants =
        [.styled [.grid grid],
         .styled [.markup ("[dim]" ++ (decimal constants.length ++ " constant(s)") ++ "[/dim]")]] ∧
      grid.rows = constants.map fun constant =>
        [constant.name, formatValue constant.value, constant.tier]) ∧
    (∀ value, words (formatValue value).toList = valueWords value) ∧
    ∀ others : List Constant, (∀ constant ∈ others, constant.InWords) →
      constants.map Constant.row ≠ others.map Constant.row →
        constants.map constantLine ≠ others.map constantLine ∧
          (constantGrid title constants).rows ≠ (constantGrid title others).rows := by
  refine ⟨printedLines_showConstants title h, fun constant hmem => words_constantLine (h _ hmem),
    fun value => ⟨readDecimal?_decimal value, readHexadecimal?_hexadecimal value⟩,
    ⟨constantGrid title constants, rfl, rfl⟩, words_formatValue, ?_⟩
  intro others hothers hdiffer
  constructor
  · intro hlines
    apply hdiffer
    apply map_row_of_rowWords
    rw [← map_words_lines h, ← map_words_lines hothers, hlines]
  · intro hrows
    apply hdiffer
    apply map_row_of_rowWords
    rw [← map_words_cells title h, ← map_words_cells title hothers, hrows]

/-- A constant whose name is wider than its column, and whose value is negative. -/
def wideConstant : Constant := ⟨"SO_BUSY_POLL_BUDGET_64", -4103, "linux_socket", .socket⟩

def narrowConstant : Constant := ⟨"SO_DEBUG", 1, "common_socket", .socket⟩

theorem showConstants_lossless_of_wide_name :
    printedLines (showConstants .plain "Options" [wideConstant, narrowConstant]) =
      heading "Options" ++
        ["SO_BUSY_POLL_BUDGET_64 -4103 (-0x1007)        linux_socket".toList,
         "SO_DEBUG             1                      common_socket".toList,
         "2 constant(s)".toList] ∧
    words (constantLine wideConstant).toList =
      ["SO_BUSY_POLL_BUDGET_64".toList, "-4103".toList, "(-0x1007)".toList,
       "linux_socket".toList] ∧
    constantLine wideConstant ≠ constantLine narrowConstant := by
  have hwide : ∀ constant ∈ [wideConstant], constant.InWords := by
    simpa using ⟨by decide, by decide⟩
  have hnarrow : ∀ constant ∈ [narrowConstant], constant.InWords := by
    simpa using ⟨by decide, by decide⟩
  have hwords := List.forall_mem_append.mpr ⟨hwide, hnarrow⟩
  obtain ⟨hlines, hline, -⟩ := showConstants_lossless "Options" hwords
  obtain ⟨-, -, -, -, -, hdiffer⟩ := showConstants_lossless "Options" hwide
  refine ⟨?_, ?_, fun heq => (hdiffer [narrowConstant] hnarrow (by decide)).1 (by simp [heq])⟩
  · refine hlines.trans ?_
    rw [List.append_assoc]
    exact congrArg (heading "Options" ++ ·) (by decide +kernel)
  · exact (hline wideConstant List.mem_cons_self).trans (by decide +kernel)

end Listing

end HeaderConstants
