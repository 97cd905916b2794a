import HeaderConstants.CommandLine.Grammar
import HeaderConstants.Text.Numeral

namespace HeaderConstants.Text

/-- The lines of a text. A line break ends a line; the last line may do without. -/
def lines : List Char → List (List Char)
  | [] => []
  | c :: rest =>
    if c = '\n' then [] :: lines rest
    else
      match lines rest with
      | [] => [[c]]
      | line :: others => (c :: line) :: others

theorem lines_append_cons {line : List Char} (h : '\n' ∉ line) (rest : List Char) :
    lines (line ++ '\n' :: rest) = line :: lines rest := by
  induction line with
  | nil => rw [List.nil_append, lines, if_pos rfl]
  | cons c line ih =>
      rw [List.mem_cons, not_or] at h
      obtain ⟨hc, hline⟩ := h
      rw [List.cons_append, lines, if_neg (Ne.symm hc), ih hline]

theorem lines_join {α : Type} {items : List α} {line : α → String}
    (h : ∀ item ∈ items, '\n' ∉ (line item).toList) :
    lines (String.join (items.map fun item => line item ++ "\n")).toList =
      items.map fun item => (line item).toList := by
  induction items with
  | nil => rfl
  | cons item rest ih =>
      have hrest := ih fun other hother => h other (List.mem_cons_of_mem _ hother)
      rw [String.toList_join] at hrest ⊢
      rw [List.map_cons, List.flatMap_cons, String.toList_append, List.append_assoc,
        show "\n".toList = ['\n'] from rfl, List.singleton_append,
        lines_append_cons (h item List.mem_cons_self), hrest, List.map_cons]

/-- The number that digits stand for. -/
def readNatural? (digits : List Char) : Option Nat :=
  if digits ≠ [] ∧ digits.all Char.isDigit then some (readDigits 10 digits) else none

/-- The integer that decimal digits denote, perhaps with a minus sign in front. -/
def readDecimal? : List Char → Option Int
  | '-' :: digits => (readNatural? digits).map fun n : Nat => -(n : Int)
  | digits => (readNatural? digits).map Int.ofNat

theorem forall_mem_digits {base : Nat} (hbase : 2 ≤ base) {p : Char → Prop}
    (h : ∀ d < base, p (digitChar d)) (n : Nat) : ∀ c ∈ digits base n, p c := by
  induction n using Nat.strongRecOn with
  | ind n ih =>
      rw [digits]
      split
      · intro c hc
        obtain rfl := List.mem_singleton.mp hc
        exact h n (by omega)
      · have hrest := ih (n / base) (Nat.div_lt_self (by omega) (by omega))
        have hlast := h (n % base) (Nat.mod_lt _ (by omega))
        exact List.forall_mem_append.mpr ⟨hrest, by simpa using hlast⟩

theorem isDigit_of_mem_digits {n : Nat} {c : Char} (h : c ∈ digits 10 n) : c.isDigit = true :=
  forall_mem_digits (p := fun c => c.isDigit = true) (by decide) (by decide) n c h

theorem digits_ne_nil (base n : Nat) : digits base n ≠ [] := by
  rw [digits]
  split <;> simp

theorem readNatural?_digits (n : Nat) : readNatural? (digits 10 n) = some n := by
  have hall : (digits 10 n).all Char.isDigit = true :=
    List.all_eq_true.mpr fun c hc => isDigit_of_mem_digits hc
  rw [readNatural?, if_pos ⟨digits_ne_nil 10 n, hall⟩, readDigits_digits (by decide) (by decide)]

theorem newline_notMem_decimal (n : Int) : '\n' ∉ (decimal n).toList := by
  have hdigits : '\n' ∉ digits 10 n.natAbs := fun hmem => nomatch isDigit_of_mem_digits hmem
  rw [decimal, signed, String.toList_ofList]
  split
  · simpa using hdigits
  · exact hdigits

/-- The integer that a sign and the magnitude behind it denote. -/
def readSigned? (read : List Char → Option Nat) : List Char → Option Int
  | '-' :: magnitude => (read magnitude).map fun n : Nat => -(n : Int)
  | magnitude => (read magnitude).map Int.ofNat

theorem readSigned?_signed {read : List Char → Option Nat} {magnitude : List Char} {n : Int}
    (hread : read magnitude = some n.natAbs) (hminus : magnitude.head? ≠ some '-') :
    readSigned? read (signed n magnitude).toList = some n := by
  rw [signed, String.toList_ofList]
  split
  · rw [readSigned?, hread, Option.map_some]
    congr 1
    omega
  · rw [readSigned?, hread, Option.map_some]
    · exact congrArg some (Int.natAbs_of_nonneg (by omega))
    · intro rest hrest
      exact hminus (by rw [hrest]; rfl)

theorem readDecimal?_decimal (n : Int) : readDecimal? (decimal n).toList = some n := by
  apply readSigned?_signed (readNatural?_digits n.natAbs)
  intro hhead
  exact nomatch isDigit_of_mem_digits (List.mem_of_mem_head? hhead)

theorem decimal_injective {n m : Int} (h : decimal n = decimal m) : n = m := by
  apply Option.some.inj
  rw [← readDecimal?_decimal n, ← readDecimal?_decimal m, h]

end HeaderConstants.Text

namespace HeaderConstants

open CommandLine

/-- A name and its value on one line. -/
def assignment (pair : String × Int) : String := pair.1 ++ "=" ++ Text.decimal pair.2 ++ "\n"

/-- The name before the first equals sign, and the number behind it. -/
def readAssignment? (line : List Char) : Option (String × Int) :=
  match splitAtEquals line with
  | (name, some value) => (Text.readDecimal? value).map (String.ofList name, ·)
  | (_, none) => none

/-- The names and values of a text all of whose lines have the form. -/
def readAssignments? (text : String) : Option (List (String × Int)) :=
  (Text.lines text.toList).mapM readAssignment?

theorem splitAtEquals_append_cons {name : List Char} (h : '=' ∉ name) (value : List Char) :
    splitAtEquals (name ++ '=' :: value) = (name, some value) := by
  have hall : ∀ c ∈ name, (c != '=') = true := by
    intro c hc
    rw [bne_iff_ne]
    rintro rfl
    exact h hc
  rw [splitAtEquals, List.dropWhile_append_of_pos hall, List.takeWhile_append_of_pos hall]
  simp

theorem readAssignment?_assignment {name : String} (h : '=' ∉ name.toList) (value : Int) :
    readAssignment? (name.toList ++ '=' :: (Text.decimal value).toList) = some (name, value) := by
  rw [readAssignment?, splitAtEquals_append_cons h]
  simp [Text.readDecimal?_decimal]

theorem lines_join_assignment {pairs : List (String × Int)}
    (h : ∀ pair ∈ pairs, '\n' ∉ pair.1.toList) :
    Text.lines (String.join (pairs.map assignment)).toList =
      pairs.map fun pair => pair.1.toList ++ '=' :: (Text.decimal pair.2).toList := by
  have hlines : ∀ pair ∈ pairs, '\n' ∉ (pair.1 ++ "=" ++ Text.decimal pair.2).toList := by
    intro pair hpair
    have hname := h pair hpair
    have hvalue := Text.newline_notMem_decimal pair.2
    simp [hname, hvalue]
  refine (Text.lines_join hlines).trans ?_
  simp

theorem readAssignments?_join {pairs : List (String × Int)}
    (h : ∀ pair ∈ pairs, '=' ∉ pair.1.toList ∧ '\n' ∉ pair.1.toList) :
    readAssignments? (String.join (pairs.map assignment)) = some pairs := by
  rw [readAssignments?, lines_join_assignment fun pair hpair => (h pair hpair).2]
  induction pairs with
  | nil => rfl
  | cons pair rest ih =>
      have hrest := ih fun other hother => h other (List.mem_cons_of_mem _ hother)
      rw [List.map_cons, List.mapM_cons,
        readAssignment?_assignment (h pair List.mem_cons_self).1, hrest]
      rfl

end HeaderConstants
