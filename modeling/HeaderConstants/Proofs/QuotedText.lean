import HeaderConstants.Text.Quoted
import Mathlib.Tactic.SplitIfs

namespace HeaderConstants.Text

section Printable

variable {s : List Char} {c mark : Char}

/-- A control character, of those before the space or of those from `DEL` on. -/
def isControl (c : Char) : Bool := c.toNat < 0x20 || (0x7F ≤ c.toNat && c.toNat < 0xA0)

/-- The characters that end a line. -/
def lineEnds : List Char :=
  ['\n', '\x0b', '\x0c', '\r', '\x1c', '\x1d', '\x1e', '\x85', '\u2028', '\u2029']

theorem isPrintable_eq_false_of_mem {range : Nat × Nat} (hmem : range ∈ unprintableRanges)
    (hle : range.1 ≤ c.toNat) (hle' : c.toNat ≤ range.2) : isPrintable c = false := by
  rw [isPrintable, Ranges.has_iff.mpr ⟨range, hmem, hle, hle'⟩]
  rfl

theorem isControl_eq_false_of_isPrintable (h : isPrintable c = true) : isControl c = false := by
  rw [Bool.eq_false_iff]
  intro hcontrol
  rw [isControl, Bool.or_eq_true, Bool.and_eq_true, decide_eq_true_eq, decide_eq_true_eq,
    decide_eq_true_eq] at hcontrol
  rcases hcontrol with hlow | ⟨hle, hlt⟩
  · have hmem : (0x0, 0x1F) ∈ unprintableRanges := by decide +kernel
    exact nomatch h.symm.trans (isPrintable_eq_false_of_mem hmem (by omega) (by omega))
  · have hmem : (0x7F, 0xA0) ∈ unprintableRanges := by decide +kernel
    exact nomatch h.symm.trans (isPrintable_eq_false_of_mem hmem hle (by omega))

theorem notMem_lineEnds_of_isPrintable (h : isPrintable c = true) : c ∉ lineEnds := by
  have hseparators : (0x2028, 0x202F) ∈ unprintableRanges := by decide +kernel
  have hends : lineEnds.all fun d => isControl d ∨ 0x2028 ≤ d.toNat ∧ d.toNat ≤ 0x202F := by
    decide
  intro hmem
  obtain hcontrol | ⟨hle, hle'⟩ := of_decide_eq_true (List.all_eq_true.mp hends c hmem)
  · exact nomatch hcontrol.symm.trans (isControl_eq_false_of_isPrintable h)
  · exact nomatch h.symm.trans (isPrintable_eq_false_of_mem hseparators hle hle')

theorem isPrintable_of_ascii (hle : 0x20 ≤ c.toNat) (hlt : c.toNat < 0x7F) :
    isPrintable c = true := by
  have hapart : ∀ range ∈ unprintableRanges, range.2 < 0x20 ∨ 0x7F ≤ range.1 := by
    decide +kernel
  rw [isPrintable, Bool.not_eq_true', Bool.eq_false_iff, ne_eq, Ranges.has_iff]
  rintro ⟨range, hmem, hfirst, hlast⟩
  have hrange := hapart range hmem
  omega

theorem forall_mem_lastDigits {base : Nat} (hbase : 0 < base) {p : Char → Prop}
    (h : ∀ d < base, p (digitChar d)) (k n : Nat) : ∀ c ∈ lastDigits base k n, p c := by
  induction k generalizing n with
  | zero => simp [lastDigits]
  | succ k ih =>
      have hlast := h (n % base) (Nat.mod_lt _ hbase)
      exact List.forall_mem_append.mpr ⟨ih (n / base), by simpa using hlast⟩

theorem isPrintable_of_mem_lastDigits {k n : Nat} (h : c ∈ lastDigits 16 k n) :
    isPrintable c = true := by
  have hascii : ∀ d < 16, 0x20 ≤ (digitChar d).toNat ∧ (digitChar d).toNat < 0x7F := by decide
  refine forall_mem_lastDigits (by decide) (p := fun c => isPrintable c = true) ?_ k n c h
  exact fun d hd => isPrintable_of_ascii (hascii d hd).1 (hascii d hd).2

end Printable

section Reading

variable {s t rest rest' : List Char} {c letter mark : Char}

/-- The control that a letter behind a backslash stands for. Any other character there stands for
itself. -/
def controlOf (letter : Char) : Char :=
  if letter = 'n' then '\n'
  else if letter = 'r' then '\r'
  else if letter = 't' then '\t'
  else letter

/-- The number of digits behind a letter that announces a code point. -/
def codeWidth? (letter : Char) : Option Nat :=
  if letter = 'x' then some 2
  else if letter = 'u' then some 4
  else if letter = 'U' then some 8
  else none

/-- Reads up to a closing mark, and gives the text in front of it and what is left behind it. -/
def readUntil (mark : Char) : List Char → Option (List Char × List Char)
  | [] => none
  | c :: rest =>
    if c = mark then some ([], rest)
    else if c = '\\' then
      match rest with
      | [] => none
      | letter :: rest =>
        match codeWidth? letter with
        | some width =>
          (readUntil mark (rest.drop width)).map
            (Prod.map (Char.ofNat (readDigits 16 (rest.take width)) :: ·) id)
        | none => (readUntil mark rest).map (Prod.map (controlOf letter :: ·) id)
    else (readUntil mark rest).map (Prod.map (c :: ·) id)
termination_by s => s.length
decreasing_by all_goals simp; try omega

/-- Reads a quoted text from its opening mark on. -/
def readQuoted? : List Char → Option (List Char × List Char)
  | [] => none
  | mark :: rest => if mark = '"' ∨ mark = '\'' then readUntil mark rest else none

theorem readUntil_mark (mark : Char) (rest : List Char) :
    readUntil mark (mark :: rest) = some ([], rest) := by
  rw [readUntil.eq_def]
  exact if_pos rfl

theorem readUntil_plain (hc : c ≠ mark) (hescape : c ≠ '\\') (rest : List Char) :
    readUntil mark (c :: rest) = (readUntil mark rest).map (Prod.map (c :: ·) id) := by
  rw [readUntil.eq_def mark (c :: rest)]
  dsimp only
  rw [if_neg hc, if_neg hescape]

theorem readUntil_escape (hmark : mark ≠ '\\') (h : codeWidth? letter = none)
    (rest : List Char) :
    readUntil mark ('\\' :: letter :: rest) =
      (readUntil mark rest).map (Prod.map (controlOf letter :: ·) id) := by
  rw [readUntil, if_neg hmark.symm, if_pos rfl]
  simp only [h]

theorem readUntil_code (hmark : mark ≠ '\\') {width : Nat} (h : codeWidth? letter = some width)
    (hc : c.toNat < Nat.pow 16 width) (rest : List Char) :
    readUntil mark ('\\' :: letter :: (lastDigits 16 width c.toNat ++ rest)) =
      (readUntil mark rest).map (Prod.map (c :: ·) id) := by
  have hlength := length_lastDigits 16 width c.toNat
  have hcode : readDigits 16 (lastDigits 16 width c.toNat) = c.toNat := by
    rw [readDigits_lastDigits (by decide) (by decide), Nat.mod_eq_of_lt hc]
  rw [readUntil, if_neg hmark.symm, if_pos rfl]
  simp only [h, List.take_left' hlength, List.drop_left' hlength, hcode, Char.ofNat_toNat]

/-- The ways to write a character between marks: as it is, by a letter behind a backslash, or by its
code point. -/
inductive Written (mark c : Char) : List Char → Prop
  | self (hmark : c ≠ mark) (hescape : c ≠ '\\') (hself : isPrintable c = true) :
      Written mark c [c]
  | letter (letter : Char) (hletter : 0x20 ≤ letter.toNat ∧ letter.toNat < 0x7F)
      (hwidth : codeWidth? letter = none) (hcontrol : controlOf letter = c) :
      Written mark c ['\\', letter]
  | code (letter : Char) (width : Nat)
      (hletter : 0x20 ≤ letter.toNat ∧ letter.toNat < 0x7F)
      (hwidth : codeWidth? letter = some width) (hcode : c.toNat < Nat.pow 16 width) :
      Written mark c ('\\' :: letter :: lastDigits 16 width c.toNat)

theorem written_quoteChar (hmark : mark = '"' ∨ mark = '\'') (c : Char) :
    Written mark c (quoteChar mark c) := by
  rw [quoteChar]
  split_ifs with hself hline hreturn htab hprintable hbyte hword
  · obtain rfl | rfl := hself
    · obtain rfl | rfl := hmark
      · exact .letter _ (by decide) (by decide) (by decide)
      · exact .letter _ (by decide) (by decide) (by decide)
    · exact .letter _ (by decide) (by decide) (by decide)
  · exact .letter 'n' (by decide) (by decide) hline.symm
  · exact .letter 'r' (by decide) (by decide) hreturn.symm
  · exact .letter 't' (by decide) (by decide) htab.symm
  · rw [not_or] at hself
    exact .self hself.1 hself.2 hprintable
  · exact .code 'x' 2 (by decide) (by decide) hbyte
  · exact .code 'u' 4 (by decide) (by decide) hword
  · exact .code 'U' 8 (by decide) (by decide) c.val.toNat_lt

theorem Written.isPrintable {form : List Char} (h : Written mark c form) :
    ∀ d ∈ form, isPrintable d = true := by
  have hslash : Text.isPrintable '\\' = true := isPrintable_of_ascii (by decide) (by decide)
  cases h with
  | self _ _ hself => exact List.forall_mem_singleton.mpr hself
  | letter letter hletter =>
      have hprintable := isPrintable_of_ascii hletter.1 hletter.2
      exact List.forall_mem_cons.mpr ⟨hslash, List.forall_mem_singleton.mpr hprintable⟩
  | code letter width hletter =>
      have hprintable := isPrintable_of_ascii hletter.1 hletter.2
      refine List.forall_mem_cons.mpr ⟨hslash, List.forall_mem_cons.mpr ⟨hprintable, ?_⟩⟩
      exact fun d hd => isPrintable_of_mem_lastDigits hd

theorem Written.readUntil_append {form : List Char} (h : Written mark c form)
    (hmark : mark ≠ '\\') (rest : List Char) :
    readUntil mark (form ++ rest) = (readUntil mark rest).map (Prod.map (c :: ·) id) := by
  cases h with
  | self hc hescape => exact readUntil_plain hc hescape rest
  | letter letter _ hwidth hcontrol =>
      subst hcontrol
      exact readUntil_escape hmark hwidth rest
  | code letter width _ hwidth hcode => exact readUntil_code hmark hwidth hcode rest

theorem isPrintable_of_mem_quoteChars (h : c ∈ quoteChars s) : isPrintable c = true := by
  have hmark : isPrintable (enclosingMark s) = true := by
    obtain hmark | hmark := enclosingMark_eq s
    · rw [hmark]
      exact isPrintable_of_ascii (by decide) (by decide)
    · rw [hmark]
      exact isPrintable_of_ascii (by decide) (by decide)
  rw [quoteChars, List.mem_append, List.mem_cons, List.mem_singleton, List.mem_flatMap] at h
  obtain (rfl | ⟨d, -, hd⟩) | rfl := h
  · exact hmark
  · exact (written_quoteChar (enclosingMark_eq s) d).isPrintable c hd
  · exact hmark

theorem readUntil_quoteChars (hmark : mark = '"' ∨ mark = '\'') (s rest : List Char) :
    readUntil mark (s.flatMap (quoteChar mark) ++ mark :: rest) = some (s, rest) := by
  have hslash : mark ≠ '\\' := by
    obtain rfl | rfl := hmark <;> decide
  -- The reader takes one written character at a time, so it meets the closing mark outside of one.
  induction s with
  | nil => exact readUntil_mark mark rest
  | cons c s ih =>
      rw [List.flatMap_cons, List.append_assoc,
        (written_quoteChar hmark c).readUntil_append hslash, ih]
      rfl

theorem readQuoted?_quoteChars (s rest : List Char) :
    readQuoted? (quoteChars s ++ rest) = some (s, rest) := by
  have hmark := enclosingMark_eq s
  rw [quoteChars, List.cons_append, List.cons_append, List.append_assoc, readQuoted?, if_pos hmark]
  exact readUntil_quoteChars hmark s rest

theorem quoteChars_append_inj :
    quoteChars s ++ rest = quoteChars t ++ rest' ↔ s = t ∧ rest = rest' := by
  constructor
  · intro h
    have hread := readQuoted?_quoteChars s rest
    rw [h, readQuoted?_quoteChars t rest', Option.some.injEq, Prod.mk.injEq] at hread
    exact ⟨hread.1.symm, hread.2.symm⟩
  · rintro ⟨rfl, rfl⟩
    rfl

theorem quote_append_inj {a b after after' : String} :
    quote a ++ after = quote b ++ after' ↔ a = b ∧ after = after' := by
  rw [← String.toList_inj, String.toList_append, String.toList_append, toList_quote, toList_quote,
    quoteChars_append_inj, String.toList_inj, String.toList_inj]

theorem quote_inj {a b : String} : quote a = quote b ↔ a = b := by
  rw [← String.append_left_inj (t := ""), quote_append_inj, and_iff_left rfl]

end Reading

section Lines

/-- A text on one line, with nothing invisible in it. -/
structure ShowsOnOneLine (s : String) : Prop where
  printable : ∀ c ∈ s.toList, isPrintable c = true
  noControl : ∀ c ∈ s.toList, isControl c = false
  noLineEnd : ∀ c ∈ s.toList, c ∉ lineEnds

variable {s t : String}

theorem showsOnOneLine_iff : ShowsOnOneLine s ↔ ∀ c ∈ s.toList, isPrintable c = true :=
  ⟨fun h => h.printable, fun h =>
    ⟨h, fun c hc => isControl_eq_false_of_isPrintable (h c hc),
      fun c hc => notMem_lineEnds_of_isPrintable (h c hc)⟩⟩

theorem showsOnOneLine_of_ascii
    (h : s.toList.all fun c => 0x20 ≤ c.toNat ∧ c.toNat < 0x7F) : ShowsOnOneLine s := by
  rw [showsOnOneLine_iff]
  intro c hc
  obtain ⟨hle, hlt⟩ := of_decide_eq_true (List.all_eq_true.mp h c hc)
  exact isPrintable_of_ascii hle hlt

theorem showsOnOneLine_append_iff :
    ShowsOnOneLine (s ++ t) ↔ ShowsOnOneLine s ∧ ShowsOnOneLine t := by
  simp only [showsOnOneLine_iff, String.toList_append, List.forall_mem_append]

theorem showsOnOneLine_quote (s : String) : ShowsOnOneLine (quote s) := by
  rw [showsOnOneLine_iff, toList_quote]
  exact fun c hc => isPrintable_of_mem_quoteChars hc

end Lines

end HeaderConstants.Text
