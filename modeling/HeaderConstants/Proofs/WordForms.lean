import HeaderConstants.Proofs.Spelling
import HeaderConstants.Text.Layout

namespace HeaderConstants.Text

theorem exists_eq_dropTrailingBlanks_append (s : List Char) :
    ∃ after, s = dropTrailingBlanks s ++ after ∧ ∀ c ∈ after, isBlank c = true := by
  induction s with
  | nil => exact ⟨[], rfl, by simp⟩
  | cons c rest ih =>
      obtain ⟨after, hrest, hafter⟩ := ih
      rw [dropTrailingBlanks]
      split
      · rename_i hnil
        rw [hnil, List.nil_append] at hrest
        subst hrest
        by_cases hc : isBlank c = true
        · exact ⟨c :: rest, by simp [hc], List.forall_mem_cons.mpr ⟨hc, hafter⟩⟩
        · exact ⟨rest, by simp [hc], hafter⟩
      · exact ⟨after, by rw [List.cons_append, ← hrest], hafter⟩

theorem exists_eq_append_trimChars (s : List Char) :
    ∃ before after, s = before ++ trimChars s ++ after ∧
      (∀ c ∈ before, isBlank c = true) ∧ ∀ c ∈ after, isBlank c = true := by
  obtain ⟨after, hrest, hafter⟩ := exists_eq_dropTrailingBlanks_append (s.dropWhile isBlank)
  refine ⟨s.takeWhile isBlank, after, ?_, ?_, hafter⟩
  · rw [trimChars, List.append_assoc, ← hrest, List.takeWhile_append_dropWhile]
  · exact List.all_eq_true.mp List.all_takeWhile

theorem dropTrailingBlanks_append {after : List Char} (h : ∀ c ∈ after, isBlank c = true)
    (s : List Char) : dropTrailingBlanks (s ++ after) = dropTrailingBlanks s := by
  induction s with
  | nil => exact dropTrailingBlanks_eq_nil_iff.mpr h
  | cons c rest ih => rw [List.cons_append, dropTrailingBlanks, dropTrailingBlanks, ih]

theorem trimChars_append {before after : List Char} (hbefore : ∀ c ∈ before, isBlank c = true)
    (hafter : ∀ c ∈ after, isBlank c = true) (s : List Char) :
    trimChars (before ++ s ++ after) = trimChars s := by
  rw [trimChars, List.append_assoc, List.dropWhile_append_of_pos hbefore, List.dropWhile_append]
  split
  · rename_i hempty
    rw [trimChars, List.isEmpty_iff.mp hempty]
    apply dropTrailingBlanks_eq_nil_iff.mpr
    intro c hc
    exact hafter c ((List.dropWhile_sublist isBlank).subset hc)
  · exact dropTrailingBlanks_append hafter _

/-- Blanks, then characters that are read as the word, one by one, then blanks. -/
def Spells (reading : Char → Char) (word text : String) : Prop :=
  ∃ before middle after, text.toList = before ++ middle ++ after ∧
    (∀ c ∈ before, isBlank c = true) ∧ (∀ c ∈ after, isBlank c = true) ∧
    middle.map reading = word.toList

theorem Spells.isBlank_or_mem {reading : Char → Char} {word text : String}
    (h : Spells reading word text) {c : Char} (hc : c ∈ text.toList) :
    isBlank c = true ∨ reading c ∈ word.toList := by
  obtain ⟨before, middle, after, htext, hbefore, hafter, hmiddle⟩ := h
  rw [htext, List.mem_append, List.mem_append] at hc
  rcases hc with (hc | hc) | hc
  · exact .inl (hbefore c hc)
  · exact .inr (hmiddle ▸ List.mem_map_of_mem hc)
  · exact .inl (hafter c hc)

theorem Spells.of_agree {reading other : Char → Char} {word text : String}
    (h : Spells reading word text) (hagree : ∀ c ∈ text.toList, other c = reading c) :
    Spells other word text := by
  obtain ⟨before, middle, after, htext, hbefore, hafter, hmiddle⟩ := h
  refine ⟨before, middle, after, htext, hbefore, hafter, ?_⟩
  rw [← hmiddle]
  apply List.map_congr_left
  intro c hc
  exact hagree c (by simp [htext, hc])

theorem spells_iff {reading : Char → Char} (hblank : ∀ c, isBlank c = true → reading c = c)
    {word : String} (hword : ∀ c ∈ word.toList, isBlank c = false) {text : String} :
    Spells reading word text ↔ (trimChars text.toList).map reading = word.toList := by
  constructor
  · rintro ⟨before, middle, after, htext, hbefore, hafter, hmiddle⟩
    have hnone : ∀ c ∈ middle, isBlank c = false := by
      intro c hc
      by_contra hc'
      have hkept : reading c = c := hblank c (by simpa using hc')
      have hmem : c ∈ word.toList := hmiddle ▸ hkept ▸ List.mem_map_of_mem hc
      exact hc' (hword c hmem)
    rw [htext, trimChars_append hbefore hafter, trimChars_of_forall_not_blank hnone, hmiddle]
  · intro h
    obtain ⟨before, after, htext, hbefore, hafter⟩ := exists_eq_append_trimChars text.toList
    exact ⟨before, _, after, htext, hbefore, hafter, h⟩

section HighCodes

/-- The code points beyond ASCII, less those of surrogates. -/
def isHigh (code : Nat) : Bool :=
  (128 ≤ code && code < 0xD800) || (0xE000 ≤ code && code < 0x110000)

theorem le_toNat_ofNat {code : Nat} (h : isHigh code = true) : 128 ≤ (Char.ofNat code).toNat := by
  simp only [isHigh, Bool.or_eq_true, Bool.and_eq_true, decide_eq_true_eq] at h
  have hvalid : code.isValidChar := by
    rw [Nat.isValidChar]
    omega
  have hkept : (Char.ofNat code).toNat = code := by
    rw [Char.ofNat, dif_pos hvalid]
    rfl
  omega

/-- All images of a span lie beyond ASCII, and none would be a surrogate. -/
def CaseSpan.isHigh (span : CaseSpan) : Bool :=
  128 ≤ span.first + span.shift && (span.last + span.shift < 0xD800 ||
    (0xE000 ≤ span.first + span.shift && span.last + span.shift < 0x110000))

theorem CaseSpan.le_toNat_image {span : CaseSpan} (h : span.isHigh = true) {c : Char}
    (hc : span.covers c = true) : 128 ≤ (span.image c).toNat := by
  simp only [CaseSpan.isHigh, CaseSpan.covers, Bool.or_eq_true, Bool.and_eq_true,
    decide_eq_true_eq] at h hc
  apply le_toNat_ofNat
  simp only [Text.isHigh, Bool.or_eq_true, Bool.and_eq_true, decide_eq_true_eq]
  omega

/-- Of the characters beyond ASCII, only the strays may change into ASCII characters alone. -/
def keepsHigh (strays : List Nat) (expansions : List (Nat × List Nat)) (spans : List CaseSpan) :
    Bool :=
  (expansions.all fun expansion => strays.contains expansion.1 || expansion.2.any isHigh) &&
    spans.all fun span =>
      span.last < 128 || span.isHigh || (span.first == span.last && strays.contains span.first)

theorem exists_high_mem_changeCase {strays : List Nat} {expansions : List (Nat × List Nat)}
    {spans : List CaseSpan} (h : keepsHigh strays expansions spans = true) {c : Char}
    (hc : 128 ≤ c.toNat) (hstray : c.toNat ∉ strays) :
    ∃ d ∈ changeCase expansions spans c, 128 ≤ d.toNat := by
  obtain ⟨hexpansions, hspans⟩ := Bool.and_eq_true_iff.mp h
  rw [changeCase]
  split
  · rename_i codes hlookup
    obtain ⟨before, after, hsplit, -⟩ := List.lookup_eq_some_iff.mp hlookup
    have hexpansion := List.all_eq_true.mp hexpansions (c.toNat, codes) (by simp [hsplit])
    simp only [Bool.or_eq_true, List.contains_iff_mem, hstray, false_or,
      List.any_eq_true] at hexpansion
    obtain ⟨code, hcode, hhigh⟩ := hexpansion
    exact ⟨_, List.mem_map_of_mem hcode, le_toNat_ofNat hhigh⟩
  · split
    · rename_i span hfind
      have hcovers : span.covers c = true :=
        List.find?_some (p := fun span : CaseSpan => span.covers c) hfind
      have hspan := List.all_eq_true.mp hspans span (List.mem_of_find?_eq_some hfind)
      refine ⟨_, List.mem_singleton_self _, CaseSpan.le_toNat_image ?_ hcovers⟩
      by_contra hlow
      simp only [Bool.or_eq_true, hlow, or_false, Bool.and_eq_true, decide_eq_true_eq,
        beq_iff_eq, List.contains_iff_mem] at hspan
      simp only [CaseSpan.covers, Bool.and_eq_true, decide_eq_true_eq] at hcovers
      rcases hspan with hlast | ⟨hfirst, hmem⟩
      · omega
      · exact hstray ((show c.toNat = span.first by omega) ▸ hmem)
    · exact ⟨c, List.mem_singleton_self c, hc⟩

end HighCodes

/-- A letter case map does what a reading of single characters does wherever the reading is ASCII.
Elsewhere it leads beyond ASCII, except for the strays. -/
structure ReadsAs (map : Char → List Char) (reading : Char → Char) (strays : List Nat) : Prop where
  blank : ∀ c, isBlank c = true → reading c = c
  ascii : ∀ c, (reading c).toNat < 128 → map c = [reading c]
  cases : ∀ c, map c = [reading c] ∨ (∃ d ∈ map c, 128 ≤ d.toNat) ∨ c.toNat ∈ strays

/-- The word is made of ASCII characters, has no blank, and holds nothing that a stray changes
into. -/
def isDistinct (map : Char → List Char) (strays : List Nat) (word : String) : Bool :=
  (word.toList.all fun c => c.toNat < 128 && !isBlank c) &&
    strays.all fun code => !occursIn (map (Char.ofNat code)) word.toList

theorem isDistinct_iff {map : Char → List Char} {strays : List Nat} {word : String} :
    isDistinct map strays word = true ↔
      (∀ c ∈ word.toList, c.toNat < 128 ∧ isBlank c = false) ∧
        ∀ code ∈ strays, ¬ map (Char.ofNat code) <:+: word.toList := by
  simp only [isDistinct, Bool.and_eq_true, List.all_eq_true, decide_eq_true_eq,
    Bool.not_eq_true', Bool.eq_false_iff, ne_eq, occursIn_iff]

namespace ReadsAs

variable {map : Char → List Char} {reading : Char → Char} {strays : List Nat} {word : String}

theorem flatMap_eq_iff (h : ReadsAs map reading strays) (hword : isDistinct map strays word = true)
    (s : List Char) : s.flatMap map = word.toList ↔ s.map reading = word.toList := by
  obtain ⟨hascii, hforms⟩ := isDistinct_iff.mp hword
  have hagree : (∀ c ∈ s, map c = [reading c]) → s.flatMap map = s.map reading := by
    intro hs
    rw [List.flatMap_congr hs, List.map_eq_flatMap]
  constructor
  · intro heq
    rw [← heq, hagree]
    intro c hc
    have hpart : map c <:+: word.toList := heq ▸ List.infix_flatMap_of_mem hc map
    rcases h.cases c with hsame | ⟨d, hd, hhigh⟩ | hstray
    · exact hsame
    · have hlow := (hascii d (hpart.subset hd)).1
      omega
    · have hnot := hforms c.toNat hstray
      rw [Char.ofNat_toNat] at hnot
      exact absurd hpart hnot
  · intro heq
    rw [← heq]
    apply hagree
    intro c hc
    exact h.ascii c (hascii (reading c) (heq ▸ List.mem_map_of_mem hc)).1

theorem trim_eq_iff_spells (h : ReadsAs map reading strays)
    (hword : isDistinct map strays word = true) {text : String} :
    String.ofList ((trim text).toList.flatMap map) = word ↔ Spells reading word text := by
  have hblank : ∀ c ∈ word.toList, isBlank c = false :=
    fun c hc => ((isDistinct_iff.mp hword).1 c hc).2
  rw [spells_iff h.blank hblank, ← h.flatMap_eq_iff hword, ← String.toList_inj,
    String.toList_ofList, trim, String.toList_ofList]

end ReadsAs

/-- It is enough to look at the ASCII characters, at the special ones that a reading takes for ASCII
characters, and at the tables of the map. -/
theorem ReadsAs.of_tables {expansions : List (Nat × List Nat)} {spans : List CaseSpan}
    {reading : Char → Char} {strays : List Nat} (special : List Nat)
    (hascii : ∀ c : Char, c.toNat < 128 → changeCase expansions spans c = [reading c])
    (hblank : ∀ code < 128, isBlank (Char.ofNat code) = true →
      reading (Char.ofNat code) = Char.ofNat code)
    (hspecial : ∀ code ∈ special,
      changeCase expansions spans (Char.ofNat code) = [reading (Char.ofNat code)] ∧
        isBlank (Char.ofNat code) = false)
    (hhigh : ∀ c : Char, 128 ≤ c.toNat → c.toNat ∉ special → reading c = c)
    (hkeeps : keepsHigh (special ++ strays) expansions spans = true) :
    ReadsAs (changeCase expansions spans) reading strays := by
  -- A character is ASCII, or special, or beyond ASCII and read as itself.
  have hkinds : ∀ c, (changeCase expansions spans c = [reading c] ∧
      (isBlank c = true → reading c = c)) ∨
        128 ≤ c.toNat ∧ c.toNat ∉ special ∧ reading c = c := by
    intro c
    rcases Nat.lt_or_ge c.toNat 128 with hc | hc
    · exact .inl ⟨hascii c hc,
        of_ascii (p := fun c => isBlank c = true → reading c = c) hblank hc⟩
    · by_cases hmem : c.toNat ∈ special
      · have hc' := hspecial c.toNat hmem
        rw [Char.ofNat_toNat] at hc'
        exact .inl ⟨hc'.1, fun hc => nomatch hc'.2.symm.trans hc⟩
      · exact .inr ⟨hc, hmem, hhigh c hc hmem⟩
  constructor
  · intro c hc
    rcases hkinds c with ⟨-, hkept⟩ | ⟨-, -, hkept⟩
    · exact hkept hc
    · exact hkept
  · intro c hc
    rcases hkinds c with ⟨hsame, -⟩ | ⟨hfar, -, hkept⟩
    · exact hsame
    · rw [hkept] at hc
      omega
  · intro c
    rcases hkinds c with ⟨hsame, -⟩ | ⟨hfar, hmem, -⟩
    · exact .inl hsame
    · by_cases hstray : c.toNat ∈ strays
      · exact .inr (.inr hstray)
      · refine .inr (.inl (exists_high_mem_changeCase hkeeps hfar ?_))
        rw [List.mem_append, not_or]
        exact ⟨hmem, hstray⟩

/-- The Kelvin sign becomes a small k. -/
def lowerStrays : List Nat := [0x212A]

theorem readsAs_lowerChar : ReadsAs lowerChar Char.toLower lowerStrays :=
  .of_tables [] (fun _ => lowerChar_of_ascii) (by decide +kernel) (by simp)
    (fun _ hc _ => toLower_of_high hc) (by decide +kernel)

theorem plainWord_eq_iff {word : String} (h : isDistinct lowerChar lowerStrays word = true)
    {text : String} : plainWord text = word ↔ Spells Char.toLower word text :=
  readsAs_lowerChar.trim_eq_iff_spells h

/-- The capital that a character is read as. A dotless i is read as an i. -/
def capitalLetter (c : Char) : Char := if c = 'ı' then 'I' else c.toUpper

theorem capitalLetter_of_ne {c : Char} (h : c ≠ 'ı') : capitalLetter c = c.toUpper :=
  if_neg h

/-- The sharp s, the long s, and the ligatures that begin with an f or a long s. -/
def upperStrays : List Nat :=
  [0xDF, 0x17F, 0xFB00, 0xFB01, 0xFB02, 0xFB03, 0xFB04, 0xFB05, 0xFB06]

theorem readsAs_upperChar : ReadsAs upperChar capitalLetter upperStrays := by
  refine .of_tables ['ı'.toNat] ?_ (by decide +kernel) (by decide +kernel) ?_ (by decide +kernel)
  · intro c hc
    have hne : c ≠ 'ı' := by
      rintro rfl
      exact absurd hc (by decide)
    rw [capitalLetter_of_ne hne]
    exact upperChar_of_ascii hc
  · intro c hc hmem
    have hne : c ≠ 'ı' := by
      rintro rfl
      exact hmem (List.mem_singleton_self _)
    rw [capitalLetter_of_ne hne, toUpper_of_high hc]

theorem capitalWord_eq_iff {word : String} (h : isDistinct upperChar upperStrays word = true)
    {text : String} : capitalWord text = word ↔ Spells capitalLetter word text :=
  readsAs_upperChar.trim_eq_iff_spells h

end HeaderConstants.Text
