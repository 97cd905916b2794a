import HeaderConstants.Text.Word
import Mathlib.Data.List.Basic
import Mathlib.Data.List.Induction

namespace HeaderConstants.Text

def bytes (text : String) : List UInt8 := text.toByteArray.data.toList

theorem bytes_eq_flatMap (text : String) :
    bytes text = text.toList.flatMap String.utf8EncodeChar := by
  rw [bytes, ← String.utf8Encode_toList, List.utf8Encode, List.toList_data_toByteArray]

theorem bytes_injective {text other : String} (h : bytes text = bytes other) : text = other :=
  String.toByteArray_inj.mp (ByteArray.ext (Array.toList_inj.mp h))

/-- The number with the given digits in base 256, after a leading one. -/
def numberOfBytes (bytes : List UInt8) : Nat :=
  bytes.foldl (fun number byte => 256 * number + byte.toNat) 1

theorem numberOfBytes_append_singleton (bytes : List UInt8) (byte : UInt8) :
    numberOfBytes (bytes ++ [byte]) = 256 * numberOfBytes bytes + byte.toNat :=
  List.foldl_concat _ _ _ _

theorem numberOfBytes_pos (bytes : List UInt8) : 0 < numberOfBytes bytes := by
  induction bytes using List.reverseRecOn with
  | nil => decide
  | append_singleton bytes byte ih =>
      rw [numberOfBytes_append_singleton]
      omega

theorem numberOfBytes_injective {bytes others : List UInt8}
    (h : numberOfBytes bytes = numberOfBytes others) : bytes = others := by
  induction bytes using List.reverseRecOn generalizing others with
  | nil =>
      rcases List.eq_nil_or_concat' others with rfl | ⟨rest, byte, rfl⟩
      · rfl
      · have hpos := numberOfBytes_pos rest
        rw [numberOfBytes_append_singleton, numberOfBytes, List.foldl_nil] at h
        omega
  | append_singleton bytes byte ih =>
      rcases List.eq_nil_or_concat' others with rfl | ⟨rest, other, rfl⟩
      · have hpos := numberOfBytes_pos bytes
        rw [numberOfBytes_append_singleton, numberOfBytes, numberOfBytes, List.foldl_nil] at h
        rw [numberOfBytes] at hpos
        omega
      · rw [numberOfBytes_append_singleton, numberOfBytes_append_singleton] at h
        have hbyte := byte.toNat_lt
        have hother := other.toNat_lt
        have hlast : byte.toNat = other.toNat := by omega
        have hrest : bytes = rest := ih (by omega)
        rw [hrest, UInt8.toNat_inj.mp hlast]

/-- A number for each text, in place of a comparison character by character. -/
def number (text : String) : Nat := numberOfBytes (bytes text)

theorem number_injective {text other : String} (h : number text = number other) :
    text = other :=
  bytes_injective (numberOfBytes_injective h)

theorem mem_map_number_iff {text : String} {texts : List String} :
    number text ∈ texts.map number ↔ text ∈ texts := by
  constructor
  · intro h
    obtain ⟨other, hmem, heq⟩ := List.mem_map.mp h
    exact number_injective heq ▸ hmem
  · exact List.mem_map_of_mem

section Ascii

theorem of_ascii {p : Char → Prop} (h : ∀ code < 128, p (Char.ofNat code)) {c : Char}
    (hc : c.toNat < 128) : p c := by
  have hcode := h c.toNat hc
  rwa [Char.ofNat_toNat] at hcode

theorem toUpper_of_high {c : Char} (h : 128 ≤ c.toNat) : c.toUpper = c := by
  apply dif_neg
  rintro ⟨-, hz⟩
  change c.toNat ≤ 122 at hz
  omega

theorem toLower_of_high {c : Char} (h : 128 ≤ c.toNat) : c.toLower = c := by
  apply dif_neg
  rintro ⟨-, hz⟩
  change c.toNat ≤ 90 at hz
  omega

theorem changeCase_of_ascii {expansions : List (Nat × List Nat)} {span : CaseSpan}
    {spans : List CaseSpan} (hexpansions : ∀ expansion ∈ expansions, 128 ≤ expansion.1)
    (hspans : ∀ other ∈ spans, 128 ≤ other.first) {c : Char} (hc : c.toNat < 128) :
    changeCase expansions (span :: spans) c = [if span.covers c then span.image c else c] := by
  have hlookup : expansions.lookup c.toNat = none := by
    apply List.lookup_eq_none_iff.mpr
    intro expansion hmem
    have hfar := hexpansions expansion hmem
    exact bne_iff_ne.mpr (by omega)
  have hrest : spans.find? (·.covers c) = none := by
    apply List.find?_eq_none.mpr
    intro other hmem
    have hfar := hspans other hmem
    simp only [CaseSpan.covers, Bool.and_eq_true, decide_eq_true_eq, not_and]
    omega
  rw [changeCase, hlookup, List.find?_cons, hrest]
  cases span.covers c <;> rfl

def smallLetters : CaseSpan := ⟨0x61, 0x7A, 1, -32⟩

def capitalLetters : CaseSpan := ⟨0x41, 0x5A, 1, 32⟩

theorem upperChar_of_ascii {c : Char} (hc : c.toNat < 128) : upperChar c = [c.toUpper] := by
  have hletters : (if smallLetters.covers c then smallLetters.image c else c) = c.toUpper := by
    refine of_ascii (p := fun c =>
      (if smallLetters.covers c then smallLetters.image c else c) = c.toUpper) ?_ hc
    decide +kernel
  rw [← hletters]
  exact changeCase_of_ascii (by decide +kernel) (by decide +kernel) hc

theorem lowerChar_of_ascii {c : Char} (hc : c.toNat < 128) : lowerChar c = [c.toLower] := by
  have hletters : (if capitalLetters.covers c then capitalLetters.image c else c) = c.toLower := by
    refine of_ascii (p := fun c =>
      (if capitalLetters.covers c then capitalLetters.image c else c) = c.toLower) ?_ hc
    decide +kernel
  rw [← hletters]
  exact changeCase_of_ascii (by decide +kernel) (by decide +kernel) hc

end Ascii

/-- The codes of capital letters, digits and the low line. -/
def isCapitalCode (code : Nat) : Bool :=
  (65 ≤ code && code ≤ 90) || (48 ≤ code && code ≤ 57) || code == 95

theorem lt_of_isCapitalCode {code : Nat} (h : isCapitalCode code = true) : code < 128 := by
  simp only [isCapitalCode, Bool.or_eq_true, Bool.and_eq_true, decide_eq_true_eq,
    beq_iff_eq] at h
  omega

/-- All characters are capital ASCII letters, digits or underscores. -/
def IsCapital (text : String) : Prop := ∀ c ∈ text.toList, isCapitalCode c.toNat = true

theorem exists_mem_utf8EncodeChar (c : Char) :
    ∃ byte ∈ String.utf8EncodeChar c, byte.toNat = c.toNat ∨ 128 ≤ byte.toNat := by
  rw [String.utf8EncodeChar]
  split
  · rename_i hle
    refine ⟨_, List.mem_singleton_self _, .inl ?_⟩
    rw [UInt8.toNat_ofNat']
    exact Nat.mod_eq_of_lt (by omega)
  · split
    · refine ⟨_, List.mem_cons_self, .inr ?_⟩
      rw [UInt8.toNat_ofNat']
      omega
    · split <;>
      · refine ⟨_, List.mem_cons_self, .inr ?_⟩
        rw [UInt8.toNat_ofNat']
        omega

theorem isCapital_of_bytes {text : String}
    (h : ∀ byte ∈ bytes text, isCapitalCode byte.toNat = true) : IsCapital text := by
  intro c hc
  obtain ⟨byte, hbyte, hcode⟩ := exists_mem_utf8EncodeChar c
  have hcapital : isCapitalCode byte.toNat = true := by
    refine h byte ?_
    rw [bytes_eq_flatMap]
    exact List.mem_flatMap.mpr ⟨c, hc, hbyte⟩
  rcases hcode with heq | hle
  · rwa [heq] at hcapital
  · have hlt := lt_of_isCapitalCode hcapital
    omega

theorem of_isCapitalCode {p : Char → Prop}
    (h : ∀ code < 128, isCapitalCode code = true → p (Char.ofNat code)) {c : Char}
    (hc : isCapitalCode c.toNat = true) : p c := by
  have hcode := h c.toNat (lt_of_isCapitalCode hc) hc
  rwa [Char.ofNat_toNat] at hcode

theorem toUpper_of_isCapitalCode {c : Char} (h : isCapitalCode c.toNat = true) :
    c.toUpper = c := by
  refine of_isCapitalCode (p := fun c => c.toUpper = c) ?_ h
  decide +kernel

theorem upperChar_of_isCapitalCode {c : Char} (h : isCapitalCode c.toNat = true) :
    upperChar c = [c] := by
  rw [upperChar_of_ascii (lt_of_isCapitalCode h), toUpper_of_isCapitalCode h]

/-- Among ASCII letters, the full letter case map does what the map of ASCII letters does. -/
theorem upperChar_of_isCapitalCode_toUpper {c : Char}
    (h : isCapitalCode c.toUpper.toNat = true) : upperChar c = [c.toUpper] := by
  rcases Nat.lt_or_ge c.toNat 128 with hlt | hle
  · exact upperChar_of_ascii hlt
  · rw [toUpper_of_high hle] at h
    exact absurd (lt_of_isCapitalCode h) (by omega)

theorem lowerChar_of_isCapitalCode {c : Char} (h : isCapitalCode c.toNat = true) :
    lowerChar c = [c.toLower] ∧ c.toLower.toUpper = c := by
  refine ⟨lowerChar_of_ascii (lt_of_isCapitalCode h), ?_⟩
  refine of_isCapitalCode (p := fun c => c.toLower.toUpper = c) ?_ h
  decide +kernel

theorem isBlank_of_isCapitalCode {c : Char} (h : isCapitalCode c.toNat = true) :
    isBlank c = false := by
  refine of_isCapitalCode (p := fun c => isBlank c = false) ?_ h
  decide +kernel

theorem trimChars_of_forall_not_blank {s : List Char} (h : ∀ c ∈ s, isBlank c = false) :
    trimChars s = s := by
  have hdrop : s.dropWhile isBlank = s := by
    cases s with
    | nil => rfl
    | cons c rest => rw [List.dropWhile_cons, h c (by simp), if_neg (by simp)]
  rw [trimChars, hdrop]
  clear hdrop
  induction s with
  | nil => rfl
  | cons c rest ih =>
      rw [dropTrailingBlanks, ih fun d hd => h d (by simp [hd])]
      cases rest with
      | nil => simp [h c (by simp)]
      | cons d rest => rfl

/-- The two texts differ at most in the case of ASCII letters. -/
def SameLetters (text other : String) : Prop :=
  text.toList.map Char.toUpper = other.toList.map Char.toUpper

instance (text other : String) : Decidable (SameLetters text other) :=
  inferInstanceAs (Decidable (_ = _))

namespace IsCapital

theorem notMem {text : String} (h : IsCapital text) {c : Char}
    (hc : isCapitalCode c.toNat = false) : c ∉ text.toList :=
  fun hmem => nomatch hc.symm.trans (h c hmem)

theorem trim_eq {text : String} (h : IsCapital text) : trim text = text := by
  rw [trim, trimChars_of_forall_not_blank fun c hc => isBlank_of_isCapitalCode (h c hc),
    String.ofList_toList]

theorem upper_eq {text : String} (h : IsCapital text) : upper text = text := by
  have hchars : text.toList.flatMap upperChar = text.toList.flatMap fun c => [c] :=
    List.flatMap_congr fun c hc => upperChar_of_isCapitalCode (h c hc)
  rw [upper, hchars, List.flatMap_singleton', String.ofList_toList]

theorem toList_lower {text : String} (h : IsCapital text) :
    (lower text).toList = text.toList.map Char.toLower := by
  have hchars : text.toList.flatMap lowerChar = text.toList.flatMap fun c => [c.toLower] :=
    List.flatMap_congr fun c hc => (lowerChar_of_isCapitalCode (h c hc)).1
  rw [Text.toList_lower, hchars, List.map_eq_flatMap]

theorem eq_of_lower_eq {text other : String} (h : IsCapital text) (hother : IsCapital other)
    (heq : lower text = lower other) : text = other := by
  have hrestore : ∀ {s : String}, IsCapital s →
      (s.toList.map Char.toLower).map Char.toUpper = s.toList := by
    intro s hs
    have hchars : s.toList.map (Char.toUpper ∘ Char.toLower) = s.toList.map id :=
      List.map_congr_left fun c hc => (lowerChar_of_isCapitalCode (hs c hc)).2
    rw [List.map_map, hchars, List.map_id]
  apply String.toList_inj.mp
  rw [← hrestore h, ← hrestore hother, ← h.toList_lower, ← hother.toList_lower, heq]

theorem eq_of_sameWord {text other : String} (h : IsCapital text) (hother : IsCapital other)
    (heq : plainWord text = plainWord other ∨ capitalWord text = capitalWord other) :
    text = other := by
  rcases heq with hplain | hcapital
  · rw [plainWord, plainWord, h.trim_eq, hother.trim_eq] at hplain
    exact h.eq_of_lower_eq hother hplain
  · rwa [capitalWord, capitalWord, h.trim_eq, hother.trim_eq, h.upper_eq, hother.upper_eq]
      at hcapital

theorem map_toUpper_toList {text : String} (h : IsCapital text) :
    text.toList.map Char.toUpper = text.toList := by
  have hchars : text.toList.map Char.toUpper = text.toList.map id :=
    List.map_congr_left fun c hc => toUpper_of_isCapitalCode (h c hc)
  rw [hchars, List.map_id]

theorem upper_eq_of_sameLetters {text other : String} (h : IsCapital other)
    (hsame : SameLetters text other) : upper text = other := by
  rw [SameLetters, h.map_toUpper_toList] at hsame
  have hchars : text.toList.flatMap upperChar = text.toList.flatMap fun c => [c.toUpper] := by
    apply List.flatMap_congr
    intro c hc
    apply upperChar_of_isCapitalCode_toUpper
    apply h
    rw [← hsame]
    exact List.mem_map_of_mem hc
  rw [upper, hchars, ← List.map_eq_flatMap, hsame, String.ofList_toList]

theorem eq_of_sameLetters {text other : String} (h : IsCapital text) (hother : IsCapital other)
    (hsame : SameLetters text other) : text = other := by
  rw [← hother.upper_eq_of_sameLetters hsame, h.upper_eq]

end IsCapital

end HeaderConstants.Text
