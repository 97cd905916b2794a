import HeaderConstants.Entries
import HeaderConstants.Proofs.WordForms
import HeaderConstants.Snapshot

namespace HeaderConstants

namespace Text

variable {α : Type} {text : String}

theorem lookup_plainWord_eq_some_iff {words : List (String × α)}
    (hdistinct : ∀ pair ∈ words, isDistinct lowerChar lowerStrays pair.1 = true)
    (hnodup : (words.map (·.1)).Nodup) {value : α} :
    words.lookup (plainWord text) = some value ↔
      ∃ pair ∈ words, Spells Char.toLower pair.1 text ∧ pair.2 = value := by
  rw [Entries.lookup_eq_some_iff_of_nodup hnodup]
  constructor
  · intro hmem
    exact ⟨_, hmem, (plainWord_eq_iff (hdistinct _ hmem)).mp rfl, rfl⟩
  · rintro ⟨⟨word, _⟩, hmem, hspells, rfl⟩
    rwa [(plainWord_eq_iff (hdistinct _ hmem)).mpr hspells]

theorem contains_plainWord_iff {words : List String}
    (hdistinct : ∀ word ∈ words, isDistinct lowerChar lowerStrays word = true) :
    words.contains (plainWord text) = true ↔ ∃ word ∈ words, Spells Char.toLower word text := by
  rw [List.contains_iff_mem]
  constructor
  · intro hmem
    exact ⟨_, hmem, (plainWord_eq_iff (hdistinct _ hmem)).mp rfl⟩
  · rintro ⟨word, hmem, hspells⟩
    rwa [(plainWord_eq_iff (hdistinct word hmem)).mpr hspells]

end Text

namespace Family

open Text

variable {text : String} {family : Family}

theorem ofText?_eq_some_iff :
    ofText? text = some family ↔
      ∃ pair ∈ spellings, Spells Char.toLower pair.1 text ∧ pair.2 = family :=
  lookup_plainWord_eq_some_iff (by decide +kernel) (by decide +kernel)

theorem ofText?_eq_none_iff :
    ofText? text = none ↔ ∀ pair ∈ spellings, ¬ Spells Char.toLower pair.1 text := by
  rw [Option.eq_none_iff_forall_ne_some]
  constructor
  · intro h pair hmem hspells
    exact h pair.2 (ofText?_eq_some_iff.mpr ⟨pair, hmem, hspells, rfl⟩)
  · intro h family hsome
    obtain ⟨pair, hmem, hspells, -⟩ := ofText?_eq_some_iff.mp hsome
    exact h pair hmem hspells

theorem lookup_systems_eq_some_iff :
    systems.lookup (plainWord text) = some family ↔
      ∃ pair ∈ systems, Spells Char.toLower pair.1 text ∧ pair.2 = family :=
  lookup_plainWord_eq_some_iff (by decide +kernel) (by decide +kernel)

theorem ofText_eq_linux_iff : ofText text = .ok .linux ↔ Spells Char.toLower "linux" text := by
  simp [ofText_eq_ok_iff, ofText?_eq_some_iff, spellings]

theorem ofText_eq_darwin_iff :
    ofText text = .ok .darwin ↔
      Spells Char.toLower "darwin" text ∨ Spells Char.toLower "macos" text := by
  simp [ofText_eq_ok_iff, ofText?_eq_some_iff, spellings]

theorem ofText_eq_generic_iff :
    ofText text = .ok .generic ↔
      Spells Char.toLower "generic" text ∨ Spells Char.toLower "posix" text := by
  simp [ofText_eq_ok_iff, ofText?_eq_some_iff, spellings]

theorem ofText_eq_error_iff_spells {failure : Failure} :
    ofText text = .error failure ↔
      failure = .unknownFamily text ∧ ∀ word ∈ ["linux", "darwin", "macos", "generic", "posix"],
        ¬ Spells Char.toLower word text := by
  have hwords : (spellings.map (·.1)).Perm ["linux", "darwin", "macos", "generic", "posix"] := by
    decide
  rw [ofText_eq_error_iff, ofText?_eq_none_iff, and_comm]
  simp only [← hwords.mem_iff, List.forall_mem_map]

theorem ofSystem_eq_iff (h : family ≠ .generic) :
    ofSystem text = family ↔
      ∃ pair ∈ systems, Spells Char.toLower pair.1 text ∧ pair.2 = family := by
  rw [← lookup_systems_eq_some_iff, ofSystem]
  cases systems.lookup (plainWord text) <;> simp [h.symm]

theorem ofSystem_eq_linux_iff : ofSystem text = .linux ↔ Spells Char.toLower "linux" text := by
  rw [ofSystem_eq_iff (by decide)]
  simp [systems]

theorem ofSystem_eq_darwin_iff : ofSystem text = .darwin ↔ Spells Char.toLower "darwin" text := by
  rw [ofSystem_eq_iff (by decide)]
  simp [systems]

theorem ofSystem_eq_generic_iff :
    ofSystem text = .generic ↔
      ¬ Spells Char.toLower "linux" text ∧ ¬ Spells Char.toLower "darwin" text := by
  rw [← ofSystem_eq_linux_iff, ← ofSystem_eq_darwin_iff]
  cases ofSystem text <;> decide

theorem ofText_key (family : Family) : ofText family.key = .ok family := by
  cases family <;> decide +kernel

end Family

theorem Snapshot.covers_iff {family : Family} {machine : String} :
    covers family machine = true ↔
      ∃ word ∈ machines family, Text.Spells Char.toLower word machine := by
  apply Text.contains_plainWord_iff
  cases family <;> decide +kernel

open Text in
/-- What the recognisers accept: blanks, a word of their lists in any mix of small and capital ASCII
letters, and blanks. A user may name a family by five words, and is refused for any other text. The
name of a system means Linux just where it would from a user. It means Darwin for one word of the
two that a user has for it, and generic in all other cases. A snapshot covers the machines listed
for it, and the key of a family names it. -/
theorem Family.recognisers_agree (text : String) :
    (ofText text = .ok .linux ↔ Spells Char.toLower "linux" text) ∧
    (ofText text = .ok .darwin ↔
      Spells Char.toLower "darwin" text ∨ Spells Char.toLower "macos" text) ∧
    (ofText text = .ok .generic ↔
      Spells Char.toLower "generic" text ∨ Spells Char.toLower "posix" text) ∧
    (∀ failure, ofText text = .error failure ↔
      failure = .unknownFamily text ∧ ∀ word ∈ ["linux", "darwin", "macos", "generic", "posix"],
        ¬ Spells Char.toLower word text) ∧
    (ofSystem text = .linux ↔ ofText text = .ok .linux) ∧
    (ofSystem text = .darwin ↔ Spells Char.toLower "darwin" text) ∧
    (ofSystem text = .darwin → ofText text = .ok .darwin) ∧
    (ofSystem text = .generic ↔
      ¬ Spells Char.toLower "linux" text ∧ ¬ Spells Char.toLower "darwin" text) ∧
    (∀ family, Snapshot.covers family text = true ↔
      ∃ word ∈ Snapshot.machines family, Spells Char.toLower word text) ∧
    ∀ family, ofText text = .ok family → ofText family.key = ofText text := by
  refine ⟨ofText_eq_linux_iff, ofText_eq_darwin_iff, ofText_eq_generic_iff,
    fun _ => ofText_eq_error_iff_spells, ?_, ofSystem_eq_darwin_iff, ?_, ofSystem_eq_generic_iff,
    fun _ => Snapshot.covers_iff, ?_⟩
  · rw [ofSystem_eq_linux_iff, ofText_eq_linux_iff]
  · rw [ofSystem_eq_darwin_iff, ofText_eq_darwin_iff]
    exact .inl
  · intro family h
    rw [h, ofText_key]

theorem Family.recognisers_agree_of_wide_blanks :
    ofText "\u3000MacOS\x85" = .ok .darwin ∧
      ofSystem "\u3000MacOS\x85" = .generic ∧
      ofText Family.darwin.key = ofText "\u3000MacOS\x85" ∧
      ofSystem "DARWIN\n" = .darwin ∧ ofText "DARWIN\n" = .ok .darwin := by
  obtain ⟨-, hdarwin, -, -, -, -, -, hgeneric, -, hkey⟩ := recognisers_agree "\u3000MacOS\x85"
  obtain ⟨-, -, -, -, -, hsystem, hboth, -⟩ := recognisers_agree "DARWIN\n"
  have hmac : ofText "\u3000MacOS\x85" = .ok .darwin :=
    hdarwin.mpr (.inr ⟨['\u3000'], "MacOS".toList, ['\x85'], by decide,
      List.forall_mem_singleton.mpr (by decide), List.forall_mem_singleton.mpr (by decide),
      by decide⟩)
  have hreported : ofSystem "DARWIN\n" = .darwin :=
    hsystem.mpr ⟨[], "DARWIN".toList, ['\n'], by decide, List.forall_mem_nil _,
      List.forall_mem_singleton.mpr (by decide), by decide⟩
  refine ⟨hmac, ?_, hkey _ hmac, hreported, hboth hreported⟩
  decide +kernel

end HeaderConstants
