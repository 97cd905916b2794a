import HeaderConstants.Proofs.FamilyChoice
import HeaderConstants.Proofs.WordForms

namespace HeaderConstants

namespace Text

variable {text : String}

theorem trim_eq_empty_iff : trim text = "" ↔ ∀ c ∈ text.toList, isBlank c = true := by
  rw [trim, ← trimChars_eq_nil_iff, ← String.toList_inj, String.toList_ofList, String.toList_empty]

theorem notMem_of_spells_toUpper {word : String} (h : Spells Char.toUpper word text)
    (hword : 'ı' ∉ word.toList) : 'ı' ∉ text.toList := by
  intro hmem
  rcases h.isBlank_or_mem hmem with hblank | hcapital
  · exact absurd hblank (by decide)
  · rw [toUpper_of_high (by decide)] at hcapital
    exact hword hcapital

theorem spells_toUpper_iff {word : String} (hword : 'ı' ∉ word.toList) :
    Spells Char.toUpper word text ↔ Spells capitalLetter word text ∧ 'ı' ∉ text.toList := by
  have hagree (hnone : 'ı' ∉ text.toList) {c : Char} (hc : c ∈ text.toList) :
      capitalLetter c = c.toUpper := by
    apply capitalLetter_of_ne
    rintro rfl
    exact hnone hc
  constructor
  · intro h
    have hnone := notMem_of_spells_toUpper h hword
    exact ⟨h.of_agree fun c hc => hagree hnone hc, hnone⟩
  · rintro ⟨h, hnone⟩
    exact h.of_agree fun c hc => (hagree hnone hc).symm

end Text

namespace Logging.Level

open Text

variable {text : String} {level : Level}

theorem isDistinct_name (h : level ∈ choices) :
    isDistinct upperChar upperStrays level.name = true := by
  have hall : ∀ level ∈ choices, isDistinct upperChar upperStrays level.name = true := by
    decide +kernel
  exact hall level h

theorem name_eq_capitalWord_iff (h : level ∈ choices) :
    level.name = capitalWord text ↔ Spells capitalLetter level.name text := by
  rw [eq_comm, capitalWord_eq_iff (isDistinct_name h)]

theorem find?_choices_eq_some_iff :
    choices.find? (·.name == capitalWord text) = some level ↔
      level ∈ choices ∧ Spells capitalLetter level.name text := by
  have hfirst : ∀ level ∈ choices, choices.find? (·.name == level.name) = some level := by decide
  constructor
  · intro h
    have hmem := List.mem_of_find?_eq_some h
    have hname := beq_iff_eq.mp (List.find?_some (p := fun l : Level => l.name == _) h)
    exact ⟨hmem, (name_eq_capitalWord_iff hmem).mp hname⟩
  · rintro ⟨hmem, hspells⟩
    rw [← (name_eq_capitalWord_iff hmem).mpr hspells]
    exact hfirst level hmem

end Logging.Level

namespace Settings

open Logging Text

variable {settings : Settings} {level : Level} {failure : Failure}

/-- The variable is not set, or set to blanks alone. -/
def LeavesLevel (settings : Settings) : Prop :=
  ∀ text, settings.logLevel = some text → ∀ c ∈ text.toList, isBlank c = true

theorem get?_logLevel_eq_none_iff : settings.get? .logLevel = none ↔ settings.LeavesLevel := by
  rw [get?_eq_none_iff]
  exact forall₂_congr fun _ _ => trim_eq_empty_iff

theorem logThreshold_of_leavesLevel (h : settings.LeavesLevel) :
    settings.logThreshold = .ok .warning := by
  rw [logThreshold, get?_logLevel_eq_none_iff.mpr h]
  decide +kernel

theorem logThreshold_of_get? {text : String} (h : settings.get? .logLevel = some text) :
    settings.logThreshold = .ok level ↔
      level ∈ Level.choices ∧ Spells capitalLetter level.name text := by
  rw [logThreshold, h, Option.getD_some, ← Level.find?_choices_eq_some_iff]
  cases Level.choices.find? (·.name == capitalWord text) <;> simp

theorem trim_ne_empty_of_spells {text : String} (hmem : level ∈ Level.choices)
    (h : Spells capitalLetter level.name text) : trim text ≠ "" := by
  have hnamed : ∀ level ∈ Level.choices, level.name ≠ upper "" := by decide +kernel
  intro hblank
  have hname := (Level.name_eq_capitalWord_iff hmem).mpr h
  rw [capitalWord, hblank] at hname
  exact hnamed level hmem hname

theorem logThreshold_eq_ok_iff :
    settings.logThreshold = .ok level ↔
      (level = .warning ∧ settings.LeavesLevel) ∨
        ∃ text, settings.logLevel = some text ∧ level ∈ Level.choices ∧
          Spells capitalLetter level.name text := by
  cases hget : settings.get? .logLevel with
  | none =>
      have hleaves := get?_logLevel_eq_none_iff.mp hget
      rw [logThreshold_of_leavesLevel hleaves, Except.ok.injEq]
      constructor
      · rintro rfl
        exact .inl ⟨rfl, hleaves⟩
      · rintro (⟨rfl, -⟩ | ⟨text, hset, hmem, hspells⟩)
        · rfl
        · exact absurd (get?_eq_none_iff.mp hget text hset) (trim_ne_empty_of_spells hmem hspells)
  | some given =>
      obtain ⟨hset, hblank⟩ := get?_eq_some_iff.mp hget
      rw [logThreshold_of_get? hget]
      constructor
      · intro h
        exact .inr ⟨given, hset, h⟩
      · rintro (⟨-, hleaves⟩ | ⟨text, hset', h⟩)
        · exact absurd (trim_eq_empty_iff.mpr (hleaves given hset)) hblank
        · obtain rfl : given = text := Option.some.inj (hset.symm.trans hset')
          exact h

theorem logThreshold_eq_error_iff_spells :
    settings.logThreshold = .error failure ↔
      ∃ text, settings.logLevel = some text ∧ (∃ c ∈ text.toList, isBlank c = false) ∧
        (∀ level ∈ Level.choices, ¬ Spells capitalLetter level.name text) ∧
        failure = .invalidLogLevel text := by
  rw [logThreshold_eq_error_iff]
  refine exists_congr fun text => ?_
  have hfilled : Text.trim text ≠ "" ↔ ∃ c ∈ text.toList, isBlank c = false := by
    simp only [ne_eq, trim_eq_empty_iff, not_forall, exists_prop, Bool.not_eq_true]
  have hnone : (∀ level ∈ Level.choices, level.name ≠ capitalWord text) ↔
      ∀ level ∈ Level.choices, ¬ Spells capitalLetter level.name text :=
    forall₂_congr fun _ hmem => not_congr (Level.name_eq_capitalWord_iff hmem)
  rw [RefusesLogLevel, hfilled, hnone, and_assoc, and_assoc]

/-- What the environment sets the log level to. A variable that is not set, or set to blanks alone,
leaves the default. One that spells a level between blanks sets it, and any other value is refused.
Every mix of the small and capital letters of a name spells the level. Of the characters beyond
ASCII the dotless i alone passes for a letter. -/
theorem logThreshold_cases (settings : Settings) :
    (∀ level, settings.logThreshold = .ok level ↔
      (level = .warning ∧ settings.LeavesLevel) ∨
        ∃ text, settings.logLevel = some text ∧ level ∈ Level.choices ∧
          Spells capitalLetter level.name text) ∧
    (∀ failure, settings.logThreshold = .error failure ↔
      ∃ text, settings.logLevel = some text ∧ (∃ c ∈ text.toList, isBlank c = false) ∧
        (∀ level ∈ Level.choices, ¬ Spells capitalLetter level.name text) ∧
        failure = .invalidLogLevel text) ∧
    ∀ level ∈ Level.choices, ∀ text,
      Spells Char.toUpper level.name text ↔
        Spells capitalLetter level.name text ∧ 'ı' ∉ text.toList := by
  have hplain : ∀ level ∈ Level.choices, 'ı' ∉ level.name.toList := by decide
  exact ⟨fun _ => logThreshold_eq_ok_iff, fun _ => logThreshold_eq_error_iff_spells,
    fun level hmem _ => spells_toUpper_iff (hplain level hmem)⟩

theorem logThreshold_cases_of_wide_blanks :
    Settings.logThreshold { logLevel := some "\u3000Critical\x1c" } = .ok .critical ∧
      Spells Char.toUpper Level.critical.name "\u3000Critical\x1c" ∧
      Settings.logThreshold { logLevel := some "\u2003\n" } = .ok .warning ∧
      Settings.logThreshold { logLevel := some "ſ" } = .error (.invalidLogLevel "ſ") := by
  obtain ⟨hok, -, hletters⟩ := logThreshold_cases { logLevel := some "\u3000Critical\x1c" }
  have hmem : Level.critical ∈ Level.choices := by decide
  have hspells : Spells Char.toUpper Level.critical.name "\u3000Critical\x1c" :=
    ⟨['\u3000'], "Critical".toList, ['\x1c'], by decide,
      List.forall_mem_singleton.mpr (by decide), List.forall_mem_singleton.mpr (by decide),
      by decide⟩
  refine ⟨(hok _).mpr (.inr ⟨_, rfl, hmem, ((hletters _ hmem _).mp hspells).1⟩), hspells,
    ?_, ?_⟩
  · apply ((logThreshold_cases _).1 _).mpr
    refine .inl ⟨rfl, ?_⟩
    rintro _ ⟨rfl⟩
    exact List.all_eq_true.mp (by decide)
  · apply ((logThreshold_cases _).2.1 _).mpr
    refine ⟨_, rfl, ⟨'ſ', by decide, by decide⟩, ?_, rfl⟩
    intro level hlevel hspells
    have hmem : ∀ level ∈ Level.choices, 'ſ' ∉ level.name.toList := by decide
    rcases hspells.isBlank_or_mem (c := 'ſ') (by decide) with hblank | hletter
    · exact absurd hblank (by decide)
    · exact hmem level hlevel hletter

/-- A dotless i is no small letter of any level's name. -/
theorem logThreshold_admits_dotless_i :
    Settings.logThreshold { logLevel := some "ınfo" } = .ok .info ∧
      ∀ level ∈ Level.choices, ¬ Spells Char.toUpper level.name "ınfo" := by
  have hplain : ∀ level ∈ Level.choices, 'ı' ∉ level.name.toList := by decide
  refine ⟨by decide +kernel, ?_⟩
  intro level hmem hspells
  exact notMem_of_spells_toUpper hspells (hplain level hmem) (by decide)

end Settings

end HeaderConstants
