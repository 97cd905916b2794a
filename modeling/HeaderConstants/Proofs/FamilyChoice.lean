import HeaderConstants.Proofs.Answers
import HeaderConstants.Surroundings

namespace HeaderConstants

namespace Settings

variable {settings : Settings} {failure : Failure} {text : String}

/-- The environment names a family, but there is none of that name. -/
def RefusesFamily (settings : Settings) (text : String) : Prop :=
  settings.family = some text ∧ Text.trim text ≠ "" ∧ Family.ofText? text = none

/-- The environment names a log level, but there is none of that name. -/
def RefusesLogLevel (settings : Settings) (text : String) : Prop :=
  settings.logLevel = some text ∧ Text.trim text ≠ "" ∧
    ∀ level ∈ Logging.Level.choices, level.name ≠ Text.capitalWord text

theorem get?_eq_some_iff {v : Variable} :
    settings.get? v = some text ↔ settings.value v = some text ∧ Text.trim text ≠ "" := by
  rw [get?, Option.filter_eq_some_iff, decide_eq_true_eq]

theorem get?_eq_none_iff {v : Variable} :
    settings.get? v = none ↔ ∀ text, settings.value v = some text → Text.trim text = "" := by
  rw [Option.eq_none_iff_forall_ne_some]
  refine forall_congr' fun text => ?_
  rw [ne_eq, get?_eq_some_iff, not_and_not_right]

theorem familyOverride_eq_ok_none_iff :
    settings.familyOverride = .ok none ↔
      ∀ text, settings.family = some text → Text.trim text = "" := by
  refine Iff.trans ?_ (get?_eq_none_iff (v := .family))
  rw [familyOverride]
  cases settings.get? .family with
  | none => simp
  | some text => cases h : Family.ofText text <;> simp [h, Except.map]

theorem familyOverride_eq_map_iff (result : Except Failure Family) :
    settings.familyOverride = result.map some ↔
      ∃ text, settings.family = some text ∧ Text.trim text ≠ "" ∧ Family.ofText text = result := by
  have hmap : ∀ other : Except Failure Family,
      other.map some = result.map some ↔ other = result := by
    intro other
    cases other <;> cases result <;> simp [Except.map]
  rw [familyOverride]
  cases h : settings.get? .family with
  | none =>
      refine iff_of_false (by cases result <;> simp [Except.map]) ?_
      rintro ⟨text, hset, hblank, -⟩
      exact hblank (get?_eq_none_iff.mp h text hset)
  | some given =>
      obtain ⟨hset, hblank⟩ := get?_eq_some_iff.mp h
      rw [hmap]
      constructor
      · intro hresult
        exact ⟨given, hset, hblank, hresult⟩
      · rintro ⟨text, hset', -, hresult⟩
        obtain rfl : given = text := Option.some.inj (hset.symm.trans hset')
        exact hresult

theorem familyOverride_eq_error_iff :
    settings.familyOverride = .error failure ↔
      ∃ text, settings.RefusesFamily text ∧ failure = .unknownFamily text := by
  refine (familyOverride_eq_map_iff (.error failure)).trans (exists_congr fun text => ?_)
  rw [Family.ofText_eq_error_iff, RefusesFamily, and_assoc, and_assoc]

theorem familyOverride_eq_ok_some_iff {family : Family} :
    settings.familyOverride = .ok (some family) ↔
      ∃ text, settings.family = some text ∧ Text.trim text ≠ "" ∧
        Family.ofText? text = some family := by
  refine (familyOverride_eq_map_iff (.ok family)).trans (exists_congr fun text => ?_)
  rw [Family.ofText_eq_ok_iff]

theorem find?_choices_eq_none_iff {word : String} :
    Logging.Level.choices.find? (·.name == word) = none ↔
      ∀ level ∈ Logging.Level.choices, level.name ≠ word := by
  simp only [List.find?_eq_none, beq_iff_eq, ne_eq]

theorem logThreshold_eq_error_iff :
    settings.logThreshold = .error failure ↔
      ∃ text, settings.RefusesLogLevel text ∧ failure = .invalidLogLevel text := by
  rw [logThreshold]
  cases h : settings.get? .logLevel with
  | none =>
      have hdefault : Logging.Level.choices.find?
          (·.name == Text.capitalWord Logging.Level.warning.name) = some .warning := by
        decide +kernel
      refine iff_of_false (by simp [hdefault]) ?_
      rintro ⟨text, ⟨hset, hblank, -⟩, -⟩
      exact nomatch h.symm.trans (get?_eq_some_iff.mpr ⟨hset, hblank⟩)
  | some given =>
      obtain ⟨hset, hblank⟩ := get?_eq_some_iff.mp h
      dsimp only [Option.getD_some]
      constructor
      · intro herror
        cases hfound : Logging.Level.choices.find? (·.name == Text.capitalWord given) with
        | some level => simp [hfound] at herror
        | none =>
            rw [hfound] at herror
            exact ⟨given, ⟨hset, hblank, find?_choices_eq_none_iff.mp hfound⟩,
              (Except.error.inj herror).symm⟩
      · rintro ⟨text, ⟨hset', -, hnone⟩, rfl⟩
        obtain rfl : given = text := Option.some.inj (hset.symm.trans hset')
        rw [find?_choices_eq_none_iff.mpr hnone]

end Settings

namespace Surroundings

/-- What decides a family: that it is asked for, else the environment where its variable is not
blank, else the system that the machine reports. -/
inductive Decides (around : Surroundings) : Option Family → Family → Origin → Prop
  | commandLine (family : Family) : Decides around (some family) family .commandLine
  | environment {text : String} {family : Family} (hset : around.settings.family = some text)
      (hblank : Text.trim text ≠ "") (hnamed : Family.ofText? text = some family) :
      Decides around none family .environment
  | detected (hunset : ∀ text, around.settings.family = some text → Text.trim text = "") :
      Decides around none (.ofSystem around.host.system) .detected

/-- The table of the family that is decided where none is asked for, with its own source. -/
def Provides (around : Surroundings) (table : Table) : Prop :=
  ∃ family origin, around.Decides none family origin ∧
    (Table.build family (.standard around.host (.ofSystem around.host.system) family)
      Tier.catalog).result = .ok table

variable {around : Surroundings} {asked : Option Family} {family : Family} {failure : Failure}

theorem activeFamily_of_override {found : Option Family}
    (h : around.settings.familyOverride = .ok found) :
    around.activeFamily = .ok (found.getD (.ofSystem around.host.system)) := by
  rw [activeFamily, h]
  rfl

theorem activeFamily_eq_ok_iff :
    around.activeFamily = .ok family ↔ ∃ origin, around.Decides none family origin := by
  constructor
  · intro h
    cases hoverride : around.settings.familyOverride with
    | error failure =>
        rw [activeFamily, hoverride] at h
        exact nomatch h
    | ok found =>
        obtain rfl := Except.ok.inj ((activeFamily_of_override hoverride).symm.trans h)
        cases found with
        | none =>
            rw [Option.getD_none]
            exact ⟨_, .detected (Settings.familyOverride_eq_ok_none_iff.mp hoverride)⟩
        | some named =>
            obtain ⟨text, hset, hblank, hnamed⟩ :=
              Settings.familyOverride_eq_ok_some_iff.mp hoverride
            exact ⟨_, .environment hset hblank hnamed⟩
  · rintro ⟨origin, h⟩
    cases h with
    | environment hset hblank hnamed =>
        exact activeFamily_of_override
          (Settings.familyOverride_eq_ok_some_iff.mpr ⟨_, hset, hblank, hnamed⟩)
    | detected hunset =>
        rw [activeFamily_of_override (Settings.familyOverride_eq_ok_none_iff.mpr hunset),
          Option.getD_none]

theorem chooseFamily_eq_ok_iff :
    around.chooseFamily asked = .ok family ↔ ∃ origin, around.Decides asked family origin := by
  cases asked with
  | none => exact activeFamily_eq_ok_iff
  | some asked =>
      constructor
      · intro h
        obtain rfl := Except.ok.inj h
        exact ⟨_, .commandLine asked⟩
      · rintro ⟨origin, h⟩
        cases h
        rfl

theorem Decides.chooseFamily_eq {origin : Origin} (h : around.Decides asked family origin) :
    around.chooseFamily asked = .ok family :=
  chooseFamily_eq_ok_iff.mpr ⟨origin, h⟩

theorem activeFamily_eq_error_iff :
    around.activeFamily = .error failure ↔
      ∃ text, around.settings.RefusesFamily text ∧ failure = .unknownFamily text := by
  rw [← Settings.familyOverride_eq_error_iff, activeFamily]
  cases around.settings.familyOverride <;> simp [Except.map]

theorem chooseFamily_eq_error_iff :
    around.chooseFamily asked = .error failure ↔
      asked = none ∧ ∃ text, around.settings.RefusesFamily text ∧
        failure = .unknownFamily text := by
  cases asked with
  | none => simp [chooseFamily, activeFamily_eq_error_iff]
  | some family => simp [chooseFamily]

theorem build_none_eq (around : Surroundings) (asked : Option Family) :
    around.build asked none =
      match around.chooseFamily asked with
      | .error failure => ⟨[], .error failure⟩
      | .ok family => Table.build family (around.source family) Tier.catalog := rfl

theorem build_some_of_chooseFamily {family : Family}
    (h : around.chooseFamily asked = .ok family) :
    around.build (some family) none = around.build asked none := by
  rw [build_none_eq, build_none_eq, h]
  rfl

/-- A table depends on the machine and, where no family is asked for, on the one setting. -/
theorem build_none_congr {other : Surroundings} (hhost : other.host = around.host)
    (hfamily : asked = none → other.settings.family = around.settings.family) :
    other.build asked none = around.build asked none := by
  have hchoose : other.chooseFamily asked = around.chooseFamily asked := by
    cases asked with
    | some family => rfl
    | none =>
        have hoverride : other.settings.familyOverride = around.settings.familyOverride := by
          simp only [Settings.familyOverride, Settings.get?, Settings.value, hfamily rfl]
        rw [chooseFamily, chooseFamily, activeFamily, activeFamily, hoverride, hhost]
  have hsource : ∀ family, other.source family = around.source family := by
    intro family
    simp only [source, hhost]
  simp only [build_none_eq, hchoose, hsource]

theorem result_build_none_eq_ok_iff {table : Table} :
    (around.build asked none).result = .ok table ↔
      ∃ family, around.chooseFamily asked = .ok family ∧
        (Table.build family (around.source family) Tier.catalog).result = .ok table := by
  rw [build_none_eq]
  cases around.chooseFamily asked <;> simp

theorem result_build_none_eq_ok_iff_provides {table : Table} :
    (around.build none none).result = .ok table ↔ around.Provides table := by
  simp only [result_build_none_eq_ok_iff, chooseFamily_eq_ok_iff, Provides, exists_and_right,
    source, Host.family]

/-- The tiers of the catalogue leave nothing that could stop a scan. -/
theorem result_build_none_eq_error_iff :
    (around.build asked none).result = .error failure ↔
      asked = none ∧ ∃ text, around.settings.RefusesFamily text ∧
        failure = .unknownFamily text := by
  rw [← chooseFamily_eq_error_iff, build_none_eq]
  cases h : around.chooseFamily asked with
  | error stop => simp
  | ok family =>
      obtain ⟨table, htable⟩ := Resolver.exists_build_catalog family (around.source family)
      simp [htable]

theorem exists_build_none (h : asked = none → ∀ text, ¬ around.settings.RefusesFamily text) :
    ∃ table, (around.build asked none).result = .ok table := by
  cases hbuild : (around.build asked none).result with
  | ok table => exact ⟨table, rfl⟩
  | error failure =>
      obtain ⟨hasked, text, hrefuses, -⟩ := result_build_none_eq_error_iff.mp hbuild
      exact absurd hrefuses (h hasked text)

theorem Decides.exists_build {origin : Origin} (h : around.Decides asked family origin) :
    ∃ table, (around.build asked none).result = .ok table := by
  apply exists_build_none
  rintro rfl text hrefuses
  have hrefused := chooseFamily_eq_error_iff.mpr ⟨rfl, text, hrefuses, rfl⟩
  exact nomatch h.chooseFamily_eq.symm.trans hrefused

theorem Provides.unique {table other : Table} (h : around.Provides table)
    (hother : around.Provides other) : table = other := by
  rw [← result_build_none_eq_ok_iff_provides] at h hother
  exact Except.ok.inj (h.symm.trans hother)

theorem Provides.not_refuses {table : Table} (h : around.Provides table) {text : String} :
    ¬ around.settings.RefusesFamily text := by
  intro hrefuses
  have herror := result_build_none_eq_error_iff.mpr ⟨rfl, text, hrefuses, rfl⟩
  exact nomatch (result_build_none_eq_ok_iff_provides.mpr h).symm.trans herror

theorem build_none_of_refused {text : String} (h : around.settings.RefusesFamily text) :
    around.build none none = ⟨[], .error (.unknownFamily text)⟩ := by
  have hchoose : around.chooseFamily none = .error (.unknownFamily text) :=
    chooseFamily_eq_error_iff.mpr ⟨rfl, text, h, rfl⟩
  rw [build_none_eq, hchoose]

end Surroundings

end HeaderConstants
