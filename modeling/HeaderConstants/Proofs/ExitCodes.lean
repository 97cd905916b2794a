import HeaderConstants.Host.Reference
import HeaderConstants.Proofs.Stages
import HeaderConstants.Proofs.Verdicts

namespace HeaderConstants.Program

open CommandLine

section Conditions

variable (around : Surroundings) (invocation : Invocation)

/-- Something that the user named is refused: a log level of the environment, a family on the
command line, or a family of the environment where it is needed. -/
inductive Refused : Failure → Prop
  | level {text : String} (h : around.settings.RefusesLogLevel text) :
      Refused (.invalidLogLevel text)
  | option {text : String} (hcommand : invocation.command ≠ none)
      (hfamily : invocation.family = .given text) (hnone : Family.ofText? text = none) :
      Refused (.unknownFamily text)
  | setting {text : String} {command : Command} (hcommand : invocation.command = some command)
      (hgaps : command ≠ .gaps) (hfamily : invocation.family = .absent)
      (h : around.settings.RefusesFamily text) : Refused (.unknownFamily text)

/-- The family option of a command lost its text. -/
def Emptied : Prop := invocation.command ≠ none ∧ invocation.family = .emptied

/-- A report on a machine whose interpreter is too old. -/
def Outdated : Prop := invocation.command = some .doctor ∧ around.host.version < [3, 10]

/-- Names are looked up, and one of them has no value. -/
def LeavesUnresolved : Prop :=
  ∃ names table, invocation.command = some (.resolve names) ∧
    (around.build invocation.family.family? none).result = .ok table ∧
    ∃ name ∈ names, (Resolver.mk table).resolve name = none

end Conditions

variable {around : Surroundings} {terminal : Terminal} {logging : Logging}
  {arguments : List String} {invocation : Invocation} {failure : Failure}

theorem Refused.exists_hint (h : Refused around invocation failure) :
    ∃ hint, failure.hint = some hint ∧ hint ≠ "" := by
  cases h with
  | level _ => exact ⟨_, rfl, by decide +kernel⟩
  | option _ _ _ => exact ⟨_, rfl, by decide +kernel⟩
  | setting _ _ _ _ => exact ⟨_, rfl, by decide +kernel⟩

theorem exists_level_of_not_refused (h : ¬ ∃ failure, Refused around invocation failure) :
    ∃ level, around.settings.logThreshold = .ok level := by
  cases hlevel : around.settings.logThreshold with
  | ok level => exact ⟨level, rfl⟩
  | error failure =>
      obtain ⟨text, hrefuses, -⟩ := Settings.logThreshold_eq_error_iff.mp hlevel
      exact absurd ⟨_, .level hrefuses⟩ h

section Execute

variable {asked : Option Family} {command : Command}

theorem execute_of_refused {text : String} (h : around.settings.RefusesFamily text)
    (hgaps : command ≠ .gaps) :
    execute around terminal logging none command =
      Run.interrupt (.failure (.unknownFamily text)) := by
  have hbuild := Surroundings.build_none_of_refused h
  cases command with
  | resolve names =>
      refine (runResolve_of_error (congrArg Table.Outcome.result hbuild) names).trans ?_
      rw [hbuild]
      rfl
  | list category tier =>
      refine (runList_of_error (congrArg Table.Outcome.result hbuild) category tier).trans ?_
      rw [hbuild]
      rfl
  | gaps => exact absurd rfl hgaps
  | doctor => exact Doctor.run_of_error (Doctor.selectFamily_eq_error_iff.mpr ⟨rfl, text, h, rfl⟩)

theorem exists_execute_eq (terminal : Terminal) (logging : Logging)
    (h : command ≠ .gaps → asked = none → ∀ text, ¬ around.settings.RefusesFamily text) :
    ∃ events status, execute around terminal logging asked command = ⟨events, .ok status⟩ ∧
      status ∈ [0, 1, 3] ∧
      (status = 1 ↔ command = .doctor ∧ around.host.version < [3, 10]) ∧
      (status = 3 ↔ ∃ names table, command = .resolve names ∧
        (around.build asked none).result = .ok table ∧
        ∃ name ∈ names, (Resolver.mk table).resolve name = none) := by
  cases command with
  | resolve names =>
      obtain ⟨table, htable⟩ := Surroundings.exists_build_none (h (by simp))
      refine ⟨_, _, runResolve_of_ok htable names, ?_⟩
      rw [resolveStatus_eq]
      by_cases hnone : ∃ name ∈ names, (Resolver.mk table).resolve name = none
      · rw [if_pos hnone]
        exact ⟨by simp, by simp, iff_of_true rfl ⟨names, table, rfl, htable, hnone⟩⟩
      · rw [if_neg hnone]
        refine ⟨by simp, by simp, iff_of_false (by simp) ?_⟩
        rintro ⟨given, other, hgiven, hother, hthis⟩
        obtain rfl := Command.resolve.inj hgiven
        obtain rfl := Except.ok.inj (htable.symm.trans hother)
        exact hnone hthis
  | list category tier =>
      obtain ⟨table, htable⟩ := Surroundings.exists_build_none (h (by simp))
      exact ⟨_, _, runList_of_ok htable category tier, by decide, by simp [ExitStatus.success],
        by simp [ExitStatus.success]⟩
  | gaps =>
      exact ⟨_, _, runGaps_eq terminal, by decide, by simp [ExitStatus.success],
        by simp [ExitStatus.success]⟩
  | doctor =>
      cases hselect : Doctor.selectFamily around asked with
      | error failure =>
          obtain ⟨hasked, text, hrefuses, -⟩ := Doctor.selectFamily_eq_error_iff.mp hselect
          exact absurd hrefuses (h (by simp) hasked text)
      | ok selected =>
          obtain ⟨table, htable⟩ : ∃ table,
              (around.build (some selected.1) none).result = .ok table :=
            Surroundings.exists_build_none (fun hsome => nomatch hsome)
          refine ⟨_, _, Doctor.run_of_ok hselect htable, ?_⟩
          rw [Doctor.any_isFailure_checks, ← Doctor.versionSuffices_eq_false_iff]
          cases Doctor.versionSuffices around.host.version <;>
            simp [ExitStatus.success, ExitStatus.generalError]

end Execute

section Accepted

variable (terminal) (h : parse arguments = .ok invocation)
include h

theorem run_of_refused (hrefused : ∃ failure, Refused around invocation failure) :
    ∃ failure logging records, Refused around invocation failure ∧
      run around terminal arguments =
        (Run.interrupt (.failure failure)).preceded (Run.logEvents logging records) := by
  -- The level is read first, so what is shown need not be the refusal that is given.
  cases hlevel : around.settings.logThreshold with
  | error failure =>
      obtain ⟨text, hrefuses, rfl⟩ := Settings.logThreshold_eq_error_iff.mp hlevel
      exact ⟨_, .initial, [], .level hrefuses, run_of_level_error h hlevel⟩
  | ok level =>
      obtain ⟨failure, hrefused⟩ := hrefused
      cases hrefused with
      | level hrefuses =>
          exact nomatch hlevel.symm.trans
            (Settings.logThreshold_eq_error_iff.mpr ⟨_, hrefuses, rfl⟩)
      | option hcommand hfamily hnone =>
          obtain ⟨command, hsome⟩ := Option.ne_none_iff_exists'.mp hcommand
          refine ⟨_, .initial, [], .option hcommand hfamily hnone, ?_⟩
          apply run_of_family_error h hlevel hsome
          rw [hfamily, result_familyOption_of_unnamed hnone]
      | @setting text command hcommand hgaps hfamily hrefuses =>
          have hasked : (familyOption invocation.family).result = .ok none := by
            rw [hfamily]
            rfl
          refine ⟨_, loggingAt invocation level, [commandNote command none],
            .setting hcommand hgaps hfamily hrefuses, ?_⟩
          rw [run_of_family_ok h hlevel hcommand hasked, execute_of_refused hrefuses hgaps]

theorem settle_of_refused (hrefused : ∃ failure, Refused around invocation failure) :
    ∃ failure hint logging records, Refused around invocation failure ∧
      failure.hint = some hint ∧ hint ≠ "" ∧
      settle terminal (run around terminal arguments) =
        (Run.logEvents logging records ++ failureEvents terminal failure hint, .number 1) := by
  obtain ⟨failure, logging, records, hthis, hrun⟩ := run_of_refused terminal h hrefused
  obtain ⟨hint, hhint, hne⟩ := hthis.exists_hint
  refine ⟨failure, hint, logging, records, hthis, hhint, hne, ?_⟩
  rw [hrun, settle_preceded, settle_failure hhint hne]
  rfl

theorem settle_of_emptied (hrefused : ¬ ∃ failure, Refused around invocation failure)
    (hemptied : Emptied invocation) :
    (settle terminal (run around terminal arguments)).2 = .number 2 := by
  obtain ⟨level, hlevel⟩ := exists_level_of_not_refused hrefused
  obtain ⟨command, hcommand⟩ := Option.ne_none_iff_exists'.mp hemptied.1
  have hasked : (familyOption invocation.family).result = .error
      (.unexpected "AttributeError" "'list' object has no attribute 'strip'") := by
    rw [hemptied.2]
    rfl
  rw [run_of_family_error h hlevel hcommand hasked]
  rfl

theorem settle_of_execute (hrefused : ¬ ∃ failure, Refused around invocation failure)
    (hemptied : ¬ Emptied invocation) :
    ∃ status, (settle terminal (run around terminal arguments)).2 = .number status ∧
      status ∈ [0, 1, 3] ∧ (status = 1 ↔ Outdated around invocation) ∧
      (status = 3 ↔ LeavesUnresolved around invocation) := by
  obtain ⟨level, hlevel⟩ := exists_level_of_not_refused hrefused
  cases hcommand : invocation.command with
  | none =>
      refine ⟨0, ?_, by simp, by simp [Outdated, hcommand], by simp [LeavesUnresolved, hcommand]⟩
      rw [run_of_no_command h hlevel hcommand]
      rfl
  | some command =>
      have hsome : invocation.command ≠ none := by simp [hcommand]
      have hnot : invocation.family ≠ .emptied := fun hfamily => hemptied ⟨hsome, hfamily⟩
      have hnamed : ∀ text, invocation.family = .given text → Family.ofText? text ≠ none :=
        fun text hfamily hnone => hrefused ⟨_, .option hsome hfamily hnone⟩
      have hsetting : command ≠ .gaps → invocation.family.family? = none →
          ∀ text, ¬ around.settings.RefusesFamily text := by
        intro hgaps hasked text hrefuses
        apply hrefused
        refine ⟨_, .setting hcommand hgaps ?_ hrefuses⟩
        cases hfamily : invocation.family with
        | absent => rfl
        | emptied => exact absurd hfamily hnot
        | given text =>
            rw [hfamily, OptionText.family?] at hasked
            exact absurd hasked (hnamed text hfamily)
      obtain ⟨events, status, hexecute, hmem, hdoctor, hresolve⟩ :=
        exists_execute_eq terminal (loggingAt invocation level) hsetting
      refine ⟨status, ?_, hmem, ?_, ?_⟩
      · rw [run_of_family_ok h hlevel hcommand (result_familyOption hnot hnamed), settle_preceded,
          hexecute]
        rfl
      · rw [hdoctor, Outdated, hcommand, Option.some_inj]
      · rw [hresolve, LeavesUnresolved, hcommand]
        simp only [Option.some_inj]

end Accepted

/-- The exit code of a run whose arguments are in order. It is 1 if something that the user named is
refused, and otherwise it is 2 for a family option without its text; then it is 1 for a report on an
interpreter that is too old, 3 for a name that is left without a value, and 0 for any other run. -/
theorem exitCode_of_parse_ok (around : Surroundings) (terminal : Terminal)
    (h : parse arguments = .ok invocation) :
    (settle terminal (run around terminal arguments)).2 ∈
        [ExitCode.number 0, .number 1, .number 2, .number 3] ∧
      ((settle terminal (run around terminal arguments)).2 = .number 1 ↔
        (∃ failure, Refused around invocation failure) ∨
          (¬ Emptied invocation ∧ Outdated around invocation)) ∧
      ((settle terminal (run around terminal arguments)).2 = .number 2 ↔
        (¬ ∃ failure, Refused around invocation failure) ∧ Emptied invocation) ∧
      ((settle terminal (run around terminal arguments)).2 = .number 3 ↔
        (¬ ∃ failure, Refused around invocation failure) ∧ ¬ Emptied invocation ∧
          LeavesUnresolved around invocation) ∧
      ((settle terminal (run around terminal arguments)).2 = .number 0 ↔
        (¬ ∃ failure, Refused around invocation failure) ∧ ¬ Emptied invocation ∧
          ¬ Outdated around invocation ∧ ¬ LeavesUnresolved around invocation) ∧
      ((∃ failure, Refused around invocation failure) →
        (settle terminal (run around terminal arguments)).1.filterMap Event.stdoutText? = [] ∧
          ∃ before failure hint, Refused around invocation failure ∧
            failure.hint = some hint ∧ hint ≠ "" ∧
            (settle terminal (run around terminal arguments)).1 =
              before ++ failureEvents terminal failure hint) := by
  by_cases hrefused : ∃ failure, Refused around invocation failure
  · obtain ⟨failure, hint, logging, records, hthis, hhint, hne, hsettle⟩ :=
      settle_of_refused terminal h hrefused
    rw [hsettle]
    refine ⟨by simp, by simp [hrefused], by simp [hrefused], by simp [hrefused],
      by simp [hrefused], fun _ => ?_⟩
    exact ⟨by simp, _, failure, hint, hthis, hhint, hne, rfl⟩
  · by_cases hemptied : Emptied invocation
    · rw [settle_of_emptied terminal h hrefused hemptied]
      simp [hrefused, hemptied]
    · obtain ⟨status, hsettle, hmem, houtdated, hunresolved⟩ :=
        settle_of_execute terminal h hrefused hemptied
      simp only [List.mem_cons, List.not_mem_nil, or_false] at hmem
      rw [hsettle, ← houtdated, ← hunresolved]
      rcases hmem with rfl | rfl | rfl <;> simp [hrefused, hemptied]

theorem exitCode_of_parse_ok_plan9 :
    parse ["--family", "plan9", "gaps"] = .ok ⟨false, false, .given "plan9", some .gaps⟩ ∧
      (settle .plain (run { host := .reference } .plain ["--family", "plan9", "gaps"])).2 =
        .number 1 ∧
      (settle .plain (run { host := .reference } .plain
        ["--family", "plan9", "gaps"])).1.filterMap Event.stdoutText? = [] := by
  have hparse : parse ["--family", "plan9", "gaps"] =
      .ok ⟨false, false, .given "plan9", some .gaps⟩ := by
    with_unfolding_all rfl
  have hrefused : ∃ failure, Refused { host := .reference }
      ⟨false, false, .given "plan9", some .gaps⟩ failure :=
    ⟨_, .option (by simp) rfl (by decide +kernel)⟩
  obtain ⟨-, hone, -, -, -, hshown⟩ :=
    exitCode_of_parse_ok { host := .reference } .plain hparse
  exact ⟨hparse, hone.mpr (.inl hrefused), (hshown hrefused).1⟩

/-- The text that is taken away is no family either, but the run does not get to say so. -/
theorem exitCode_of_family_mark :
    parse ["--family=--", "gaps"] = .ok ⟨false, false, .emptied, some .gaps⟩ ∧
      Family.ofText? "--" = none ∧
      (settle .plain (run { host := .reference } .plain ["--family=--", "gaps"])).2 =
        .number 2 := by
  refine ⟨?_, by decide +kernel, by decide +kernel⟩
  with_unfolding_all rfl

end HeaderConstants.Program
