import HeaderConstants.Program
import HeaderConstants.Proofs.FamilyChoice
import HeaderConstants.Proofs.Views

/-!
The stages of a run whose arguments are in order. The log level comes first, then the command, then
the family that the command line names, then the work of the command. Each stage puts its output in
front of what follows, or ends the run.
-/

namespace HeaderConstants

namespace Run

variable {α β : Type}

/-- A run with some output in front of its own. -/
def preceded (events : List Event) (run : Run α) : Run α := ⟨events ++ run.output, run.result⟩

/-- What is shown of log records. -/
def logEvents (logging : Logging) (records : List Logging.Record) : List Event :=
  (records.flatMap logging.lines).map .errorLine

theorem pure_bind (a : α) (next : α → Run β) : (pure a).bind next = next a := rfl

theorem interrupt_bind (interruption : Interruption) (next : α → Run β) :
    (interrupt interruption).bind next = interrupt interruption := rfl

theorem write_bind (events : List Event) (next : Unit → Run β) :
    (write events).bind next = (next ()).preceded events := rfl

theorem log_bind (logging : Logging) (records : List Logging.Record) (next : Unit → Run β) :
    (log logging records).bind next = (next ()).preceded (logEvents logging records) := rfl

theorem bind_of_ok {run : Run α} {a : α} (h : run.result = .ok a) (next : α → Run β) :
    run.bind next = (next a).preceded run.output := by
  simp [bind, preceded, h]

theorem preceded_bind (events : List Event) (run : Run α) (next : α → Run β) :
    (run.preceded events).bind next = (run.bind next).preceded events := by
  cases h : run.result with
  | error interruption => simp [bind, preceded, h]
  | ok a => simp [bind, preceded, h]

/-- A run that shows these events behind log lines, and then ends with a status. -/
def EndsWith (logging : Logging) (run : Run Int) (events : List Event) : Prop :=
  ∃ records status, run = ⟨logEvents logging records ++ events, .ok status⟩

theorem EndsWith.preceded {logging : Logging} {run : Run Int} {events : List Event}
    (h : run.EndsWith logging events) (records : List Logging.Record) :
    (run.preceded (logEvents logging records)).EndsWith logging events := by
  obtain ⟨others, status, rfl⟩ := h
  exact ⟨records ++ others, status, by simp [Run.preceded, logEvents]⟩

@[simp] theorem filterMap_stdoutText?_logEvents (logging : Logging)
    (records : List Logging.Record) :
    (logEvents logging records).filterMap Event.stdoutText? = [] := by
  rw [logEvents, List.filterMap_map, List.filterMap_eq_nil_iff]
  exact fun _ _ => rfl

section Outcome

variable {outcome : Table.Outcome}

theorem ofOutcome_bind_error {failure : Failure} (h : outcome.result = .error failure)
    (logging : Logging) (next : Table → Run β) :
    (ofOutcome logging outcome).bind next =
      (interrupt (.failure failure)).preceded (logEvents logging outcome.log) := by
  rw [ofOutcome, log_bind, preceded_bind, h, ofExcept, interrupt_bind]

theorem ofOutcome_bind_ok {table : Table} (h : outcome.result = .ok table) (logging : Logging)
    (next : Table → Run β) :
    (ofOutcome logging outcome).bind next =
      (next table).preceded (logEvents logging outcome.log) := by
  rw [ofOutcome, log_bind, preceded_bind, h, ofExcept, pure_bind]

end Outcome

end Run

@[simp] theorem Terminal.stdoutText?_print (terminal : Terminal) (texts : List String) :
    (terminal.print texts).stdoutText? = none := by
  cases terminal <;> rfl

namespace CommandLine.OptionText

/-- The family that an option names, if it names one. -/
def family? : OptionText → Option Family
  | .given text => Family.ofText? text
  | _ => none

end CommandLine.OptionText

namespace Program

open CommandLine

variable {around : Surroundings} {terminal : Terminal} {logging : Logging}

section FamilyOption

variable {option : OptionText}

theorem output_familyOption (option : OptionText) : (familyOption option).output = [] := by
  cases option with
  | absent => rfl
  | emptied => rfl
  | given text =>
      rw [familyOption]
      cases Family.ofText text <;> rfl

theorem result_familyOption (hemptied : option ≠ .emptied)
    (hnamed : ∀ text, option = .given text → Family.ofText? text ≠ none) :
    (familyOption option).result = .ok option.family? := by
  cases option with
  | absent => rfl
  | emptied => exact absurd rfl hemptied
  | given text =>
      obtain ⟨family, hsome⟩ := Option.ne_none_iff_exists'.mp (hnamed text rfl)
      rw [familyOption, Family.ofText, OptionText.family?, hsome]
      rfl

theorem result_familyOption_of_unnamed {text : String} (h : Family.ofText? text = none) :
    (familyOption (.given text)).result = .error (.failure (.unknownFamily text)) := by
  rw [familyOption, Family.ofText, h]
  rfl

theorem eq_absent_of_result_familyOption (h : (familyOption option).result = .ok none) :
    option = .absent := by
  cases option with
  | absent => rfl
  | emptied => exact nomatch h
  | given text =>
      rw [familyOption] at h
      cases hfound : Family.ofText text <;> rw [hfound] at h <;> exact nomatch h

theorem eq_family?_of_result_familyOption {asked : Option Family}
    (h : (familyOption option).result = .ok asked) :
    asked = option.family? := by
  cases option with
  | absent => exact (Except.ok.inj h).symm
  | emptied => cases h
  | given text =>
      rw [familyOption] at h
      rw [OptionText.family?]
      cases hfound : Family.ofText text with
      | error failure =>
          rw [hfound] at h
          cases h
      | ok family =>
          rw [hfound] at h
          rw [Family.ofText_eq_ok_iff.mp hfound, ← Except.ok.inj h]

end FamilyOption

section Start

variable {arguments : List String} {invocation : Invocation} {level : Logging.Level}
  {command : Command} {failure : Failure}

/-- The log of a run, by the switches and the level of the environment. -/
def loggingAt (invocation : Invocation) (level : Logging.Level) : Logging :=
  .withHandler ((Logging.switchedLevel? invocation.quiet invocation.verbose).getD level) .simple

/-- The record with which a command begins. -/
def commandNote (command : Command) (family : Option Family) : Logging.Record :=
  note ("command=" ++ command.verb.name ++ " family=" ++ familyTag family)

theorem setUpLog_of_level_error (h : around.settings.logThreshold = .error failure)
    (invocation : Invocation) :
    setUpLog around invocation = Run.interrupt (.failure failure) := by
  rw [setUpLog, h]
  rfl

theorem setUpLog_of_level (h : around.settings.logThreshold = .ok level)
    (invocation : Invocation) :
    setUpLog around invocation = Run.pure (loggingAt invocation level) := by
  have hnamed : Logging.Level.named? (Text.upper level.name) = some level := by
    cases level <;> decide +kernel
  have hsetUp : Logging.setUp
      { level := level.name, quiet := invocation.quiet, verbose := invocation.verbose } =
        .ok (loggingAt invocation level) := by
    rw [Logging.setUp_eq_ok_iff]
    refine ⟨_, ?_, rfl⟩
    rw [Logging.Request.threshold, hnamed]
    cases Logging.switchedLevel? invocation.quiet invocation.verbose <;> rfl
  rw [setUpLog, h]
  exact congrArg Run.ofSetUp hsetUp

theorem run_of_parse_ok (h : parse arguments = .ok invocation) :
    run around terminal arguments =
      (setUpLog around invocation).bind fun logging =>
        match invocation.command with
        | none => Run.preceded [.stdout mainGrammar.helpText] (Run.pure ExitStatus.success)
        | some command => (familyOption invocation.family).bind fun family =>
            (execute around terminal logging family command).preceded
              (Run.logEvents logging [commandNote command family]) := by
  rw [run, h]
  rfl

theorem run_of_level_error (h : parse arguments = .ok invocation)
    (hlevel : around.settings.logThreshold = .error failure) :
    run around terminal arguments = Run.interrupt (.failure failure) := by
  rw [run_of_parse_ok h, setUpLog_of_level_error hlevel]
  rfl

theorem run_of_no_command (h : parse arguments = .ok invocation)
    (hlevel : around.settings.logThreshold = .ok level) (hcommand : invocation.command = none) :
    run around terminal arguments =
      ⟨[.stdout mainGrammar.helpText], .ok ExitStatus.success⟩ := by
  rw [run_of_parse_ok h, setUpLog_of_level hlevel, hcommand]
  rfl

theorem run_of_command (h : parse arguments = .ok invocation)
    (hlevel : around.settings.logThreshold = .ok level)
    (hcommand : invocation.command = some command) :
    run around terminal arguments =
      (familyOption invocation.family).bind fun family =>
        (execute around terminal (loggingAt invocation level) family command).preceded
          (Run.logEvents (loggingAt invocation level) [commandNote command family]) := by
  rw [run_of_parse_ok h, setUpLog_of_level hlevel, hcommand]
  rfl

theorem run_of_family_error (h : parse arguments = .ok invocation)
    (hlevel : around.settings.logThreshold = .ok level)
    (hcommand : invocation.command = some command) {interruption : Interruption}
    (hfamily : (familyOption invocation.family).result = .error interruption) :
    run around terminal arguments = Run.interrupt interruption := by
  rw [run_of_command h hlevel hcommand, Run.bind_error hfamily, output_familyOption]
  rfl

theorem run_of_family_ok (h : parse arguments = .ok invocation)
    (hlevel : around.settings.logThreshold = .ok level)
    (hcommand : invocation.command = some command) {asked : Option Family}
    (hfamily : (familyOption invocation.family).result = .ok asked) :
    run around terminal arguments =
      (execute around terminal (loggingAt invocation level) asked command).preceded
        (Run.logEvents (loggingAt invocation level) [commandNote command asked]) := by
  rw [run_of_command h hlevel hcommand, Run.bind_of_ok hfamily, output_familyOption]
  rfl

end Start

section Commands

variable {asked : Option Family} {table : Table} {failure : Failure}

/-- What is logged at the end of a run that looked up names. -/
def closingNotes (resolver : Resolver) (names : List String) : List Logging.Record :=
  let unresolved := names.filter fun name => (resolver.resolve name).isNone
  if unresolved.isEmpty then []
  else
    [note (Text.decimal unresolved.length ++ " of " ++ Text.decimal names.length ++
      " name(s) unresolved")]

/-- The status of a run that looked up names. -/
def resolveStatus (resolver : Resolver) (names : List String) : Int :=
  if names.any fun name => (resolver.resolve name).isNone then ExitStatus.unresolved
  else ExitStatus.success

theorem resolveStatus_eq (resolver : Resolver) (names : List String) :
    resolveStatus resolver names =
      if ∃ name ∈ names, resolver.resolve name = none then 3 else 0 := by
  rw [resolveStatus]
  apply if_congr _ rfl rfl
  simp

theorem runResolve_of_error (h : (around.build asked none).result = .error failure)
    (names : List String) :
    runResolve around terminal logging asked names =
      (Run.interrupt (.failure failure)).preceded
        (Run.logEvents logging (around.build asked none).log) :=
  Run.ofOutcome_bind_error h logging _

theorem runResolve_of_ok (h : (around.build asked none).result = .ok table)
    (names : List String) :
    runResolve around terminal logging asked names =
      ⟨Run.logEvents logging (around.build asked none).log ++
        (names.map (resolveEvent terminal ⟨table⟩) ++
          Run.logEvents logging (closingNotes ⟨table⟩ names)),
        .ok (resolveStatus ⟨table⟩ names)⟩ := by
  refine (Run.ofOutcome_bind_ok h logging _).trans ?_
  have hany : (names.any fun name => ((Resolver.mk table).resolve name).isNone) =
      !(names.filter fun name => ((Resolver.mk table).resolve name).isNone).isEmpty := by
    rw [Bool.eq_iff_iff]
    simp [List.filter_eq_nil_iff]
  rw [closingNotes, resolveStatus, hany]
  cases hempty :
      (names.filter fun name => ((Resolver.mk table).resolve name).isNone).isEmpty with
  | true =>
      simp [Run.bind_def, Run.pure_def, Run.write_bind, Run.preceded, Run.pure, Run.logEvents,
        hempty]
  | false =>
      simp [Run.bind_def, Run.pure_def, Run.write_bind, Run.preceded, Run.pure, Run.log,
        Run.logEvents, hempty]

theorem runList_of_error (h : (around.build asked none).result = .error failure)
    (category tier : OptionText) :
    runList around terminal logging asked category tier =
      (Run.interrupt (.failure failure)).preceded
        (Run.logEvents logging (around.build asked none).log) :=
  Run.ofOutcome_bind_error h logging _

/-- The filters commute: the one for the tier picks the candidates, the other goes over them. -/
theorem selectConstants_eq (table : Table) (category tier : OptionText) :
    selectConstants ⟨table⟩ category tier = .ok (table.constants.filter fun constant =>
      tier.passes constant.tier && category.passes constant.category.key) := by
  rw [selectConstants]
  cases tier with
  | absent =>
      rw [candidates, Resolver.constants, Table.values_eq]
      simp [Except.map, OptionText.passes]
  | given text =>
      rw [candidates, Table.ofTier]
      simp only [Except.map, List.filter_filter, OptionText.passes, Bool.and_comm]
  | emptied => simp [candidates, Except.map, OptionText.passes]

theorem runList_of_ok (h : (around.build asked none).result = .ok table)
    (category tier : OptionText) :
    runList around terminal logging asked category tier =
      ⟨Run.logEvents logging (around.build asked none).log ++
        Listing.showConstants terminal
          (table.family.label ++ " constants (" ++ table.description ++ ")")
          (table.constants.filter fun constant =>
            tier.passes constant.tier && category.passes constant.category.key),
        .ok ExitStatus.success⟩ := by
  refine (Run.ofOutcome_bind_ok h logging _).trans ?_
  rw [selectConstants_eq]
  simp [Run.bind_def, Run.pure_def, Run.write_bind, Run.preceded, Run.pure, Run.ofWalk]

theorem runGaps_eq (terminal : Terminal) :
    runGaps terminal =
      ⟨Listing.showExclusions terminal Exclusion.all, .ok ExitStatus.success⟩ := by
  simp [runGaps, Run.bind_def, Run.pure_def, Run.write_bind, Run.preceded, Run.pure]

end Commands

section Settle

theorem settle_preceded (terminal : Terminal) (events : List Event) (run : Run Int) :
    settle terminal (run.preceded events) =
      (events ++ (settle terminal run).1, (settle terminal run).2) := by
  cases h : run.result <;> simp [settle, Run.preceded, h]

/-- What the user is shown for a failure that comes with advice. -/
def failureEvents (terminal : Terminal) (failure : Failure) (hint : String) : List Event :=
  [terminal.print ["[bold red]Error:[/bold red] " ++ terminal.literal failure.message],
   terminal.print ["[yellow]Hint:[/yellow] " ++ terminal.literal hint]]

@[simp] theorem filterMap_stdoutText?_failureEvents (terminal : Terminal) (failure : Failure)
    (hint : String) : (failureEvents terminal failure hint).filterMap Event.stdoutText? = [] := by
  simp [failureEvents]

theorem settle_failure {failure : Failure} {hint : String} (h : failure.hint = some hint)
    (hne : hint ≠ "") :
    settle terminal (Run.interrupt (.failure failure)) =
      (failureEvents terminal failure hint, .number ExitStatus.generalError) := by
  have hshown : (some hint).filter (· ≠ "") = some hint :=
    Option.filter_eq_some_iff.mpr ⟨rfl, by simpa using hne⟩
  simp only [settle, Run.interrupt, settleInterruption, h, hshown, failureEvents,
    List.nil_append]

end Settle

end Program

namespace Doctor

open Surroundings (Origin)

variable {around : Surroundings} {terminal : Terminal} {logging : Logging}
  {asked : Option Family}

theorem run_of_error {failure : Failure} (h : selectFamily around asked = .error failure) :
    run around terminal logging asked = Run.interrupt (.failure failure) := by
  rw [run, h]
  rfl

theorem run_of_ok {selected : Family × Origin} (h : selectFamily around asked = .ok selected)
    {table : Table} (hbuild : (around.build (some selected.1) none).result = .ok table) :
    run around terminal logging asked =
      ⟨Run.logEvents logging (around.build (some selected.1) none).log ++
        present terminal (checks around selected.1 selected.2 table).1
          (checks around selected.1 selected.2 table).2,
        .ok (if (checks around selected.1 selected.2 table).1.any (·.isFailure) then
          ExitStatus.generalError else ExitStatus.success)⟩ := by
  rw [run, h]
  refine (Run.ofOutcome_bind_ok hbuild logging _).trans ?_
  simp [Run.bind_def, Run.pure_def, Run.write_bind, Run.preceded, Run.pure]

end Doctor

end HeaderConstants
