import HeaderConstants.Host.Reference
import HeaderConstants.Proofs.Arguments
import HeaderConstants.Proofs.Assignments
import HeaderConstants.Proofs.Stages

namespace HeaderConstants

namespace Resolver

variable {family : Family} {source : Source} {table : Table} {resolver : Resolver}
  {names : List String}

/-- The names that have a value, each with its value. -/
def answers (resolver : Resolver) (names : List String) : List (String × Int) :=
  names.filterMap fun name => (resolver.resolve name).map (name, ·)

theorem isCapital_of_mem_answers (h : (Table.build family source Tier.catalog).result = .ok table)
    {pair : String × Int} (hpair : pair ∈ (Resolver.mk table).answers names) :
    Text.IsCapital pair.1 := by
  obtain ⟨name, -, hvalue⟩ := List.mem_filterMap.mp hpair
  obtain ⟨value, hsome, rfl⟩ := Option.map_eq_some_iff.mp hvalue
  exact isCapital_of_resolve h (by rw [hsome]; simp)

theorem readAssignments?_answers
    (h : (Table.build family source Tier.catalog).result = .ok table) (names : List String) :
    readAssignments? (String.join (((Resolver.mk table).answers names).map assignment)) =
      some ((Resolver.mk table).answers names) := by
  apply readAssignments?_join
  intro pair hpair
  have hcapital := isCapital_of_mem_answers h hpair
  exact ⟨hcapital.notMem (by decide), hcapital.notMem (by decide)⟩

end Resolver

namespace Program

open CommandLine

variable {around : Surroundings} {terminal : Terminal} {logging : Logging}

section Events

theorem filterMap_stdoutText?_map_resolveEvent (terminal : Terminal) (resolver : Resolver)
    (names : List String) :
    (names.map (resolveEvent terminal resolver)).filterMap Event.stdoutText? =
      (resolver.answers names).map assignment := by
  induction names with
  | nil => rfl
  | cons name rest ih =>
      rw [Resolver.answers] at ih ⊢
      cases h : resolver.resolve name with
      | none => simp [resolveEvent, notDefined, h, ih]
      | some value => simp [resolveEvent, Event.stdoutText?, assignment, h, ih]

theorem notDefined_eq (terminal : Terminal) (family : Family) (name : String) :
    notDefined terminal family name =
      match terminal with
      | .plain =>
          .stderr ("[yellow]" ++ name ++ "[/yellow] is not defined for " ++ family.label ++ ".\n")
      | .styled =>
          .styled [.markup ("[yellow]" ++ Text.escapeMarkup name ++
            "[/yellow] is not defined for " ++ family.label ++ ".")] := by
  cases terminal with
  | plain =>
      simp [notDefined, Terminal.print, Terminal.literal, Event.errorLine, String.append_assoc]
  | styled => rfl

theorem filter_map_resolveEvent (terminal : Terminal) (resolver : Resolver)
    (names : List String) :
    (names.map (resolveEvent terminal resolver)).filter (·.stdoutText?.isNone) =
      (names.filter fun name => (resolver.resolve name).isNone).map
        (notDefined terminal resolver.family) := by
  induction names with
  | nil => rfl
  | cons name rest ih =>
      cases h : resolver.resolve name with
      | none => simp [resolveEvent, notDefined, h, ← ih]
      | some value => simp [resolveEvent, Event.stdoutText?, h, ← ih]

theorem filterMap_stdoutText?_settleInterruption (terminal : Terminal)
    (interruption : Interruption) :
    (settleInterruption terminal interruption).1.filterMap Event.stdoutText? = [] := by
  cases interruption with
  | failure failure =>
      simp only [settleInterruption]
      split <;> simp
  | byUser => simp [settleInterruption]
  | unexpected kind message => simp [settleInterruption]
  | exit code => rfl

theorem code_settleInterruption (terminal other : Terminal) (interruption : Interruption) :
    (settleInterruption terminal interruption).2 = (settleInterruption other interruption).2 := by
  cases interruption <;> rfl

end Events

/-- What a script sees of a run: the text on the standard output, and the exit code. -/
def seen (settled : List Event × ExitCode) : String × ExitCode :=
  (String.join (settled.1.filterMap Event.stdoutText?), settled.2)

theorem seen_settle_preceded (terminal : Terminal) (logging : Logging)
    (records : List Logging.Record) (run : Run Int) :
    seen (settle terminal (run.preceded (Run.logEvents logging records))) =
      seen (settle terminal run) := by
  simp [seen, settle_preceded]

theorem seen_settle_interrupt (terminal : Terminal) (interruption : Interruption) :
    seen (settle terminal (Run.interrupt interruption)) =
      ("", (settleInterruption .plain interruption).2) := by
  rw [code_settleInterruption .plain terminal]
  simp [seen, settle, Run.interrupt, filterMap_stdoutText?_settleInterruption, String.join]

section Run

variable {arguments : List String} {invocation : Invocation} {names : List String}
  {asked : Option Family} {table : Table}

/-- What a script sees of a run that looks up names, from what it depends on. -/
def resolveSeen (around : Surroundings) (option : OptionText) (names : List String) :
    String × ExitCode :=
  match (familyOption option).result with
  | .error interruption => ("", (settleInterruption .plain interruption).2)
  | .ok asked =>
    match (around.build asked none).result with
    | .error _ => ("", .number ExitStatus.generalError)
    | .ok table =>
      (String.join (((Resolver.mk table).answers names).map assignment),
        .number (resolveStatus ⟨table⟩ names))

/-- The other settings of the environment do not matter, and the family that it names only matters
where the command line names none. -/
theorem resolveSeen_congr {other : Surroundings} {option : OptionText}
    (hhost : other.host = around.host)
    (hfamily : option = .absent → other.settings.family = around.settings.family)
    (names : List String) : resolveSeen other option names = resolveSeen around option names := by
  have hbuild : ∀ asked, (familyOption option).result = .ok asked →
      other.build asked none = around.build asked none := by
    intro asked hasked
    -- Only an option that is absent leaves the choice to the environment.
    apply Surroundings.build_none_congr hhost
    rintro rfl
    exact hfamily (eq_absent_of_result_familyOption hasked)
  rw [resolveSeen, resolveSeen]
  cases h : (familyOption option).result with
  | error interruption => rfl
  | ok asked => simp only [hbuild asked h]

/-- A run that looks up names, with arguments and a log level that are in order. -/
structure LooksUp (around : Surroundings) (arguments : List String) (invocation : Invocation)
    (names : List String) : Prop where
  parsed : parse arguments = .ok invocation
  level : ∃ level, around.settings.logThreshold = .ok level
  command : invocation.command = some (.resolve names)

/-- Two runs on one machine that ask the same of it. The switches may differ, and so may the log
level and, where the command line names a family, the family of the environment. -/
structure Alike (around other : Surroundings) (invocation otherInvocation : Invocation) :
    Prop where
  command : otherInvocation.command = invocation.command
  family : otherInvocation.family = invocation.family
  host : other.host = around.host
  setting : invocation.family = .absent → other.settings.family = around.settings.family

theorem LooksUp.settle_eq (h : LooksUp around arguments invocation names) (terminal : Terminal)
    (hasked : (familyOption invocation.family).result = .ok asked)
    (hbuild : (around.build asked none).result = .ok table) :
    ∃ level, around.settings.logThreshold = .ok level ∧
      settle terminal (run around terminal arguments) =
        (Run.logEvents (loggingAt invocation level)
            (commandNote (.resolve names) asked :: (around.build asked none).log) ++
          names.map (resolveEvent terminal ⟨table⟩) ++
          Run.logEvents (loggingAt invocation level) (closingNotes ⟨table⟩ names),
        .number (resolveStatus ⟨table⟩ names)) := by
  obtain ⟨level, hlevel⟩ := h.level
  refine ⟨level, hlevel, ?_⟩
  rw [run_of_family_ok h.parsed hlevel h.command hasked, settle_preceded, execute,
    runResolve_of_ok hbuild names]
  simp [settle, Run.logEvents]

theorem LooksUp.seen_eq (h : LooksUp around arguments invocation names) (terminal : Terminal) :
    seen (settle terminal (run around terminal arguments)) =
      resolveSeen around invocation.family names := by
  obtain ⟨level, hlevel⟩ := h.level
  rw [resolveSeen]
  cases hfamily : (familyOption invocation.family).result with
  | error interruption =>
      rw [run_of_family_error h.parsed hlevel h.command hfamily]
      exact seen_settle_interrupt terminal interruption
  | ok asked =>
      cases hbuild : (around.build asked none).result with
      | error failure =>
          rw [run_of_family_ok h.parsed hlevel h.command hfamily, seen_settle_preceded, execute,
            runResolve_of_error hbuild, seen_settle_preceded, seen_settle_interrupt]
          simp only [hbuild]
          rfl
      | ok table =>
          obtain ⟨level, -, hsettle⟩ := h.settle_eq terminal hfamily hbuild
          rw [hsettle, seen]
          simp only [List.filterMap_append, Run.filterMap_stdoutText?_logEvents,
            filterMap_stdoutText?_map_resolveEvent, List.nil_append, List.append_nil, hbuild]

end Run

/-- Names can be looked up from a script. Any names can be asked for. The standard output holds a
line for each that has a value, in order, from which a reader gets back just these names and values;
each other name is told of on the side, and the exit code says whether there was one. None of that
depends on the switches, the log level, the terminal, or a setting that the command line
overrides. -/
theorem resolve_composes :
    (∀ verbose quiet family names, names ≠ [] →
      parse (optionArguments verbose quiet family ++ Verb.resolve.name :: markText :: names) =
        .ok ⟨verbose, quiet, optionText family, some (.resolve names)⟩) ∧
    (∀ around arguments invocation names terminal asked table,
      LooksUp around arguments invocation names →
      (familyOption invocation.family).result = .ok asked →
      (around.build asked none).result = .ok table →
      ∃ level shown, around.settings.logThreshold = .ok level ∧
        (settle terminal (run around terminal arguments)).1 =
          Run.logEvents (loggingAt invocation level)
              (commandNote (.resolve names) asked :: (around.build asked none).log) ++
            shown ++ Run.logEvents (loggingAt invocation level) (closingNotes ⟨table⟩ names) ∧
        shown.filter (·.stdoutText?.isNone) =
          (names.filter fun name => ((Resolver.mk table).resolve name).isNone).map (fun name =>
            match terminal with
            | .plain =>
                .stderr ("[yellow]" ++ name ++ "[/yellow] is not defined for " ++
                  table.family.label ++ ".\n")
            | .styled =>
                .styled [.markup ("[yellow]" ++ Text.escapeMarkup name ++
                  "[/yellow] is not defined for " ++ table.family.label ++ ".")]) ∧
        seen (settle terminal (run around terminal arguments)) =
          (String.join (((Resolver.mk table).answers names).map assignment),
            .number (if ∃ name ∈ names, (Resolver.mk table).resolve name = none then 3 else 0)) ∧
        readAssignments? (seen (settle terminal (run around terminal arguments))).1 =
          some ((Resolver.mk table).answers names)) ∧
    (∀ around other arguments otherArguments invocation otherInvocation names otherNames
      terminal otherTerminal, LooksUp around arguments invocation names →
      LooksUp other otherArguments otherInvocation otherNames →
      Alike around other invocation otherInvocation →
      seen (settle otherTerminal (run other otherTerminal otherArguments)) =
        seen (settle terminal (run around terminal arguments))) := by
  refine ⟨fun verbose quiet family names => parse_resolve verbose quiet family, ?_, ?_⟩
  · intro around arguments invocation names terminal asked table h hasked hbuild
    obtain ⟨level, hlevel, hsettle⟩ := h.settle_eq terminal hasked hbuild
    have hseen : seen (settle terminal (run around terminal arguments)) =
        (String.join (((Resolver.mk table).answers names).map assignment),
          .number (if ∃ name ∈ names, (Resolver.mk table).resolve name = none then 3 else 0)) := by
      rw [h.seen_eq, resolveSeen, hasked]
      simp only [hbuild, resolveStatus_eq]
    refine ⟨level, _, hlevel, congrArg Prod.fst hsettle, ?_, hseen, ?_⟩
    · rw [filter_map_resolveEvent]
      exact List.map_congr_left fun name _ => notDefined_eq terminal table.family name
    · obtain ⟨family, -, htable⟩ := Surroundings.result_build_none_eq_ok_iff.mp hbuild
      rw [hseen]
      exact Resolver.readAssignments?_answers htable names
  · intro around other arguments otherArguments invocation otherInvocation names otherNames
      terminal otherTerminal h hother halike
    have hcommand := hother.command.symm.trans (halike.command.trans h.command)
    obtain rfl := Command.resolve.inj (Option.some.inj hcommand)
    rw [hother.seen_eq, h.seen_eq, halike.family]
    exact resolveSeen_congr halike.host halike.setting otherNames

/-- A name that could be taken for markup and for two lines of output, between two that have a
value. -/
def awkwardNames : List String := ["EPERM", "[red]a=b\nEIO=7", "EPERM"]

/-- Arguments that ask for these names and for all log lines. -/
def loudArguments : List String :=
  optionArguments true false (some .linux) ++ Verb.resolve.name :: markText :: awkwardNames

/-- Arguments that ask for these names and for hardly any log lines. -/
def quietArguments : List String :=
  optionArguments false true (some .linux) ++ Verb.resolve.name :: markText :: awkwardNames

theorem resolve_awkwardNames {table : Table}
    (h : (Surroundings.build { host := .reference } (some .linux) none).result = .ok table) :
    table.family = .linux ∧ (Resolver.mk table).resolve "EPERM" = some 1 ∧
      (Resolver.mk table).resolve "[red]a=b\nEIO=7" = none := by
  have htier : Tier.commonErrno ∈ Tier.active .linux Tier.catalog := by decide +kernel
  have hname : "EPERM" ∈ Tier.commonErrno.names := by decide +kernel
  have hvalue : (Surroundings.source { host := .reference } .linux).lookup
      Tier.commonErrno.category "EPERM" = some 1 := by
    decide +kernel
  have hcapital : ¬ Text.IsCapital "[red]a=b\nEIO=7" := by
    intro hall
    exact absurd (hall 'a' (by decide +kernel)) (by decide)
  exact ⟨Table.family_of_build h, (Resolver.resolve_of_mem_names h htier hname).trans hvalue,
    Resolver.resolve_eq_none_of_not_isCapital h hcapital⟩

theorem resolve_composes_of_awkward_names :
    (∃ before shown after, (settle .plain (run { host := .reference } .plain loudArguments)).1 =
        before ++ shown ++ after ∧
      shown.filter (·.stdoutText?.isNone) =
        [.stderr "[yellow][red]a=b\nEIO=7[/yellow] is not defined for Linux.\n"]) ∧
    (∃ before shown after,
      (settle .styled (run ⟨.reference, some "plan9", some "info"⟩ .styled quietArguments)).1 =
        before ++ shown ++ after ∧
      shown.filter (·.stdoutText?.isNone) =
        [.styled [.markup "[yellow]\\[red]a=b\nEIO=7[/yellow] is not defined for Linux."]]) ∧
    readAssignments? (seen (settle .plain (run { host := .reference } .plain loudArguments))).1 =
      some [("EPERM", 1), ("EPERM", 1)] ∧
    (seen (settle .plain (run { host := .reference } .plain loudArguments))).2 = .number 3 ∧
    seen (settle .styled (run ⟨.reference, some "plan9", some "info"⟩ .styled quietArguments)) =
      seen (settle .plain (run { host := .reference } .plain loudArguments)) := by
  obtain ⟨hparse, hsingle, hpair⟩ := resolve_composes
  have hloud : LooksUp { host := .reference } loudArguments
      ⟨true, false, .given "linux", some (.resolve awkwardNames)⟩ awkwardNames :=
    ⟨hparse true false (some .linux) awkwardNames (by simp [awkwardNames]),
      ⟨.warning, by decide +kernel⟩, rfl⟩
  have hquiet : LooksUp ⟨.reference, some "plan9", some "info"⟩ quietArguments
      ⟨false, true, .given "linux", some (.resolve awkwardNames)⟩ awkwardNames :=
    ⟨hparse false true (some .linux) awkwardNames (by simp [awkwardNames]),
      ⟨.info, by decide +kernel⟩, rfl⟩
  obtain ⟨table, htable⟩ := Resolver.exists_build_catalog .linux
    (Surroundings.source { host := .reference } .linux)
  obtain ⟨hfamily, hvalue, hnone⟩ := resolve_awkwardNames htable
  have hunresolved :
      (awkwardNames.filter fun name => ((Resolver.mk table).resolve name).isNone) =
        ["[red]a=b\nEIO=7"] := by
    simp [awkwardNames, hvalue, hnone]
  obtain ⟨level, shown, -, hshown, hmessages, hseen, hread⟩ :=
    hsingle _ _ _ _ .plain (some .linux) table hloud rfl htable
  obtain ⟨quietLevel, quietShown, -, hquietShown, hquietMessages, -⟩ :=
    hsingle _ _ _ _ .styled (some .linux) table hquiet rfl htable
  refine ⟨⟨_, shown, _, hshown, ?_⟩, ⟨_, quietShown, _, hquietShown, ?_⟩, ?_, ?_,
    hpair _ _ _ _ _ _ _ _ _ _ hloud hquiet ⟨rfl, rfl, rfl, fun habsent => nomatch habsent⟩⟩
  · rw [hmessages, hunresolved, hfamily]
    rfl
  · have hescaped : Text.escapeMarkup "[red]a=b\nEIO=7" = "\\[red]a=b\nEIO=7" := by
      decide +kernel
    rw [hquietMessages, hunresolved, hfamily, List.map_singleton, hescaped]
    rfl
  · rw [hread]
    simp [Resolver.answers, awkwardNames, hvalue, hnone]
  · rw [hseen]
    simp [awkwardNames, hnone]

end Program

end HeaderConstants
