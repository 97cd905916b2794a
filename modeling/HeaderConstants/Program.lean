import HeaderConstants.CommandLine.Invocation
import HeaderConstants.Doctor
import HeaderConstants.Listing

/-!
The program itself: its commands, the order in which a run reads arguments and settings, and what
becomes of a run that is interrupted.
-/

namespace HeaderConstants.Program

open CommandLine

/-- Runs a parse that led to no command. -/
def halt : Halt → Run Int
  | .help grammar => do
    Run.write [.stdout grammar.helpText]
    Run.interrupt (.exit (.number ExitStatus.success))
  | .version => do
    Run.write [.stdout (Program.name ++ " " ++ Program.version ++ "\n")]
    Run.interrupt (.exit (.number ExitStatus.success))
  | .usage grammar error => do
    Run.write
      [.stderr grammar.usageText, .errorLine (grammar.program ++ ": error: " ++ error.message)]
    Run.interrupt (.exit (.number ExitStatus.usageError))

/-- A record of the command line. -/
def note (message : String) : Logging.Record where
  logger := Logging.loggerName "cli"
  severity := Logging.Level.debug.severity
  message := message

/-- The message about a name without a value. -/
def notDefined (terminal : Terminal) (family : Family) (name : String) : Event :=
  terminal.print
    ["[yellow]" ++ terminal.literal name ++ "[/yellow] is not defined for " ++ family.label ++ "."]

/-- What is shown for a name: its value on the standard output, or else a message. -/
def resolveEvent (terminal : Terminal) (resolver : Resolver) (name : String) : Event :=
  match resolver.resolve name with
  | some value => .stdout (name ++ "=" ++ Text.decimal value ++ "\n")
  | none => notDefined terminal resolver.family name

/-- Writes a line for each name that has a value, and a message for each other name. -/
def runResolve (around : Surroundings) (terminal : Terminal) (logging : Logging)
    (family : Option Family) (names : List String) : Run Int := do
  let table ← Run.ofOutcome logging (around.build family none)
  let resolver : Resolver := ⟨table⟩
  Run.write (names.map (resolveEvent terminal resolver))
  let unresolved := names.filter fun name => (resolver.resolve name).isNone
  if unresolved.isEmpty then return ExitStatus.success
  else
    Run.log logging
      [note (Text.decimal unresolved.length ++ " of " ++ Text.decimal names.length ++
        " name(s) unresolved")]
    return ExitStatus.unresolved

/-- What a list starts from: the constants of one tier, or all that a walk over the resolver comes
to. -/
def candidates (resolver : Resolver) : OptionText → Except Table.NoEntry (List Constant)
  | .absent => resolver.constants
  | .given tier => .ok (resolver.table.ofTier tier)
  -- No tier is named by what is no text.
  | .emptied => .ok []

/-- The candidates of a tier that pass the filter for the category. -/
def selectConstants (resolver : Resolver) (category tier : OptionText) :
    Except Table.NoEntry (List Constant) :=
  (candidates resolver tier).map (·.filter fun constant => category.passes constant.category.key)

/-- Lists the constants of a table, those that pass the filters. -/
def runList (around : Surroundings) (terminal : Terminal) (logging : Logging)
    (family : Option Family) (category tier : OptionText) : Run Int := do
  let table ← Run.ofOutcome logging (around.build family none)
  let constants ← Run.ofWalk (selectConstants ⟨table⟩ category tier)
  Run.write
    (Listing.showConstants terminal
      (table.family.label ++ " constants (" ++ table.description ++ ")") constants)
  return ExitStatus.success

/-- Lists the names left out on purpose. -/
def runGaps (terminal : Terminal) : Run Int := do
  Run.write (Listing.showExclusions terminal Exclusion.all)
  return ExitStatus.success

/-- Runs a command for the family that the command line names. -/
def execute (around : Surroundings) (terminal : Terminal) (logging : Logging)
    (family : Option Family) : Command → Run Int
  | .resolve names => runResolve around terminal logging family names
  | .list category tier => runList around terminal logging family category tier
  | .gaps => runGaps terminal
  | .doctor => Doctor.run around terminal logging family

/-- The family that an option names, if there is the option. -/
def familyOption : OptionText → Run (Option Family)
  | .absent => return none
  | .given text => Run.ofExcept ((Family.ofText text).map some)
  /- Without its text the option holds no text at all, which nothing here expects. -/
  | .emptied =>
    Run.interrupt (.unexpected "AttributeError" "'list' object has no attribute 'strip'")

/-- How a log record writes the family of the command line. -/
def familyTag : Option Family → String
  | none => "None"
  | some family => "PlatformFamily." ++ Text.upper family.key

/-- The log as the environment and the command line ask for it. A level that the environment gives
must be a level even where a switch overrides it. -/
def setUpLog (around : Surroundings) (invocation : Invocation) : Run Logging := do
  let level ← Run.ofExcept around.settings.logThreshold
  Run.ofSetUp (Logging.setUp
    { level := level.name, quiet := invocation.quiet, verbose := invocation.verbose })

/-- A run of the program: arguments, log level, command, family, and then the work. -/
def run (around : Surroundings) (terminal : Terminal) (arguments : List String) : Run Int :=
  match parse arguments with
  | .error halted => halt halted
  | .ok invocation => do
    let logging ← setUpLog around invocation
    match invocation.command with
    | none =>
      Run.write [.stdout mainGrammar.helpText]
      return ExitStatus.success
    | some command =>
      let family ← familyOption invocation.family
      Run.log logging
        [note ("command=" ++ command.verb.name ++ " family=" ++ familyTag family)]
      execute around terminal logging family command

/-- What is shown for an interruption, and the exit code that it leads to. -/
def settleInterruption (terminal : Terminal) : Interruption → List Event × ExitCode
  | .failure failure =>
    (terminal.print ["[bold red]Error:[/bold red] " ++ terminal.literal failure.message] ::
      (match failure.hint.filter (· ≠ "") with
       | some hint => [terminal.print ["[yellow]Hint:[/yellow] " ++ terminal.literal hint]]
       | none => []),
     .number ExitStatus.generalError)
  | .byUser =>
    ([terminal.print ["\n[yellow]Aborted by user.[/yellow]"]],
     .number ExitStatus.keyboardInterrupt)
  | .unexpected kind message =>
    ([terminal.print
        ["[bold red]Unexpected error.[/bold red] Please report this issue.\n  " ++ kind ++ ": " ++
          terminal.literal message]],
     .number ExitStatus.unexpectedError)
  | .exit code => ([], code)

/-- A run with its interruption shown to the user. It always ends with an exit code. -/
def settle (terminal : Terminal) (run : Run Int) : List Event × ExitCode :=
  match run.result with
  | .ok status => (run.output, .number status)
  | .error interruption =>
    let settled := settleInterruption terminal interruption
    (run.output ++ settled.1, settled.2)

end HeaderConstants.Program
