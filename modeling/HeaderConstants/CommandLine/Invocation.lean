import HeaderConstants.CommandLine.Step
import HeaderConstants.CommandLine.Verb

/-!
What a list of arguments asks the program to do.
-/

namespace HeaderConstants.CommandLine

/-- The text of an option: none without the option, and none either where the mark was given as
the text, which is taken away as it is among operands. -/
inductive OptionText
  | absent
  | emptied
  | given (text : String)
  deriving DecidableEq, Repr

namespace OptionText

/-- The text as it is left to an option. -/
def ofText (text : String) : OptionText := if text = markText then .emptied else .given text

/-- Whether a filter lets a choice through. Without its text it lets none through. -/
def passes (option : OptionText) (choice : String) : Bool :=
  match option with
  | .absent => true
  | .emptied => false
  | .given text => choice == text

end OptionText

/-- A command with its own arguments. -/
inductive Command
  | resolve (names : List String)
  | list (category tier : OptionText)
  | gaps
  | doctor
  deriving DecidableEq

def Command.verb : Command → Verb
  | .resolve _ => .resolve
  | .list .. => .list
  | .gaps => .gaps
  | .doctor => .doctor

/-- What a whole command line asks for. -/
structure Invocation where
  verbose : Bool := false
  quiet : Bool := false
  family : OptionText := .absent
  command : Option Command := none
  deriving DecidableEq

/-- Why a parse led to no invocation: something to be told instead, or a mistake. -/
inductive Halt
  | help (grammar : Grammar)
  | version
  | usage (grammar : Grammar) (error : UsageError)

/-- What the steps of one command have given so far. The last text of an option counts. -/
structure Given where
  verbose : Bool := false
  quiet : Bool := false
  family : OptionText := .absent
  category : OptionText := .absent
  tier : OptionText := .absent
  operands : Option (List String) := none
  extras : List String := []

namespace Given

/-- The text of an option that allows only some texts. -/
def choose (grammar : Grammar) (flag : Flag) (choices : List String) (text : String) :
    Except Halt OptionText :=
  match OptionText.ofText text with
  | .given text =>
    if choices.contains text then .ok (.given text)
    else .error (.usage grammar (.invalidChoice flag.title text choices))
  | other => .ok other

/-- What an option adds. Help and the version are told at once. -/
def addFlag (grammar : Grammar) (given : Given) (flag : Flag) (text : String) :
    Except Halt Given :=
  match flag.effect with
  | .help => .error (.help grammar)
  | .version => .error .version
  | .verbose => .ok { given with verbose := true }
  | .quiet => .ok { given with quiet := true }
  | .family => .ok { given with family := .ofText text }
  | .category =>
    (choose grammar flag categoryNames text).map fun option => { given with category := option }
  | .tier => (choose grammar flag tierNames text).map fun option => { given with tier := option }

def add (grammar : Grammar) (given : Given) : Step → Except Halt Given
  | .flag flag text => given.addFlag grammar flag (text.getD "")
  | .operands texts => .ok { given with operands := some texts }
  | .extra text => .ok { given with extras := given.extras ++ [text] }
  | .fault error => .error (.usage grammar error)

/-- The steps in their order, up to the first that halts. -/
def addAll (grammar : Grammar) (given : Given) : List Step → Except Halt Given
  | [] => .ok given
  | step :: rest =>
    match given.add grammar step with
    | .error halt => .error halt
    | .ok given => given.addAll grammar rest

end Given

def Grammar.parse (grammar : Grammar) (arguments : List String) : Except Halt Given :=
  match grammar.readAll arguments with
  | .error error => .error (.usage grammar error)
  | .ok readings => ({} : Given).addAll grammar (grammar.steps false readings)

/-- A command from its own arguments, and the arguments that it does not take. -/
def parseCommand (verb : Verb) (arguments : List String) :
    Except Halt (Command × List String) :=
  match verb.grammar.parse arguments with
  | .error halt => .error halt
  | .ok given =>
    match verb, given.operands with
    | .resolve, some names => .ok (.resolve (names.erase markText), given.extras)
    | .resolve, none => .error (.usage verb.grammar (.required "NAME"))
    | .list, _ => .ok (.list given.category given.tier, given.extras)
    | .gaps, _ => .ok (.gaps, given.extras)
    | .doctor, _ => .ok (.doctor, given.extras)

/-- The command that the operands of the program name, if there are any. -/
def parseOperands : Option (List String) → Except Halt (Option Command × List String)
  | none | some [] => .ok (none, [])
  | some (word :: arguments) =>
    match Verb.named? word with
    | some verb => (parseCommand verb arguments).map fun (command, extras) => (some command, extras)
    | none =>
      .error (.usage mainGrammar (.invalidChoice "command" word (Verb.all.map (·.name))))

/-- Reads the arguments of the program. What neither it nor the command takes is refused. -/
def parse (arguments : List String) : Except Halt Invocation :=
  match mainGrammar.parse arguments with
  | .error halt => .error halt
  | .ok given =>
    match parseOperands given.operands with
    | .error halt => .error halt
    | .ok (command, extras) =>
      match given.extras ++ extras with
      | [] =>
        .ok { verbose := given.verbose, quiet := given.quiet, family := given.family,
              command := command }
      | unknown => .error (.usage mainGrammar (.unrecognized unknown))

end HeaderConstants.CommandLine
