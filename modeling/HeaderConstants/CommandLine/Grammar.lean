import HeaderConstants.Text.Digit
import HeaderConstants.Text.Quoted

/-!
Options and operands of a command, and how one argument reads: as an option, with or without text
of its own, as an operand, or as the mark after which all arguments are operands.
-/

namespace HeaderConstants.CommandLine

/-- What an option does. -/
inductive Effect
  | help
  | version
  | verbose
  | quiet
  | family
  | category
  | tier
  deriving DecidableEq, Repr

/-- Whether an option has a text of its own. -/
def Effect.takesText : Effect → Bool
  | .family | .category | .tier => true
  | _ => false

/-- An option with its spellings: a letter after one dash, if it has one, and a word after two. -/
structure Flag where
  effect : Effect
  letter : Option Char
  word : String
  deriving DecidableEq

namespace Flag

def long (flag : Flag) : String := "--" ++ flag.word

/-- The letter spelling, for an option that has one. -/
def short? (flag : Flag) : Option String :=
  flag.letter.map fun c => String.ofList ['-', c]

/-- The name of an option in messages. -/
def title (flag : Flag) : String := "/".intercalate (flag.short?.toList ++ [flag.long])

/-- Whether an argument is one of the two spellings. -/
def isSpelled (flag : Flag) (argument : String) : Bool :=
  flag.long == argument || flag.short? == some argument

end Flag

/-- What the arguments that are no options stand for. -/
inductive Operands
  | none
  | names
  | command
  deriving DecidableEq, Repr

/-- The options and operands of a command, with the texts that explain them. -/
structure Grammar where
  program : String
  flags : List Flag
  operands : Operands
  usage : List String
  details : List String

/-- What can be wrong with arguments. -/
inductive UsageError
  | required (operand : String)
  | invalidChoice (argument text : String) (choices : List String)
  | expectedText (argument : String)
  | ignoredText (argument text : String)
  | ambiguous (argument : String) (candidates : List String)
  | unrecognized (arguments : List String)
  deriving DecidableEq

def UsageError.message : UsageError → String
  | .required operand => "the following arguments are required: " ++ operand
  | .invalidChoice argument text choices =>
    "argument " ++ argument ++ ": invalid choice: " ++ Text.quote text ++ " (choose from " ++
      ", ".intercalate (choices.map Text.quote) ++ ")"
  | .expectedText argument => "argument " ++ argument ++ ": expected one argument"
  | .ignoredText argument text =>
    "argument " ++ argument ++ ": ignored explicit argument " ++ Text.quote text
  | .ambiguous argument candidates =>
    "ambiguous option: " ++ argument ++ " could match " ++ ", ".intercalate candidates
  | .unrecognized arguments => "unrecognized arguments: " ++ " ".intercalate arguments

/-- How an argument reads. -/
inductive Reading
  | operand
  /-- All arguments after this one are operands. -/
  | mark
  | flag (flag : Flag)
  /-- An option spelled as a word, with a text after an equals sign. -/
  | wordWithText (flag : Flag) (text : String)
  /-- An option spelled as a letter, with more characters after it. -/
  | letterWithTail (flag : Flag) (tail : List Char)
  | unknown
  deriving DecidableEq

def Reading.isOption : Reading → Bool
  | .operand | .mark => false
  | _ => true

/-- The argument after which all others are operands. -/
def markText : String := "--"

/-- The part of an argument before its first equals sign, and the part after it if there is one. -/
def splitAtEquals (argument : List Char) : List Char × Option (List Char) :=
  match argument.dropWhile (· != '=') with
  | [] => (argument, none)
  | _ :: text => (argument.takeWhile (· != '='), some text)

/-- Whether an argument is a negative number: a dash and digits, perhaps with a point that digits
follow, and perhaps with a line break at the end. -/
def isNegativeNumber (argument : List Char) : Bool :=
  match argument with
  | '-' :: rest =>
    let body := if rest.getLast? = some '\n' then rest.dropLast else rest
    match body.dropWhile Text.isDecimalDigit with
    | [] => !body.isEmpty
    | '.' :: fraction => !fraction.isEmpty && fraction.all Text.isDecimalDigit
    | _ => false
  | _ => false

namespace Grammar

/-- The first option with this letter. -/
def withLetter? (grammar : Grammar) (c : Char) : Option Flag :=
  grammar.flags.find? (·.letter == some c)

/-- An option with the text that an equals sign puts after it. -/
def readText (flag : Flag) (spelledAsWord : Bool) (text : List Char) : Reading :=
  if spelledAsWord then .wordWithText flag (String.ofList text) else .letterWithTail flag text

/-- The options that an argument could mean that spells none of them exactly: those whose word it
begins, or the one whose letter comes first in it. -/
def candidates (grammar : Grammar) (argument : List Char) : List (Flag × Reading) :=
  match argument with
  | '-' :: '-' :: _ =>
    let parts := splitAtEquals argument
    (grammar.flags.filter fun flag => parts.1.isPrefixOf flag.long.toList).map fun flag =>
      (flag, match parts.2 with
        | none => .flag flag
        | some text => .wordWithText flag (String.ofList text))
  | '-' :: letter :: tail =>
    (grammar.withLetter? letter).toList.map fun flag => (flag, .letterWithTail flag tail)
  | _ => []

/-- How an argument that begins with a dash and spells no option exactly reads. -/
def readOther (grammar : Grammar) (argument : List Char) : Except UsageError Reading :=
  match grammar.candidates argument with
  | [(_, reading)] => .ok reading
  | [] =>
    if isNegativeNumber argument || argument.contains ' ' then .ok .operand else .ok .unknown
  | many => .error (.ambiguous (String.ofList argument) (many.map (·.1.long)))

/-- How an argument reads on its own. A single dash, a negative number and a text with a space are
operands, unless they spell an option. -/
def read (grammar : Grammar) (argument : String) : Except UsageError Reading :=
  let characters := argument.toList
  if characters.head? ≠ some '-' then .ok .operand
  else
    match grammar.flags.find? (·.isSpelled argument) with
    | some flag => .ok (.flag flag)
    | none =>
      if characters.length = 1 then .ok .operand
      else
        match splitAtEquals characters with
        | (_, none) => grammar.readOther characters
        | (spelling, some text) =>
          match grammar.flags.find? (·.isSpelled (String.ofList spelling)) with
          | some flag => .ok (readText flag (flag.long == String.ofList spelling) text)
          | none => grammar.readOther characters

/-- How each argument reads. After the mark all are operands. -/
def readAll (grammar : Grammar) : List String → Except UsageError (List (String × Reading))
  | [] => .ok []
  | argument :: rest =>
    if argument = markText then .ok ((argument, .mark) :: rest.map (·, .operand))
    else
      match grammar.read argument with
      | .error error => .error error
      | .ok reading => (grammar.readAll rest).map ((argument, reading) :: ·)

end Grammar

end HeaderConstants.CommandLine
