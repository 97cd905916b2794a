import HeaderConstants.CommandLine.Grammar
import HeaderConstants.Program.Identity
import HeaderConstants.Tier.Catalog

/-!
The program's commands, their options, and their help texts.
-/

namespace HeaderConstants.CommandLine

/-- The commands by their words. -/
inductive Verb
  | resolve
  | list
  | gaps
  | doctor
  deriving DecidableEq, Repr

namespace Verb

def all : List Verb := [.resolve, .list, .gaps, .doctor]

def name : Verb → String
  | .resolve => "resolve"
  | .list => "list"
  | .gaps => "gaps"
  | .doctor => "doctor"

/-- The command that a word names. -/
def named? (name : String) : Option Verb := all.find? (·.name == name)

theorem named?_name (verb : Verb) : named? verb.name = some verb := by
  cases verb <;> decide

end Verb

def helpFlag : Flag := ⟨.help, some 'h', "help"⟩

def categoryFlag : Flag := ⟨.category, none, "category"⟩

def tierFlag : Flag := ⟨.tier, none, "tier"⟩

/-- The choices of the filter for the category. -/
def categoryNames : List String := Category.all.map (·.key)

/-- The choices of the filter for the tier. -/
def tierNames : List String := Tier.catalog.map (·.name)

/-- Choices as a usage text gives them. -/
def alternatives (choices : List String) : String :=
  "\x7b" ++ ",".intercalate choices ++ "\x7d"

/-- The options in front of a command. -/
def mainGrammar : Grammar where
  program := Program.name
  flags :=
    [helpFlag, ⟨.version, some 'V', "version"⟩, ⟨.verbose, some 'v', "verbose"⟩,
     ⟨.quiet, some 'q', "quiet"⟩, ⟨.family, none, "family"⟩]
  operands := .command
  usage :=
    ["usage: " ++ Program.name ++ " [-h] [-V] [-v] [-q] [--family FAMILY]",
     "                 " ++ alternatives (Verb.all.map (·.name)) ++ " ..."]
  details :=
    ["Resolve errno and socket constant names to platform values.",
     "",
     "positional arguments:",
     "  " ++ alternatives (Verb.all.map (·.name)),
     "    resolve             Print NAME=VALUE for each name.",
     "    list                List every resolvable constant.",
     "    gaps                Show names that are deliberately excluded.",
     "    doctor              Run environment diagnostics.",
     "",
     "options:",
     "  -h, --help            show this help message and exit",
     "  -V, --version         show program's version number and exit",
     "  -v, --verbose         Enable debug logging.",
     "  -q, --quiet           Only log errors.",
     "  --family FAMILY       Platform family to model (linux, darwin, generic).",
     "                        Defaults to PLATCONST_FAMILY or the running OS."]

/-- A command as its messages call it. -/
def commandName (verb : Verb) : String := Program.name ++ " " ++ verb.name

def shortHelp : String := "  -h, --help  show this help message and exit"

/-- The grammar of a command that takes nothing but the option for help. -/
def bareGrammar (verb : Verb) : Grammar where
  program := commandName verb
  flags := [helpFlag]
  operands := .none
  usage := ["usage: " ++ commandName verb ++ " [-h]"]
  details := ["options:", shortHelp]

/-- What stands behind the command that looks up names. -/
def resolveGrammar : Grammar where
  program := commandName .resolve
  flags := [helpFlag]
  operands := .names
  usage := ["usage: " ++ commandName .resolve ++ " [-h] NAME [NAME ...]"]
  details := ["positional arguments:", "  NAME", "", "options:", shortHelp]

/-- What stands behind the command that lists constants. -/
def listGrammar : Grammar where
  program := commandName .list
  flags := [helpFlag, categoryFlag, tierFlag]
  operands := .none
  usage :=
    ["usage: " ++ commandName .list ++ " [-h] [--category " ++ alternatives categoryNames ++ "]",
     "                      [--tier " ++ alternatives tierNames ++ "]"]
  details :=
    ["options:",
     "  -h, --help            show this help message and exit",
     "  --category " ++ alternatives categoryNames,
     "  --tier " ++ alternatives tierNames]

def Verb.grammar : Verb → Grammar
  | .resolve => resolveGrammar
  | .list => listGrammar
  | .gaps => bareGrammar .gaps
  | .doctor => bareGrammar .doctor

/-- Lines, each with its line break. -/
def textOfLines (lines : List String) : String := String.join (lines.map (· ++ "\n"))

def Grammar.usageText (grammar : Grammar) : String := textOfLines grammar.usage

def Grammar.helpText (grammar : Grammar) : String :=
  textOfLines (grammar.usage ++ [""] ++ grammar.details)

end HeaderConstants.CommandLine
