import HeaderConstants.Host.Reference
import HeaderConstants.Program

/-!
The program on the machine that it runs on. Only this module reads the environment and writes.
-/

namespace HeaderConstants.Main

/-- The text of a file without blanks around it, empty where there is no such file. -/
def readName (path : String) : IO String := do
  try
    return Text.trim (← IO.FS.readFile path)
  catch _ =>
    return ""

/-- The machine that the program runs on, with the exports of a usual one of its system. -/
def currentHost : IO Host := do
  return .ofNames (← readName "/proc/sys/kernel/ostype") (← readName "/proc/sys/kernel/osrelease")
    (← readName "/proc/sys/kernel/arch")

/-- The variables of the environment. -/
def currentSettings : IO Settings := do
  return { family := ← IO.getEnv Variable.family.name
           logLevel := ← IO.getEnv Variable.logLevel.name }

def emit : Event → IO Unit
  | .stdout text => IO.print text
  | .stderr text => IO.eprint text
  | .styled _ => pure ()

/-- A run on this machine, with its output and its exit code. -/
def run (arguments : List String) : IO UInt32 := do
  let around : Surroundings := { host := ← currentHost, settings := ← currentSettings }
  let settled := Program.settle .plain (Program.run around .plain arguments)
  settled.1.forM emit
  if let .message text := settled.2 then IO.eprintln text
  return settled.2.byte.toUInt32

end HeaderConstants.Main

def main (arguments : List String) : IO UInt32 := HeaderConstants.Main.run arguments
