namespace HeaderConstants

namespace ExitStatus

def success : Int := 0

/-- The program reported a failure to its user, or a check failed. -/
def generalError : Int := 1

/-- The program failed in a way that it has no words for. -/
def unexpectedError : Int := 2

/-- The arguments are not those of the program. -/
def usageError : Int := 2

/-- Some of the names that were asked for have no value. -/
def unresolved : Int := 3

def keyboardInterrupt : Int := 130

/-- All statuses by name. -/
def all : List (String × Int) :=
  [("SUCCESS", success), ("GENERAL_ERROR", generalError), ("UNEXPECTED_ERROR", unexpectedError),
   ("UNRESOLVED", unresolved), ("KEYBOARD_INTERRUPT", keyboardInterrupt)]

end ExitStatus

/-- What a program leaves behind when it ends. -/
inductive ExitCode
  /-- The program ended without a word on how it went. -/
  | unspecified
  | number (status : Int)
  | message (text : String)
  deriving DecidableEq

namespace ExitCode

/-- The status that a code stands for. Silence is a success, and a message is a failure. -/
def status : ExitCode → Int
  | unspecified => ExitStatus.success
  | number status => status
  | message _ => ExitStatus.generalError

/-- The status as the machine passes it on, in one byte. -/
def byte (code : ExitCode) : Nat := (code.status % 256).toNat

end ExitCode

end HeaderConstants
