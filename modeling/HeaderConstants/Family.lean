namespace HeaderConstants

/-- A group of operating systems that share one set of header constants. -/
inductive Family
  | linux
  | darwin
  | generic
  deriving DecidableEq, Repr

namespace Family

def all : List Family := [.linux, .darwin, .generic]

/-- The word by which a family is named in settings and tables. -/
def key : Family → String
  | .linux => "linux"
  | .darwin => "darwin"
  | .generic => "generic"

/-- The name of a family in texts for people. -/
def label : Family → String
  | .linux => "Linux"
  | .darwin => "Darwin/BSD"
  | .generic => "Generic POSIX"

/-- The words that name a family, in alphabetical order. -/
def spellings : List (String × Family) :=
  [("darwin", .darwin), ("generic", .generic), ("linux", .linux), ("macos", .darwin),
   ("posix", .generic)]

theorem mem_all (family : Family) : family ∈ all := by
  cases family <;> decide

end Family

/-- The header that a constant comes from. -/
inductive Category
  | errno
  | socket
  deriving DecidableEq, Repr

namespace Category

def all : List Category := [.errno, .socket]

def key : Category → String
  | .errno => "errno"
  | .socket => "socket"

theorem mem_all (category : Category) : category ∈ all := by
  cases category <;> decide

end Category

end HeaderConstants
