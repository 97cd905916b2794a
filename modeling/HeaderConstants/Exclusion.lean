import HeaderConstants.Family

namespace HeaderConstants

/-- A constant that the headers of some families define and that is left out of every table on
purpose. -/
structure Exclusion where
  name : String
  families : List Family
  reason : String
  deriving DecidableEq

namespace Exclusion

/-- The names left out on purpose. -/
def all : List Exclusion :=
  [⟨"SO_REUSEPORT", [.linux, .darwin], "semantics differ between Linux and BSD load balancing"⟩,
   ⟨"EHWPOISON", [.linux], "missing from older kernel and libc headers"⟩,
   ⟨"SO_DOMAIN", [.linux], "kernel-version-dependent socket option"⟩,
   ⟨"SO_MARK", [.linux], "kernel-version-dependent socket option"⟩,
   ⟨"SO_BUSY_POLL", [.linux], "kernel-version-dependent socket option"⟩,
   ⟨"SO_RXQ_OVFL", [.linux], "kernel-version-dependent socket option"⟩,
   ⟨"SO_PROTOCOL", [.linux], "kernel-version-dependent socket option"⟩,
   ⟨"SO_PEEK_OFF", [.linux], "kernel-version-dependent socket option"⟩]

/-- The first exclusion of a name. -/
def find? (name : String) : Option Exclusion := all.find? (·.name == name)

end Exclusion

end HeaderConstants
