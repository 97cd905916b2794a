import HeaderConstants.Logging

/-!
The loggers below the package's own. Each hangs from the nearest logger in use that its name leads
to, and so on up to the package's logger or, where no name leads there, to the root logger.
-/

namespace HeaderConstants.Logging

/-- The loggers below the package that were written to. -/
structure Loggers where
  inUse : List String := []
  /-- Whether a logger lets records of a severity through, where that came up since the last setup.
  It is decided once: a logger that comes to hang from another one keeps its decisions. -/
  decisions : List ((String × Severity) × Bool) := []
  deriving DecidableEq

namespace Loggers

/-- A logger's name behind the name of the package, from its end to the dot that it begins with. -/
def path (name : String) : List Char := ('.' :: name.toList).reverse

/-- Whether a path leads to the package's logger. What follows a dot is the path of a possible
parent. If no such logger is in use, the search for a shorter one starts behind the first character
of that path, so a dot in that place leads nowhere. The last dot leads to the package. -/
def leadsToPackage (inUse : List (List Char)) : List Char → Bool
  | [] => false
  | [c] => c == '.'
  | c :: d :: rest =>
    if c != '.' || inUse.contains (d :: rest) then leadsToPackage inUse (d :: rest)
    else leadsToPackage inUse rest

/-- Whether a logger hangs from that of the package. -/
def isAttached (loggers : Loggers) (name : String) : Bool :=
  leadsToPackage (loggers.inUse.map path) (path name)

/-- The logger that decides for the one of this name: that of the package, or else the root logger,
which is like that of the package before any setup. -/
def decider (loggers : Loggers) (logging : Logging) (name : String) : Logging :=
  if loggers.isAttached name then logging else .initial

/-- What was decided about records of a severity, or else what the deciding logger says now. -/
def passes (loggers : Loggers) (logging : Logging) (name : String) (severity : Severity) : Bool :=
  (loggers.decisions.lookup (name, severity)).getD ((loggers.decider logging name).passes severity)

/-- The loggers after one was written to: it is in use, and what it decided stays. -/
def use (loggers : Loggers) (logging : Logging) (name : String) (severity : Severity) :
    Loggers where
  inUse := loggers.inUse.insert name
  decisions := ((name, severity), loggers.passes logging name severity) :: loggers.decisions

/-- The lines that are written for a message to a logger. -/
def lines (loggers : Loggers) (logging : Logging) (name : String) (severity : Severity)
    (message : String) : List String :=
  if loggers.passes logging name severity then
    handled (loggers.decider logging name).handlers
      { logger := loggerName name, severity := severity, message := message }
  else []

/-- The loggers after a setup, which takes back all decisions. -/
def undecided (loggers : Loggers) : Loggers := { loggers with decisions := [] }

theorem leadsToPackage_append_dot (inUse : List (List Char)) :
    ∀ {s : List Char}, s.getLast? ≠ some '.' → leadsToPackage inUse (s ++ ['.']) = true
  | [], _ => rfl
  | [c], h => by
    have hc : c ≠ '.' := by simpa using h
    simp [leadsToPackage, hc]
  | c :: d :: rest, h => by
    rw [List.getLast?_cons_cons] at h
    rw [List.cons_append, List.cons_append, leadsToPackage]
    split
    · exact leadsToPackage_append_dot inUse h
    · cases rest with
      | nil => rfl
      | cons e rest =>
        rw [List.getLast?_cons_cons] at h
        exact leadsToPackage_append_dot inUse h

theorem isAttached_of_head?_ne_dot {name : String} (h : name.toList.head? ≠ some '.')
    (loggers : Loggers) : loggers.isAttached name = true := by
  rw [isAttached, path, List.reverse_cons]
  exact leadsToPackage_append_dot _ (by rwa [List.getLast?_reverse])

theorem lines_of_lookup_eq_none {loggers : Loggers} {name : String} {severity : Severity}
    (h : loggers.decisions.lookup (name, severity) = none) (logging : Logging)
    (message : String) :
    loggers.lines logging name severity message =
      (loggers.decider logging name).lines
        { logger := loggerName name, severity := severity, message := message } := by
  simp [lines, passes, h, Logging.lines]

end Loggers

end HeaderConstants.Logging
