import HeaderConstants.Source

namespace HeaderConstants

/-- A value that a module of the host exports under some name. -/
inductive Attribute
  | integer (value : Int)
  /-- A member of an enumeration of integers. -/
  | member (value : Int)
  | truth (value : Bool)
  /-- Text, a list, a function, or anything else that is no number of a header. -/
  | other
  deriving DecidableEq, Repr

/-- The header constant that an attribute stands for. A truth value is none, even where the host
would take it for a number. -/
def Attribute.constant? : Attribute → Option Int
  | .integer value | .member value => some value
  | .truth _ | .other => none

/-- What a module exports, by name. -/
abbrev Exports := List (String × Attribute)

/-- The header constant under a name. No attribute has an empty name. -/
def Exports.constant? (exports : Exports) (name : String) : Option Int :=
  if name = "" then none else (exports.lookup name).bind Attribute.constant?

/-- The machine a program runs on, as far as this library looks at it. -/
structure Host where
  system : String
  release : String
  machine : String
  /-- The parts of the interpreter's version number. -/
  version : List Int
  exports : Category → Exports

namespace Host

/-- The family that a machine is taken for. -/
def family (host : Host) : Family := .ofSystem host.system

end Host

namespace Source

/-- The machine as a source of values. -/
def ofExports (exports : Category → Exports) : Source where
  description := "host stdlib"
  lookup category name := (exports category).constant? name
  family := none

/-- The source for a table of `family`: on its own system the values of the host, filled up from
the snapshot; the host alone for the generic family, which has no snapshot; and the snapshot alone
where the host describes another family. -/
def standard (host : Host) (hostFamily family : Family) : Source :=
  match family with
  | .generic => ofExports host.exports
  | _ =>
    if family = hostFamily then chain (ofExports host.exports) [snapshot family]
    else snapshot family

theorem standard_self (host : Host) {family : Family} (h : family ≠ .generic) :
    standard host family family = chain (ofExports host.exports) [snapshot family] := by
  cases family <;> simp_all [standard]

theorem standard_other (host : Host) {hostFamily family : Family} (h : family ≠ .generic)
    (h' : family ≠ hostFamily) : standard host hostFamily family = snapshot family := by
  cases family <;> simp_all [standard]

end Source

end HeaderConstants
