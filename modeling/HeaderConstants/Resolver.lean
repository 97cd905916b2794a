import HeaderConstants.Exclusion
import HeaderConstants.Table.Build
import HeaderConstants.Text.LetterCase

namespace HeaderConstants

/-- Answers questions about names from one table. -/
structure Resolver where
  table : Table

/-- Why a name has no value, where more can be said than that it has none. -/
inductive Diagnosis
  | excluded (exclusion : Exclusion)
  /-- The name in capitals has a value. -/
  | letterCase (capitals : String)
  /-- The name belongs to the family, and its source lacks it. -/
  | undefined
  deriving DecidableEq

namespace Resolver

def family (resolver : Resolver) : Family := resolver.table.family

/-- The value of a name. Letter case matters. -/
def resolve (resolver : Resolver) (name : String) : Option Int := resolver.table.valueOf name

/-- All that is known about a name. -/
def describe (resolver : Resolver) (name : String) : Option Constant := resolver.table.get? name

def contains (resolver : Resolver) (name : String) : Bool := resolver.table.contains name

def names (resolver : Resolver) : List String := resolver.table.names

def size (resolver : Resolver) : Nat := resolver.table.size

/-- The constants that a walk over the resolver comes to. -/
def constants (resolver : Resolver) : Except Table.NoEntry (List Constant) :=
  resolver.table.values

/-- What there is to say about a name without a value. An exclusion comes first. -/
def diagnose (resolver : Resolver) (name : String) : Option Diagnosis :=
  match Exclusion.find? name with
  | some exclusion => some (.excluded exclusion)
  | none =>
    if name ≠ Text.upper name ∧ resolver.table.contains (Text.upper name) then
      some (.letterCase (Text.upper name))
    else if resolver.table.missing.contains name then some .undefined
    else none

/-- A diagnosis as advice. -/
def explain (resolver : Resolver) (name : String) : Diagnosis → String
  | .excluded exclusion => name ++ " is intentionally excluded: " ++ exclusion.reason ++ "."
  | .letterCase capitals => "Names are case-sensitive; did you mean " ++ capitals ++ "?"
  | .undefined =>
    name ++ " is listed for " ++ resolver.family.label ++ " but " ++ resolver.table.description ++
      " does not define it."

/-- The value of a name, or a failure with advice. -/
def require (resolver : Resolver) (name : String) : Except Failure Int :=
  match resolver.table.get? name with
  | some constant => .ok constant.value
  | none =>
    .error (.unresolved name resolver.family.key
      ((resolver.diagnose name).map (resolver.explain name)))

/-- What `toWord` gives for a name without a value. It is also the word of a value that ends in
thirty-two one bits. -/
def notFound : Int := -1

/-- The value of a name as a signed word of 32 bits. -/
def toWord (resolver : Resolver) (name : String) : Int :=
  match resolver.resolve name with
  | some value => value.bmod Int32.size
  | none => notFound

def summary (resolver : Resolver) : String :=
  "ConstantResolver(" ++ resolver.table.summary ++ ")"

section Explain

variable (resolver : Resolver) (name : String)

theorem explain_excluded (exclusion : Exclusion) :
    resolver.explain name (.excluded exclusion) =
      name ++ " is intentionally excluded: " ++ exclusion.reason ++ "." := rfl

theorem explain_letterCase (capitals : String) :
    resolver.explain name (.letterCase capitals) =
      "Names are case-sensitive; did you mean " ++ capitals ++ "?" := rfl

theorem explain_undefined :
    resolver.explain name .undefined =
      name ++ " is listed for " ++ resolver.family.label ++ " but " ++
        resolver.table.description ++ " does not define it." := rfl

end Explain

theorem require_eq_ok_iff {resolver : Resolver} {name : String} {value : Int} :
    resolver.require name = .ok value ↔ resolver.resolve name = some value := by
  cases h : resolver.table.find? name <;> simp [require, resolve, Table.valueOf, h]

end Resolver

end HeaderConstants
