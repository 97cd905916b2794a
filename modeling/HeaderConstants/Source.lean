import HeaderConstants.Failure
import HeaderConstants.Snapshot

namespace HeaderConstants

/-- Where the numbers of a table come from. A name that the source does not define has no value;
it is never guessed. -/
structure Source where
  description : String
  lookup : Category → String → Option Int
  /-- The family whose headers the source was taken from, for a source of one family only. -/
  family : Option Family

namespace Source

/-- Frozen header values of one family. -/
def ofValues (family : Family) (values : Category → List (String × Int)) : Source where
  description := family.key ++ " header snapshot"
  lookup category name := (values category).lookup name
  family := some family

/-- The header values of a family that come with the library. -/
def snapshot (family : Family) : Source := ofValues family (Snapshot.values family)

/-- The sources are asked in order, and the first that defines a name wins. -/
def firstValue (sources : List Source) (category : Category) (name : String) : Option Int :=
  sources.findSome? (·.lookup category name)

/-- Asks several sources in turn; the first that defines a name gives its value. -/
def chain (first : Source) (rest : List Source) : Source where
  description := " + ".intercalate ((first :: rest).map (·.description))
  lookup := firstValue (first :: rest)
  family := none

/-- A chain of a list of sources, which must not be empty. -/
def ofList : List Source → Except Misuse Source
  | [] => .error .emptyChain
  | first :: rest => .ok (chain first rest)

theorem firstValue_append (as bs : List Source) (category : Category) (name : String) :
    firstValue (as ++ bs) category name =
      (firstValue as category name).or (firstValue bs category name) := by
  simp [firstValue, List.findSome?_append]

@[simp] theorem lookup_chain (first : Source) (rest : List Source) (category : Category)
    (name : String) :
    (chain first rest).lookup category name = firstValue (first :: rest) category name := rfl

theorem lookup_chain_pair (first second : Source) (category : Category) (name : String) :
    (chain first [second]).lookup category name =
      (first.lookup category name).or (second.lookup category name) := by
  rw [lookup_chain, firstValue, List.findSome?_cons]
  cases first.lookup category name <;> simp

end Source

end HeaderConstants
