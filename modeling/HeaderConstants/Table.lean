import HeaderConstants.Entries
import HeaderConstants.Text.Numeral
import HeaderConstants.Text.Quoted

namespace HeaderConstants

/-- The constants of one family, all from one source. -/
structure Table where
  family : Family
  entries : Entries
  /-- Where the values come from. -/
  description : String := ""
  /-- The names that were looked up and that the source does not define. -/
  missing : List String := []

namespace Table

/-- A name that a table was taken to have, and does not. -/
structure NoEntry where
  name : String
  deriving DecidableEq, Repr

def NoEntry.message (absent : NoEntry) : String := Text.quote absent.name

/-- The names that have a value, in the order of the table. -/
def names (table : Table) : List String := table.entries.keys

def constants (table : Table) : List Constant := table.entries.constants

def size (table : Table) : Nat := table.entries.size

/-- The constant of a name among the entries. -/
def find? (table : Table) (name : String) : Option Constant := table.entries.find? name

/-- The value of a name. -/
def valueOf (table : Table) (name : String) : Option Int := (table.find? name).map (·.value)

/-- The constant of a name that is taken to have one. -/
def entry (table : Table) (name : String) : Except NoEntry Constant :=
  match table.find? name with
  | some constant => .ok constant
  | none => .error ⟨name⟩

/-- The constant of a name, or nothing where `entry` fails. -/
def get? (table : Table) (name : String) : Option Constant :=
  match table.entry name with
  | .ok constant => some constant
  | .error _ => none

/-- Whether `entry` leads to a constant. -/
def contains (table : Table) (name : String) : Bool :=
  match table.entry name with
  | .ok _ => true
  | .error _ => false

/-- All names with their constants. A walk over a table looks up each name that it comes to. -/
def items (table : Table) : Except NoEntry (List (String × Constant)) :=
  table.names.mapM fun name => (table.entry name).map (name, ·)

/-- The constants as a walk over the names comes to them. -/
def values (table : Table) : Except NoEntry (List Constant) := table.names.mapM table.entry

/-- The constants that the tier of this name contributed, in the order of the table. -/
def ofTier (table : Table) (tier : String) : List Constant :=
  table.constants.filter (·.tier == tier)

/-- Whether two tables have the same constants under the same keys. Family, order, source and
missing names make no difference. -/
def sameAs (table other : Table) : Bool := table.entries.sameAs other.entries

/-- A table in one line. -/
def summary (table : Table) : String :=
  "ResolutionTable(family='" ++ table.family.key ++ "', entries=" ++ Text.decimal table.size ++ ")"

@[simp] theorem get?_eq_find? (table : Table) (name : String) :
    table.get? name = table.find? name := by
  rw [get?, entry]
  cases table.find? name <;> rfl

theorem contains_eq_isSome (table : Table) (name : String) :
    table.contains name = (table.find? name).isSome := by
  rw [contains, entry]
  cases table.find? name <;> rfl

end Table

end HeaderConstants
