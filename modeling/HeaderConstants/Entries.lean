import HeaderConstants.Family

namespace HeaderConstants

/-- A constant with its value, and the tier and the header it came from. -/
structure Constant where
  name : String
  value : Int
  tier : String
  category : Category
  deriving DecidableEq

/-- Constants by key, in the order in which their keys were first inserted. Each key occurs once; it
need not be the name of its constant. -/
structure Entries where
  toList : List (String × Constant)
  nodup : (toList.map (·.1)).Nodup

namespace Entries

def empty : Entries := ⟨[], by simp⟩

def keys (entries : Entries) : List String := entries.toList.map (·.1)

def constants (entries : Entries) : List Constant := entries.toList.map (·.2)

/-- The number of keys. -/
def size (entries : Entries) : Nat := entries.toList.length

/-- The constant under a key. -/
def find? (entries : Entries) (key : String) : Option Constant := entries.toList.lookup key

/-- A row in the place of the row with the same key, or at the end. -/
def insertRow (key : String) (constant : Constant) :
    List (String × Constant) → List (String × Constant)
  | [] => [(key, constant)]
  | row :: rest =>
    if row.1 = key then (key, constant) :: rest else row :: insertRow key constant rest

theorem keys_insertRow (key : String) (constant : Constant) (rows : List (String × Constant)) :
    (insertRow key constant rows).map (·.1) =
      if key ∈ rows.map (·.1) then rows.map (·.1) else rows.map (·.1) ++ [key] := by
  induction rows with
  | nil => rfl
  | cons row rest ih =>
    by_cases h : row.1 = key
    · simp [insertRow, h]
    · by_cases h' : key ∈ rest.map (·.1) <;>
        simp_all [insertRow, Ne.symm h]

theorem lookup_row {β : Type} (other : String) (row : String × β) (rest : List (String × β)) :
    (row :: rest).lookup other = if other = row.1 then some row.2 else rest.lookup other := by
  obtain ⟨key, value⟩ := row
  by_cases h : other = key
  · simp [h]
  · simp [List.lookup_cons, beq_eq_false_iff_ne.mpr h, h]

theorem lookup_eq_some_iff_of_nodup {β : Type} {rows : List (String × β)}
    (h : (rows.map (·.1)).Nodup) {key : String} {value : β} :
    rows.lookup key = some value ↔ (key, value) ∈ rows := by
  induction rows with
  | nil => simp
  | cons row rest ih =>
    rw [List.map_cons, List.nodup_cons] at h
    rw [lookup_row, List.mem_cons]
    split
    · rename_i hkey
      constructor
      · intro hfound
        exact .inl (Prod.ext hkey (Option.some.inj hfound).symm)
      · rintro (rfl | hmem)
        · rfl
        · exact absurd (List.mem_map.mpr ⟨_, hmem, hkey⟩) h.1
    · rename_i hkey
      rw [ih h.2]
      constructor
      · intro hmem
        exact .inr hmem
      · rintro (rfl | hmem)
        · exact absurd rfl hkey
        · exact hmem

theorem lookup_insertRow (key : String) (constant : Constant) (rows : List (String × Constant))
    (other : String) :
    (insertRow key constant rows).lookup other =
      if other = key then some constant else rows.lookup other := by
  induction rows with
  | nil => rw [insertRow, lookup_row]
  | cons row rest ih =>
    rw [insertRow]
    split
    · rename_i h
      rw [lookup_row, lookup_row, h]
      split <;> rfl
    · rename_i h
      rw [lookup_row, lookup_row, ih]
      by_cases h' : other = key
      · simp [h', Ne.symm h]
      · simp [h']

theorem insertRow_of_notMem {key : String} {rows : List (String × Constant)}
    (h : key ∉ rows.map (·.1)) (constant : Constant) :
    insertRow key constant rows = rows ++ [(key, constant)] := by
  induction rows with
  | nil => rfl
  | cons row rest ih =>
    rw [List.map_cons, List.mem_cons, not_or] at h
    rw [insertRow, if_neg (Ne.symm h.1), ih h.2, List.cons_append]

/-- Sets the constant of a key, which keeps its place if it has one. -/
def insert (entries : Entries) (key : String) (constant : Constant) : Entries where
  toList := insertRow key constant entries.toList
  nodup := by
    rw [keys_insertRow]
    split
    · exact entries.nodup
    · rename_i h
      exact List.nodup_append.mpr ⟨entries.nodup, by simp, by
        intro a ha b hb
        rw [List.mem_singleton] at hb
        rintro rfl
        exact h (hb ▸ ha)⟩

/-- A later row replaces an earlier one of the same key, in the place of the earlier one. -/
def ofList (rows : List (String × Constant)) : Entries :=
  rows.foldl (fun entries row => entries.insert row.1 row.2) empty

/-- Whether two sets of entries have the same keys with the same constants, in any order. -/
def sameAs (entries others : Entries) : Bool :=
  entries.size == others.size &&
    entries.toList.all fun row => others.find? row.1 == some row.2

theorem find?_insert (entries : Entries) (key : String) (constant : Constant) (other : String) :
    (entries.insert key constant).find? other =
      if other = key then some constant else entries.find? other :=
  lookup_insertRow key constant entries.toList other

theorem keys_insert (entries : Entries) (key : String) (constant : Constant) :
    (entries.insert key constant).keys =
      if key ∈ entries.keys then entries.keys else entries.keys ++ [key] :=
  keys_insertRow key constant entries.toList

theorem find?_eq_none_iff {entries : Entries} {key : String} :
    entries.find? key = none ↔ key ∉ entries.keys := by
  simp only [find?, keys, List.lookup_eq_none_iff, List.mem_map, not_exists, not_and]
  constructor
  · rintro h row hrow rfl
    simpa using h row hrow
  · intro h row hrow
    simpa using fun heq => h row hrow heq.symm

theorem find?_eq_some_iff {entries : Entries} {key : String} {constant : Constant} :
    entries.find? key = some constant ↔ (key, constant) ∈ entries.toList :=
  lookup_eq_some_iff_of_nodup entries.nodup

theorem toList_insert_of_find?_eq_none {entries : Entries} {key : String}
    (h : entries.find? key = none) (constant : Constant) :
    (entries.insert key constant).toList = entries.toList ++ [(key, constant)] :=
  insertRow_of_notMem (find?_eq_none_iff.mp h) constant

end Entries

end HeaderConstants
