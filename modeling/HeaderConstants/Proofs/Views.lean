import HeaderConstants.Proofs.Sameness
import HeaderConstants.Resolver
import Mathlib.Data.List.Induction

namespace HeaderConstants

namespace Entries

theorem ofList_append_singleton (rows : List (String × Constant)) (row : String × Constant) :
    ofList (rows ++ [row]) = (ofList rows).insert row.1 row.2 := by
  rw [ofList, List.foldl_append]
  rfl

theorem keys_ofList (rows : List (String × Constant)) :
    (ofList rows).keys = (rows.map (·.1)).eraseDups := by
  induction rows using List.reverseRecOn with
  | nil => rfl
  | append_singleton rows row ih =>
      rw [ofList_append_singleton, keys_insert, ih, List.map_append, List.eraseDups_append]
      by_cases h : row.1 ∈ rows.map (·.1)
      · rw [if_pos (List.mem_eraseDups.mpr h)]
        simp [List.removeAll, h]
      · rw [if_neg (fun hmem => h (List.mem_eraseDups.mp hmem))]
        simp [List.removeAll, h, List.eraseDups_cons]

theorem find?_ofList (rows : List (String × Constant)) (key : String) :
    (ofList rows).find? key = rows.reverse.lookup key := by
  induction rows using List.reverseRecOn with
  | nil => rfl
  | append_singleton rows row ih =>
      rw [ofList_append_singleton, find?_insert, List.reverse_concat, lookup_row, ih]

end Entries

namespace Table

variable {table : Table} {name : String} {constant : Constant}

section Walk

theorem entry_of_find?_eq_some (h : table.find? name = some constant) :
    table.entry name = .ok constant := by
  rw [entry, h]

theorem entry_of_find?_eq_none (h : table.find? name = none) :
    table.entry name = .error ⟨name⟩ := by
  rw [entry, h]

theorem entry_of_mem {row : String × Constant} (h : row ∈ table.entries.toList) :
    table.entry row.1 = .ok row.2 :=
  entry_of_find?_eq_some (Entries.find?_eq_some_iff.mpr h)

theorem mapM_keys_eq_ok {α : Type} {look : String → Except NoEntry α}
    {seen : String × Constant → α} {rows : List (String × Constant)}
    (h : ∀ row ∈ rows, look row.1 = .ok (seen row)) :
    (rows.map (·.1)).mapM look = .ok (rows.map seen) := by
  induction rows with
  | nil => rfl
  | cons row rest ih =>
      obtain ⟨hrow, hrest⟩ := List.forall_mem_cons.mp h
      rw [List.map_cons, List.mapM_cons, hrow, ih hrest]
      rfl

theorem items_eq (table : Table) : table.items = .ok table.entries.toList := by
  have hwalk : table.items = .ok (table.entries.toList.map id) := by
    apply mapM_keys_eq_ok
    intro row hrow
    rw [entry_of_mem hrow]
    rfl
  rw [hwalk, List.map_id]

theorem values_eq (table : Table) : table.values = .ok table.constants :=
  mapM_keys_eq_ok fun _ hrow => entry_of_mem hrow

end Walk

/-- Every way to ask a table, or a resolver over it, for a name leads to the constant. -/
structure Finds (table : Table) (name : String) (constant : Constant) : Prop where
  listed : name ∈ table.names
  contained : table.contains name = true
  entry : table.entry name = .ok constant
  find? : table.find? name = some constant
  valueOf : table.valueOf name = some constant.value
  known : (Resolver.mk table).contains name = true
  resolve : (Resolver.mk table).resolve name = some constant.value
  describe : (Resolver.mk table).describe name = some constant
  require : (Resolver.mk table).require name = .ok constant.value

/-- No way to ask a table, or a resolver over it, for a name leads to anything. -/
structure Misses (table : Table) (name : String) : Prop where
  unlisted : name ∉ table.names
  absent : table.contains name = false
  entry : table.entry name = .error ⟨name⟩
  find? : table.find? name = none
  valueOf : table.valueOf name = none
  unknown : (Resolver.mk table).contains name = false
  resolve : (Resolver.mk table).resolve name = none
  describe : (Resolver.mk table).describe name = none
  require : ∃ hint, (Resolver.mk table).require name =
    .error (.unresolved name table.family.key hint)

theorem finds_of_find?_eq_some (h : table.find? name = some constant) :
    table.Finds name constant := by
  have hvalue : table.valueOf name = some constant.value := by rw [valueOf, h, Option.map_some]
  have hcontains : table.contains name = true := by
    rw [contains_eq_isSome, h, Option.isSome_some]
  have hlisted : name ∈ table.names := by
    refine Entries.mem_keys_iff.mpr ?_
    rw [show table.entries.find? name = some constant from h]
    exact Option.some_ne_none constant
  exact {
    listed := hlisted
    contained := hcontains
    entry := entry_of_find?_eq_some h
    find? := h
    valueOf := hvalue
    known := hcontains
    resolve := hvalue
    describe := (get?_eq_find? table name).trans h
    require := Resolver.require_eq_ok_iff.mpr hvalue }

theorem misses_of_find?_eq_none (h : table.find? name = none) : table.Misses name := by
  have hvalue : table.valueOf name = none := by rw [valueOf, h, Option.map_none]
  have hcontains : table.contains name = false := by
    rw [contains_eq_isSome, h, Option.isSome_none]
  exact {
    unlisted := Entries.find?_eq_none_iff.mp h
    absent := hcontains
    entry := entry_of_find?_eq_none h
    find? := h
    valueOf := hvalue
    unknown := hcontains
    resolve := hvalue
    describe := (get?_eq_find? table name).trans h
    require := ⟨_, by rw [Resolver.require, get?_eq_find?, h]; rfl⟩ }

theorem finds_or_misses (table : Table) (name : String) :
    (∃ constant, table.Finds name constant) ∨ table.Misses name := by
  cases h : table.find? name with
  | some constant => exact .inl ⟨constant, finds_of_find?_eq_some h⟩
  | none => exact .inr (misses_of_find?_eq_none h)

theorem mem_toList_iff_finds :
    (name, constant) ∈ table.entries.toList ↔ table.Finds name constant := by
  rw [← Entries.find?_eq_some_iff]
  exact ⟨finds_of_find?_eq_some, Finds.find?⟩

theorem equivalence_sameAs : Equivalence fun table other : Table => table.sameAs other = true where
  refl _ := sameAs_iff.mpr fun _ => rfl
  symm h := sameAs_iff.mpr fun name => (sameAs_iff.mp h name).symm
  trans h h' := sameAs_iff.mpr fun name => (sameAs_iff.mp h name).trans (sameAs_iff.mp h' name)

/-- All views of a table agree. For each name either every one of them leads to one constant or none
leads anywhere. A walk never comes to a name without a constant, and it meets each name once, in the
order of the names. A table that is given its rows has their keys in the order in which they come up
first, each with the constant of its last row. Two tables are the same just if they give the same
for every name, which comes to the same rows in any order, and nothing else makes a difference. -/
theorem views_agree :
    (∀ table : Table,
      (∀ name, (∃ constant, table.Finds name constant) ∨ table.Misses name) ∧
      table.names.Nodup ∧
      ∃ items, table.items = .ok items ∧ table.values = .ok (items.map (·.2)) ∧
        table.names = items.map (·.1) ∧ table.size = items.length ∧
        (∀ name constant, (name, constant) ∈ items ↔ table.Finds name constant) ∧
        (Resolver.mk table).names = table.names ∧ (Resolver.mk table).size = table.size ∧
        (Resolver.mk table).constants = table.values) ∧
    (∀ family rows description missing name,
      (Table.mk family (.ofList rows) description missing).names =
          (rows.map (·.1)).eraseDups ∧
        (Table.mk family (.ofList rows) description missing).find? name =
          rows.reverse.lookup name) ∧
    (∀ table other : Table,
      (table.sameAs other = true ↔ ∀ name, table.find? name = other.find? name) ∧
        (table.sameAs other = true ↔ table.entries.toList.Perm other.entries.toList)) ∧
    Equivalence fun table other : Table => table.sameAs other = true := by
  refine ⟨?_, ?_, ?_, equivalence_sameAs⟩
  · intro table
    refine ⟨finds_or_misses table, table.entries.nodup, table.entries.toList, items_eq table,
      values_eq table, rfl, rfl, ?_, rfl, rfl, rfl⟩
    exact fun _ _ => mem_toList_iff_finds
  · intro family rows description missing name
    exact ⟨Entries.keys_ofList rows, Entries.find?_ofList rows name⟩
  · intro table other
    exact ⟨sameAs_iff, sameAs_iff_perm⟩

end Table

end HeaderConstants
