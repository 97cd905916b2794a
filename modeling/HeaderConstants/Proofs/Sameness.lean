import HeaderConstants.Table
import Mathlib.Data.List.Nodup
import Mathlib.Data.List.Perm.Subperm

namespace HeaderConstants

namespace Entries

theorem nodup_toList (entries : Entries) : entries.toList.Nodup :=
  List.Nodup.of_map _ entries.nodup

theorem mem_keys_iff {entries : Entries} {key : String} :
    key ∈ entries.keys ↔ entries.find? key ≠ none := by
  rw [ne_eq, find?_eq_none_iff, not_not]

theorem perm_of_find?_of_size {entries others : Entries} (hsize : entries.size = others.size)
    (hfound : ∀ row ∈ entries.toList, others.find? row.1 = some row.2) :
    entries.toList.Perm others.toList := by
  have hsubset : entries.toList ⊆ others.toList := by
    intro row hrow
    exact find?_eq_some_iff.mp (hfound row hrow)
  have hsubperm : entries.toList.Subperm others.toList :=
    entries.nodup_toList.subperm hsubset
  exact hsubperm.perm_of_length_le (Nat.le_of_eq hsize.symm)

theorem find?_eq_of_perm {entries others : Entries}
    (h : entries.toList.Perm others.toList) (key : String) :
    entries.find? key = others.find? key := by
  apply Option.ext
  intro constant
  rw [find?_eq_some_iff, find?_eq_some_iff]
  exact h.mem_iff

theorem perm_iff_find?_eq {entries others : Entries} :
    entries.toList.Perm others.toList ↔ ∀ key, entries.find? key = others.find? key := by
  refine ⟨find?_eq_of_perm, fun h => ?_⟩
  refine (List.perm_ext_iff_of_nodup entries.nodup_toList others.nodup_toList).mpr ?_
  rintro ⟨key, constant⟩
  rw [← find?_eq_some_iff, ← find?_eq_some_iff, h key]

theorem sameAs_iff_perm {entries others : Entries} :
    entries.sameAs others = true ↔ entries.toList.Perm others.toList := by
  rw [sameAs, Bool.and_eq_true, beq_iff_eq, List.all_eq_true]
  simp only [beq_iff_eq]
  constructor
  · rintro ⟨hsize, hfound⟩
    exact perm_of_find?_of_size hsize hfound
  · intro h
    refine ⟨h.length_eq, fun row hrow => ?_⟩
    exact find?_eq_some_iff.mpr (h.mem_iff.mp hrow)

theorem sameAs_iff {entries others : Entries} :
    entries.sameAs others = true ↔ ∀ key, entries.find? key = others.find? key :=
  sameAs_iff_perm.trans perm_iff_find?_eq

end Entries

theorem Table.sameAs_iff_perm {table other : Table} :
    table.sameAs other = true ↔ table.entries.toList.Perm other.entries.toList :=
  Entries.sameAs_iff_perm

theorem Table.sameAs_iff {table other : Table} :
    table.sameAs other = true ↔ ∀ name, table.find? name = other.find? name :=
  Entries.sameAs_iff

end HeaderConstants
