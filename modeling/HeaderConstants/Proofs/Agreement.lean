import HeaderConstants.Comparison
import HeaderConstants.Proofs.Answers
import HeaderConstants.Proofs.Sameness

namespace HeaderConstants

namespace Source

/-- Whether a source has a value at a position of a scan. -/
def defines (source : Source) (position : Tier × String) : Bool :=
  (source.lookup position.1.category position.2).isSome

/-- The source gives the value to the name under a tier that is active for the family. -/
def Gives (source : Source) (family : Family) (name : String) (value : Int) : Prop :=
  ∃ tier ∈ Tier.active family Tier.catalog, name ∈ tier.names ∧
    source.lookup tier.category name = some value

theorem length_rows (source : Source) (positions : List (Tier × String)) :
    (source.rows positions).length = positions.countP source.defines := by
  rw [rows, List.length_filterMap_eq_countP]
  refine List.countP_congr fun position _ => ?_
  simp [row?, defines]

theorem length_lacking (source : Source) (positions : List (Tier × String)) :
    (source.lacking positions).length = positions.countP fun position =>
      ¬ source.defines position := by
  rw [lacking, List.length_map, ← List.countP_eq_length_filter]
  refine List.countP_congr fun position _ => ?_
  simp [defines]

theorem countP_defines_chain (source reference : Source) (positions : List (Tier × String)) :
    positions.countP (chain source [reference]).defines =
      positions.countP (fun position => source.defines position && reference.defines position) +
        positions.countP (fun position =>
          !source.defines position && reference.defines position) +
        positions.countP (fun position =>
          !reference.defines position && source.defines position) := by
  induction positions with
  | nil => rfl
  | cons position rest ih =>
      have hposition : (chain source [reference]).defines position =
          (source.defines position || reference.defines position) := by
        rw [defines, lookup_chain_pair, Option.isSome_or]
        rfl
      simp only [List.countP_cons, ih, hposition]
      cases source.defines position <;> cases reference.defines position <;> simp <;> omega

end Source

theorem Table.valueOf_iff_gives {family : Family} {source : Source} {table : Table}
    (h : (build family source Tier.catalog).result = .ok table) {name : String} {value : Int} :
    table.valueOf name = some value ↔ source.Gives family name value :=
  valueOf_of_build h

theorem Table.size_add_length_missing {family : Family} {source : Source} {tiers : List Tier}
    {table : Table} (h : (build family source tiers).result = .ok table) :
    table.size + table.missing.length = ((Tier.active family tiers).flatMap (·.names)).length := by
  rw [size, Entries.size, toList_entries_of_build h, missing_of_build h, Source.length_rows,
    Source.length_lacking]
  refine (List.length_eq_countP_add_countP source.defines).symm.trans ?_
  rw [Tier.positions, List.length_flatMap, List.length_flatMap]
  simp only [List.length_map]

/-- A finding with the two sources exchanged. -/
def Mismatch.swap (mismatch : Mismatch) : Mismatch :=
  { mismatch with value := mismatch.reference, reference := mismatch.value }

namespace Comparison

/-- What is found at a position that both sources define with different values. -/
def mismatch? (source reference : Source) : Tier × String → Option Mismatch
  | (tier, name) =>
      match source.lookup tier.category name, reference.lookup tier.category name with
      | some value, some expected =>
          if value = expected then none else some ⟨name, tier.name, value, expected⟩
      | _, _ => none

theorem mismatch?_eq_some_iff {source reference : Source} {tier : Tier} {name : String}
    {found : Mismatch} :
    mismatch? source reference (tier, name) = some found ↔
      source.lookup tier.category name = some found.value ∧
        reference.lookup tier.category name = some found.reference ∧
        found.value ≠ found.reference ∧ found.name = name ∧ found.tier = tier.name := by
  obtain ⟨listed, label, value, expected⟩ := found
  cases hvalue : source.lookup tier.category name with
  | none => simp [mismatch?, hvalue]
  | some given =>
      cases hexpected : reference.lookup tier.category name with
      | none => simp [mismatch?, hvalue, hexpected]
      | some awaited =>
          simp only [mismatch?, hvalue, hexpected, Option.ite_none_left_eq_some,
            Option.some.injEq, Mismatch.mk.injEq]
          constructor
          · rintro ⟨hne, rfl, rfl, rfl, rfl⟩
            exact ⟨rfl, rfl, hne, rfl, rfl⟩
          · rintro ⟨rfl, rfl, hne, rfl, rfl⟩
            exact ⟨hne, rfl, rfl, rfl, rfl⟩

theorem mismatch?_swap (source reference : Source) (position : Tier × String) :
    mismatch? reference source position =
      (mismatch? source reference position).map Mismatch.swap := by
  obtain ⟨tier, name⟩ := position
  apply Option.ext
  intro found
  rw [mismatch?_eq_some_iff, Option.map_eq_some_iff]
  constructor
  · rintro ⟨hexpected, hvalue, hne, hname, htier⟩
    exact ⟨found.swap,
      mismatch?_eq_some_iff.mpr ⟨hvalue, hexpected, Ne.symm hne, hname, htier⟩, rfl⟩
  · rintro ⟨other, hother, rfl⟩
    obtain ⟨hvalue, hexpected, hne, hname, htier⟩ := mismatch?_eq_some_iff.mp hother
    exact ⟨hexpected, hvalue, Ne.symm hne, hname, htier⟩

theorem add_eq (source reference : Source) (found : Comparison) (position : Tier × String) :
    add source reference found position =
      { compared := found.compared +
          if source.defines position && reference.defines position then 1 else 0
        mismatches := found.mismatches ++ (mismatch? source reference position).toList
        onlyInReference := found.onlyInReference ++
          if !source.defines position && reference.defines position then [position.2] else [] } := by
  obtain ⟨tier, name⟩ := position
  cases hvalue : source.lookup tier.category name with
  | none =>
      cases hexpected : reference.lookup tier.category name with
      | none => simp [add, Source.defines, mismatch?, hvalue, hexpected]
      | some expected => simp [add, Source.defines, mismatch?, hvalue, hexpected]
  | some value =>
      cases hexpected : reference.lookup tier.category name with
      | none => simp [add, Source.defines, mismatch?, hvalue, hexpected]
      | some expected =>
          by_cases heq : value = expected
          · simp [add, Source.defines, mismatch?, hvalue, hexpected, heq]
          · simp [add, Source.defines, mismatch?, hvalue, hexpected, heq]

theorem foldl_add (source reference : Source) (positions : List (Tier × String))
    (found : Comparison) :
    positions.foldl (add source reference) found =
      { compared := found.compared + positions.countP (fun position =>
          source.defines position && reference.defines position)
        mismatches := found.mismatches ++ positions.filterMap (mismatch? source reference)
        onlyInReference := found.onlyInReference ++ (positions.filter (fun position =>
          !source.defines position && reference.defines position)).map (·.2) } := by
  induction positions generalizing found with
  | nil => simp
  | cons position rest ih =>
      rw [List.foldl_cons, ih, add_eq, Comparison.mk.injEq]
      refine ⟨?_, ?_, ?_⟩
      · dsimp only
        rw [List.countP_cons]
        omega
      · rw [List.append_assoc, List.filterMap_cons]
        cases mismatch? source reference position <;> rfl
      · rw [List.append_assoc, List.filter_cons]
        split <;> simp

section Parts

variable (family : Family) (source reference : Source)

theorem compared_ofSources : (ofSources family source reference).compared =
    (Tier.positions (Tier.active family Tier.catalog)).countP fun position =>
      source.defines position && reference.defines position := by
  rw [ofSources, foldl_add]
  exact Nat.zero_add _

theorem mismatches_ofSources : (ofSources family source reference).mismatches =
    (Tier.positions (Tier.active family Tier.catalog)).filterMap
      (mismatch? source reference) := by
  rw [ofSources, foldl_add]
  rfl

theorem onlyInReference_ofSources : (ofSources family source reference).onlyInReference =
    ((Tier.positions (Tier.active family Tier.catalog)).filter fun position =>
      !source.defines position && reference.defines position).map (·.2) := by
  rw [ofSources, foldl_add]
  rfl

theorem compared_swap : (ofSources family reference source).compared =
    (ofSources family source reference).compared := by
  rw [compared_ofSources, compared_ofSources]
  refine List.countP_congr fun position _ => ?_
  rw [Bool.and_comm]

theorem mismatches_swap : (ofSources family reference source).mismatches =
    (ofSources family source reference).mismatches.map Mismatch.swap := by
  rw [mismatches_ofSources, mismatches_ofSources, List.map_filterMap]
  exact List.filterMap_congr fun position _ => mismatch?_swap source reference position

end Parts

variable {family : Family} {source reference : Source}

theorem mem_mismatches {found : Mismatch} :
    found ∈ (ofSources family source reference).mismatches ↔
      ∃ tier ∈ Tier.active family Tier.catalog, found.name ∈ tier.names ∧
        found.tier = tier.name ∧ source.lookup tier.category found.name = some found.value ∧
          reference.lookup tier.category found.name = some found.reference ∧
            found.value ≠ found.reference := by
  rw [mismatches_ofSources, List.mem_filterMap]
  constructor
  · rintro ⟨⟨tier, name⟩, hposition, hfound⟩
    obtain ⟨hvalue, hexpected, hne, rfl, htier⟩ := mismatch?_eq_some_iff.mp hfound
    obtain ⟨hactive, hname⟩ := Tier.mem_positions.mp hposition
    exact ⟨tier, hactive, hname, htier, hvalue, hexpected, hne⟩
  · rintro ⟨tier, hactive, hname, htier, hvalue, hexpected, hne⟩
    exact ⟨(tier, found.name), Tier.mem_positions.mpr ⟨hactive, hname⟩,
      mismatch?_eq_some_iff.mpr ⟨hvalue, hexpected, hne, rfl, htier⟩⟩

theorem mem_onlyInReference {name : String} :
    name ∈ (ofSources family source reference).onlyInReference ↔
      ∃ tier ∈ Tier.active family Tier.catalog, name ∈ tier.names ∧
        source.lookup tier.category name = none ∧
          reference.lookup tier.category name ≠ none := by
  rw [onlyInReference_ofSources, List.mem_map]
  constructor
  · rintro ⟨⟨tier, listed⟩, hmem, rfl⟩
    obtain ⟨hposition, hdefines⟩ := List.mem_filter.mp hmem
    obtain ⟨hactive, hname⟩ := Tier.mem_positions.mp hposition
    refine ⟨tier, hactive, hname, ?_⟩
    simpa [Source.defines, Option.isSome_iff_ne_none] using hdefines
  · rintro ⟨tier, hactive, hname, hnone, hsome⟩
    refine ⟨(tier, name), List.mem_filter.mpr ⟨Tier.mem_positions.mpr ⟨hactive, hname⟩, ?_⟩, rfl⟩
    simpa [Source.defines, Option.isSome_iff_ne_none] using And.intro hnone hsome

theorem lookup_chain_comm (hagrees : (ofSources family source reference).agrees = true)
    {tier : Tier} (htier : tier ∈ Tier.active family Tier.catalog) {name : String}
    (hname : name ∈ tier.names) :
    (Source.chain source [reference]).lookup tier.category name =
      (Source.chain reference [source]).lookup tier.category name := by
  rw [agrees, List.isEmpty_iff] at hagrees
  rw [Source.lookup_chain_pair, Source.lookup_chain_pair]
  cases hvalue : source.lookup tier.category name with
  | none => rw [Option.none_or, Option.or_none]
  | some value =>
      cases hexpected : reference.lookup tier.category name with
      | none => rfl
      | some expected =>
          have heq : value = expected := by
            by_contra hne
            have hfound : ⟨name, tier.name, value, expected⟩ ∈
                (ofSources family source reference).mismatches :=
              mem_mismatches.mpr ⟨tier, htier, hname, rfl, hvalue, hexpected, hne⟩
            rw [hagrees] at hfound
            exact List.not_mem_nil hfound
          rw [heq]

section Tables

variable {table other : Table}

theorem valueOf_of_mem_mismatches
    (h : (Table.build family (.chain source [reference]) Tier.catalog).result = .ok table)
    {found : Mismatch} (hfound : found ∈ (ofSources family source reference).mismatches) :
    source.Gives family found.name found.value ∧
      reference.Gives family found.name found.reference ∧
        table.valueOf found.name = some found.value := by
  obtain ⟨tier, htier, hname, -, hvalue, hexpected, -⟩ := mem_mismatches.mp hfound
  refine ⟨⟨tier, htier, hname, hvalue⟩, ⟨tier, htier, hname, hexpected⟩, ?_⟩
  apply (Table.valueOf_iff_gives h).mpr
  exact ⟨tier, htier, hname, by rw [Source.lookup_chain_pair, hvalue, Option.some_or]⟩

theorem valueOf_of_mem_onlyInReference
    (h : (Table.build family (.chain source [reference]) Tier.catalog).result = .ok table)
    {name : String} (hname : name ∈ (ofSources family source reference).onlyInReference) :
    ∃ value, reference.Gives family name value ∧ table.valueOf name = some value := by
  obtain ⟨tier, htier, hlisted, hnone, hsome⟩ := mem_onlyInReference.mp hname
  obtain ⟨value, hvalue⟩ := Option.ne_none_iff_exists'.mp hsome
  refine ⟨value, ⟨tier, htier, hlisted, hvalue⟩, ?_⟩
  apply (Table.valueOf_iff_gives h).mpr
  exact ⟨tier, htier, hlisted, by rw [Source.lookup_chain_pair, hnone, Option.none_or, hvalue]⟩

theorem valueOf_of_mem_onlyInReference_swap
    (h : (Table.build family (.chain source [reference]) Tier.catalog).result = .ok table)
    {name : String} (hname : name ∈ (ofSources family reference source).onlyInReference) :
    ∃ value, source.Gives family name value ∧ table.valueOf name = some value := by
  obtain ⟨tier, htier, hlisted, -, hsome⟩ := mem_onlyInReference.mp hname
  obtain ⟨value, hvalue⟩ := Option.ne_none_iff_exists'.mp hsome
  refine ⟨value, ⟨tier, htier, hlisted, hvalue⟩, ?_⟩
  apply (Table.valueOf_iff_gives h).mpr
  exact ⟨tier, htier, hlisted, by rw [Source.lookup_chain_pair, hvalue, Option.some_or]⟩

theorem size_of_build_chain
    (h : (Table.build family (.chain source [reference]) Tier.catalog).result = .ok table) :
    table.size = (ofSources family source reference).compared +
      (ofSources family source reference).onlyInReference.length +
        (ofSources family reference source).onlyInReference.length := by
  rw [Table.size, Entries.size, Table.toList_entries_of_build h, Source.length_rows,
    Source.countP_defines_chain, compared_ofSources, onlyInReference_ofSources,
    onlyInReference_ofSources, List.length_map, List.length_map, List.countP_eq_length_filter,
    List.countP_eq_length_filter, List.countP_eq_length_filter]

theorem agrees_iff_sameAs
    (h : (Table.build family (.chain source [reference]) Tier.catalog).result = .ok table)
    (h' : (Table.build family (.chain reference [source]) Tier.catalog).result = .ok other) :
    (ofSources family source reference).agrees = true ↔ table.sameAs other = true := by
  rw [Table.sameAs_iff]
  constructor
  · intro hagrees name
    apply Option.ext
    intro constant
    rw [Table.find?_of_build h, Table.find?_of_build h']
    constructor
    · rintro ⟨tier, value, htier, hname, hvalue, rfl⟩
      exact ⟨tier, value, htier, hname, lookup_chain_comm hagrees htier hname ▸ hvalue, rfl⟩
    · rintro ⟨tier, value, htier, hname, hvalue, rfl⟩
      exact ⟨tier, value, htier, hname, (lookup_chain_comm hagrees htier hname).symm ▸ hvalue,
        rfl⟩
  · intro hsame
    rw [agrees, List.isEmpty_iff, List.eq_nil_iff_forall_not_mem]
    -- Each table holds the value of its first source under the name of a finding.
    intro found hfound
    obtain ⟨-, -, hvalue⟩ := valueOf_of_mem_mismatches h hfound
    have hswap : found.swap ∈ (ofSources family reference source).mismatches := by
      rw [mismatches_swap]
      exact List.mem_map_of_mem hfound
    obtain ⟨-, -, hexpected⟩ := valueOf_of_mem_mismatches h' hswap
    obtain ⟨-, -, -, -, -, -, hne⟩ := mem_mismatches.mp hfound
    rw [Table.valueOf, hsame found.name] at hvalue
    rw [Table.valueOf, show found.swap.name = found.name from rfl, hvalue] at hexpected
    exact hne (Option.some.inj hexpected)

end Tables

/-- A comparison says what the chains of the two sources hold. Exchanging the sources exchanges the
two values of each finding. In the table of the first chain, a name whose values differ has the
first source's value, a name that only one source defines has the value of that source, and there
is nothing else but the names on which both agree. The tables of the two chains are the same just
if the sources agree. -/
theorem ofSources_describes_chains (family : Family) (source reference : Source) :
    (ofSources family reference source).compared =
        (ofSources family source reference).compared ∧
      (ofSources family reference source).mismatches =
        (ofSources family source reference).mismatches.map Mismatch.swap ∧
      ∃ table other,
        (Table.build family (.chain source [reference]) Tier.catalog).result = .ok table ∧
        (Table.build family (.chain reference [source]) Tier.catalog).result = .ok other ∧
        (∀ found ∈ (ofSources family source reference).mismatches,
          source.Gives family found.name found.value ∧
            reference.Gives family found.name found.reference ∧
              table.valueOf found.name = some found.value) ∧
        (∀ name ∈ (ofSources family source reference).onlyInReference,
          ∃ value, reference.Gives family name value ∧ table.valueOf name = some value) ∧
        (∀ name ∈ (ofSources family reference source).onlyInReference,
          ∃ value, source.Gives family name value ∧ table.valueOf name = some value) ∧
        table.size = (ofSources family source reference).compared +
          (ofSources family source reference).onlyInReference.length +
            (ofSources family reference source).onlyInReference.length ∧
        table.size + table.missing.length =
          ((Tier.active family Tier.catalog).flatMap (·.names)).length ∧
        ((ofSources family source reference).agrees = true ↔ table.sameAs other = true) := by
  obtain ⟨table, h⟩ := Resolver.exists_build_catalog family (.chain source [reference])
  obtain ⟨other, h'⟩ := Resolver.exists_build_catalog family (.chain reference [source])
  refine ⟨compared_swap family source reference, mismatches_swap family source reference,
    table, other, h, h', ?_, ?_, ?_, size_of_build_chain h, Table.size_add_length_missing h,
    agrees_iff_sameAs h h'⟩
  · intro found hfound
    exact valueOf_of_mem_mismatches h hfound
  · intro name hname
    exact valueOf_of_mem_onlyInReference h hname
  · intro name hname
    exact valueOf_of_mem_onlyInReference_swap h hname

/-- Two sources that differ in one value, and define one more name each. -/
def fewErrors : Source := .ofValues .generic fun _ => [("EPERM", 1), ("ENOENT", -2)]

def otherErrors : Source := .ofValues .generic fun _ => [("ENOENT", 2), ("EIO", 0)]

theorem ofSources_describes_chains_of_few_errors :
    (⟨"ENOENT", "common-errno", -2, 2⟩ ∈ (ofSources .generic fewErrors otherErrors).mismatches ∧
      "EIO" ∈ (ofSources .generic fewErrors otherErrors).onlyInReference ∧
      "EPERM" ∈ (ofSources .generic otherErrors fewErrors).onlyInReference) ∧
    ∃ table other,
      (Table.build .generic (.chain fewErrors [otherErrors]) Tier.catalog).result = .ok table ∧
      (Table.build .generic (.chain otherErrors [fewErrors]) Tier.catalog).result = .ok other ∧
      table.valueOf "ENOENT" = some (-2) ∧ (table.valueOf "EIO").isSome ∧
      (table.valueOf "EPERM").isSome ∧ table.size = 3 ∧ table.sameAs other = false := by
  have hmismatch : ⟨"ENOENT", "common-errno", -2, 2⟩ ∈
      (ofSources .generic fewErrors otherErrors).mismatches := by decide +kernel
  have honly : "EIO" ∈ (ofSources .generic fewErrors otherErrors).onlyInReference := by
    decide +kernel
  have hown : "EPERM" ∈ (ofSources .generic otherErrors fewErrors).onlyInReference := by
    decide +kernel
  obtain ⟨-, -, table, other, h, h', hmismatches, honlys, howns, hsize, -, hagrees⟩ :=
    ofSources_describes_chains .generic fewErrors otherErrors
  refine ⟨⟨hmismatch, honly, hown⟩, table, other, h, h', (hmismatches _ hmismatch).2.2, ?_, ?_,
    hsize.trans (by decide +kernel), ?_⟩
  · obtain ⟨value, -, hvalue⟩ := honlys _ honly
    rw [hvalue, Option.isSome_some]
  · obtain ⟨value, -, hvalue⟩ := howns _ hown
    rw [hvalue, Option.isSome_some]
  · rw [Bool.eq_false_iff, ne_eq, ← hagrees]
    decide +kernel

end Comparison

end HeaderConstants
