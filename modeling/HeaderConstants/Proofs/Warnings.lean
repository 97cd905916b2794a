import HeaderConstants.Proofs.Diagnosis

/-!
What the rows of a report warn of. No row but that of the interpreter can fail, so warnings make no
difference to the exit status. The row of the table comes from a build and the row of the snapshot
from a comparison; both go through the same positions, and their counts fit together.
-/

namespace HeaderConstants

namespace Host

variable (host : Host) (family : Family)

/-- The name, listed for the family, stands for an integer on the machine. -/
def Defines (name : String) : Prop :=
  ∃ tier ∈ Tier.active family Tier.catalog, name ∈ tier.names ∧
    ∃ value, (host.exports tier.category).HasInteger name value

/-- The name, listed for the family, stands for no integer on the machine. -/
def Lacks (name : String) : Prop :=
  ∃ tier ∈ Tier.active family Tier.catalog, name ∈ tier.names ∧
    ∀ value, ¬ (host.exports tier.category).HasInteger name value

/-- A name, listed for the family, that stands for an integer on the machine and for another one in
the snapshot, with both. -/
def Differs (item : Mismatch) : Prop :=
  ∃ tier ∈ Tier.active family Tier.catalog, item.name ∈ tier.names ∧ item.tier = tier.name ∧
    (host.exports tier.category).HasInteger item.name item.value ∧
      (Snapshot.values family tier.category).lookup item.name = some item.reference ∧
        item.value ≠ item.reference

/-- The machine is of the family, and the family has a snapshot to compare it with. -/
def IsComparable : Prop := family = .ofSystem host.system ∧ family ≠ .generic

/-- What a comparison of the machine with the snapshot finds: the listed names that the machine
defines and those that it lacks, and the values that differ. -/
structure Compares (both alone : List String) (found : List Mismatch) : Prop where
  names : (both ++ alone).Perm ((Tier.active family Tier.catalog).flatMap (·.names))
  defines : ∀ name ∈ both, host.Defines family name
  lacks : ∀ name ∈ alone, host.Lacks family name
  differs : ∀ item, item ∈ found ↔ host.Differs family item
  nodup : (found.map (·.name)).Nodup

instance : Decidable (host.IsComparable family) :=
  inferInstanceAs (Decidable (_ ∧ _))

variable {host family}

theorem isComparable_iff :
    host.IsComparable family ↔ family = host.family ∧ Snapshot.isAvailable family = true := by
  refine and_congr_right' ?_
  cases family <;> simp [Snapshot.isAvailable]

end Host

namespace Tier

theorem map_snd_positions (tiers : List Tier) :
    (positions tiers).map (·.2) = tiers.flatMap (·.names) := by
  simp [positions, List.map_flatMap, Function.comp_def]

theorem nodup_flatMap_names (family : Family) :
    ((active family catalog).flatMap (·.names)).Nodup := by
  rw [List.nodup_flatMap]
  refine ⟨fun tier htier => nodup_names tier (mem_catalog_of_mem_active htier), ?_⟩
  exact (disjoint_active family).imp fun hdisjoint => hdisjoint

end Tier

namespace Comparison

open Tier

/-- The comparison of a machine with the snapshot of a family. -/
def ofHost (host : Host) (family : Family) : Comparison :=
  ofSources family (.ofExports host.exports) (.snapshot family)

variable {host : Host} {family : Family}

theorem lookup_ofExports_eq_some_iff {tier : Tier} (htier : tier ∈ active family catalog)
    {name : String} (hname : name ∈ tier.names) {value : Int} :
    (Source.ofExports host.exports).lookup tier.category name = some value ↔
      (host.exports tier.category).HasInteger name value :=
  Exports.constant?_eq_some_iff (ne_empty_of_mem_names (mem_catalog_of_mem_active htier) hname)

theorem lookup_ofExports_eq_none_iff {tier : Tier} (htier : tier ∈ active family catalog)
    {name : String} (hname : name ∈ tier.names) :
    (Source.ofExports host.exports).lookup tier.category name = none ↔
      ∀ value, ¬ (host.exports tier.category).HasInteger name value :=
  Exports.constant?_eq_none_iff (ne_empty_of_mem_names (mem_catalog_of_mem_active htier) hname)

theorem mem_mismatches_ofHost {item : Mismatch} :
    item ∈ (ofHost host family).mismatches ↔ host.Differs family item := by
  rw [ofHost, mem_mismatches]
  refine exists_congr fun tier => and_congr_right fun htier => and_congr_right fun hname =>
    and_congr_right fun _ => and_congr_left' ?_
  exact lookup_ofExports_eq_some_iff htier hname

theorem mismatches_ofHost_ne_nil_iff :
    (ofHost host family).mismatches ≠ [] ↔ ∃ item, host.Differs family item := by
  simp only [← mem_mismatches_ofHost, ne_eq, List.eq_nil_iff_forall_not_mem, not_forall_not]

theorem mem_onlyInReference_ofHost (hsnapshot : family ≠ .generic) {name : String} :
    name ∈ (ofHost host family).onlyInReference ↔ host.Lacks family name := by
  rw [ofHost, mem_onlyInReference]
  refine exists_congr fun tier => and_congr_right fun htier => and_congr_right fun hname => ?_
  have hexpected := Option.isSome_iff_ne_none.mp (Snapshot.isSome_lookup hsnapshot htier hname)
  rw [lookup_ofExports_eq_none_iff htier hname]
  exact and_iff_left hexpected

theorem onlyInReference_ofHost_ne_nil_iff (hsnapshot : family ≠ .generic) :
    (ofHost host family).onlyInReference ≠ [] ↔ ∃ name, host.Lacks family name := by
  simp only [← mem_onlyInReference_ofHost hsnapshot, ne_eq, List.eq_nil_iff_forall_not_mem,
    not_forall_not]

theorem nodup_mismatches_ofHost (host : Host) (family : Family) :
    ((ofHost host family).mismatches.map (·.name)).Nodup := by
  have hnames := nodup_flatMap_names family
  rw [← map_snd_positions, List.Nodup, List.pairwise_map] at hnames
  rw [List.Nodup, List.pairwise_map, ofHost, mismatches_ofSources, List.pairwise_filterMap]
  refine hnames.imp ?_
  rintro ⟨tier, name⟩ ⟨other, name'⟩ hne found hfound found' hfound'
  obtain ⟨-, -, -, rfl, -⟩ := mismatch?_eq_some_iff.mp hfound
  obtain ⟨-, -, -, rfl, -⟩ := mismatch?_eq_some_iff.mp hfound'
  exact hne

theorem exists_compares_ofHost (host : Host) (hsnapshot : family ≠ .generic) :
    ∃ both, both.length = (ofHost host family).compared ∧
      host.Compares family both (ofHost host family).onlyInReference
        (ofHost host family).mismatches := by
  have hdefined : ∀ position ∈ positions (active family catalog),
      (Source.snapshot family).defines position = true := by
    rintro ⟨tier, name⟩ hposition
    obtain ⟨htier, hname⟩ := mem_positions.mp hposition
    exact Snapshot.isSome_lookup hsnapshot htier hname
  have hcompared : (ofHost host family).compared =
      ((positions (active family catalog)).filter
        (Source.ofExports host.exports).defines).length := by
    rw [ofHost, compared_ofSources, ← List.countP_eq_length_filter]
    refine List.countP_congr fun position hposition => ?_
    rw [hdefined position hposition, Bool.and_true]
  have halone : (ofHost host family).onlyInReference =
      ((positions (active family catalog)).filter fun position =>
        !(Source.ofExports host.exports).defines position).map (·.2) := by
    rw [ofHost, onlyInReference_ofSources]
    refine congrArg _ (List.filter_congr fun position hposition => ?_)
    rw [hdefined position hposition, Bool.and_true]
  refine ⟨((positions (active family catalog)).filter
    (Source.ofExports host.exports).defines).map (·.2), ?_, ?_⟩
  · rw [List.length_map, hcompared]
  · exact {
      names := by
        rw [halone, ← List.map_append, ← map_snd_positions]
        exact (List.filter_append_perm _ _).map _
      defines := by
        intro name hmem
        obtain ⟨⟨tier, name⟩, hfiltered, rfl⟩ := List.mem_map.mp hmem
        obtain ⟨hposition, hdefines⟩ := List.mem_filter.mp hfiltered
        obtain ⟨htier, hname⟩ := mem_positions.mp hposition
        obtain ⟨value, hvalue⟩ := Option.isSome_iff_exists.mp hdefines
        exact ⟨tier, htier, hname, value, (lookup_ofExports_eq_some_iff htier hname).mp hvalue⟩
      lacks := fun name hmem => (mem_onlyInReference_ofHost hsnapshot).mp hmem
      differs := fun item => mem_mismatches_ofHost
      nodup := nodup_mismatches_ofHost host family }

end Comparison

theorem Host.Compares.size_eq {around : Surroundings} {family : Family} {table : Table}
    {both alone : List String} {found : List Mismatch}
    (h : around.host.Compares family both alone found) (hsnapshot : family ≠ .generic)
    (hbuild : (around.build (some family) none).result = .ok table) :
    table.size = both.length + alone.length := by
  rw [Surroundings.size_eq hbuild hsnapshot, ← h.names.length_eq, List.length_append]

namespace Doctor

open Tier
open Surroundings (Origin)

/-- The words that count in the rows with a label. -/
def wordsOf (label : String) (rows : List Row) : List String :=
  (rows.filter (·.label = label)).map fun row => plainStatus row.status

/-- The row with the label warns where `p` holds, and is in order where it does not. -/
def WarnsJustIf (label : String) (rows : List Row) (p : Prop) : Prop :=
  (p → wordsOf label rows = ["WARN"]) ∧ (¬ p → wordsOf label rows = ["OK"])

section Words

theorem plainStatus_ok : plainStatus Verdict.ok.markup = "OK" := by decide +kernel

theorem plainStatus_warning : plainStatus (Verdict.warning none).markup = "WARN" := by
  decide +kernel

theorem plainStatus_familyRow_of_ne {active detected : Family} (h : active ≠ detected)
    (origin : String) : plainStatus (familyRow active detected origin).status = "WARN" := by
  have hmarkup : ∀ detected ∈ Family.all,
      plainStatus (Verdict.warning (some ("host is " ++ detected.key))).markup = "WARN" := by
    decide +kernel
  rw [familyRow, if_neg h]
  exact hmarkup detected detected.mem_all

theorem plainStatus_familyRow_self (family : Family) (origin : String) :
    plainStatus (familyRow family family origin).status = "OK" := by
  rw [familyRow, if_pos rfl]
  exact plainStatus_ok

theorem plainStatus_tableRow (table : Table) :
    plainStatus (tableRow table).status = if table.missing = [] then "OK" else "WARN" := by
  rw [tableRow]
  by_cases hmissing : table.missing = []
  · rw [if_pos (List.isEmpty_iff.mpr hmissing), if_pos hmissing]
    exact plainStatus_ok
  · rw [if_neg (mt List.isEmpty_iff.mp hmissing), if_neg hmissing]
    exact plainStatus_warning

theorem plainStatus_comparisonRow (family : Family) (machine : String)
    (comparison : Comparison) :
    plainStatus (comparisonRow family machine comparison).status =
      if comparison.mismatches ≠ [] ∨
          comparison.onlyInReference ≠ [] ∧ Snapshot.covers family machine = false then "WARN"
      else "OK" := by
  have hstatus : (comparisonRow family machine comparison).status =
      (if (comparison.onlyInReference.length ≠ 0 ∧ ¬ Snapshot.covers family machine) ∨
          ¬ comparison.agrees then Verdict.warning none else Verdict.ok).markup := rfl
  have hcondition : ((comparison.onlyInReference.length ≠ 0 ∧ ¬ Snapshot.covers family machine) ∨
      ¬ comparison.agrees) ↔ comparison.mismatches ≠ [] ∨
        comparison.onlyInReference ≠ [] ∧ Snapshot.covers family machine = false := by
    rw [Comparison.agrees, List.isEmpty_iff, ne_eq, List.length_eq_zero_iff, Bool.not_eq_true]
    exact Or.comm
  rw [hstatus]
  by_cases hwarns : comparison.mismatches ≠ [] ∨
      comparison.onlyInReference ≠ [] ∧ Snapshot.covers family machine = false
  · rw [if_pos (hcondition.mpr hwarns), if_pos hwarns]
    exact plainStatus_warning
  · rw [if_neg (mt hcondition.mp hwarns), if_neg hwarns]
    exact plainStatus_ok

end Words

section Checks

variable {around : Surroundings} {family : Family} {origin : Origin} {table : Table}

theorem warnsJustIf_of_filter {label : String} {rows : List Row} {row : Row} {p : Prop}
    (hrows : rows.filter (·.label = label) = [row])
    (hwarns : p → plainStatus row.status = "WARN") (hok : ¬ p → plainStatus row.status = "OK") :
    WarnsJustIf label rows p := by
  rw [WarnsJustIf, wordsOf, hrows, List.map_singleton]
  constructor
  · intro hp
    rw [hwarns hp]
  · intro hp
    rw [hok hp]

theorem checkSnapshot_of_isComparable {host : Host} (h : host.IsComparable family)
    (machine : String) :
    checkSnapshot host family host.family machine =
      (comparisonRow family machine (.ofHost host family), some (.ofHost host family)) := by
  obtain ⟨hown, havailable⟩ := Host.isComparable_iff.mp h
  rw [checkSnapshot, havailable, ← hown]
  simp [Comparison.ofHost]

theorem checkSnapshot_of_not_isComparable {host : Host} (h : ¬ host.IsComparable family)
    (machine : String) :
    checkSnapshot host family host.family machine =
      (⟨"Snapshot", if family = .generic then "none for this family"
        else "skipped (not the host family)", Verdict.ok.markup⟩, none) := by
  by_cases hgeneric : family = .generic
  · subst hgeneric
    rfl
  · have havailable : Snapshot.isAvailable family = true := by
      cases family <;> simp_all [Snapshot.isAvailable]
    have hother : family ≠ host.family := fun hown => h ⟨hown, hgeneric⟩
    rw [checkSnapshot, havailable]
    simp [hother, hgeneric]

theorem warnsJustIf_family_checks (around : Surroundings) (family : Family) (origin : Origin)
    (table : Table) :
    WarnsJustIf "Family" (checks around family origin table).1
      (family ≠ .ofSystem around.host.system) := by
  apply warnsJustIf_of_filter (filter_family_checks around family origin table)
  · intro hne
    exact plainStatus_familyRow_of_ne hne origin.name
  · intro hnot
    have hown : family = around.host.family := not_not.mp hnot
    rw [← hown]
    exact plainStatus_familyRow_self family origin.name

theorem warnsJustIf_table_checks (around : Surroundings) (origin : Origin)
    (h : (around.build (some family) none).result = .ok table) :
    WarnsJustIf "Table" (checks around family origin table).1
      (∃ tier ∈ active family catalog, ∃ name ∈ tier.names,
        (Resolver.mk table).resolve name = none) := by
  have hmissing := Resolver.missing_eq_nil_iff (Surroundings.build_some_none around family ▸ h)
  apply warnsJustIf_of_filter (filter_table_checks around family origin table)
  · rintro ⟨tier, htier, name, hname, hnone⟩
    rw [plainStatus_tableRow, if_neg]
    intro hnil
    exact hmissing.mp hnil tier htier name hname hnone
  · intro hnot
    rw [plainStatus_tableRow, if_pos]
    apply hmissing.mpr
    intro tier htier name hname hnone
    exact hnot ⟨tier, htier, name, hname, hnone⟩

theorem exists_undefined_iff (h : (around.build (some family) none).result = .ok table) :
    (∃ tier ∈ active family catalog, ∃ name ∈ tier.names,
      (Resolver.mk table).resolve name = none) ↔
        family = .generic ∧ ∃ name, around.host.Lacks family name := by
  have hmissing := Resolver.missing_eq_nil_iff (Surroundings.build_some_none around family ▸ h)
  constructor
  · rintro ⟨tier, htier, name, hname, hnone⟩
    have hgeneric : family = .generic := by
      by_contra hsnapshot
      have hnil := Surroundings.missing_eq_nil h hsnapshot
      exact hmissing.mp hnil tier htier name hname hnone
    subst hgeneric
    rw [Surroundings.resolve_of_mem_names h htier hname] at hnone
    refine ⟨rfl, name, tier, htier, hname, ?_⟩
    exact (Comparison.lookup_ofExports_eq_none_iff htier hname).mp hnone
  · rintro ⟨rfl, name, tier, htier, hname, hlacks⟩
    refine ⟨tier, htier, name, hname, ?_⟩
    rw [Surroundings.resolve_of_mem_names h htier hname]
    exact (Comparison.lookup_ofExports_eq_none_iff htier hname).mpr hlacks

theorem warnsJustIf_snapshot_checks (around : Surroundings) (family : Family) (origin : Origin)
    (table : Table) :
    WarnsJustIf "Snapshot" (checks around family origin table).1
      (around.host.IsComparable family ∧ ((∃ item, around.host.Differs family item) ∨
        (∃ name, around.host.Lacks family name) ∧
          Snapshot.covers family around.host.machine = false)) := by
  apply warnsJustIf_of_filter (filter_snapshot_checks around family origin table)
  · rintro ⟨hcomparable, hwarns⟩
    rw [checkSnapshot_of_isComparable hcomparable, plainStatus_comparisonRow, if_pos]
    rwa [Comparison.mismatches_ofHost_ne_nil_iff,
      Comparison.onlyInReference_ofHost_ne_nil_iff hcomparable.2]
  · intro hnot
    by_cases hcomparable : around.host.IsComparable family
    · rw [checkSnapshot_of_isComparable hcomparable, plainStatus_comparisonRow, if_neg]
      rw [Comparison.mismatches_ofHost_ne_nil_iff,
        Comparison.onlyInReference_ofHost_ne_nil_iff hcomparable.2]
      intro hwarns
      exact hnot ⟨hcomparable, hwarns⟩
    · rw [checkSnapshot_of_not_isComparable hcomparable]
      exact plainStatus_ok

/-- The list of differing values that a report shows behind its rows. -/
def listingOf (terminal : Terminal) : Option Comparison → List Event
  | some found =>
      if found.mismatches = [] then [] else showMismatches terminal found.mismatches
  | none => []

theorem present_eq (terminal : Terminal) (rows : List Row) (comparison : Option Comparison) :
    present terminal rows comparison = report terminal rows ++ listingOf terminal comparison ++
      [closing terminal (rows.any (·.isFailure))] := by
  rcases comparison with _ | found
  · rfl
  · simp only [present, listingOf, Comparison.agrees, List.isEmpty_iff]

end Checks

theorem value_comparisonRow (family : Family) (machine : String) (comparison : Comparison) :
    (comparisonRow family machine comparison).value =
      Text.decimal comparison.compared ++ " compared" ++
        (if comparison.onlyInReference = [] then ""
         else ", " ++ Text.decimal comparison.onlyInReference.length ++ " from snapshot only" ++
           if Snapshot.covers family machine then ""
           else ", snapshot not valid for " ++
             if machine = "" then "unknown machine" else machine) ++
        if comparison.mismatches = [] then ""
        else ", " ++ Text.decimal comparison.mismatches.length ++ " differ" := by
  have hvalue : (comparisonRow family machine comparison).value = Text.commaSeparated
      ([Text.decimal comparison.compared ++ " compared"] ++
        (if comparison.onlyInReference.length = 0 then []
         else [Text.decimal comparison.onlyInReference.length ++ " from snapshot only"]) ++
        (if comparison.onlyInReference.length ≠ 0 ∧ ¬ Snapshot.covers family machine then
          ["snapshot not valid for " ++ (if machine = "" then "unknown machine" else machine)]
         else []) ++
        (if comparison.agrees then []
         else [Text.decimal comparison.mismatches.length ++ " differ"])) := rfl
  simp only [hvalue, Text.commaSeparated, Comparison.agrees, List.isEmpty_iff, ne_eq,
    List.length_eq_zero_iff, ← String.toList_inj]
  by_cases halone : comparison.onlyInReference = []
  · by_cases hfound : comparison.mismatches = [] <;>
      simp [halone, hfound]
  · by_cases hfound : comparison.mismatches = [] <;>
      cases hcovers : Snapshot.covers family machine <;>
        simp [halone, hfound]

/-- A report in which each verdict has the reason that it should have, and the counts of two rows
fit together. -/
structure Judges (around : Surroundings) (terminal : Terminal) (family : Family) (table : Table)
    (rows : List Row) (listing : List Event) (status : Int) : Prop where
  status_eq : status = if around.host.version.take 2 < [3, 10] then 1 else 0
  familyRow : WarnsJustIf "Family" rows (family ≠ .ofSystem around.host.system)
  tableRow : WarnsJustIf "Table" rows (∃ tier ∈ active family catalog, ∃ name ∈ tier.names,
    (Resolver.mk table).resolve name = none)
  undefined : (∃ tier ∈ active family catalog, ∃ name ∈ tier.names,
      (Resolver.mk table).resolve name = none) ↔
    family = .generic ∧ ∃ name, around.host.Lacks family name
  snapshotRow : WarnsJustIf "Snapshot" rows (around.host.IsComparable family ∧
    ((∃ item, around.host.Differs family item) ∨
      (∃ name, around.host.Lacks family name) ∧
        Snapshot.covers family around.host.machine = false))
  compared : around.host.IsComparable family → ∃ both alone found,
    around.host.Compares family both alone found ∧
      valuesOf "Table" rows = [Text.decimal (both.length + alone.length : Nat) ++ " constants"] ∧
      valuesOf "Snapshot" rows = [Text.decimal both.length ++ " compared" ++
        (if alone = [] then ""
         else ", " ++ Text.decimal alone.length ++ " from snapshot only" ++
           if Snapshot.covers family around.host.machine then ""
           else ", snapshot not valid for " ++
             if around.host.machine = "" then "unknown machine" else around.host.machine) ++
        if found = [] then "" else ", " ++ Text.decimal found.length ++ " differ"]
  notCompared : ¬ around.host.IsComparable family → valuesOf "Snapshot" rows =
    [if family = .generic then "none for this family" else "skipped (not the host family)"]
  listed : around.host.IsComparable family → (∃ item, around.host.Differs family item) →
    ∃ found, (∀ item, item ∈ found ↔ around.host.Differs family item) ∧
      (found.map (·.name)).Nodup ∧ Differences found terminal listing
  unlisted : ¬ (around.host.IsComparable family ∧ ∃ item, around.host.Differs family item) →
    listing = []

section Run

variable {around : Surroundings} {terminal : Terminal} {logging : Logging}
  {asked : Option Family} {family : Family} {origin : Origin} {table : Table} {status : Int}

theorem status_checks (around : Surroundings) (family : Family) (origin : Origin)
    (table : Table) :
    (if (checks around family origin table).1.any (·.isFailure) then ExitStatus.generalError
      else ExitStatus.success) = if around.host.version.take 2 < [3, 10] then 1 else 0 := by
  have htwo : versionSuffices (around.host.version.take 2) =
      versionSuffices around.host.version := by
    rcases around.host.version with _ | ⟨major, _ | ⟨minor, rest⟩⟩ <;> rfl
  have hfails : (!versionSuffices around.host.version) = true ↔
      around.host.version.take 2 < [3, 10] := by
    rw [← versionSuffices_eq_false_iff, htwo, Bool.not_eq_true']
  rw [any_isFailure_checks]
  exact if_congr hfails rfl rfl

theorem valuesOf_snapshot_checks (around : Surroundings) (family : Family) (origin : Origin)
    (table : Table) :
    valuesOf "Snapshot" (checks around family origin table).1 =
      [(checkSnapshot around.host family around.host.family around.host.machine).1.value] := by
  rw [valuesOf, filter_snapshot_checks, List.map_singleton]

theorem listingOf_checks_of_isComparable (hcomparable : around.host.IsComparable family)
    (terminal : Terminal) (origin : Origin) (table : Table) :
    listingOf terminal (checks around family origin table).2 =
      if (Comparison.ofHost around.host family).mismatches = [] then []
      else showMismatches terminal (Comparison.ofHost around.host family).mismatches := by
  have hchecks : (checks around family origin table).2 =
      (checkSnapshot around.host family around.host.family around.host.machine).2 := rfl
  rw [hchecks, checkSnapshot_of_isComparable hcomparable, listingOf]

theorem listingOf_checks_of_not_isComparable (hcomparable : ¬ around.host.IsComparable family)
    (terminal : Terminal) (origin : Origin) (table : Table) :
    listingOf terminal (checks around family origin table).2 = [] := by
  have hchecks : (checks around family origin table).2 =
      (checkSnapshot around.host family around.host.family around.host.machine).2 := rfl
  rw [hchecks, checkSnapshot_of_not_isComparable hcomparable, listingOf]

theorem judges_checks (around : Surroundings) (terminal : Terminal) (origin : Origin)
    (h : (around.build (some family) none).result = .ok table) :
    Judges around terminal family table (checks around family origin table).1
      (listingOf terminal (checks around family origin table).2)
      (if (checks around family origin table).1.any (·.isFailure) then ExitStatus.generalError
        else ExitStatus.success) where
  status_eq := status_checks around family origin table
  familyRow := warnsJustIf_family_checks around family origin table
  tableRow := warnsJustIf_table_checks around origin h
  undefined := exists_undefined_iff h
  snapshotRow := warnsJustIf_snapshot_checks around family origin table
  compared := by
    intro hcomparable
    obtain ⟨both, hlength, hcompares⟩ :=
      Comparison.exists_compares_ofHost around.host hcomparable.2
    refine ⟨both, _, _, hcompares, ?_, ?_⟩
    · have hmissing := Surroundings.missing_eq_nil h hcomparable.2
      rw [valuesOf_table_checks, ← hcompares.size_eq hcomparable.2 h]
      simp [Doctor.tableRow, hmissing]
    · rw [valuesOf_snapshot_checks, checkSnapshot_of_isComparable hcomparable,
        value_comparisonRow, hlength]
  notCompared := by
    intro hnot
    rw [valuesOf_snapshot_checks, checkSnapshot_of_not_isComparable hnot]
  listed := by
    intro hcomparable hdiffers
    refine ⟨_, fun item => Comparison.mem_mismatches_ofHost,
      Comparison.nodup_mismatches_ofHost around.host family, ?_⟩
    rw [listingOf_checks_of_isComparable hcomparable,
      if_neg (Comparison.mismatches_ofHost_ne_nil_iff.mpr hdiffers)]
    exact differences_showMismatches terminal _
  unlisted := by
    intro hnot
    by_cases hcomparable : around.host.IsComparable family
    · rw [listingOf_checks_of_isComparable hcomparable, if_pos]
      by_contra hne
      exact hnot ⟨hcomparable, Comparison.mismatches_ofHost_ne_nil_iff.mp hne⟩
    · exact listingOf_checks_of_not_isComparable hcomparable terminal origin table

/-- A report that is not interrupted ends with status 1 just if the interpreter's version number is
below 3.10, and with 0 otherwise. Its rows warn of a family that is not the machine's, of names that
have no value, and of a machine that differs from the snapshot or lacks what a snapshot for other
machines cannot supply. -/
theorem verdicts_of_run (around : Surroundings) (terminal : Terminal) (logging : Logging)
    (asked : Option Family) :
    ((∃ status, (run around terminal logging asked).result = .ok status) ↔
      ∃ family origin, around.Decides asked family origin) ∧
    ∀ status, (run around terminal logging asked).result = .ok status →
      ∃ family origin table records rows shown listing last,
        around.Decides asked family origin ∧
        (around.build asked none).result = .ok table ∧
        (run around terminal logging asked).output =
          Run.logEvents logging records ++ (shown ++ listing ++ [last]) ∧
        Shows rows terminal shown ∧ Concludes (status = 1) terminal last ∧
        Judges around terminal family table rows listing status := by
  constructor
  · constructor
    · rintro ⟨status, h⟩
      rcases hselect : selectFamily around asked with failure | ⟨family, origin⟩
      · rw [run_of_error hselect] at h
        exact nomatch h
      · exact ⟨family, origin, selectFamily_eq_ok_iff.mp hselect⟩
    · rintro ⟨family, origin, hdecides⟩
      obtain ⟨table, hbuild⟩ := hdecides.exists_build
      rw [run_of_decides hdecides hbuild]
      exact ⟨_, rfl⟩
  · intro status h
    rcases hselect : selectFamily around asked with failure | ⟨family, origin⟩
    · rw [run_of_error hselect] at h
      exact nomatch h
    · have hdecides := selectFamily_eq_ok_iff.mp hselect
      obtain ⟨table, hbuild⟩ := hdecides.exists_build
      have hown := Surroundings.build_some_of_chooseFamily hdecides.chooseFamily_eq
      have hjudges := judges_checks around terminal origin (hown ▸ hbuild)
      rw [run_of_decides hdecides hbuild] at h ⊢
      obtain rfl := Except.ok.inj h
      refine ⟨family, origin, table, (around.build asked none).log, _, _, _, _, hdecides, hbuild,
        congrArg _ (present_eq terminal _ _), shows_report terminal _, ?_, hjudges⟩
      have hclosing := concludes_closing terminal
        ((checks around family origin table).1.any (·.isFailure))
      cases hfails : (checks around family origin table).1.any (·.isFailure) with
      | true => simpa [hfails, ExitStatus.generalError] using hclosing
      | false => simpa [hfails, ExitStatus.success] using hclosing

/-- A Linux machine of a kind that the snapshot does not cover, with an old interpreter, whose
headers have another value for one error and none for the rest. -/
def oldMachine : Surroundings where
  host :=
    { Host.reference with
      machine := "mips64"
      version := [3, 9, 18]
      exports := fun
        | .errno => [("EDEADLK", .integer 45), ("EPERM", .truth true)]
        | .socket => [] }

/-- A Linux machine, by the name that it reports, that agrees with the snapshot in the one value
that it has. -/
def agreeing (machine : String) : Surroundings where
  host :=
    { Host.reference with
      machine := machine
      exports := fun
        | .errno => [("EPERM", .integer 1)]
        | .socket => [] }

theorem decides_oldMachine : oldMachine.Decides none .linux .detected :=
  selectFamily_eq_ok_iff.mp (by decide +kernel)

theorem differs_oldMachine :
    oldMachine.host.Differs .linux ⟨"EDEADLK", "common-errno", 45, 35⟩ :=
  ⟨commonErrno, by decide +kernel, by decide +kernel, rfl, .inl (by decide +kernel),
    by decide +kernel, by decide⟩

theorem lacks_oldMachine : oldMachine.host.Lacks .generic "EPERM" := by
  refine ⟨commonErrno, by decide +kernel, by decide +kernel, ?_⟩
  exact (Exports.constant?_eq_none_iff (by decide)).mp (by decide +kernel)

theorem decides_agreeing (machine : String) :
    (agreeing machine).Decides none .linux .detected := by
  have hsystem : Family.ofSystem "Linux" = .linux := by decide +kernel
  rw [← hsystem]
  exact .detected fun text hset => nomatch hset

theorem not_differs_agreeing (machine : String) :
    ¬ ∃ item, (agreeing machine).host.Differs .linux item := by
  rintro ⟨⟨name, label, value, expected⟩, tier, -, -, -, hvalue, hexpected, hne⟩
  have hsnapshot : (Snapshot.values .linux .errno).lookup "EPERM" = some 1 := by decide +kernel
  cases hcategory : tier.category with
  | errno =>
      rw [hcategory] at hvalue hexpected
      obtain ⟨rfl, rfl⟩ : name = "EPERM" ∧ 1 = value := by
        by_cases hname : name = "EPERM"
        · simpa [Exports.HasInteger, agreeing, hname, and_comm] using hvalue
        · have hbeq : (name == "EPERM") = false := beq_eq_false_iff_ne.mpr hname
          simp [Exports.HasInteger, agreeing, List.lookup_cons, hbeq] at hvalue
      exact hne (Option.some.inj (hsnapshot.symm.trans hexpected))
  | socket =>
      rw [hcategory] at hvalue
      simp [Exports.HasInteger, agreeing] at hvalue

theorem lacks_agreeing (machine : String) : (agreeing machine).host.Lacks .linux "EIO" := by
  have hnone : Exports.constant? [("EPERM", .integer 1)] "EIO" = none := by decide +kernel
  exact ⟨commonErrno, by decide +kernel, by decide +kernel,
    (Exports.constant?_eq_none_iff (by decide)).mp hnone⟩

theorem verdicts_of_run_on_old_machine :
    (∃ rows events shown listing, (run oldMachine .plain .initial none).result = .ok 1 ∧
      (run oldMachine .plain .initial none).output =
        events ++ (shown ++ listing ++ [.stderr "Some checks failed.\n"]) ∧
      Shows rows .plain shown ∧ .stderr "  EDEADLK host=45 snapshot=35\n" ∈ listing ∧
      wordsOf "Family" rows = ["OK"] ∧ wordsOf "Table" rows = ["OK"] ∧
      wordsOf "Snapshot" rows = ["WARN"]) ∧
    (∃ rows events shown, (run oldMachine .plain .initial (some .generic)).result = .ok 1 ∧
      (run oldMachine .plain .initial (some .generic)).output =
        events ++ (shown ++ [.stderr "Some checks failed.\n"]) ∧
      Shows rows .plain shown ∧ wordsOf "Family" rows = ["WARN"] ∧
      wordsOf "Table" rows = ["WARN"] ∧ valuesOf "Snapshot" rows = ["none for this family"]) ∧
    (∃ rows events shown, (run (agreeing "x86_64") .plain .initial none).result = .ok 0 ∧
      (run (agreeing "x86_64") .plain .initial none).output =
        events ++ (shown ++ [.stderr "All checks passed.\n"]) ∧
      Shows rows .plain shown ∧ wordsOf "Snapshot" rows = ["OK"]) ∧
    ∃ rows events shown, (run (agreeing "mips64") .plain .initial none).result = .ok 0 ∧
      (run (agreeing "mips64") .plain .initial none).output =
        events ++ (shown ++ [.stderr "All checks passed.\n"]) ∧
      Shows rows .plain shown ∧ wordsOf "Snapshot" rows = ["WARN"] := by
  have hrun : ∀ (around : Surroundings) (asked : Option Family) (family : Family)
      (origin : Origin), around.Decides asked family origin →
      ∃ status rows events shown listing, (run around .plain .initial asked).result = .ok status ∧
        (run around .plain .initial asked).output = events ++ (shown ++ listing ++
          [.stderr (if status = 1 then "Some checks failed.\n" else "All checks passed.\n")]) ∧
        Shows rows .plain shown ∧
        ∃ table, Judges around .plain family table rows listing status := by
    intro around asked family origin hdecides
    obtain ⟨hends, hjudges⟩ := verdicts_of_run around .plain .initial asked
    obtain ⟨status, hstatus⟩ := hends.mpr ⟨family, origin, hdecides⟩
    obtain ⟨other, origin', table, records, rows, shown, listing, last, hother, -, houtput, hshown,
      hlast, h⟩ := hjudges status hstatus
    obtain rfl : family = other :=
      Except.ok.inj (hdecides.chooseFamily_eq.symm.trans hother.chooseFamily_eq)
    cases hlast
    simp only [decide_eq_true_eq] at houtput
    exact ⟨status, rows, _, shown, listing, hstatus, houtput, hshown, table, h⟩
  have hold : oldMachine.host.version.take 2 < [3, 10] := by decide
  refine ⟨?_, ?_, ?_, ?_⟩
  · obtain ⟨status, rows, events, shown, listing, hstatus, houtput, hshown, table, h⟩ :=
      hrun oldMachine none .linux .detected decides_oldMachine
    obtain rfl : status = 1 := h.status_eq.trans (if_pos hold)
    have hcomparable : oldMachine.host.IsComparable .linux := by decide +kernel
    obtain ⟨found, hfound, -, hlisting⟩ := h.listed hcomparable ⟨_, differs_oldMachine⟩
    cases hlisting
    refine ⟨rows, events, shown, _, hstatus, houtput, hshown, ?_, h.familyRow.2 (by decide +kernel),
      h.tableRow.2 fun hundefined => ?_,
      h.snapshotRow.1 ⟨hcomparable, .inl ⟨_, differs_oldMachine⟩⟩⟩
    · refine List.mem_append_left _ (List.mem_append_right _ (List.mem_map.mpr ?_))
      exact ⟨_, (hfound _).mpr differs_oldMachine, by decide +kernel⟩
    · exact absurd (h.undefined.mp hundefined).1 (by decide)
  · obtain ⟨status, rows, events, shown, listing, hstatus, houtput, hshown, table, h⟩ :=
      hrun oldMachine (some .generic) .generic .commandLine (.commandLine .generic)
    obtain rfl : status = 1 := h.status_eq.trans (if_pos hold)
    have hnot : ¬ oldMachine.host.IsComparable .generic := by decide +kernel
    obtain rfl := h.unlisted fun hboth => hnot hboth.1
    rw [List.append_nil] at houtput
    exact ⟨rows, events, shown, hstatus, houtput, hshown, h.familyRow.1 (by decide +kernel),
      h.tableRow.1 (h.undefined.mpr ⟨rfl, _, lacks_oldMachine⟩), h.notCompared hnot⟩
  · obtain ⟨status, rows, events, shown, listing, hstatus, houtput, hshown, table, h⟩ :=
      hrun (agreeing "x86_64") none .linux .detected (decides_agreeing _)
    obtain rfl : status = 0 := h.status_eq.trans (if_neg (by decide))
    obtain rfl := h.unlisted fun hboth => not_differs_agreeing _ hboth.2
    rw [List.append_nil] at houtput
    refine ⟨rows, events, shown, hstatus, houtput, hshown, h.snapshotRow.2 ?_⟩
    rintro ⟨-, hdiffers | ⟨-, huncovered⟩⟩
    · exact not_differs_agreeing _ hdiffers
    · exact absurd huncovered (by decide +kernel)
  · obtain ⟨status, rows, events, shown, listing, hstatus, houtput, hshown, table, h⟩ :=
      hrun (agreeing "mips64") none .linux .detected (decides_agreeing _)
    obtain rfl : status = 0 := h.status_eq.trans (if_neg (by decide))
    obtain rfl := h.unlisted fun hboth => not_differs_agreeing _ hboth.2
    rw [List.append_nil] at houtput
    exact ⟨rows, events, shown, hstatus, houtput, hshown,
      h.snapshotRow.1 ⟨by decide +kernel, .inr ⟨⟨_, lacks_agreeing _⟩, by decide +kernel⟩⟩⟩

end Run

end Doctor

end HeaderConstants
