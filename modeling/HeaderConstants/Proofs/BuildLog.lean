import HeaderConstants.Proofs.Assignments
import HeaderConstants.Proofs.TierBlocks
import Mathlib.Algebra.GroupWithZero.Nat

namespace HeaderConstants

namespace Source

/-- The number of entries that the tiers of one name add, all together. -/
def countUnder (source : Source) (name : String) (tiers : List Tier) : Nat :=
  ((tiers.filter (·.name == name)).map fun tier => (source.block tier).length).sum

variable {source : Source} {name : String} {tier : Tier}

theorem countUnder_cons_self (source : Source) (tier : Tier) (tiers : List Tier) :
    source.countUnder tier.name (tier :: tiers) =
      (source.block tier).length + source.countUnder tier.name tiers := by
  simp [countUnder]

theorem countUnder_cons_of_ne (h : tier.name ≠ name) (tiers : List Tier) :
    source.countUnder name (tier :: tiers) = source.countUnder name tiers := by
  simp [countUnder, h]

theorem countUnder_append_singleton (source : Source) (tiers : List Tier) (tier : Tier) :
    source.countUnder tier.name (tiers ++ [tier]) =
      source.countUnder tier.name tiers + (source.block tier).length := by
  simp [countUnder]

theorem countUnder_eq_zero_iff {tiers : List Tier} :
    source.countUnder name tiers = 0 ↔
      ∀ tier ∈ tiers, tier.name = name → source.block tier = [] := by
  rw [countUnder, List.sum_eq_zero_iff_forall_eq_nat, List.forall_mem_map]
  simp

theorem length_filter_blocks (source : Source) (name : String) (tiers : List Tier) :
    ((tiers.flatMap source.block).filter (·.tier == name)).length =
      source.countUnder name tiers := by
  induction tiers with
  | nil => rfl
  | cons tier rest ih =>
      rw [List.flatMap_cons, List.filter_append, List.length_append, ih]
      by_cases h : tier.name = name
      · subst h
        rw [filter_block_self, countUnder_cons_self]
      · rw [filter_block_of_ne h, countUnder_cons_of_ne h, List.length_nil, Nat.zero_add]

theorem length_block_le_size (source : Source) (tier : Tier) :
    (source.block tier).length ≤ tier.size :=
  List.length_filterMap_le _ _

end Source

namespace Table

/-- The record of a tier that says it contributed so many entries. -/
def tierNote (tier : Tier) (count : Nat) : Logging.Record :=
  note ("tier " ++ tier.name ++ " contributed " ++ Text.decimal count ++ " of " ++
    Text.decimal tier.size ++ " names")

/-- The records of tiers that are scanned one after the other, behind those of `before`. -/
def tierNotes (source : Source) : List Tier → List Tier → List Logging.Record
  | _, [] => []
  | before, tier :: rest =>
    tierNote tier (source.countUnder tier.name (before ++ [tier])) ::
      tierNotes source (before ++ [tier]) rest

theorem tierNote_eq_iff {tier : Tier} {count other : Nat} :
    tierNote tier count = tierNote tier other ↔ count = other := by
  constructor
  · intro h
    have hdecimal : Text.decimal count = Text.decimal other := by
      simpa [tierNote, note] using h
    exact Int.ofNat.inj (Text.decimal_injective hdecimal)
  · rintro rfl
    rfl

theorem tierNote_countUnder_eq_iff {source : Source} {before : List Tier} {tier : Tier} :
    tierNote tier (source.countUnder tier.name (before ++ [tier])) =
        tierNote tier (source.block tier).length ↔
      ∀ earlier ∈ before, earlier.name = tier.name → source.block earlier = [] := by
  rw [tierNote_eq_iff, Source.countUnder_append_singleton, ← Source.countUnder_eq_zero_iff]
  omega

theorem tierNotes_eq_map_iff {source : Source} {before tiers : List Tier} :
    tierNotes source before tiers =
        tiers.map (fun tier => tierNote tier (source.block tier).length) ↔
      (∀ later ∈ tiers, ∀ earlier ∈ before,
        earlier.name = later.name → source.block earlier = []) ∧
      tiers.Pairwise fun earlier later =>
        earlier.name = later.name → source.block earlier = [] := by
  induction tiers generalizing before with
  | nil => simp [tierNotes]
  | cons tier rest ih =>
      rw [tierNotes, List.map_cons, List.cons.injEq, tierNote_countUnder_eq_iff, ih,
        List.pairwise_cons, List.forall_mem_cons]
      simp only [List.mem_append, List.mem_singleton, or_imp, forall_and, forall_eq]
      tauto

namespace Draft

theorem log_advance (source : Source) (tier : Tier) (name : String) (draft : Draft) :
    (draft.advance source tier name).log = draft.log := by
  rw [advance]
  split <;> rfl

theorem log_enterAll {source : Source} {tier : Tier} {seen names : List String}
    {draft next : Draft} (h : draft.enterAll source tier seen names = .ok next) :
    next.log = draft.log := by
  induction names generalizing seen draft with
  | nil =>
      obtain rfl : draft = next := Except.ok.inj h
      rfl
  | cons name rest ih =>
      obtain ⟨middle, hmiddle, hrest⟩ := enterAll_cons_eq_ok_iff.mp h
      obtain ⟨-, -, rfl⟩ := enter_eq_ok_iff.mp hmiddle
      rw [ih hrest, log_advance]

namespace Covers

variable {source : Source} {before : List Tier} {draft next : Draft}

theorem contribution_eq (h : Covers source (Tier.positions before) draft) (tier : Tier) :
    draft.contribution tier = source.countUnder tier.name before := by
  rw [contribution, Entries.constants, h.toList_entries, Source.map_snd_rows_positions,
    Source.length_filter_blocks]

theorem addTier_positions {tier : Tier} (h : Covers source (Tier.positions before) draft)
    (hok : draft.addTier source tier = .ok next) :
    Covers source (Tier.positions (before ++ [tier])) next := by
  have hcovers := h.addTier hok
  rwa [show Tier.positions before ++ tier.names.map (tier, ·) =
    Tier.positions (before ++ [tier]) by simp [Tier.positions]] at hcovers

theorem log_addTier {tier : Tier} (h : Covers source (Tier.positions before) draft)
    (hok : draft.addTier source tier = .ok next) :
    next.log =
      draft.log ++ [tierNote tier (source.countUnder tier.name (before ++ [tier]))] := by
  rw [← (h.addTier_positions hok).contribution_eq]
  obtain ⟨filled, hfilled, rfl⟩ := addTier_eq_ok_iff.mp hok
  rw [← log_enterAll hfilled]
  rfl

theorem log_addTiers {tiers : List Tier} (h : Covers source (Tier.positions before) draft)
    (hok : draft.addTiers source tiers = .ok next) :
    next.log = draft.log ++ tierNotes source before tiers := by
  induction tiers generalizing before draft with
  | nil =>
      obtain rfl : draft = next := Except.ok.inj hok
      rw [tierNotes, List.append_nil]
  | cons tier rest ih =>
      obtain ⟨middle, hadd, hrest⟩ := addTiers_cons_eq_ok_iff.mp hok
      rw [ih (h.addTier_positions hadd) hrest, h.log_addTier hadd, tierNotes, List.append_assoc,
        List.singleton_append]

end Covers

theorem log_scan_of_addTiers {source : Source} {tiers : List Tier} {draft next : Draft}
    (h : draft.addTiers source tiers = .ok next) (family : Family) :
    (draft.scan family source tiers).log = next.log ++ next.closingNotes family source := by
  induction tiers generalizing draft with
  | nil =>
      obtain rfl : draft = next := Except.ok.inj h
      rfl
  | cons tier rest ih =>
      obtain ⟨middle, hadd, hrest⟩ := addTiers_cons_eq_ok_iff.mp h
      rw [scan, hadd]
      exact ih hrest

theorem severity_of_mem_closingNotes {draft : Draft} {family : Family} {source : Source}
    {record : Logging.Record} (h : record ∈ draft.closingNotes family source) :
    record.severity = Logging.Level.debug.severity := by
  rcases List.mem_append.mp h with h | h
  · split at h
    · cases h
    · obtain rfl := List.mem_singleton.mp h
      rfl
  · obtain rfl := List.mem_singleton.mp h
    rfl

theorem severity_of_mem_scan {family : Family} {source : Source} {tiers : List Tier}
    {draft : Draft} (h : ∀ record ∈ draft.log, record.severity = Logging.Level.debug.severity) :
    ∀ record ∈ (draft.scan family source tiers).log,
      record.severity = Logging.Level.debug.severity := by
  induction tiers generalizing draft with
  | nil =>
      intro record hrecord
      rcases List.mem_append.mp hrecord with hrecord | hrecord
      · exact h record hrecord
      · exact severity_of_mem_closingNotes hrecord
  | cons tier rest ih =>
      rw [scan]
      split
      · exact h
      · rename_i next hadd
        obtain ⟨filled, hfilled, rfl⟩ := addTier_eq_ok_iff.mp hadd
        apply ih
        intro record hrecord
        rcases List.mem_append.mp hrecord with hrecord | hrecord
        · exact h record (log_enterAll hfilled ▸ hrecord)
        · obtain rfl := List.mem_singleton.mp hrecord
          rfl

end Draft

theorem severity_of_mem_log {family : Family} {source : Source} {tiers : List Tier}
    {record : Logging.Record} (h : record ∈ (build family source tiers).log) :
    record.severity = Logging.Level.debug.severity :=
  Draft.severity_of_mem_scan (by simp) record h

section Build

variable {family : Family} {source : Source} {tiers : List Tier} {table : Table}

theorem log_of_result (h : (build family source tiers).result = .ok table) :
    (build family source tiers).log =
      tierNotes source [] (Tier.active family tiers) ++
        ((if table.missing.isEmpty then [] else
          [note (source.description ++ " does not define " ++ Text.decimal table.missing.length ++
            " name(s) for " ++ family.key ++ ": " ++ Text.commaSeparated table.missing)]) ++
        [note ("built " ++ family.key ++ " table with " ++ Text.decimal table.size ++
          " entries from " ++ source.description)]) := by
  obtain ⟨draft, hdraft, rfl⟩ := build_result_eq_ok_iff.mp h
  have hlog : draft.log = tierNotes source [] (Tier.active family tiers) :=
    (Draft.Covers.empty source).log_addTiers hdraft
  rw [build, Draft.log_scan_of_addTiers hdraft, hlog]
  rfl

theorem sum_length_block (h : (build family source tiers).result = .ok table) :
    ((Tier.active family tiers).map fun tier => (source.block tier).length).sum = table.size := by
  rw [← List.length_flatMap, ← constants_of_build h, constants, Entries.constants,
    List.length_map]
  rfl

/-- What a build that goes through has logged: the record of each tier that applies, in the order of
the scan; if names are missing, one record that gives their number and lists them; and one with the
size of the table. The entries of a table are what its tiers added, one tier after the other, and no
tier adds more than it has names. But the number in the record of a tier counts all entries under
its name. It is right in every record just if no tier that added something is followed by another of
its name, and so if all names of tiers differ. Nothing is logged above the lowest level. -/
theorem log_of_build (h : (build family source tiers).result = .ok table) :
    (build family source tiers).log =
      tierNotes source [] (Tier.active family tiers) ++
        ((if table.missing.isEmpty then [] else
          [note (source.description ++ " does not define " ++ Text.decimal table.missing.length ++
            " name(s) for " ++ family.key ++ ": " ++ Text.commaSeparated table.missing)]) ++
        [note ("built " ++ family.key ++ " table with " ++ Text.decimal table.size ++
          " entries from " ++ source.description)]) ∧
    (∀ record ∈ (build family source tiers).log,
      record.severity = Logging.Level.debug.severity) ∧
    table.constants = (Tier.active family tiers).flatMap source.block ∧
    (∀ tier ∈ Tier.active family tiers, (source.block tier).length ≤ tier.size) ∧
    ((Tier.active family tiers).map fun tier => (source.block tier).length).sum = table.size ∧
    (tierNotes source [] (Tier.active family tiers) =
        (Tier.active family tiers).map (fun tier => tierNote tier (source.block tier).length) ↔
      (Tier.active family tiers).Pairwise fun earlier later =>
        earlier.name = later.name → source.block earlier = []) := by
  refine ⟨log_of_result h, fun _ => severity_of_mem_log, constants_of_build h,
    fun tier _ => source.length_block_le_size tier, sum_length_block h, ?_⟩
  rw [tierNotes_eq_map_iff]
  simp

end Build

/-- Two tiers of one name, of which the first adds nothing, and a tier for another family. -/
def splitTiers : List Tier :=
  [⟨"numbers", none, .errno, ["X"]⟩, ⟨"numbers", none, .socket, ["X", "Y"]⟩,
    ⟨"own", some .darwin, .errno, ["Z"]⟩]

def socketValues : Source := .ofValues .linux fun | .errno => [] | .socket => [("Y", 0), ("X", -7)]

theorem log_of_build_of_split_tiers :
    ∃ table, (build .linux socketValues splitTiers).result = .ok table ∧
      table.missing = ["X"] ∧ table.names = ["X", "Y"] ∧
      (build .linux socketValues splitTiers).log =
        [note "tier numbers contributed 0 of 1 names",
          note "tier numbers contributed 2 of 2 names",
          note "linux header snapshot does not define 1 name(s) for linux: X",
          note "built linux table with 2 entries from linux header snapshot"] := by
  have h : (build .linux socketValues splitTiers).result = .ok _ := rfl
  obtain ⟨hlog, -, -, -, -, htrue⟩ := log_of_build h
  refine ⟨_, h, rfl, rfl, ?_⟩
  rw [hlog, htrue.mpr (by decide)]
  decide +kernel

/-- Two tiers with one name. -/
def sharedName : List Tier := [⟨"own", none, .errno, ["X"]⟩, ⟨"own", none, .errno, ["Y"]⟩]

def errnoValues : Source := .ofValues .linux fun | .errno => [("X", 1), ("Y", 2)] | .socket => []

/-- Each tier adds an entry for its one name, but the record of the second says that it added two. -/
theorem log_overstates_shared_name :
    ∃ table, (build .generic errnoValues sharedName).result = .ok table ∧
      sharedName.map errnoValues.block =
        [[⟨"X", 1, "own", .errno⟩], [⟨"Y", 2, "own", .errno⟩]] ∧
      table.constants = [⟨"X", 1, "own", .errno⟩, ⟨"Y", 2, "own", .errno⟩] ∧
      (build .generic errnoValues sharedName).log =
        [note "tier own contributed 1 of 1 names", note "tier own contributed 2 of 1 names",
          note "built generic table with 2 entries from linux header snapshot"] :=
  ⟨_, rfl, rfl, rfl, by decide +kernel⟩

end Table

end HeaderConstants
