import HeaderConstants.Proofs.Stops
import Mathlib.Data.List.Nodup

namespace HeaderConstants

namespace Tier

/-- One tier lists the name twice, or two tiers list it and the source defines it under the first
of them. -/
def Refused (source : Source) (tiers : List Tier) (name : String) : Prop :=
  (∃ tier ∈ tiers, 1 < tier.names.count name) ∨
    ∃ earlier later, [earlier, later].Sublist tiers ∧ name ∈ earlier.names ∧
      name ∈ later.names ∧ source.lookup earlier.category name ≠ none

theorem separate_iff_not_refused {source : Source} {tiers : List Tier} :
    Separate source tiers ↔ ∀ name, ¬ Refused source tiers name := by
  constructor
  · rintro ⟨hnodup, hundefined⟩ name (⟨tier, hmem, hcount⟩ | ⟨earlier, later, hsub, hname⟩)
    · have hle := List.nodup_iff_count_le_one.mp (hnodup tier hmem) name
      omega
    · obtain ⟨hearlier, hlater, hdefined⟩ := hname
      exact hdefined (List.pairwise_iff_forall_sublist.mp hundefined hsub name hearlier hlater)
  · intro h
    constructor
    · intro tier hmem
      refine List.nodup_iff_count_le_one.mpr fun name => ?_
      by_contra hcount
      exact h name (.inl ⟨tier, hmem, by omega⟩)
    · refine List.pairwise_iff_forall_sublist.mpr ?_
      intro earlier later hsub name hearlier hlater
      by_contra hdefined
      exact h name (.inr ⟨earlier, later, hsub, hearlier, hlater, hdefined⟩)

theorem count_lacking_positions {source : Source} {tiers : List Tier}
    (h : ∀ tier ∈ tiers, tier.names.Nodup) (name : String) :
    (source.lacking (positions tiers)).count name =
      tiers.countP fun tier => name ∈ tier.names ∧ source.lookup tier.category name = none := by
  induction tiers with
  | nil => rfl
  | cons tier rest ih =>
      obtain ⟨htier, hrest⟩ := List.forall_mem_cons.mp h
      have hcount : (source.lacking (tier.names.map (tier, ·))).count name =
          if name ∈ tier.names ∧ source.lookup tier.category name = none then 1 else 0 := by
        rw [Source.lacking_tier, (htier.filter _).count]
        simp [List.mem_filter]
      rw [show positions (tier :: rest) = tier.names.map (tier, ·) ++ positions rest from rfl,
        Source.lacking_append, List.count_append, hcount, ih hrest, List.countP_cons, Nat.add_comm]
      simp only [decide_eq_true_eq]

/-- Among separate tiers, a name that is listed twice is undefined under a tier that lists it. -/
theorem Separate.exists_undefined {source : Source} {tiers : List Tier}
    (h : Separate source tiers) {name : String}
    (hcount : 1 < (tiers.flatMap (·.names)).count name) :
    ∃ tier ∈ tiers, name ∈ tier.names ∧ source.lookup tier.category name = none := by
  obtain ⟨hnodup, hundefined⟩ := h
  induction tiers with
  | nil => simp at hcount
  | cons tier rest ih =>
      obtain ⟨htier, hrest⟩ := List.forall_mem_cons.mp hnodup
      obtain ⟨hnone, hpairs⟩ := List.pairwise_cons.mp hundefined
      rw [List.flatMap_cons, List.count_append] at hcount
      have hle := List.nodup_iff_count_le_one.mp htier name
      by_cases hlisted : name ∈ tier.names
      · have hpos : 0 < (rest.flatMap (·.names)).count name := by omega
        obtain ⟨later, hlater, hname⟩ := List.mem_flatMap.mp (List.count_pos_iff.mp hpos)
        exact ⟨tier, by simp, hlisted, hnone later hlater name hlisted hname⟩
      · rw [List.count_eq_zero_of_not_mem hlisted] at hcount
        obtain ⟨later, hlater, hname⟩ := ih (by omega) hrest hpairs
        exact ⟨later, by simp [hlater], hname⟩

end Tier

namespace Table

theorem refused_of_build_eq_error {family : Family} {source : Source} {tiers : List Tier}
    {failure : Failure} (h : (build family source tiers).result = .error failure) :
    ∃ name first second, failure = .duplicate name first second ∧
      Tier.Refused source (Tier.active family tiers) name := by
  obtain ⟨name, place, -, hstop⟩ := stop_of_build h
  rw [place.tiers_eq]
  rcases hstop with ⟨hseen, rfl⟩ | ⟨-, earlier, hearlier, hlisted, hdefined, rfl⟩
  · refine ⟨name, place.tier.name, place.tier.name, rfl, .inl ⟨place.tier, by simp, ?_⟩⟩
    have hpos := List.count_pos_iff.mpr hseen
    rw [place.names_eq, List.count_append, List.count_cons_self]
    omega
  · refine ⟨name, earlier.name, place.tier.name, rfl,
      .inr ⟨earlier, place.tier, ?_, hlisted, ?_, hdefined⟩⟩
    · exact (List.singleton_sublist.mpr hearlier).append
        (List.singleton_sublist.mpr (by simp))
    · simp [place.names_eq]

/-- A build stops just at the refused names. The names that are listed more than once and not
refused are missing, once for each tier that lists them where the source does not define them. -/
theorem build_refuses_iff (family : Family) (source : Source) (tiers : List Tier) :
    ((∃ failure, (build family source tiers).result = .error failure) ↔
      ∃ name, Tier.Refused source (Tier.active family tiers) name) ∧
    (∀ failure, (build family source tiers).result = .error failure →
      ∃ name first second, failure = .duplicate name first second ∧
        Tier.Refused source (Tier.active family tiers) name) ∧
    ∀ table, (build family source tiers).result = .ok table → ∀ name,
      (1 < ((Tier.active family tiers).flatMap (·.names)).count name → name ∈ table.missing) ∧
      table.missing.count name = (Tier.active family tiers).countP (fun tier =>
        name ∈ tier.names ∧ source.lookup tier.category name = none) ∧
      (name ∈ table.names ↔ ∃ tier ∈ Tier.active family tiers,
        name ∈ tier.names ∧ source.lookup tier.category name ≠ none) := by
  refine ⟨⟨?_, ?_⟩, fun failure => refused_of_build_eq_error, ?_⟩
  · rintro ⟨failure, h⟩
    obtain ⟨name, -, -, -, hrefused⟩ := refused_of_build_eq_error h
    exact ⟨name, hrefused⟩
  · rintro ⟨name, hrefused⟩
    cases h : (build family source tiers).result with
    | error failure => exact ⟨failure, rfl⟩
    | ok table =>
        have hseparate := exists_build_eq_ok_iff.mp ⟨table, h⟩
        exact absurd hrefused (Tier.separate_iff_not_refused.mp hseparate name)
  · intro table h name
    have hseparate := exists_build_eq_ok_iff.mp ⟨table, h⟩
    rw [missing_of_build h]
    refine ⟨fun hcount => ?_, Tier.count_lacking_positions hseparate.nodup name, ?_⟩
    · obtain ⟨tier, hmem, hlisted, hnone⟩ := hseparate.exists_undefined hcount
      exact Source.mem_lacking.mpr ⟨tier, Tier.mem_positions.mpr ⟨hmem, hlisted⟩, hnone⟩
    · rw [names, Entries.keys, toList_entries_of_build h, Source.mem_keys_rows]
      simp only [Tier.mem_positions, and_assoc]

theorem build_refuses_iff_of_shared_name :
    (∃ failure name first second,
      (build .linux (.ofValues .linux fun _ => [("X", 7)])
        [⟨"all", none, .errno, ["X"]⟩, ⟨"linux", some .linux, .socket, ["X"]⟩]).result =
          .error failure ∧ failure = .duplicate name first second ∧
      Tier.Refused (.ofValues .linux fun _ => [("X", 7)])
        [⟨"all", none, .errno, ["X"]⟩, ⟨"linux", some .linux, .socket, ["X"]⟩] name) ∧
    ∃ table, (build .linux
        (.ofValues .linux fun category => if category = .errno then [] else [("X", 7)])
        [⟨"all", none, .errno, ["X"]⟩, ⟨"linux", some .linux, .socket, ["X"]⟩]).result = .ok table ∧
      "X" ∈ table.missing ∧ table.missing.count "X" = 1 ∧ "X" ∈ table.names := by
  obtain ⟨-, hrefused, -⟩ := build_refuses_iff .linux (.ofValues .linux fun _ => [("X", 7)])
    [⟨"all", none, .errno, ["X"]⟩, ⟨"linux", some .linux, .socket, ["X"]⟩]
  obtain ⟨-, -, hok⟩ := build_refuses_iff .linux
    (.ofValues .linux fun category => if category = .errno then [] else [("X", 7)])
    [⟨"all", none, .errno, ["X"]⟩, ⟨"linux", some .linux, .socket, ["X"]⟩]
  obtain ⟨name, first, second, hfailure, hname⟩ := hrefused _ rfl
  obtain ⟨hmissing, hcount, hnames⟩ := hok _ rfl "X"
  exact ⟨⟨_, name, first, second, rfl, hfailure, hname⟩,
    _, rfl, hmissing (by decide), hcount.trans (by decide), hnames.mpr (by decide)⟩

/-- Any number of tiers may list a name that the source never defines. -/
theorem build_admits_repeated_gap :
    1 < ((Tier.active .generic [⟨"first", none, .errno, ["X"]⟩,
      ⟨"second", none, .errno, ["X"]⟩]).flatMap (·.names)).count "X" ∧
    ∃ table, (build .generic (.ofValues .generic fun _ => []) [⟨"first", none, .errno, ["X"]⟩,
      ⟨"second", none, .errno, ["X"]⟩]).result = .ok table ∧ table.missing = ["X", "X"] :=
  ⟨by decide, _, rfl, rfl⟩

end Table

end HeaderConstants
