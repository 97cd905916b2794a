import HeaderConstants.Proofs.Scan

namespace HeaderConstants.Table

/-- A table has a row for each position that the source defines and a missing name for each other
position, in the order of the scan. Tiers that do not apply make no difference at all. -/
theorem build_contents (family : Family) (source : Source) (tiers : List Tier) :
    (∀ table, (build family source tiers).result = .ok table →
      table.entries.toList =
        (Tier.positions (Tier.active family tiers)).filterMap (fun (tier, name) =>
          (source.lookup tier.category name).map fun value =>
            (name, ⟨name, value, tier.name, tier.category⟩)) ∧
      table.names.Nodup ∧
      table.missing = ((Tier.positions (Tier.active family tiers)).filter fun (tier, name) =>
        (source.lookup tier.category name).isNone).map (·.2)) ∧
    ∀ others, Tier.active family others = Tier.active family tiers →
      build family source others = build family source tiers := by
  constructor
  · intro table h
    exact ⟨toList_entries_of_build h, table.entries.nodup, missing_of_build h⟩
  · intro others hactive
    rw [build, hactive, build]

theorem build_contents_with_foreign_tier :
    (∃ table, (build .linux (.ofValues .linux fun _ => [("A", 0), ("C", -5)])
      [⟨"all", none, .errno, ["A", "B"]⟩, ⟨"darwin", some .darwin, .errno, ["A"]⟩,
        ⟨"linux", some .linux, .socket, ["D", "C"]⟩]).result = .ok table ∧
      table.entries.toList = [("A", ⟨"A", 0, "all", .errno⟩), ("C", ⟨"C", -5, "linux", .socket⟩)] ∧
      table.names.Nodup ∧ table.missing = ["B", "D"]) ∧
    build .linux (.ofValues .linux fun _ => [("A", 0), ("C", -5)])
        [⟨"all", none, .errno, ["A", "B"]⟩, ⟨"linux", some .linux, .socket, ["D", "C"]⟩] =
      build .linux (.ofValues .linux fun _ => [("A", 0), ("C", -5)])
        [⟨"all", none, .errno, ["A", "B"]⟩, ⟨"darwin", some .darwin, .errno, ["A"]⟩,
          ⟨"linux", some .linux, .socket, ["D", "C"]⟩] := by
  obtain ⟨hok, hothers⟩ := build_contents .linux (.ofValues .linux fun _ => [("A", 0), ("C", -5)])
    [⟨"all", none, .errno, ["A", "B"]⟩, ⟨"darwin", some .darwin, .errno, ["A"]⟩,
      ⟨"linux", some .linux, .socket, ["D", "C"]⟩]
  refine ⟨⟨_, rfl, ?_⟩, hothers _ rfl⟩
  obtain ⟨hrows, hnodup, hmissing⟩ := hok _ rfl
  exact ⟨hrows.trans rfl, hnodup, hmissing.trans rfl⟩

end HeaderConstants.Table
