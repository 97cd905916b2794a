import HeaderConstants.Proofs.Answers

namespace HeaderConstants

namespace Source

/-- Sources that are chained to any depth. A chain has at least one part. -/
inductive Tree
  | leaf (source : Source)
  | chain (first : Tree) (rest : List Tree)

namespace Tree

mutual

def toSource : Tree → Source
  | leaf source => source
  | chain first rest => .chain first.toSource (toSources rest)

def toSources : List Tree → List Source
  | [] => []
  | tree :: rest => tree.toSource :: toSources rest

end

mutual

/-- The sources at the ends, from left to right. -/
def leaves : Tree → List Source
  | leaf source => [source]
  | chain first rest => first.leaves ++ leavesOfAll rest

def leavesOfAll : List Tree → List Source
  | [] => []
  | tree :: rest => tree.leaves ++ leavesOfAll rest

end

end Tree

theorem firstValue_cons (source : Source) (rest : List Source) (category : Category)
    (name : String) :
    firstValue (source :: rest) category name =
      (source.lookup category name).or (firstValue rest category name) := by
  rw [firstValue, List.findSome?_cons]
  cases source.lookup category name <;> rfl

/-- The descriptions of several sources as a chain gives them. -/
def joinedDescription (sources : List Source) : String :=
  " + ".intercalate (sources.map (·.description))

theorem joinedDescription_cons {source : Source} {leaves rest others : List Source}
    (hleaves : leaves ≠ []) (hsource : source.description = joinedDescription leaves)
    (hrest : joinedDescription rest = joinedDescription others) (hnil : rest = [] ↔ others = []) :
    joinedDescription (source :: rest) = joinedDescription (leaves ++ others) := by
  by_cases hempty : rest = []
  · obtain rfl := hnil.mp hempty
    rw [hempty, List.append_nil, ← hsource]
    exact String.intercalate_singleton
  · have hothers : others ≠ [] := fun h => hempty (hnil.mpr h)
    have hmap : ∀ {sources : List Source}, sources ≠ [] → sources.map (·.description) ≠ [] :=
      fun h => by simpa using h
    calc
      joinedDescription (source :: rest)
        = source.description ++ " + " ++ joinedDescription rest :=
          String.intercalate_cons_of_ne_nil (hmap hempty)
      _ = joinedDescription leaves ++ " + " ++ joinedDescription others := by rw [hsource, hrest]
      _ = joinedDescription (leaves ++ others) := by
          rw [joinedDescription, joinedDescription, joinedDescription, List.map_append]
          exact (String.intercalate_append_of_ne_nil (hmap hleaves) (hmap hothers)).symm

namespace Tree

theorem leaves_ne_nil : ∀ tree : Tree, tree.leaves ≠ []
  | leaf _ => by simp [leaves]
  | chain first _ => by simp [leaves, leaves_ne_nil first]

theorem toSources_eq_nil_iff (trees : List Tree) :
    toSources trees = [] ↔ leavesOfAll trees = [] := by
  cases trees with
  | nil => simp [toSources, leavesOfAll]
  | cons tree rest => simp [toSources, leavesOfAll, leaves_ne_nil]

mutual

theorem lookup_toSource (category : Category) (name : String) : ∀ tree : Tree,
    tree.toSource.lookup category name = firstValue tree.leaves category name
  | leaf source => by rw [toSource, leaves, firstValue_cons]; exact (Option.or_none).symm
  | chain first rest => by
      rw [toSource, lookup_chain, firstValue_cons, leaves, firstValue_append,
        lookup_toSource category name first, firstValue_toSources category name rest]

theorem firstValue_toSources (category : Category) (name : String) : ∀ trees : List Tree,
    firstValue (toSources trees) category name = firstValue (leavesOfAll trees) category name
  | [] => rfl
  | tree :: rest => by
      rw [toSources, firstValue_cons, leavesOfAll, firstValue_append,
        lookup_toSource category name tree, firstValue_toSources category name rest]

end

mutual

theorem description_toSource : ∀ tree : Tree,
    tree.toSource.description = joinedDescription tree.leaves
  | leaf _ => String.intercalate_singleton.symm
  | chain first rest =>
      joinedDescription_cons (leaves_ne_nil first) (description_toSource first)
        (joinedDescription_toSources rest) (toSources_eq_nil_iff rest)

theorem joinedDescription_toSources : ∀ trees : List Tree,
    joinedDescription (toSources trees) = joinedDescription (leavesOfAll trees)
  | [] => rfl
  | tree :: rest =>
      joinedDescription_cons (leaves_ne_nil tree) (description_toSource tree)
        (joinedDescription_toSources rest) (toSources_eq_nil_iff rest)

end

theorem lookup_toSource_eq_some_iff {tree : Tree} {category : Category} {name : String}
    {value : Int} :
    tree.toSource.lookup category name = some value ↔
      ∃ before leaf after, tree.leaves = before ++ leaf :: after ∧
        leaf.lookup category name = some value ∧
          ∀ other ∈ before, other.lookup category name = none := by
  rw [lookup_toSource, firstValue, List.findSome?_eq_some_iff]

end Tree

section Fallback

variable (source fallback : Source) (positions : List (Tier × String))

theorem rows_sublist_chain :
    (source.rows positions).Sublist ((chain source [fallback]).rows positions) := by
  induction positions with
  | nil => exact .slnil
  | cons position rest ih =>
      obtain ⟨tier, name⟩ := position
      rw [rows, rows, List.filterMap_cons, List.filterMap_cons, row?, row?, lookup_chain_pair]
      cases source.lookup tier.category name with
      | some value => exact ih.cons_cons _
      | none =>
          cases fallback.lookup tier.category name with
          | none => exact ih
          | some value => exact ih.cons _

theorem lacking_chain_sublist :
    ((chain source [fallback]).lacking positions).Sublist (source.lacking positions) := by
  apply List.Sublist.map
  apply List.monotone_filter_right
  rintro ⟨tier, name⟩ hnone
  rw [lookup_chain_pair, Option.isNone_or, Bool.and_eq_true] at hnone
  exact hnone.1

end Fallback

end Source

namespace Table

variable {source other : Source}

namespace Draft

theorem enterAll_congr (hlookup : source.lookup = other.lookup) (tier : Tier)
    (seen names : List String) (draft : Draft) :
    draft.enterAll source tier seen names = draft.enterAll other tier seen names := by
  induction names generalizing seen draft with
  | nil => rfl
  | cons name rest ih =>
      have henter : draft.enter source tier seen name = draft.enter other tier seen name := by
        rw [enter, enter, hlookup]
      rw [enterAll, enterAll, henter]
      cases draft.enter other tier seen name with
      | error failure => rfl
      | ok next => exact ih _ next

theorem scan_congr (hlookup : source.lookup = other.lookup)
    (hdescription : source.description = other.description) (family : Family)
    (tiers : List Tier) (draft : Draft) :
    draft.scan family source tiers = draft.scan family other tiers := by
  induction tiers generalizing draft with
  | nil =>
      rw [scan, scan, finish, finish, closingNotes, closingNotes, toTable, toTable, hdescription]
  | cons tier rest ih =>
      have hadd : draft.addTier source tier = draft.addTier other tier := by
        rw [addTier, addTier, enterAll_congr hlookup]
      rw [scan, scan, hadd]
      cases draft.addTier other tier with
      | error failure => rfl
      | ok next => exact ih next

end Draft

theorem build_congr (hlookup : source.lookup = other.lookup)
    (hdescription : source.description = other.description) (family : Family)
    (tiers : List Tier) : build family source tiers = build family other tiers :=
  Draft.scan_congr hlookup hdescription family _ {}

theorem build_toSource_congr {tree grouped : Source.Tree} (h : tree.leaves = grouped.leaves)
    (family : Family) (tiers : List Tier) :
    build family tree.toSource tiers = build family grouped.toSource tiers := by
  apply build_congr
  · funext category name
    rw [Source.Tree.lookup_toSource, Source.Tree.lookup_toSource, h]
  · rw [Source.Tree.description_toSource, Source.Tree.description_toSource, h]

section Fallback

variable {family : Family} {fallback : Source} {tiers : List Tier} {table wider : Table}

theorem entries_sublist_of_fallback (h : (build family source tiers).result = .ok table)
    (hwider : (build family (.chain source [fallback]) tiers).result = .ok wider) :
    table.entries.toList.Sublist wider.entries.toList := by
  rw [toList_entries_of_build h, toList_entries_of_build hwider]
  exact Source.rows_sublist_chain source fallback _

theorem missing_sublist_of_fallback (h : (build family source tiers).result = .ok table)
    (hwider : (build family (.chain source [fallback]) tiers).result = .ok wider) :
    wider.missing.Sublist table.missing := by
  rw [missing_of_build h, missing_of_build hwider]
  exact Source.lacking_chain_sublist source fallback _

end Fallback

/-- However chains are nested, the first of the sources at the ends that defines a name gives its
value, and the descriptions of all of them are joined. Chains of the same sources in the same order
therefore come to the same build. With a second source behind the first, a table keeps its entries
as they are and in their order, and only names that were missing before are missing. -/
theorem nesting_makes_no_difference :
    (∀ tree : Source.Tree,
      (∀ category name value, tree.toSource.lookup category name = some value ↔
        ∃ before leaf after, tree.leaves = before ++ leaf :: after ∧
          leaf.lookup category name = some value ∧
            ∀ other ∈ before, other.lookup category name = none) ∧
      tree.toSource.description = " + ".intercalate (tree.leaves.map (·.description))) ∧
    (∀ tree grouped : Source.Tree, tree.leaves = grouped.leaves → ∀ family tiers,
      build family tree.toSource tiers = build family grouped.toSource tiers) ∧
    ∀ family source fallback, ∃ table wider,
      (build family source Tier.catalog).result = .ok table ∧
      (build family (.chain source [fallback]) Tier.catalog).result = .ok wider ∧
      table.entries.toList.Sublist wider.entries.toList ∧
      wider.missing.Sublist table.missing := by
  refine ⟨?_, ?_, ?_⟩
  · intro tree
    exact ⟨fun _ _ _ => Source.Tree.lookup_toSource_eq_some_iff,
      Source.Tree.description_toSource tree⟩
  · intro tree grouped h family tiers
    exact build_toSource_congr h family tiers
  · intro family source fallback
    obtain ⟨table, h⟩ := Resolver.exists_build_catalog family source
    obtain ⟨wider, hwider⟩ := Resolver.exists_build_catalog family (.chain source [fallback])
    exact ⟨table, wider, h, hwider, entries_sublist_of_fallback h hwider,
      missing_sublist_of_fallback h hwider⟩

/-- Three sources, of which the first gives zero and the second a negative number. -/
def zeroFirst : Source.Tree :=
  .chain (.chain (.leaf (.ofValues .linux fun _ => [("EPERM", 0)]))
    [.leaf (.ofValues .generic fun _ => [("EPERM", 1), ("EIO", -5)])])
    [.leaf (.snapshot .darwin)]

/-- The sources of `zeroFirst`, with the last two chained first. -/
def zeroApart : Source.Tree :=
  .chain (.leaf (.ofValues .linux fun _ => [("EPERM", 0)]))
    [.chain (.chain (.leaf (.ofValues .generic fun _ => [("EPERM", 1), ("EIO", -5)])) [])
      [.leaf (.snapshot .darwin)]]

theorem nesting_makes_no_difference_of_zero_first :
    zeroFirst.leaves = zeroApart.leaves ∧
      build .darwin zeroFirst.toSource Tier.catalog =
        build .darwin zeroApart.toSource Tier.catalog ∧
      zeroFirst.toSource.lookup .errno "EPERM" = some 0 ∧
      zeroApart.toSource.lookup .errno "EIO" = some (-5) ∧
      zeroApart.toSource.description =
        "linux header snapshot + generic header snapshot + darwin header snapshot" ∧
      ∃ table wider,
        (build .darwin zeroFirst.toSource Tier.catalog).result = .ok table ∧
        (build .darwin (.chain zeroFirst.toSource [.snapshot .linux]) Tier.catalog).result =
          .ok wider ∧
        table.entries.toList.Sublist wider.entries.toList ∧
        wider.missing.Sublist table.missing := by
  obtain ⟨htree, hgrouped, hfallback⟩ := nesting_makes_no_difference
  have hleaves : zeroFirst.leaves = zeroApart.leaves := rfl
  refine ⟨hleaves, hgrouped _ _ hleaves .darwin Tier.catalog, ?_, ?_, ?_,
    hfallback .darwin zeroFirst.toSource (.snapshot .linux)⟩
  · exact ((htree zeroFirst).1 _ _ _).mpr ⟨[], _, _, rfl, rfl, by simp⟩
  · refine ((htree zeroApart).1 _ _ _).mpr ⟨[_], _, _, rfl, rfl, ?_⟩
    intro other hother
    obtain rfl := List.mem_singleton.mp hother
    rfl
  · exact (htree zeroApart).2.trans rfl

end Table

end HeaderConstants
