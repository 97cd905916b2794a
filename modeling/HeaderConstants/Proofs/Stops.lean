import HeaderConstants.Proofs.Scan

/-!
Where a build stops. The scan has gone through everything before that place, and would have ended
well there; what it reports are two places at which the name is listed.
-/

namespace HeaderConstants

namespace Tier

/-- A place at which one of several tiers lists a name. -/
structure Place (tiers : List Tier) (name : String) where
  before : List Tier
  tier : Tier
  after : List Tier
  seen : List String
  rest : List String
  tiers_eq : tiers = before ++ tier :: after
  names_eq : tier.names = seen ++ name :: rest

namespace Place

variable {tiers : List Tier} {name : String}

/-- The positions that a scan goes through before it comes to the place. -/
def scanned (place : Place tiers name) : List (Tier × String) :=
  positions place.before ++ place.seen.map (place.tier, ·)

/-- How many positions are scanned before the place. -/
def index (place : Place tiers name) : Nat := place.scanned.length

/-- The tiers without what they list from the place on. -/
def cut (place : Place tiers name) : List Tier :=
  place.before ++ [{ place.tier with names := place.seen }]

theorem index_eq (place : Place tiers name) :
    place.index = (positions place.before).length + place.seen.length := by
  rw [index, scanned, List.length_append, List.length_map]

theorem positions_eq (place : Place tiers name) :
    positions tiers = place.scanned ++ (place.tier, name) ::
      (place.rest.map (place.tier, ·) ++ positions place.after) := by
  calc
    positions tiers = positions (place.before ++ place.tier :: place.after) :=
      congrArg positions place.tiers_eq
    _ = _ := by simp [positions, scanned, place.names_eq]

theorem getElem?_index (place : Place tiers name) :
    (positions tiers)[place.index]? = some (place.tier, name) := by
  rw [place.positions_eq, index, List.getElem?_append_right (Nat.le_refl _), Nat.sub_self]
  rfl

theorem getElem?_scanned (place : Place tiers name) {k : Nat} (hk : k < place.index) :
    place.scanned[k]? = (positions tiers)[k]? := by
  rw [place.positions_eq, List.getElem?_append_left hk]

theorem active_cut {family : Family} (place : Place (active family tiers) name) :
    active family place.cut = place.cut := by
  have happlies : ∀ tier ∈ active family tiers, tier.appliesTo family = true := by
    intro tier htier
    exact (List.mem_filter.mp htier).2
  rw [place.tiers_eq] at happlies
  apply List.filter_eq_self.mpr
  intro tier htier
  rcases List.mem_append.mp htier with hbefore | hlast
  · exact happlies tier (by simp [hbefore])
  · rw [List.mem_singleton.mp hlast]
    exact happlies place.tier (by simp)

theorem rows_cut (source : Source) (place : Place tiers name) :
    source.rows (positions place.cut) = source.rows place.scanned := by
  have hlast : source.rows (place.seen.map ({ place.tier with names := place.seen }, ·)) =
      source.rows (place.seen.map (place.tier, ·)) := by
    rw [Source.rows, Source.rows, List.filterMap_map, List.filterMap_map]
    rfl
  have hpositions : positions place.cut = positions place.before ++
      place.seen.map ({ place.tier with names := place.seen }, ·) := by
    simp [positions, cut]
  rw [hpositions, Source.rows_append, hlast, scanned, Source.rows_append]

theorem exists_of_mem_seen (place : Place tiers name) (hseen : name ∈ place.seen) :
    ∃ earlier : Place tiers name, earlier.before = place.before ∧ earlier.tier = place.tier ∧
      earlier.index < place.index := by
  obtain ⟨passed, rest, hpassed⟩ := List.append_of_mem hseen
  let earlier : Place tiers name :=
    { place with
      seen := passed
      rest := rest ++ name :: place.rest
      names_eq := by rw [place.names_eq, hpassed, List.append_assoc, List.cons_append] }
  refine ⟨earlier, rfl, rfl, ?_⟩
  rw [earlier.index_eq, place.index_eq, hpassed]
  simp [earlier]

theorem exists_of_mem_before (place : Place tiers name) {tier : Tier}
    (hbefore : tier ∈ place.before) (hlisted : name ∈ tier.names) :
    ∃ earlier : Place tiers name, earlier.tier = tier ∧ earlier.index < place.index := by
  obtain ⟨before, after, htiers⟩ := List.append_of_mem hbefore
  obtain ⟨seen, rest, hnames⟩ := List.append_of_mem hlisted
  let earlier : Place tiers name :=
    { before, tier, seen, rest
      after := after ++ place.tier :: place.after
      tiers_eq := place.tiers_eq.trans (by rw [htiers, List.append_assoc, List.cons_append])
      names_eq := hnames }
  refine ⟨earlier, rfl, ?_⟩
  rw [earlier.index_eq, place.index_eq, htiers]
  simp [earlier, positions, hnames]
  omega

end Place

end Tier

namespace Source

variable {source : Source} {positions : List (Tier × String)} {i k : Nat} {tier other : Tier}
  {name : String}

theorem exists_row?_eq_some (hdefined : source.lookup tier.category name ≠ none) :
    ∃ constant, source.row? (tier, name) = some (name, constant) := by
  obtain ⟨value, hvalue⟩ := Option.ne_none_iff_exists'.mp hdefined
  exact ⟨_, by rw [row?, hvalue, Option.map_some]⟩

theorem not_lt_of_nodup_rows (hnodup : ((source.rows positions).map (·.1)).Nodup)
    (hi : positions[i]? = some (tier, name)) (hk : positions[k]? = some (other, name))
    (hdefined : source.lookup tier.category name ≠ none)
    (hdefined' : source.lookup other.category name ≠ none) : ¬ i < k := by
  intro hlt
  obtain ⟨hilt, hi⟩ := List.getElem?_eq_some_iff.mp hi
  obtain ⟨hklt, hk⟩ := List.getElem?_eq_some_iff.mp hk
  obtain ⟨constant, hconstant⟩ := exists_row?_eq_some hdefined
  obtain ⟨found, hfound⟩ := exists_row?_eq_some hdefined'
  rw [List.Nodup, List.pairwise_map, rows, List.pairwise_filterMap] at hnodup
  have hne := List.pairwise_iff_getElem.mp hnodup i k hilt hklt hlt
  rw [hi, hk] at hne
  exact hne _ hconstant _ hfound rfl

theorem eq_of_nodup_rows (hnodup : ((source.rows positions).map (·.1)).Nodup)
    (hi : positions[i]? = some (tier, name)) (hk : positions[k]? = some (other, name))
    (hdefined : source.lookup tier.category name ≠ none)
    (hdefined' : source.lookup other.category name ≠ none) : i = k := by
  apply Nat.le_antisymm
  · exact Nat.le_of_not_lt (not_lt_of_nodup_rows hnodup hk hi hdefined' hdefined)
  · exact Nat.le_of_not_lt (not_lt_of_nodup_rows hnodup hi hk hdefined hdefined')

end Source

namespace Table

open Draft Tier

theorem Draft.enterAll_names (source : Source) (tier : Tier) (listed seen names : List String)
    (draft : Draft) :
    draft.enterAll source { tier with names := listed } seen names =
      draft.enterAll source tier seen names := by
  induction names generalizing seen draft with
  | nil => rfl
  | cons name rest ih =>
      have henter : draft.enter source { tier with names := listed } seen name =
          draft.enter source tier seen name := rfl
      rw [enterAll, enterAll, henter]
      cases draft.enter source tier seen name with
      | error failure => rfl
      | ok next => exact ih _ next

theorem Draft.addTiers_append (source : Source) (tiers others : List Tier) (draft : Draft) :
    draft.addTiers source (tiers ++ others) =
      (draft.addTiers source tiers).bind fun next => next.addTiers source others := by
  rw [addTiers, List.foldlM_append]
  rfl

variable {family : Family} {source : Source} {tiers : List Tier} {failure : Failure}

/-- A build stops at a name that its tier lists before, or else at a name that the source defines
under an earlier tier. Up to there it goes well. -/
theorem stop_of_build (h : (build family source tiers).result = .error failure) :
    ∃ name, ∃ place : Place (active family tiers) name,
      (∃ table, (build family source place.cut).result = .ok table) ∧
        ((name ∈ place.seen ∧ failure = .duplicate name place.tier.name place.tier.name) ∨
          (name ∉ place.seen ∧ ∃ earlier ∈ place.before, name ∈ earlier.names ∧
            source.lookup earlier.category name ≠ none ∧
              failure = .duplicate name earlier.name place.tier.name)) := by
  obtain ⟨before, tier, after, middle, htiers, hbefore, hadd⟩ :=
    addTiers_eq_error (build_result_eq_error_iff.mp h)
  obtain ⟨seen, name, rest, last, hnames, hseen, henter⟩ :=
    enterAll_eq_error (addTier_eq_error_iff.mp hadd)
  refine ⟨name, ⟨before, tier, after, seen, rest, htiers, hnames⟩, ?_, ?_⟩
  · obtain ⟨closed, hclosed⟩ :
        ∃ closed, middle.addTier source { tier with names := seen } = .ok closed :=
      ⟨_, addTier_eq_ok_iff.mpr
        ⟨last, (enterAll_names source tier seen [] seen middle).trans hseen, rfl⟩⟩
    have hcut : addTiers source (before ++ [{ tier with names := seen }]) {} = .ok closed := by
      rw [addTiers_append, hbefore]
      exact addTiers_cons_eq_ok_iff.mpr ⟨closed, hclosed, rfl⟩
    refine ⟨closed.toTable family source, build_result_eq_ok_iff.mpr ⟨closed, ?_, rfl⟩⟩
    rw [Place.active_cut]
    exact hcut
  · have hcovers : Covers source (positions before ++ seen.map (tier, ·)) last :=
      ((Covers.empty source).addTiers hbefore).enterAll hseen
    rcases enter_eq_error_iff.mp henter with ⟨hmem, rfl⟩ | ⟨hfresh, found, hfound, rfl⟩
    · exact .inl ⟨hmem, rfl⟩
    · refine .inr ⟨hfresh, ?_⟩
      obtain ⟨earlier, value, hposition, hvalue, rfl⟩ :=
        Source.mem_rows.mp (hcovers.find?_eq_some_iff.mp hfound)
      -- The row cannot come from the tier itself, which did not list the name so far.
      rcases List.mem_append.mp hposition with hbefore | hown
      · obtain ⟨hearlier, hlisted⟩ := mem_positions.mp hbefore
        exact ⟨earlier, hearlier, hlisted, by simp [hvalue], rfl⟩
      · obtain ⟨listed, hlisted, heq⟩ := List.mem_map.mp hown
        obtain ⟨rfl, rfl⟩ := Prod.mk.inj heq
        exact absurd hlisted hfresh

theorem nodup_rows_scanned {name : String} {place : Place (active family tiers) name}
    {table : Table} (h : (build family source place.cut).result = .ok table) :
    ((source.rows place.scanned).map (·.1)).Nodup := by
  have hnodup := table.entries.nodup
  rwa [toList_entries_of_build h, place.active_cut, place.rows_cut] at hnodup

/-- A report of a name that is listed twice stands for two places, which have the two tiers that it
names. If the tier of the second place lists the name before, the first place is in that tier, too.
Otherwise the first place is the only one before the second at which the source defines the name.
What comes before the second place can be built. -/
theorem places_of_duplicate {name first second : String}
    (h : (build family source tiers).result = .error (.duplicate name first second)) :
    ∃ earlier later : Place (active family tiers) name,
      earlier.index < later.index ∧
      (positions (active family tiers))[earlier.index]? = some (earlier.tier, name) ∧
      (positions (active family tiers))[later.index]? = some (later.tier, name) ∧
      earlier.tier.name = first ∧ later.tier.name = second ∧
      (name ∈ later.seen → earlier.before = later.before ∧ earlier.tier = later.tier) ∧
      (name ∉ later.seen → source.lookup earlier.tier.category name ≠ none ∧
        ∀ k < later.index, ∀ tier,
          (positions (active family tiers))[k]? = some (tier, name) →
            source.lookup tier.category name ≠ none → k = earlier.index) ∧
      ∃ table, (build family source later.cut).result = .ok table := by
  obtain ⟨listed, later, ⟨table, hcut⟩, hstop⟩ := stop_of_build h
  rcases hstop with ⟨hseen, heq⟩ | ⟨hfresh, tier, hbefore, hlisted, hdefined, heq⟩
  · obtain ⟨rfl, rfl, rfl⟩ := Failure.duplicate.inj heq
    obtain ⟨earlier, hsame, htier, hlt⟩ := later.exists_of_mem_seen hseen
    refine ⟨earlier, later, hlt, earlier.getElem?_index, later.getElem?_index,
      congrArg Tier.name htier, rfl, ?_, ?_, table, hcut⟩
    · intro _
      exact ⟨hsame, htier⟩
    · intro hfresh
      exact absurd hseen hfresh
  · obtain ⟨rfl, rfl, rfl⟩ := Failure.duplicate.inj heq
    obtain ⟨earlier, rfl, hlt⟩ := later.exists_of_mem_before hbefore hlisted
    refine ⟨earlier, later, hlt, earlier.getElem?_index, later.getElem?_index, rfl, rfl,
      ?_, ?_, table, hcut⟩
    · intro hseen
      exact absurd hseen hfresh
    · intro _
      refine ⟨hdefined, ?_⟩
      intro k hk tier hposition hdefined'
      have hearlier := earlier.getElem?_index
      rw [← later.getElem?_scanned hk] at hposition
      rw [← later.getElem?_scanned hlt] at hearlier
      exact Source.eq_of_nodup_rows (nodup_rows_scanned hcut) hposition hearlier hdefined'
        hdefined

/-- Two tiers of one name, of which only the second defines what it lists, and a third tier that
lists the same name behind another. -/
def crowdedTiers : List Tier :=
  [⟨"all", none, .errno, ["X", "Y"]⟩, ⟨"all", none, .socket, ["X"]⟩,
    ⟨"linux", some .linux, .errno, ["Z", "X"]⟩]

theorem places_of_duplicate_in_crowded_tiers :
    (build .linux (.ofValues .linux fun | .errno => [] | .socket => [("X", 7)])
        crowdedTiers).result = .error (.duplicate "X" "all" "linux") ∧
      ∃ earlier later : Place (active .linux crowdedTiers) "X",
        earlier.index < later.index ∧
        (positions (active .linux crowdedTiers))[earlier.index]? = some (earlier.tier, "X") ∧
        (positions (active .linux crowdedTiers))[later.index]? = some (later.tier, "X") ∧
        earlier.tier.name = "all" ∧ later.tier.name = "linux" ∧
        earlier.tier.category = .socket ∧
        ∃ table, (build .linux (.ofValues .linux fun | .errno => [] | .socket => [("X", 7)])
          later.cut).result = .ok table := by
  have h : (build .linux (.ofValues .linux fun | .errno => [] | .socket => [("X", 7)])
      crowdedTiers).result = .error (.duplicate "X" "all" "linux") := rfl
  obtain ⟨earlier, later, hlt, hearlier, hlater, hfirst, hsecond, -, hdefined, hcut⟩ :=
    places_of_duplicate h
  have hfresh : "X" ∉ later.seen := by
    have honce : ∀ tier ∈ active .linux crowdedTiers, tier.names.count "X" ≤ 1 := by decide
    intro hseen
    have hle := honce later.tier (mem_positions.mp (List.mem_of_getElem? hlater)).1
    have hpos := List.count_pos_iff.mpr hseen
    rw [later.names_eq, List.count_append, List.count_cons_self] at hle
    omega
  refine ⟨h, earlier, later, hlt, hearlier, hlater, hfirst, hsecond, ?_, hcut⟩
  have hsome := (hdefined hfresh).1
  rcases hcategory : earlier.tier.category with _ | _
  · rw [hcategory] at hsome
    exact absurd rfl hsome
  · rfl

end Table

end HeaderConstants
