import HeaderConstants.Table.Build
import Mathlib.Tactic.Tauto

/-!
What a scan does to a draft. A draft covers the positions behind it when it has a row for each of
them that the source defines and a missing name for each other one, in order. Every step keeps
this up, and it stops just at a name that its tier listed before or that has a row already.
-/

namespace HeaderConstants

namespace Source

/-- The row that a position adds to a table, if the source defines its name. -/
def row? (source : Source) : Tier × String → Option (String × Constant)
  | (tier, name) =>
      (source.lookup tier.category name).map fun value =>
        (name, ⟨name, value, tier.name, tier.category⟩)

/-- The rows for the positions at which the source defines something. -/
def rows (source : Source) (positions : List (Tier × String)) : List (String × Constant) :=
  positions.filterMap source.row?

/-- The names of the positions at which the source defines nothing. -/
def lacking (source : Source) (positions : List (Tier × String)) : List String :=
  (positions.filter fun position =>
    (source.lookup position.1.category position.2).isNone).map (·.2)

theorem rows_append (source : Source) (positions others : List (Tier × String)) :
    source.rows (positions ++ others) = source.rows positions ++ source.rows others :=
  List.filterMap_append

theorem lacking_append (source : Source) (positions others : List (Tier × String)) :
    source.lacking (positions ++ others) = source.lacking positions ++ source.lacking others := by
  rw [lacking, List.filter_append, List.map_append]
  rfl

theorem mem_rows {source : Source} {positions : List (Tier × String)} {name : String}
    {constant : Constant} :
    (name, constant) ∈ source.rows positions ↔
      ∃ tier value, (tier, name) ∈ positions ∧ source.lookup tier.category name = some value ∧
        constant = ⟨name, value, tier.name, tier.category⟩ := by
  simp only [rows, List.mem_filterMap]
  constructor
  · rintro ⟨⟨tier, listed⟩, hmem, hrow⟩
    obtain ⟨value, hvalue, heq⟩ := Option.map_eq_some_iff.mp hrow
    obtain ⟨rfl, rfl⟩ := Prod.mk.inj heq
    exact ⟨tier, value, hmem, hvalue, rfl⟩
  · rintro ⟨tier, value, hmem, hvalue, rfl⟩
    exact ⟨(tier, name), hmem, by simp [row?, hvalue]⟩

theorem mem_keys_rows {source : Source} {positions : List (Tier × String)} {name : String} :
    name ∈ (source.rows positions).map (·.1) ↔
      ∃ tier, (tier, name) ∈ positions ∧ source.lookup tier.category name ≠ none := by
  constructor
  · intro h
    obtain ⟨⟨_, constant⟩, hmem, rfl⟩ := List.mem_map.mp h
    obtain ⟨tier, value, hposition, hvalue, -⟩ := mem_rows.mp hmem
    exact ⟨tier, hposition, by simp [hvalue]⟩
  · rintro ⟨tier, hposition, hdefined⟩
    obtain ⟨value, hvalue⟩ := Option.ne_none_iff_exists'.mp hdefined
    exact List.mem_map.mpr ⟨(name, _), mem_rows.mpr ⟨tier, value, hposition, hvalue, rfl⟩, rfl⟩

theorem mem_keys_rows_append {source : Source} {positions others : List (Tier × String)}
    {name : String} :
    name ∈ (source.rows (positions ++ others)).map (·.1) ↔
      name ∈ (source.rows positions).map (·.1) ∨ name ∈ (source.rows others).map (·.1) := by
  rw [rows_append, List.map_append, List.mem_append]

theorem mem_keys_rows_tier {source : Source} {tier : Tier} {names : List String}
    {name : String} :
    name ∈ (source.rows (names.map (tier, ·))).map (·.1) ↔
      name ∈ names ∧ source.lookup tier.category name ≠ none := by
  rw [mem_keys_rows]
  constructor
  · rintro ⟨other, hmem, hdefined⟩
    obtain ⟨listed, hlisted, heq⟩ := List.mem_map.mp hmem
    obtain ⟨rfl, rfl⟩ := Prod.mk.inj heq
    exact ⟨hlisted, hdefined⟩
  · rintro ⟨hlisted, hdefined⟩
    exact ⟨tier, List.mem_map.mpr ⟨name, hlisted, rfl⟩, hdefined⟩

theorem lacking_tier (source : Source) (tier : Tier) (names : List String) :
    source.lacking (names.map (tier, ·)) =
      names.filter fun name => (source.lookup tier.category name).isNone := by
  simp [lacking, List.filter_map, Function.comp_def]

theorem mem_lacking {source : Source} {positions : List (Tier × String)} {name : String} :
    name ∈ source.lacking positions ↔
      ∃ tier, (tier, name) ∈ positions ∧ source.lookup tier.category name = none := by
  simp [lacking]

end Source

namespace Table.Draft

/-- A draft after one more position of which nothing stops the scan. -/
def advance (source : Source) (tier : Tier) (name : String) (draft : Draft) : Draft :=
  match source.lookup tier.category name with
  | none => { draft with missing := draft.missing ++ [name] }
  | some value =>
      { draft with entries := draft.entries.insert name ⟨name, value, tier.name, tier.category⟩ }

theorem enter_eq_ok_iff {source : Source} {tier : Tier} {seen : List String} {name : String}
    {draft next : Draft} :
    draft.enter source tier seen name = .ok next ↔
      name ∉ seen ∧ draft.entries.find? name = none ∧ next = draft.advance source tier name := by
  by_cases hseen : name ∈ seen
  · simp [enter_of_mem hseen, hseen]
  · cases hfound : draft.entries.find? name with
    | some found => simp [enter_of_find?_some hseen hfound]
    | none =>
        cases hvalue : source.lookup tier.category name with
        | none =>
            rw [enter_of_lookup_none hseen hfound hvalue]
            simp [hseen, advance, hvalue, eq_comm]
        | some value =>
            rw [enter_of_lookup_some hseen hfound hvalue]
            simp [hseen, advance, hvalue, eq_comm]

theorem enter_eq_error_iff {source : Source} {tier : Tier} {seen : List String} {name : String}
    {draft : Draft} {failure : Failure} :
    draft.enter source tier seen name = .error failure ↔
      (name ∈ seen ∧ failure = .duplicate name tier.name tier.name) ∨
        (name ∉ seen ∧ ∃ found, draft.entries.find? name = some found ∧
          failure = .duplicate name found.tier tier.name) := by
  by_cases hseen : name ∈ seen
  · simp [enter_of_mem hseen, hseen, eq_comm]
  · cases hfound : draft.entries.find? name with
    | some found => simp [enter_of_find?_some hseen hfound, hseen, eq_comm]
    | none =>
        have hok : draft.enter source tier seen name = .ok (draft.advance source tier name) :=
          enter_eq_ok_iff.mpr ⟨hseen, hfound, rfl⟩
        simp [hok, hseen]

theorem enterAll_cons_eq_ok_iff {source : Source} {tier : Tier} {seen names : List String}
    {name : String} {draft next : Draft} :
    draft.enterAll source tier seen (name :: names) = .ok next ↔
      ∃ middle, draft.enter source tier seen name = .ok middle ∧
        middle.enterAll source tier (seen ++ [name]) names = .ok next := by
  rw [enterAll]
  cases h : draft.enter source tier seen name <;> simp

/-- A draft has all that the source says about the positions scanned so far, and nothing else. -/
structure Covers (source : Source) (scanned : List (Tier × String)) (draft : Draft) : Prop where
  toList_entries : draft.entries.toList = source.rows scanned
  missing : draft.missing = source.lacking scanned

namespace Covers

variable {source : Source} {scanned : List (Tier × String)} {draft : Draft}

theorem empty (source : Source) : Covers source [] {} := ⟨rfl, rfl⟩

theorem find?_eq_some_iff (h : Covers source scanned draft) {name : String}
    {constant : Constant} :
    draft.entries.find? name = some constant ↔ (name, constant) ∈ source.rows scanned := by
  rw [Entries.find?_eq_some_iff, h.toList_entries]

theorem find?_eq_none_iff (h : Covers source scanned draft) {name : String} :
    draft.entries.find? name = none ↔ name ∉ (source.rows scanned).map (·.1) := by
  rw [Entries.find?_eq_none_iff, Entries.keys, h.toList_entries]

theorem advance (h : Covers source scanned draft) {name : String}
    (hnew : draft.entries.find? name = none) (tier : Tier) :
    Covers source (scanned ++ [(tier, name)]) (draft.advance source tier name) := by
  cases hvalue : source.lookup tier.category name with
  | none =>
      constructor
      · simp [Draft.advance, hvalue, h.toList_entries, Source.rows, Source.row?]
      · simp [Draft.advance, hvalue, h.missing, Source.lacking]
  | some value =>
      constructor
      · rw [Source.rows_append, ← h.toList_entries]
        simp [Draft.advance, hvalue, Entries.toList_insert_of_find?_eq_none hnew, Source.rows,
          Source.row?]
      · simp [Draft.advance, hvalue, h.missing, Source.lacking]

theorem enterAll {tier : Tier} {seen names : List String} {next : Draft}
    (h : Covers source scanned draft)
    (hok : draft.enterAll source tier seen names = .ok next) :
    Covers source (scanned ++ names.map (tier, ·)) next := by
  induction names generalizing scanned seen draft with
  | nil =>
      obtain rfl : draft = next := Except.ok.inj hok
      simpa using h
  | cons name rest ih =>
      obtain ⟨middle, hmiddle, hrest⟩ := enterAll_cons_eq_ok_iff.mp hok
      obtain ⟨-, hnew, rfl⟩ := enter_eq_ok_iff.mp hmiddle
      simpa using ih (h.advance hnew tier) hrest

/-- The names of a tier go through just if they differ from each other, from those that the tier
listed before, and from those that have a row. -/
theorem exists_enterAll_eq_ok_iff {tier : Tier} {seen names : List String}
    (h : Covers source scanned draft) :
    (∃ next, draft.enterAll source tier seen names = .ok next) ↔
      names.Nodup ∧ ∀ name ∈ names,
        name ∉ seen ∧ name ∉ (source.rows scanned).map (·.1) := by
  induction names generalizing scanned seen draft with
  | nil => simp [Draft.enterAll]
  | cons name rest ih =>
      rw [Draft.enterAll]
      cases henter : draft.enter source tier seen name with
      | error failure =>
          refine iff_of_false (by simp) ?_
          rintro ⟨-, hfree⟩
          obtain ⟨hseen, hrow⟩ := hfree name (by simp)
          rcases enter_eq_error_iff.mp henter with ⟨hmem, -⟩ | ⟨-, found, hfound, -⟩
          · exact hseen hmem
          · rw [h.find?_eq_none_iff.mpr hrow] at hfound
            cases hfound
      | ok middle =>
          obtain ⟨hseen, hnew, rfl⟩ := enter_eq_ok_iff.mp henter
          have hrow : name ∉ (source.rows scanned).map (·.1) := h.find?_eq_none_iff.mp hnew
          -- For the rest, `name` counts as listed before, and in a row it is no new obstacle.
          have hrest : ∀ other, (other ∉ seen ++ [name] ∧
              other ∉ (source.rows (scanned ++ [(tier, name)])).map (·.1)) ↔
                other ≠ name ∧ other ∉ seen ∧ other ∉ (source.rows scanned).map (·.1) := by
            intro other
            rw [Source.mem_keys_rows_append, show [(tier, name)] = [name].map (tier, ·) from rfl,
              Source.mem_keys_rows_tier, List.mem_append, List.mem_singleton]
            tauto
          rw [ih (h.advance hnew tier)]
          simp only [hrest, List.nodup_cons, List.mem_cons, forall_eq_or_imp]
          grind

end Covers

theorem enterAll_eq_error {source : Source} {tier : Tier} {seen names : List String}
    {draft : Draft} {failure : Failure}
    (h : draft.enterAll source tier seen names = .error failure) :
    ∃ before name after middle, names = before ++ name :: after ∧
      draft.enterAll source tier seen before = .ok middle ∧
        middle.enter source tier (seen ++ before) name = .error failure := by
  induction names generalizing seen draft with
  | nil => cases h
  | cons name rest ih =>
      rw [enterAll] at h
      cases henter : draft.enter source tier seen name with
      | error stop =>
          rw [henter] at h
          refine ⟨[], name, rest, draft, rfl, rfl, ?_⟩
          rw [List.append_nil, henter]
          exact h
      | ok middle =>
          rw [henter] at h
          obtain ⟨before, other, after, last, rfl, hbefore, hstop⟩ := ih h
          refine ⟨name :: before, other, after, last, rfl, ?_, ?_⟩
          · exact enterAll_cons_eq_ok_iff.mpr ⟨middle, henter, hbefore⟩
          · simpa using hstop

theorem addTier_eq_ok_iff {source : Source} {tier : Tier} {draft next : Draft} :
    draft.addTier source tier = .ok next ↔
      ∃ filled, draft.enterAll source tier [] tier.names = .ok filled ∧
        next = { filled with log := filled.log ++ [filled.contributionNote tier] } := by
  cases h : draft.enterAll source tier [] tier.names <;> simp [addTier, h, eq_comm]

theorem addTier_eq_error_iff {source : Source} {tier : Tier} {draft : Draft}
    {failure : Failure} :
    draft.addTier source tier = .error failure ↔
      draft.enterAll source tier [] tier.names = .error failure := by
  cases h : draft.enterAll source tier [] tier.names <;> simp [addTier, h]

/-- The draft after several tiers, one after the other. -/
def addTiers (source : Source) (tiers : List Tier) (draft : Draft) : Except Failure Draft :=
  tiers.foldlM (fun draft tier => draft.addTier source tier) draft

theorem addTiers_cons (source : Source) (tier : Tier) (tiers : List Tier) (draft : Draft) :
    draft.addTiers source (tier :: tiers) =
      (draft.addTier source tier).bind fun next => next.addTiers source tiers := by
  rw [addTiers, List.foldlM_cons]
  rfl

theorem addTiers_cons_eq_ok_iff {source : Source} {tier : Tier} {tiers : List Tier}
    {draft next : Draft} :
    draft.addTiers source (tier :: tiers) = .ok next ↔
      ∃ middle, draft.addTier source tier = .ok middle ∧
        middle.addTiers source tiers = .ok next := by
  rw [addTiers_cons]
  cases h : draft.addTier source tier <;> simp [Except.bind]

theorem result_scan (family : Family) (source : Source) (tiers : List Tier) (draft : Draft) :
    (draft.scan family source tiers).result =
      (draft.addTiers source tiers).map (·.toTable family source) := by
  induction tiers generalizing draft with
  | nil => rfl
  | cons tier rest ih =>
      rw [scan, addTiers_cons]
      cases draft.addTier source tier with
      | error failure => rfl
      | ok next => exact ih next

theorem addTiers_eq_error {source : Source} {tiers : List Tier} {draft : Draft}
    {failure : Failure} (h : draft.addTiers source tiers = .error failure) :
    ∃ before tier after middle, tiers = before ++ tier :: after ∧
      draft.addTiers source before = .ok middle ∧
        middle.addTier source tier = .error failure := by
  induction tiers generalizing draft with
  | nil => cases h
  | cons tier rest ih =>
      rw [addTiers_cons] at h
      cases hadd : draft.addTier source tier with
      | error stop =>
          rw [hadd] at h
          exact ⟨[], tier, rest, draft, rfl, rfl, hadd.trans h⟩
      | ok middle =>
          rw [hadd] at h
          obtain ⟨before, other, after, last, rfl, hbefore, hstop⟩ := ih h
          exact ⟨tier :: before, other, after, last, rfl,
            addTiers_cons_eq_ok_iff.mpr ⟨middle, hadd, hbefore⟩, hstop⟩

end Table.Draft

/-- No tier lists a name twice, and a name that two tiers list is not defined under the first. -/
structure Tier.Separate (source : Source) (tiers : List Tier) : Prop where
  nodup : ∀ tier ∈ tiers, tier.names.Nodup
  undefined : tiers.Pairwise fun earlier later =>
    ∀ name ∈ earlier.names, name ∈ later.names → source.lookup earlier.category name = none

namespace Table.Draft.Covers

variable {source : Source} {scanned : List (Tier × String)} {draft : Draft}

theorem addTier {tier : Tier} {next : Draft} (h : Covers source scanned draft)
    (hok : draft.addTier source tier = .ok next) :
    Covers source (scanned ++ tier.names.map (tier, ·)) next := by
  obtain ⟨filled, hfilled, rfl⟩ := addTier_eq_ok_iff.mp hok
  have hcovers := h.enterAll hfilled
  exact ⟨hcovers.toList_entries, hcovers.missing⟩

theorem addTiers {tiers : List Tier} {next : Draft} (h : Covers source scanned draft)
    (hok : draft.addTiers source tiers = .ok next) :
    Covers source (scanned ++ Tier.positions tiers) next := by
  induction tiers generalizing scanned draft with
  | nil =>
      obtain rfl : draft = next := Except.ok.inj hok
      simpa [Tier.positions] using h
  | cons tier rest ih =>
      obtain ⟨middle, hadd, hrest⟩ := addTiers_cons_eq_ok_iff.mp hok
      have hcovers := ih (h.addTier hadd) hrest
      rwa [List.append_assoc] at hcovers

theorem exists_addTier_eq_ok_iff {tier : Tier} (h : Covers source scanned draft) :
    (∃ next, draft.addTier source tier = .ok next) ↔
      tier.names.Nodup ∧ ∀ name ∈ tier.names, name ∉ (source.rows scanned).map (·.1) := by
  have hnames : (∃ next, draft.enterAll source tier [] tier.names = .ok next) ↔
      tier.names.Nodup ∧ ∀ name ∈ tier.names, name ∉ (source.rows scanned).map (·.1) := by
    rw [h.exists_enterAll_eq_ok_iff]
    simp only [List.not_mem_nil, not_false_eq_true, true_and]
  rw [← hnames]
  constructor
  · rintro ⟨next, hok⟩
    obtain ⟨filled, hfilled, -⟩ := addTier_eq_ok_iff.mp hok
    exact ⟨filled, hfilled⟩
  · rintro ⟨filled, hfilled⟩
    exact ⟨_, addTier_eq_ok_iff.mpr ⟨filled, hfilled, rfl⟩⟩

theorem exists_addTiers_eq_ok_iff {tiers : List Tier} (h : Covers source scanned draft) :
    (∃ next, draft.addTiers source tiers = .ok next) ↔
      Tier.Separate source tiers ∧
        ∀ tier ∈ tiers, ∀ name ∈ tier.names, name ∉ (source.rows scanned).map (·.1) := by
  induction tiers generalizing scanned draft with
  | nil =>
      refine iff_of_true ⟨draft, rfl⟩ ⟨⟨?_, .nil⟩, ?_⟩ <;> simp
  | cons tier rest ih =>
      have hkeys : ∀ name, name ∉ (source.rows (scanned ++ tier.names.map (tier, ·))).map (·.1) ↔
          name ∉ (source.rows scanned).map (·.1) ∧
            (name ∈ tier.names → source.lookup tier.category name = none) := by
        intro name
        rw [Source.mem_keys_rows_append, Source.mem_keys_rows_tier]
        tauto
      constructor
      · rintro ⟨next, hok⟩
        obtain ⟨middle, hadd, hmiddle⟩ := addTiers_cons_eq_ok_iff.mp hok
        obtain ⟨hnodup, hfree⟩ := h.exists_addTier_eq_ok_iff.mp ⟨middle, hadd⟩
        obtain ⟨hseparate, hrest⟩ := (ih (h.addTier hadd)).mp ⟨next, hmiddle⟩
        refine ⟨⟨?_, List.pairwise_cons.mpr ⟨?_, hseparate.undefined⟩⟩, ?_⟩
        · exact List.forall_mem_cons.mpr ⟨hnodup, hseparate.nodup⟩
        · intro later hlater name hname hlisted
          exact ((hkeys name).mp (hrest later hlater name hlisted)).2 hname
        · refine List.forall_mem_cons.mpr ⟨hfree, ?_⟩
          intro later hlater name hlisted
          exact ((hkeys name).mp (hrest later hlater name hlisted)).1
      · rintro ⟨⟨hnodup, hundefined⟩, hfree⟩
        obtain ⟨hfirst, hlater⟩ := List.forall_mem_cons.mp hfree
        obtain ⟨hnone, hpairs⟩ := List.pairwise_cons.mp hundefined
        obtain ⟨middle, hadd⟩ :=
          h.exists_addTier_eq_ok_iff.mpr ⟨hnodup tier (by simp), hfirst⟩
        obtain ⟨next, hok⟩ := (ih (h.addTier hadd)).mpr
          ⟨⟨fun later hmem => hnodup later (by simp [hmem]), hpairs⟩, by
            intro later hmem name hlisted
            exact (hkeys name).mpr ⟨hlater later hmem name hlisted,
              fun hname => hnone later hmem name hname hlisted⟩⟩
        exact ⟨next, addTiers_cons_eq_ok_iff.mpr ⟨middle, hadd, hok⟩⟩

end Table.Draft.Covers

namespace Table

open Draft

theorem build_result_eq_ok_iff {family : Family} {source : Source} {tiers : List Tier}
    {table : Table} :
    (build family source tiers).result = .ok table ↔
      ∃ draft, addTiers source (Tier.active family tiers) {} = .ok draft ∧
        draft.toTable family source = table := by
  rw [build, result_scan]
  cases addTiers source (Tier.active family tiers) {} <;> simp [Except.map]

theorem build_result_eq_error_iff {family : Family} {source : Source} {tiers : List Tier}
    {failure : Failure} :
    (build family source tiers).result = .error failure ↔
      addTiers source (Tier.active family tiers) {} = .error failure := by
  rw [build, result_scan]
  cases addTiers source (Tier.active family tiers) {} <;> simp [Except.map]

/-- A table is built just if the tiers that apply are separate. -/
theorem exists_build_eq_ok_iff {family : Family} {source : Source} {tiers : List Tier} :
    (∃ table, (build family source tiers).result = .ok table) ↔
      Tier.Separate source (Tier.active family tiers) := by
  have hrun : (∃ draft, addTiers source (Tier.active family tiers) {} = .ok draft) ↔
      Tier.Separate source (Tier.active family tiers) := by
    rw [(Covers.empty source).exists_addTiers_eq_ok_iff]
    simp only [Source.rows, List.filterMap_nil, List.map_nil, List.not_mem_nil,
      not_false_eq_true, implies_true, and_true]
  rw [← hrun]
  constructor
  · rintro ⟨table, h⟩
    obtain ⟨draft, hdraft, -⟩ := build_result_eq_ok_iff.mp h
    exact ⟨draft, hdraft⟩
  · rintro ⟨draft, hdraft⟩
    exact ⟨_, build_result_eq_ok_iff.mpr ⟨draft, hdraft, rfl⟩⟩

section Content

variable {family : Family} {source : Source} {tiers : List Tier} {table : Table}

theorem toList_entries_of_build (h : (build family source tiers).result = .ok table) :
    table.entries.toList = source.rows (Tier.positions (Tier.active family tiers)) := by
  obtain ⟨draft, hdraft, rfl⟩ := build_result_eq_ok_iff.mp h
  exact ((Covers.empty source).addTiers hdraft).toList_entries

theorem missing_of_build (h : (build family source tiers).result = .ok table) :
    table.missing = source.lacking (Tier.positions (Tier.active family tiers)) := by
  obtain ⟨draft, hdraft, rfl⟩ := build_result_eq_ok_iff.mp h
  exact ((Covers.empty source).addTiers hdraft).missing

theorem family_of_build (h : (build family source tiers).result = .ok table) :
    table.family = family := by
  obtain ⟨draft, -, rfl⟩ := build_result_eq_ok_iff.mp h
  rfl

theorem description_of_build (h : (build family source tiers).result = .ok table) :
    table.description = source.description := by
  obtain ⟨draft, -, rfl⟩ := build_result_eq_ok_iff.mp h
  rfl

theorem find?_of_build (h : (build family source tiers).result = .ok table) {name : String}
    {constant : Constant} :
    table.find? name = some constant ↔
      ∃ tier value, tier ∈ Tier.active family tiers ∧ name ∈ tier.names ∧
        source.lookup tier.category name = some value ∧
          constant = ⟨name, value, tier.name, tier.category⟩ := by
  rw [find?, Entries.find?_eq_some_iff, toList_entries_of_build h, Source.mem_rows]
  simp only [Tier.mem_positions, and_assoc]

theorem valueOf_of_build (h : (build family source tiers).result = .ok table) {name : String}
    {value : Int} :
    table.valueOf name = some value ↔
      ∃ tier ∈ Tier.active family tiers, name ∈ tier.names ∧
        source.lookup tier.category name = some value := by
  rw [valueOf, Option.map_eq_some_iff]
  constructor
  · rintro ⟨constant, hfound, rfl⟩
    obtain ⟨tier, value, htier, hname, hvalue, rfl⟩ := (find?_of_build h).mp hfound
    exact ⟨tier, htier, hname, hvalue⟩
  · rintro ⟨tier, htier, hname, hvalue⟩
    exact ⟨_, (find?_of_build h).mpr ⟨tier, value, htier, hname, hvalue, rfl⟩, rfl⟩

end Content

end Table

end HeaderConstants
