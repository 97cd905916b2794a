import HeaderConstants.Host.Reference
import HeaderConstants.Proofs.Arguments
import HeaderConstants.Proofs.Assignments
import HeaderConstants.Proofs.Shown
import HeaderConstants.Proofs.Stages
import HeaderConstants.Proofs.TierBlocks
import Mathlib.Algebra.BigOperators.Group.Finset.Basic
import Mathlib.Algebra.GroupWithZero.Nat

namespace HeaderConstants

/-- The number in a text that holds no digits but those of one number. -/
def Text.onlyNumber? (text : String) : Option Nat :=
  readNatural? (text.toList.filter Char.isDigit)

theorem Text.onlyNumber?_decimal (before after : String)
    (hbefore : before.toList.filter Char.isDigit = [])
    (hafter : after.toList.filter Char.isDigit = []) (n : Nat) :
    onlyNumber? (before ++ decimal n ++ after) = some n := by
  have hdigits : (decimal n).toList.filter Char.isDigit = digits 10 n := by
    rw [decimal, signed, if_neg (by omega), String.toList_ofList, Int.natAbs_natCast]
    exact List.filter_eq_self.mpr fun c hc => isDigit_of_mem_digits hc
  rw [onlyNumber?, String.toList_append, String.toList_append, List.filter_append,
    List.filter_append, hbefore, hafter, hdigits, List.nil_append, List.append_nil,
    readNatural?_digits]

/-- The text with which an event ends, unless it ends with a grid. -/
def Event.endText? : Event → Option String
  | .stdout text | .stderr text => some text
  | .styled displays =>
    match displays.getLast? with
    | some (.markup text) => some text
    | _ => none

namespace Listing

/-- The number in the text that is shown last. -/
def printedCount? (events : List Event) : Option Nat :=
  (events.getLast?.bind Event.endText?).bind Text.onlyNumber?

theorem printedCount?_append_singleton (before : List Event) (event : Event) :
    printedCount? (before ++ [event]) = event.endText?.bind Text.onlyNumber? := by
  rw [printedCount?, List.getLast?_concat, Option.bind_some]

theorem Shows.printedCount?_eq {terminal : Terminal} {title : String}
    {constants : List Constant} {events : List Event}
    (h : Shows title constants terminal events) (before : List Event) :
    printedCount? (before ++ events) = some constants.length := by
  cases h with
  | plain =>
      have hcount := Text.onlyNumber?_decimal "" " constant(s)\n" (by decide) (by decide)
        constants.length
      rw [← List.append_assoc, printedCount?_append_singleton, ← hcount]
      simp [Event.endText?]
  | styled =>
      have hcount := Text.onlyNumber?_decimal "[dim]" " constant(s)[/dim]" (by decide) (by decide)
        constants.length
      rw [List.append_cons, printedCount?_append_singleton, ← hcount]
      simp [Event.endText?]

theorem sum_length_filter_key {α : Type} {items : List α} {key : α → String} {keys : List String}
    (hnodup : keys.Nodup) (hkeys : ∀ item ∈ items, key item ∈ keys) :
    (keys.map fun text => (items.filter (key · == text)).length).sum = items.length := by
  have hcount : ∀ text, (items.filter (key · == text)).length =
      (items.map key : Multiset String).count text := by
    intro text
    rw [Multiset.coe_count, List.count, List.countP_map, List.countP_eq_length_filter]
    rfl
  simp only [hcount]
  rw [← List.sum_toFinset _ hnodup, Multiset.sum_count_eq_card, Multiset.coe_card, List.length_map]
  intro text htext
  obtain ⟨item, hitem, rfl⟩ := List.mem_map.mp (Multiset.mem_coe.mp htext)
  exact List.mem_toFinset.mpr (hkeys item hitem)

end Listing

namespace Program

open CommandLine

variable {around : Surroundings} {terminal : Terminal} {arguments : List String}
  {asked : Option Family} {tier category : Option String} {table : Table}

/-- The constants that a list with these filters has, where it has them. -/
def selected (table : Table) (tier category : Option String) : List Constant :=
  table.constants.filter fun constant =>
    (∀ text ∈ tier, constant.tier = text) ∧ ∀ text ∈ category, constant.category.key = text

theorem filter_passes_ofOption (table : Table) (tier category : Option String) :
    (table.constants.filter fun constant =>
      (OptionText.ofOption tier).passes constant.tier &&
        (OptionText.ofOption category).passes constant.category.key) =
      selected table tier category := by
  apply List.filter_congr
  intro constant _
  rw [Bool.eq_iff_iff, Bool.and_eq_true, OptionText.passes_ofOption_iff,
    OptionText.passes_ofOption_iff, decide_eq_true_eq]

theorem selected_tier (table : Table) (text : String) :
    selected table (some text) none = table.ofTier text := by
  rw [selected, Table.ofTier]
  simp [beq_eq_decide]

theorem filter_tier_selected (table : Table) (category : Option String) (text : String) :
    (selected table none category).filter (·.tier == text) =
      selected table (some text) category := by
  rw [selected, selected, List.filter_filter]
  simp [beq_eq_decide]

theorem filter_category_selected (table : Table) (tier : Option String) (text : String) :
    (selected table tier none).filter (·.category.key == text) =
      selected table tier (some text) := by
  rw [selected, selected, List.filter_filter]
  simp [beq_eq_decide, and_comm]

/-- The title over the rows of a table. -/
def listTitle (table : Table) : String :=
  table.family.label ++ " constants (" ++ table.description ++ ")"

/-- A run that shows these constants as a list, behind log lines. -/
def ShowsList (around : Surroundings) (terminal : Terminal) (arguments : List String)
    (title : String) (constants : List Constant) : Prop :=
  ∃ logging events, (run around terminal arguments).EndsWith logging events ∧
    Listing.Shows title constants terminal events

/-- Arguments that ask for a list with these filters, where the log level is in order. -/
structure AsksForList (around : Surroundings) (arguments : List String) (asked : Option Family)
    (tier category : Option String) : Prop where
  level : ∃ level, around.settings.logThreshold = .ok level
  parsed : ∃ invocation, parse arguments = .ok invocation ∧
    invocation.command = some (.list (.ofOption category) (.ofOption tier)) ∧
    (familyOption invocation.family).result = .ok asked

theorem asksForList_filterArguments (hlevel : ∃ level, around.settings.logThreshold = .ok level)
    (verbose quiet : Bool) (family : Option Family) (htier : ∀ text ∈ tier, text ∈ tierNames)
    (hcategory : ∀ text ∈ category, text ∈ categoryNames) :
    AsksForList around
      (optionArguments verbose quiet family ++ Verb.list.name :: filterArguments tier category)
      family tier category := by
  refine ⟨hlevel, _, parse_list verbose quiet family htier hcategory, rfl, ?_⟩
  cases family with
  | none => rfl
  | some family => cases family <;> rfl

theorem AsksForList.showsList (h : AsksForList around arguments asked tier category)
    (hbuild : (around.build asked none).result = .ok table) (terminal : Terminal) :
    ShowsList around terminal arguments (listTitle table) (selected table tier category) := by
  obtain ⟨level, hlevel⟩ := h.level
  obtain ⟨invocation, hparse, hcommand, hasked⟩ := h.parsed
  refine ⟨loggingAt invocation level, _, ?_, Listing.shows_showConstants terminal _ _⟩
  rw [run_of_family_ok hparse hlevel hcommand hasked, execute, runList_of_ok hbuild,
    filter_passes_ofOption]
  exact Run.EndsWith.preceded ⟨_, _, rfl⟩ _

/-- The number that a run prints last. -/
def printedCount? (around : Surroundings) (terminal : Terminal) (arguments : List String) :
    Option Nat :=
  Listing.printedCount? (run around terminal arguments).output

/-- One run prints a number, each of several others prints one, and these add up to the first. -/
def CountsAddUp (around : Surroundings) (terminal : Terminal) (whole : List String)
    (keys : List String) (part : String → List String) : Prop :=
  ∃ counts : List Nat,
    (keys.map fun text => printedCount? around terminal (part text)) = counts.map some ∧
    printedCount? around terminal whole = some counts.sum

theorem ShowsList.printedCount?_eq {title : String} {constants : List Constant}
    (h : ShowsList around terminal arguments title constants) :
    printedCount? around terminal arguments = some constants.length := by
  obtain ⟨logging, events, ⟨records, status, hrun⟩, hshows⟩ := h
  rw [printedCount?, hrun]
  exact hshows.printedCount?_eq _

section Counts

variable {title : String} {constants : List Constant} {whole : List String}
  {part : String → List String}

theorem countsAddUp_of_key {key : Constant → String} {keys : List String} (hnodup : keys.Nodup)
    (hkeys : ∀ constant ∈ constants, key constant ∈ keys)
    (hwhole : ShowsList around terminal whole title constants)
    (hpart : ∀ text ∈ keys,
      ShowsList around terminal (part text) title (constants.filter (key · == text))) :
    CountsAddUp around terminal whole keys part := by
  refine ⟨keys.map fun text => (constants.filter (key · == text)).length, ?_, ?_⟩
  · rw [List.map_map]
    apply List.map_congr_left
    intro text htext
    exact (hpart text htext).printedCount?_eq
  · rw [hwhole.printedCount?_eq, Listing.sum_length_filter_key hnodup hkeys]

theorem tier_mem_tierNames (hbuild : (around.build asked none).result = .ok table)
    {constant : Constant} (hconstant : constant ∈ table.constants) :
    constant.tier ∈ tierNames := by
  obtain ⟨family, -, htable⟩ := Surroundings.result_build_none_eq_ok_iff.mp hbuild
  obtain ⟨tier, htier, htext⟩ := Table.exists_tier_of_mem_constants htable hconstant
  rw [htext]
  exact List.mem_map_of_mem (Tier.mem_catalog_of_mem_active htier)

theorem countsAddUp_tiers (hbuild : (around.build asked none).result = .ok table)
    (hwhole : AsksForList around whole asked none category)
    (hpart : ∀ text ∈ tierNames, AsksForList around (part text) asked (some text) category)
    (terminal : Terminal) : CountsAddUp around terminal whole tierNames part := by
  apply countsAddUp_of_key (by decide +kernel) ?_ (hwhole.showsList hbuild terminal)
  · intro text htext
    have hshown := (hpart text htext).showsList hbuild terminal
    exact (filter_tier_selected table category text).symm ▸ hshown
  · intro constant hconstant
    exact tier_mem_tierNames hbuild (List.mem_filter.mp hconstant).1

theorem countsAddUp_categories (hbuild : (around.build asked none).result = .ok table)
    (hwhole : AsksForList around whole asked tier none)
    (hpart : ∀ text ∈ categoryNames, AsksForList around (part text) asked tier (some text))
    (terminal : Terminal) : CountsAddUp around terminal whole categoryNames part := by
  apply countsAddUp_of_key (by decide +kernel) ?_ (hwhole.showsList hbuild terminal)
  · intro text htext
    have hshown := (hpart text htext).showsList hbuild terminal
    exact (filter_category_selected table tier text).symm ▸ hshown
  · intro constant _
    exact List.mem_map_of_mem (Category.mem_all constant.category)

end Counts

/-- The tiers share out a table among them: the constants of the tiers that apply, one tier after
the other, are all constants in their order, those of one tier stand in the order of its names, and
no other text has any. So a list with filters shows just the rows of the whole list that pass them,
in their order, with a tier alone just what that tier contributed, and the counts under the lists of
all tiers, or of all categories, add up. -/
theorem filters_partition_list :
    (∀ family source tiers table, (Table.build family source tiers).result = .ok table →
      (tiers.map (·.name)).Nodup →
      ((Tier.active family tiers).flatMap fun tier => table.ofTier tier.name) = table.constants ∧
      (∀ tier ∈ Tier.active family tiers, (table.ofTier tier.name).map (·.name) =
        tier.names.filter fun name => (source.lookup tier.category name).isSome) ∧
      ∀ text, text ∉ (Tier.active family tiers).map (·.name) → table.ofTier text = []) ∧
    (∀ around verbose quiet family tier category,
      (∃ level, around.settings.logThreshold = .ok level) →
      (∀ text ∈ tier, text ∈ tierNames) → (∀ text ∈ category, text ∈ categoryNames) →
      AsksForList around
        (optionArguments verbose quiet family ++ Verb.list.name :: filterArguments tier category)
        family tier category) ∧
    (∀ around asked family, around.chooseFamily asked = .ok family →
      ∃ table, (around.build asked none).result = .ok table ∧ table.family = family ∧
        (∀ terminal arguments tier category, AsksForList around arguments asked tier category →
          ShowsList around terminal arguments (listTitle table)
            (table.constants.filter fun constant =>
              (∀ text ∈ tier, constant.tier = text) ∧
                ∀ text ∈ category, constant.category.key = text)) ∧
        (∀ terminal arguments text, AsksForList around arguments asked (some text) none →
          ShowsList around terminal arguments (listTitle table) (table.ofTier text)) ∧
        (∀ terminal whole part category, AsksForList around whole asked none category →
          (∀ text ∈ tierNames, AsksForList around (part text) asked (some text) category) →
          CountsAddUp around terminal whole tierNames part) ∧
        ∀ terminal whole part tier, AsksForList around whole asked tier none →
          (∀ text ∈ categoryNames, AsksForList around (part text) asked tier (some text)) →
          CountsAddUp around terminal whole categoryNames part) := by
  refine ⟨?_, ?_, ?_⟩
  · intro family source tiers table htable hdistinct
    have hnodup : ((Tier.active family tiers).map (·.name)).Nodup :=
      hdistinct.sublist (List.filter_sublist.map _)
    exact ⟨Table.flatMap_ofTier htable hnodup, fun tier => Table.map_name_ofTier htable hnodup,
      fun text => Table.ofTier_of_notMem htable⟩
  · intro around verbose quiet family tier category hlevel
    exact asksForList_filterArguments hlevel verbose quiet family
  · intro around asked family hfamily
    obtain ⟨table, htable⟩ := Resolver.exists_build_catalog family (around.source family)
    have hbuild : (around.build asked none).result = .ok table :=
      Surroundings.result_build_none_eq_ok_iff.mpr ⟨family, hfamily, htable⟩
    refine ⟨table, hbuild, Table.family_of_build htable, ?_, ?_, ?_, ?_⟩
    · intro terminal arguments tier category h
      exact h.showsList hbuild terminal
    · intro terminal arguments text h
      exact selected_tier table text ▸ h.showsList hbuild terminal
    · intro terminal whole part category hwhole hpart
      exact countsAddUp_tiers hbuild hwhole hpart terminal
    · intro terminal whole part tier hwhole hpart
      exact countsAddUp_categories hbuild hwhole hpart terminal

/-- A call for a list of the Linux constants, with a switch and with filters. -/
def linuxList (tier category : Option String) : List String :=
  optionArguments false true (some .linux) ++ Verb.list.name :: filterArguments tier category

theorem filters_partition_list_of_reference :
    ∃ table, (Surroundings.build { host := .reference } (some .linux) none).result = .ok table ∧
      table.ofTier "darwin-errno" = [] ∧
      ShowsList { host := .reference } .plain (linuxList (some "linux-socket") (some "socket"))
        (listTitle table)
        (table.constants.filter fun constant =>
          (∀ text ∈ some "linux-socket", constant.tier = text) ∧
            ∀ text ∈ some "socket", constant.category.key = text) ∧
      CountsAddUp { host := .reference } .plain (linuxList none none) tierNames
        (fun text => linuxList (some text) none) := by
  obtain ⟨htiers, hasks, hlists⟩ := filters_partition_list
  have hlevel : ∃ level,
      ({ host := .reference } : Surroundings).settings.logThreshold = .ok level :=
    ⟨.warning, by decide +kernel⟩
  obtain ⟨table, hbuild, -, hshown, -, hcounts, -⟩ :=
    hlists { host := .reference } (some .linux) .linux rfl
  obtain ⟨-, -, hother⟩ := htiers .linux (Surroundings.source { host := .reference } .linux)
    Tier.catalog table hbuild (by decide +kernel)
  refine ⟨table, hbuild, hother _ (by decide +kernel), ?_, ?_⟩
  · exact hshown _ _ _ _ (hasks _ false true (some .linux) _ _ hlevel (by decide +kernel)
      (by decide +kernel))
  · refine hcounts _ _ _ none (hasks _ false true (some .linux) none none hlevel
      (fun _ => nofun) fun _ => nofun) ?_
    intro text htext
    exact hasks _ false true (some .linux) (some text) none hlevel
      (fun _ heq => Option.some.inj heq ▸ htext) fun _ => nofun

end Program

end HeaderConstants
