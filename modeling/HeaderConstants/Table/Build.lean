import HeaderConstants.Logging
import HeaderConstants.Source
import HeaderConstants.Table
import HeaderConstants.Tier.Catalog

/-!
The table of a family is filled by a scan over the names of its tiers. A name that was found
before, or that its tier lists twice, stops the scan. What was logged until then stays.
-/

namespace HeaderConstants.Table

/-- A table under construction, with the log records made so far. -/
structure Draft where
  entries : Entries := .empty
  missing : List String := []
  log : List Logging.Record := []

/-- A record of a build. -/
def note (message : String) : Logging.Record where
  logger := Logging.loggerName "core.table"
  severity := Logging.Level.debug.severity
  message := message

namespace Draft

/-- Looks up one name of a tier, of which the names in `seen` came before. -/
def enter (source : Source) (tier : Tier) (seen : List String) (name : String) (draft : Draft) :
    Except Failure Draft :=
  if seen.contains name then .error (.duplicate name tier.name tier.name)
  else
    match draft.entries.find? name with
    | some found => .error (.duplicate name found.tier tier.name)
    | none =>
      match source.lookup tier.category name with
      | none => .ok { draft with missing := draft.missing ++ [name] }
      | some value =>
        .ok { draft with
          entries := draft.entries.insert name ⟨name, value, tier.name, tier.category⟩ }

/-- Looks up the names of a tier one by one. -/
def enterAll (source : Source) (tier : Tier) (seen : List String) :
    List String → Draft → Except Failure Draft
  | [], draft => .ok draft
  | name :: rest, draft =>
    match draft.enter source tier seen name with
    | .error failure => .error failure
    | .ok draft => draft.enterAll source tier (seen ++ [name]) rest

/-- The number of entries so far that carry a tier's name. -/
def contribution (draft : Draft) (tier : Tier) : Nat :=
  (draft.entries.constants.filter (·.tier == tier.name)).length

/-- The record about a tier. It counts entries by the name of the tier. -/
def contributionNote (draft : Draft) (tier : Tier) : Logging.Record :=
  note ("tier " ++ tier.name ++ " contributed " ++ Text.decimal (draft.contribution tier) ++
    " of " ++ Text.decimal tier.size ++ " names")

/-- All names of a tier, and the record about it. -/
def addTier (source : Source) (tier : Tier) (draft : Draft) : Except Failure Draft :=
  match draft.enterAll source tier [] tier.names with
  | .error failure => .error failure
  | .ok draft => .ok { draft with log := draft.log ++ [draft.contributionNote tier] }

/-- The records that close a scan: what the source lacks, if anything, and the size. -/
def closingNotes (draft : Draft) (family : Family) (source : Source) : List Logging.Record :=
  (if draft.missing.isEmpty then []
   else
    [note (source.description ++ " does not define " ++ Text.decimal draft.missing.length ++
      " name(s) for " ++ family.key ++ ": " ++ Text.commaSeparated draft.missing)]) ++
  [note ("built " ++ family.key ++ " table with " ++ Text.decimal draft.entries.size ++
    " entries from " ++ source.description)]

def toTable (draft : Draft) (family : Family) (source : Source) : Table where
  family := family
  entries := draft.entries
  description := source.description
  missing := draft.missing

end Draft

/-- The end of a scan: its log records, and the table unless the scan was stopped. -/
structure Outcome where
  log : List Logging.Record
  result : Except Failure Table

namespace Draft

/-- The end of a scan that went through. -/
def finish (draft : Draft) (family : Family) (source : Source) : Outcome where
  log := draft.log ++ draft.closingNotes family source
  result := .ok (draft.toTable family source)

/-- Adds tiers one by one. The tier that stops the scan leaves no record. -/
def scan (family : Family) (source : Source) : List Tier → Draft → Outcome
  | [], draft => draft.finish family source
  | tier :: rest, draft =>
    match draft.addTier source tier with
    | .error failure => ⟨draft.log, .error failure⟩
    | .ok draft => draft.scan family source rest

end Draft

/-- The table of `family` with the values of `source`, over those of `tiers` that apply. -/
def build (family : Family) (source : Source) (tiers : List Tier) : Outcome :=
  ({} : Draft).scan family source (Tier.active family tiers)

namespace Draft

theorem enter_of_mem {source : Source} {tier : Tier} {seen : List String} {name : String}
    (h : name ∈ seen) (draft : Draft) :
    draft.enter source tier seen name = .error (.duplicate name tier.name tier.name) := by
  simp [enter, h]

theorem enter_of_find?_some {source : Source} {tier : Tier} {seen : List String} {name : String}
    {draft : Draft} {found : Constant} (hseen : name ∉ seen)
    (h : draft.entries.find? name = some found) :
    draft.enter source tier seen name = .error (.duplicate name found.tier tier.name) := by
  simp [enter, hseen, h]

theorem enter_of_lookup_none {source : Source} {tier : Tier} {seen : List String} {name : String}
    {draft : Draft} (hseen : name ∉ seen) (hnew : draft.entries.find? name = none)
    (h : source.lookup tier.category name = none) :
    draft.enter source tier seen name =
      .ok { draft with missing := draft.missing ++ [name] } := by
  simp [enter, hseen, hnew, h]

theorem enter_of_lookup_some {source : Source} {tier : Tier} {seen : List String} {name : String}
    {draft : Draft} {value : Int} (hseen : name ∉ seen)
    (hnew : draft.entries.find? name = none)
    (h : source.lookup tier.category name = some value) :
    draft.enter source tier seen name =
      .ok { draft with
        entries := draft.entries.insert name ⟨name, value, tier.name, tier.category⟩ } := by
  simp [enter, hseen, hnew, h]

end Draft

end HeaderConstants.Table
