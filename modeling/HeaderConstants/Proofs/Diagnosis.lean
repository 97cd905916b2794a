import HeaderConstants.Proofs.Agreement
import HeaderConstants.Proofs.Shown
import HeaderConstants.Proofs.Stages
import HeaderConstants.Proofs.StandardSource
import HeaderConstants.Proofs.Verdicts

namespace HeaderConstants

theorem Table.size_eq_length_constants (table : Table) : table.size = table.constants.length := by
  rw [size, Entries.size, constants, Entries.constants, List.length_map]

/-- A table of a family with a snapshot has a constant for each name that is listed. -/
theorem Surroundings.size_eq {around : Surroundings} {family : Family} {table : Table}
    (h : (around.build (some family) none).result = .ok table) (hsnapshot : family ≠ .generic) :
    table.size = ((Tier.active family Tier.catalog).flatMap (·.names)).length := by
  have hsize := Table.size_add_length_missing (build_some_none around family ▸ h)
  rwa [missing_eq_nil h hsnapshot, List.length_nil, Nat.add_zero] at hsize

namespace Doctor

open Surroundings (Origin)

variable {around : Surroundings} {terminal : Terminal} {logging : Logging}
  {asked : Option Family} {family : Family} {origin : Origin} {table : Table}

theorem selectFamily_eq_ok_iff :
    selectFamily around asked = .ok (family, origin) ↔ around.Decides asked family origin := by
  constructor
  · intro h
    cases asked with
    | some asked =>
        obtain ⟨rfl, rfl⟩ := Prod.mk.inj (Except.ok.inj h)
        exact .commandLine asked
    | none =>
        rw [selectFamily] at h
        cases hoverride : around.settings.familyOverride with
        | error failure =>
            rw [hoverride] at h
            cases h
        | ok found =>
            rw [hoverride] at h
            cases found with
            | some found =>
                obtain ⟨rfl, rfl⟩ := Prod.mk.inj (Except.ok.inj h)
                obtain ⟨text, hset, hblank, hnamed⟩ :=
                  Settings.familyOverride_eq_ok_some_iff.mp hoverride
                exact .environment hset hblank hnamed
            | none =>
                obtain ⟨rfl, rfl⟩ := Prod.mk.inj (Except.ok.inj h)
                exact .detected (Settings.familyOverride_eq_ok_none_iff.mp hoverride)
  · intro h
    cases h with
    | commandLine => rfl
    | environment hset hblank hnamed =>
        rw [selectFamily, Settings.familyOverride_eq_ok_some_iff.mpr ⟨_, hset, hblank, hnamed⟩]
    | detected hunset =>
        rw [selectFamily, Settings.familyOverride_eq_ok_none_iff.mpr hunset]
        rfl

theorem map_fst_selectFamily (around : Surroundings) (asked : Option Family) :
    (selectFamily around asked).map (·.1) = around.chooseFamily asked := by
  cases asked with
  | some family => rfl
  | none =>
      rw [selectFamily, Surroundings.chooseFamily, Surroundings.activeFamily]
      cases around.settings.familyOverride with
      | error failure => rfl
      | ok found => cases found <;> simp only [Except.map, Option.getD_none, Option.getD_some]

/-- The values of the rows with a label. -/
def valuesOf (label : String) (rows : List Row) : List String :=
  (rows.filter (·.label = label)).map (·.value)

/-- Rows that say which family is used and what decided it, and how many constants its table has. -/
structure Describes (around : Surroundings) (asked : Option Family) (origin : Origin)
    (table : Table) (rows : List Row) : Prop where
  built : (around.build asked none).result = .ok table
  family : valuesOf "Family" rows =
    [table.family.label ++ " (" ++
      (match origin with
       | .commandLine => "--family"
       | .environment => "PLATCONST_FAMILY"
       | .detected => "detected") ++ ")"]
  count : valuesOf "Table" rows =
    [Text.decimal table.constants.length ++ " constants" ++
      if table.missing = [] then "" else ", " ++ Text.decimal table.missing.length ++ " undefined"]
  decides : around.Decides asked table.family origin

/-- A run that ends by showing a report of these rows, with something behind it. -/
def Reports (terminal : Terminal) (logging : Logging) (run : Run Int) (rows : List Row) : Prop :=
  ∃ shown rest, Shows rows terminal shown ∧ run.EndsWith logging (shown ++ rest)

theorem Reports.preceded {run : Run Int} {rows : List Row}
    (h : Reports terminal logging run rows) (records : List Logging.Record) :
    Reports terminal logging (run.preceded (Run.logEvents logging records)) rows := by
  obtain ⟨shown, rest, hshown, hends⟩ := h
  exact ⟨shown, rest, hshown, hends.preceded records⟩

theorem Reports.exists_line_mem {run : Run Int} {rows : List Row} {label value : String}
    (h : Reports .plain logging run rows) (hvalue : valuesOf label rows = [value]) :
    ∃ status, .stderr (Text.padRight 12 label ++ " " ++ Text.padRight 40 value ++ " " ++
      Text.padRight 8 status ++ "\n") ∈ run.output := by
  obtain ⟨shown, rest, hshown, records, exit, rfl⟩ := h
  have hmem : value ∈ valuesOf label rows := by
    rw [hvalue]
    exact List.mem_singleton_self value
  obtain ⟨row, hfiltered, rfl⟩ := List.mem_map.mp hmem
  obtain ⟨hrow, hlabel⟩ := List.mem_filter.mp hfiltered
  obtain rfl := of_decide_eq_true hlabel
  cases hshown with
  | plain =>
      refine ⟨plainStatus row.status, ?_⟩
      simp only [List.mem_append, List.mem_map]
      exact .inr (.inl (.inl (.inr ⟨row, hrow, rfl⟩)))

theorem label_checkSnapshot (host : Host) (active detected : Family) (machine : String) :
    (checkSnapshot host active detected machine).1.label = "Snapshot" := by
  rw [checkSnapshot]
  split
  · rfl
  · split <;> rfl

theorem label_tableRow (table : Table) : (tableRow table).label = "Table" := by
  rw [tableRow]
  split <;> rfl

section Rows

variable (around : Surroundings) (active : Family) (origin : Origin) (table : Table)

theorem filter_family_checks :
    (checks around active origin table).1.filter (·.label = "Family") =
      [familyRow active around.host.family origin.name] := by
  simp [checks, label_checkSnapshot, label_tableRow, programRow, interpreterRow, systemRow,
    familyRow, Program.name]

theorem filter_table_checks :
    (checks around active origin table).1.filter (·.label = "Table") = [tableRow table] := by
  simp [checks, label_checkSnapshot, label_tableRow, programRow, interpreterRow, systemRow,
    familyRow, Program.name]

theorem filter_snapshot_checks :
    (checks around active origin table).1.filter (·.label = "Snapshot") =
      [(checkSnapshot around.host active around.host.family around.host.machine).1] := by
  simp [checks, label_checkSnapshot, label_tableRow, programRow, interpreterRow, systemRow,
    familyRow, Program.name]

theorem valuesOf_family_checks :
    valuesOf "Family" (checks around active origin table).1 =
      [active.label ++ " (" ++ origin.name ++ ")"] := by
  rw [valuesOf, filter_family_checks]
  rfl

theorem valuesOf_table_checks :
    valuesOf "Table" (checks around active origin table).1 = [(tableRow table).value] := by
  rw [valuesOf, filter_table_checks]
  rfl

end Rows

theorem value_tableRow (table : Table) :
    (tableRow table).value = Text.decimal table.constants.length ++ " constants" ++
      if table.missing = [] then ""
      else ", " ++ Text.decimal table.missing.length ++ " undefined" := by
  rw [tableRow, Table.size_eq_length_constants]
  by_cases hmissing : table.missing = []
  · simp [hmissing]
  · simp only [hmissing, List.isEmpty_iff, if_false, String.append_assoc]

theorem family_eq_of_decides (h : around.Decides asked family origin)
    (hbuild : (around.build asked none).result = .ok table) : table.family = family := by
  obtain ⟨chosen, hchosen, htable⟩ := Surroundings.result_build_none_eq_ok_iff.mp hbuild
  rw [Table.family_of_build htable, Except.ok.inj (hchosen.symm.trans h.chooseFamily_eq)]

theorem describes_checks (h : around.Decides asked family origin)
    (hbuild : (around.build asked none).result = .ok table) :
    Describes around asked origin table (checks around family origin table).1 := by
  obtain rfl := family_eq_of_decides h hbuild
  exact {
    built := hbuild
    family := by
      rw [valuesOf_family_checks]
      cases origin <;> rfl
    count := by rw [valuesOf_table_checks, value_tableRow]
    decides := h }

theorem run_of_decides (h : around.Decides asked family origin)
    (hbuild : (around.build asked none).result = .ok table) (terminal : Terminal)
    (logging : Logging) :
    run around terminal logging asked =
      ⟨Run.logEvents logging (around.build asked none).log ++
        present terminal (checks around family origin table).1
          (checks around family origin table).2,
        .ok (if (checks around family origin table).1.any (·.isFailure) then
          ExitStatus.generalError else ExitStatus.success)⟩ := by
  have hsame := Surroundings.build_some_of_chooseFamily h.chooseFamily_eq
  rw [← hsame] at hbuild ⊢
  exact run_of_ok (selectFamily_eq_ok_iff.mpr h) hbuild

theorem reports_run (h : around.Decides asked family origin)
    (hbuild : (around.build asked none).result = .ok table) (terminal : Terminal)
    (logging : Logging) :
    Reports terminal logging (run around terminal logging asked)
      (checks around family origin table).1 := by
  have hrun := run_of_decides h hbuild terminal logging
  simp only [present, List.append_assoc] at hrun
  exact ⟨_, _, shows_report terminal _, _, _, hrun⟩

theorem result_run_eq_error_iff {interruption : Interruption} :
    (run around terminal logging asked).result = .error interruption ↔
      ∃ failure, interruption = .failure failure ∧
        (around.build asked none).result = .error failure := by
  cases hselect : selectFamily around asked with
  | error failure =>
      have hbuild : (around.build asked none).result = .error failure :=
        Surroundings.result_build_none_eq_error_iff.mpr (selectFamily_eq_error_iff.mp hselect)
      rw [run_of_error hselect, hbuild]
      simp [Run.interrupt, eq_comm]
  | ok selected =>
      have hdecides := selectFamily_eq_ok_iff.mp hselect
      obtain ⟨table, hbuild⟩ := hdecides.exists_build
      rw [run_of_decides hdecides hbuild, hbuild]
      simp

end Doctor

namespace Program

open CommandLine Doctor

variable {around : Surroundings} {terminal : Terminal} {logging : Logging}
  {asked : Option Family} {table : Table}

/-- A run that ends by listing these constants. -/
def Lists (terminal : Terminal) (logging : Logging) (run : Run Int) (constants : List Constant) :
    Prop :=
  ∃ title shown, Listing.Shows title constants terminal shown ∧ run.EndsWith logging shown

theorem Lists.preceded {run : Run Int} {constants : List Constant}
    (h : Lists terminal logging run constants) (records : List Logging.Record) :
    Lists terminal logging (run.preceded (Run.logEvents logging records)) constants := by
  obtain ⟨title, shown, hshown, hends⟩ := h
  exact ⟨title, shown, hshown, hends.preceded records⟩

theorem Lists.count_mem {run : Run Int} {constants : List Constant}
    (h : Lists .plain logging run constants) :
    .stderr (Text.decimal constants.length ++ " constant(s)\n") ∈ run.output := by
  obtain ⟨title, shown, hshown, records, status, rfl⟩ := h
  cases hshown with
  | plain =>
      refine List.mem_append_right _ (List.mem_append_right _ ?_)
      exact List.mem_singleton_self _

theorem lists_runList (h : (around.build asked none).result = .ok table) (terminal : Terminal)
    (logging : Logging) :
    Lists terminal logging (runList around terminal logging asked .absent .absent)
      table.constants := by
  have hall : table.constants.filter (fun constant =>
      OptionText.absent.passes constant.tier && OptionText.absent.passes constant.category.key) =
        table.constants :=
    List.filter_eq_self.mpr fun _ _ => rfl
  have hrun : runList around terminal logging asked .absent .absent = _ :=
    runList_of_ok h .absent .absent
  rw [hall] at hrun
  exact ⟨_, _, Listing.shows_showConstants terminal _ _, _, _, hrun⟩

section Commands

variable {arguments others : List String} {invocation other : Invocation}

/-- A report and a list with the same family option either end for the same reason, or the report
describes the table that is listed. -/
theorem doctor_agrees_with_list (terminal : Terminal) (h : parse arguments = .ok invocation)
    (hother : parse others = .ok other) (hdoctor : invocation.command = some .doctor)
    (hlist : other.command = some (.list .absent .absent))
    (hfamily : other.family = invocation.family) :
    (∃ interruption, (run around terminal arguments).result = .error interruption ∧
      (run around terminal others).result = .error interruption) ∨
    ∃ origin table rows, Describes around invocation.family.family? origin table rows ∧
      (∃ logging, Reports terminal logging (run around terminal arguments) rows) ∧
      ∃ logging, Lists terminal logging (run around terminal others) table.constants := by
  cases hlevel : around.settings.logThreshold with
  | error failure =>
      left
      rw [run_of_level_error h hlevel, run_of_level_error hother hlevel]
      exact ⟨_, rfl, rfl⟩
  | ok level =>
      cases hasked : (familyOption invocation.family).result with
      | error interruption =>
          left
          rw [run_of_family_error h hlevel hdoctor hasked,
            run_of_family_error hother hlevel hlist (hfamily ▸ hasked)]
          exact ⟨_, rfl, rfl⟩
      | ok asked =>
          rw [run_of_family_ok h hlevel hdoctor hasked,
            run_of_family_ok hother hlevel hlist (hfamily ▸ hasked),
            ← eq_family?_of_result_familyOption hasked]
          cases hbuild : (around.build asked none).result with
          | error failure =>
              left
              refine ⟨.failure failure, result_run_eq_error_iff.mpr ⟨failure, rfl, hbuild⟩, ?_⟩
              rw [execute, runList_of_error hbuild]
              rfl
          | ok table =>
              right
              obtain ⟨family, hchoose, -⟩ := Surroundings.result_build_none_eq_ok_iff.mp hbuild
              obtain ⟨origin, hdecides⟩ := Surroundings.chooseFamily_eq_ok_iff.mp hchoose
              exact ⟨origin, table, _, describes_checks hdecides hbuild,
                ⟨_, (reports_run hdecides hbuild terminal _).preceded _⟩,
                _, (lists_runList hbuild terminal _).preceded _⟩

end Commands

/-- A report chooses the family as the other commands do, by what decides it, and fails where they
fail. Otherwise it names the family of the table that they build, with what decided it, and its
count is that of the constants that are listed without filters. -/
theorem doctor_describes_what_is_used (around : Surroundings) (terminal : Terminal) :
    (∀ asked family origin,
      selectFamily around asked = .ok (family, origin) ↔ around.Decides asked family origin) ∧
    (∀ asked, (selectFamily around asked).map (·.1) = around.chooseFamily asked) ∧
    (selectFamily around none).map (·.1) = around.activeFamily ∧
    (∀ logging asked interruption,
      (Doctor.run around terminal logging asked).result = .error interruption ↔
        ∃ failure, interruption = .failure failure ∧
          (around.build asked none).result = .error failure) ∧
    (∀ asked failure, (around.build asked none).result = .error failure ↔
      asked = none ∧ around.activeFamily = .error failure) ∧
    (∀ failure, around.activeFamily = .error failure ↔
      ∃ text, around.settings.RefusesFamily text ∧ failure = .unknownFamily text) ∧
    (∀ logging asked family origin, around.Decides asked family origin →
      ∃ table rows, table.family = family ∧ Describes around asked origin table rows ∧
        Reports terminal logging (Doctor.run around terminal logging asked) rows ∧
        Lists terminal logging (runList around terminal logging asked .absent .absent)
          table.constants) ∧
    ∀ arguments others invocation other, parse arguments = .ok invocation →
      parse others = .ok other → invocation.command = some .doctor →
      other.command = some (.list .absent .absent) → other.family = invocation.family →
      (∃ interruption, (run around terminal arguments).result = .error interruption ∧
        (run around terminal others).result = .error interruption) ∨
      ∃ origin table rows, Describes around invocation.family.family? origin table rows ∧
        (∃ logging, Reports terminal logging (run around terminal arguments) rows) ∧
        ∃ logging, Lists terminal logging (run around terminal others) table.constants := by
  refine ⟨fun _ _ _ => selectFamily_eq_ok_iff, map_fst_selectFamily around,
    map_fst_selectFamily around none, fun _ _ _ => result_run_eq_error_iff,
    fun asked failure => ?_, fun _ => Surroundings.activeFamily_eq_error_iff,
    fun logging asked family origin hdecides => ?_,
    fun _ _ _ _ h hother => doctor_agrees_with_list terminal h hother⟩
  · rw [Surroundings.result_build_none_eq_error_iff, Surroundings.activeFamily_eq_error_iff]
  · obtain ⟨table, hbuild⟩ := hdecides.exists_build
    exact ⟨table, _, family_eq_of_decides hdecides hbuild, describes_checks hdecides hbuild,
      reports_run hdecides hbuild terminal logging, lists_runList hbuild terminal logging⟩

/-- Surroundings in which the environment names a family by its second name. -/
def namedMacos : Surroundings := ⟨.reference, { family := some " macOS" }⟩

/-- Surroundings in which the environment says nothing, and the machine decides. -/
def blank : Surroundings := ⟨.reference, { family := some " " }⟩

theorem decides_namedMacos : namedMacos.Decides none .darwin .environment :=
  .environment rfl (by decide +kernel) (by decide +kernel)

theorem table_namedMacos (h : (namedMacos.build none none).result = .ok table) :
    table.constants.length = 153 ∧ table.missing = [] := by
  have hnames : ((Tier.active .darwin Tier.catalog).flatMap (·.names)).length = 153 := by
    decide +kernel
  have hown := Surroundings.build_some_of_chooseFamily decides_namedMacos.chooseFamily_eq
  rw [← hown] at h
  refine ⟨?_, Surroundings.missing_eq_nil h (by decide)⟩
  rw [← table.size_eq_length_constants, Surroundings.size_eq h (by decide), hnames]

theorem doctor_describes_what_is_used_on_reference :
    (∃ status, .stderr
        ("Family       Darwin/BSD (PLATCONST_FAMILY)            " ++ status ++ "\n") ∈
          (Doctor.run namedMacos .plain .initial none).output) ∧
    (∃ status, .stderr
        ("Family       Generic POSIX (--family)                 " ++ status ++ "\n") ∈
          (Doctor.run namedMacos .plain .initial (some .generic)).output) ∧
    (∃ status, .stderr
        ("Family       Linux (detected)                         " ++ status ++ "\n") ∈
          (Doctor.run blank .plain .initial none).output) ∧
    (∃ status, .stderr
        ("Table        153 constants                            " ++ status ++ "\n") ∈
          (Doctor.run namedMacos .plain .initial none).output) ∧
    .stderr "153 constant(s)\n" ∈
      (runList namedMacos .plain .initial none .absent .absent).output ∧
    ((∃ interruption, (run namedMacos .plain ["doctor"]).result = .error interruption ∧
        (run namedMacos .plain ["-q", "list"]).result = .error interruption) ∨
      ∃ origin table rows, Describes namedMacos none origin table rows ∧
        (∃ logging, Reports .plain logging (run namedMacos .plain ["doctor"]) rows) ∧
        ∃ logging, Lists .plain logging (run namedMacos .plain ["-q", "list"])
          table.constants) := by
  have hparse : parse ["doctor"] = .ok { command := some .doctor } := by
    with_unfolding_all rfl
  have hother : parse ["-q", "list"] =
      .ok { quiet := true, command := some (.list .absent .absent) } := by
    with_unfolding_all rfl
  have hsystem : Family.ofSystem blank.host.system = .linux := by decide +kernel
  have hblank : blank.Decides none .linux .detected := by
    rw [← hsystem]
    exact .detected fun text hset => Option.some.inj hset ▸ by decide +kernel
  have hlabel : Text.padRight 12 "Family" ++ " " = "Family       " := by decide +kernel
  have htable : Text.padRight 12 "Table" ++ " " = "Table        " := by decide +kernel
  have hcount : Text.decimal (153 : Nat) ++ " constants" ++ "" = "153 constants" := by
    decide +kernel
  have hfinal : Text.decimal (153 : Nat) ++ " constant(s)\n" = "153 constant(s)\n" := by
    decide +kernel
  obtain ⟨-, -, -, -, -, -, hreport, hcommands⟩ :=
    doctor_describes_what_is_used namedMacos .plain
  obtain ⟨-, -, -, -, -, -, hreportBlank, -⟩ := doctor_describes_what_is_used blank .plain
  obtain ⟨table, rows, hfamily, hdescribes, hshown, hlisted⟩ :=
    hreport .initial none .darwin .environment decides_namedMacos
  obtain ⟨generic, rowsAsked, hgeneric, hdescribesAsked, hshownAsked, -⟩ :=
    hreport .initial (some .generic) .generic .commandLine (.commandLine .generic)
  obtain ⟨linux, rowsBlank, hlinux, hdescribesBlank, hshownBlank, -⟩ :=
    hreportBlank .initial none .linux .detected hblank
  obtain ⟨hlength, hmissing⟩ := table_namedMacos hdescribes.built
  have hlast := hlisted.count_mem
  rw [hlength, hfinal] at hlast
  refine ⟨?_, ?_, ?_, ?_, hlast, hcommands _ _ _ _ hparse hother rfl rfl rfl⟩
  · obtain ⟨status, hmem⟩ := hshown.exists_line_mem hdescribes.family
    rw [hfamily, hlabel] at hmem
    exact ⟨_, hmem⟩
  · obtain ⟨status, hmem⟩ := hshownAsked.exists_line_mem hdescribesAsked.family
    rw [hgeneric, hlabel] at hmem
    exact ⟨_, hmem⟩
  · obtain ⟨status, hmem⟩ := hshownBlank.exists_line_mem hdescribesBlank.family
    rw [hlinux, hlabel] at hmem
    exact ⟨_, hmem⟩
  · have hvalue := hdescribes.count
    rw [hlength, if_pos hmissing, hcount] at hvalue
    obtain ⟨status, hmem⟩ := hshown.exists_line_mem hvalue
    rw [htable] at hmem
    exact ⟨_, hmem⟩

end Program

end HeaderConstants
