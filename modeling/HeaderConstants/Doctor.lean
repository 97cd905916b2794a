import HeaderConstants.Comparison
import HeaderConstants.ExitStatus
import HeaderConstants.Program.Identity
import HeaderConstants.Run
import HeaderConstants.Surroundings
import HeaderConstants.Text.Numeral

/-!
Diagnostics: what the machine looks like, which family is active and why, how many constants
resolve, and whether the header snapshot agrees with the machine.
-/

namespace HeaderConstants.Doctor

open Surroundings (Origin)

/-- How a check went. -/
inductive Verdict
  | ok
  | warning (note : Option String)
  | failure (note : String)
  deriving DecidableEq

/-- A verdict as a status shows it. -/
def Verdict.markup : Verdict → String
  | .ok => "[green]OK[/green]"
  | .warning none => "[yellow]WARN[/yellow]"
  | .warning (some note) => "[yellow]WARN (" ++ note ++ ")[/yellow]"
  | .failure note => "[red]FAIL (" ++ note ++ ")[/red]"

/-- One line of a report. The status is written in style markup. -/
structure Row where
  label : String
  value : String
  status : String
  deriving DecidableEq

/-- The word of a status that counts: the gravest of the three verdicts that it mentions, or the
whole status if it mentions none. -/
def plainStatus (status : String) : String :=
  if Text.contains status "FAIL" then "FAIL"
  else if Text.contains status "WARN" then "WARN"
  else if Text.contains status "OK" then "OK"
  else status

/-- Whether the status of a row speaks of a failure. -/
def Row.isFailure (row : Row) : Bool := Text.contains row.status "FAIL"

def programRow : Row := ⟨Program.name, Program.version, Verdict.ok.markup⟩

/-- Whether a version number is at least 3.10, by its first two parts. -/
def versionSuffices : List Int → Bool
  | [] => false
  | [major] => 3 < major
  | major :: minor :: _ => 3 < major || major == 3 && 10 ≤ minor

/-- The only row that can fail. -/
def interpreterRow (host : Host) : Row where
  label := "Python"
  value := ".".intercalate (host.version.map Text.decimal)
  status :=
    (if versionSuffices host.version then Verdict.ok
     else Verdict.failure ">=3.10 required").markup

def systemRow (host : Host) : Row where
  label := "OS"
  value := systemTitle host.system ++ " " ++ host.release ++ " (" ++ host.machine ++ ")"
  status := Verdict.ok.markup

/-- The active family and what made it so, with a warning where the machine is of another one. -/
def familyRow (active detected : Family) (origin : String) : Row where
  label := "Family"
  value := active.label ++ " (" ++ origin ++ ")"
  status :=
    (if active = detected then Verdict.ok
     else Verdict.warning (some ("host is " ++ detected.key))).markup

/-- The size of the table, with a warning where names have no value. -/
def tableRow (table : Table) : Row :=
  let value := Text.decimal table.size ++ " constants"
  if table.missing.isEmpty then ⟨"Table", value, Verdict.ok.markup⟩
  else
    ⟨"Table", value ++ ", " ++ Text.decimal table.missing.length ++ " undefined",
      (Verdict.warning none).markup⟩

/-- The row for a comparison of the machine with the snapshot. A value that differs is worth a
warning, and so is a name that only the snapshot defines where the snapshot does not cover the
machine. -/
def comparisonRow (family : Family) (machine : String) (comparison : Comparison) : Row :=
  let alone := comparison.onlyInReference.length
  let uncovered := alone ≠ 0 ∧ ¬ Snapshot.covers family machine
  let parts :=
    [Text.decimal comparison.compared ++ " compared"] ++
    (if alone = 0 then [] else [Text.decimal alone ++ " from snapshot only"]) ++
    (if uncovered then
      ["snapshot not valid for " ++ (if machine = "" then "unknown machine" else machine)]
     else []) ++
    (if comparison.agrees then [] else [Text.decimal comparison.mismatches.length ++ " differ"])
  ⟨"Snapshot", Text.commaSeparated parts,
    (if uncovered ∨ ¬ comparison.agrees then Verdict.warning none else Verdict.ok).markup⟩

/-- Compares the snapshot of the active family with the machine, where the family has a snapshot
and is that of the machine. -/
def checkSnapshot (host : Host) (active detected : Family) (machine : String) :
    Row × Option Comparison :=
  if !Snapshot.isAvailable active then
    (⟨"Snapshot", "none for this family", Verdict.ok.markup⟩, none)
  else if active ≠ detected then
    (⟨"Snapshot", "skipped (not the host family)", Verdict.ok.markup⟩, none)
  else
    let comparison :=
      Comparison.ofSources active (.ofExports host.exports) (.snapshot active)
    (comparisonRow active machine comparison, some comparison)

def line (label value status : String) : String :=
  Text.padRight 12 label ++ " " ++ Text.padRight 40 value ++ " " ++ Text.padRight 8 status

def rowLine (row : Row) : String := line row.label row.value (plainStatus row.status)

def title : String := Program.name ++ " doctor"

/-- A report as a terminal with styles draws it. -/
def reportGrid (rows : List Row) : Grid where
  title := title
  columns :=
    [{ header := "Component", style := "bold", minWidth := some 12 },
     { header := "Value", minWidth := some 20 },
     { header := "Status", justify := .center, minWidth := some 8 }]
  rows := rows.map fun row => [row.label, row.value, row.status]

/-- A report as lines of text. -/
def plainReport (rows : List Row) : List Event :=
  [.errorLine ("\n" ++ title), .errorLine (Text.rule 64 '='),
   .errorLine (line "Component" "Value" "Status"), .errorLine (Text.rule 64 '-')] ++
  rows.map (fun row => .errorLine (rowLine row)) ++ [.errorLine ""]

def report (terminal : Terminal) (rows : List Row) : List Event :=
  match terminal with
  | .plain => plainReport rows
  | .styled => [.styled [], .styled [.grid (reportGrid rows)], .styled []]

def mismatchHeader : String :=
  "Host values differ from the bundled snapshot (host values are used):"

def mismatchValues (item : Mismatch) : String :=
  "host=" ++ Text.decimal item.value ++ " snapshot=" ++ Text.decimal item.reference

/-- The values of the machine that differ from the snapshot. -/
def showMismatches (terminal : Terminal) (mismatches : List Mismatch) : List Event :=
  match terminal with
  | .plain =>
    [.errorLine mismatchHeader] ++
      mismatches.map (fun item =>
        .errorLine ("  " ++ item.name ++ " " ++ mismatchValues item)) ++
      [.errorLine ""]
  | .styled =>
    [terminal.print ["[yellow]" ++ mismatchHeader ++ "[/yellow]"]] ++
      mismatches.map (fun item =>
        terminal.print ["  [bold]" ++ item.name ++ "[/bold] " ++ mismatchValues item]) ++
      [terminal.print []]

/-- The last line of a report. -/
def closing (terminal : Terminal) (failed : Bool) : Event :=
  let text := if failed then "Some checks failed." else "All checks passed."
  match terminal with
  | .plain => .errorLine text
  | .styled =>
    let style := if failed then "bold red" else "bold green"
    terminal.print ["[" ++ style ++ "]" ++ text ++ "[/" ++ style ++ "]"]

/-- The active family and what made it so: the command line before the environment, and the
environment before the machine. -/
def selectFamily (around : Surroundings) (asked : Option Family) :
    Except Failure (Family × Origin) :=
  match asked with
  | some family => .ok (family, .commandLine)
  | none =>
    match around.settings.familyOverride with
    | .error failure => .error failure
    | .ok (some family) => .ok (family, .environment)
    | .ok none => .ok (around.host.family, .detected)

/-- All checks, in the order of the report, and the comparison if there was one. -/
def checks (around : Surroundings) (active : Family) (origin : Origin) (table : Table) :
    List Row × Option Comparison :=
  let detected := around.host.family
  let snapshot := checkSnapshot around.host active detected around.host.machine
  ([programRow, interpreterRow around.host, systemRow around.host,
    familyRow active detected origin.name, tableRow table, snapshot.1], snapshot.2)

/-- A report with the values that differ, if there are any, and its last line. -/
def present (terminal : Terminal) (rows : List Row) (comparison : Option Comparison) :
    List Event :=
  report terminal rows ++
    (match comparison with
     | some found => if found.agrees then [] else showMismatches terminal found.mismatches
     | none => []) ++
    [closing terminal (rows.any (·.isFailure))]

/-- Runs all checks and shows the report. The exit status tells whether one of them failed. -/
def run (around : Surroundings) (terminal : Terminal) (logging : Logging)
    (asked : Option Family) : Run Int := do
  let selected ← Run.ofExcept (selectFamily around asked)
  let table ← Run.ofOutcome logging (around.build (some selected.1) none)
  let found := checks around selected.1 selected.2 table
  Run.write (present terminal found.1 found.2)
  return if found.1.any (·.isFailure) then ExitStatus.generalError else ExitStatus.success

end HeaderConstants.Doctor
