import HeaderConstants.Doctor
import HeaderConstants.Listing

namespace HeaderConstants

open Text

/-- What is shown for a list of constants: a title, a row for each constant, and their number. -/
inductive Listing.Shows (title : String) (constants : List Constant) :
    Terminal → List Event → Prop
  | plain :
      Shows title constants .plain
        ([.stderr ("\n" ++ title ++ "\n"), .stderr (rule 64 '-' ++ "\n")] ++
          constants.map (fun constant =>
            .stderr (padRight 20 constant.name ++ " " ++
              padRight 22 (formatValue constant.value) ++ " " ++ constant.tier ++ "\n")) ++
          [.stderr (decimal constants.length ++ " constant(s)\n")])
  | styled (grid : Grid) (htitle : grid.title = title)
      (hheaders : grid.columns.map (·.header) = ["Name", "Value", "Tier"])
      (hrows : grid.rows = constants.map fun constant =>
        [constant.name, formatValue constant.value, constant.tier]) :
      Shows title constants .styled
        [.styled [.grid grid],
         .styled [.markup ("[dim]" ++ decimal constants.length ++ " constant(s)[/dim]")]]

theorem Listing.shows_showConstants (terminal : Terminal) (title : String)
    (constants : List Constant) :
    Shows title constants terminal (showConstants terminal title constants) := by
  cases terminal with
  | plain =>
      have hshows : Shows title constants .plain _ := .plain
      simpa [showConstants, constantLine, count, Event.errorLine, String.append_assoc] using hshows
  | styled =>
      have hshows : Shows title constants .styled _ :=
        .styled (constantGrid title constants) rfl rfl rfl
      simpa [showConstants, count, Terminal.print, String.append_assoc] using hshows

namespace Doctor

/-- What is shown for a report: a heading and a row for each check. Where there are no styles, only
the word that counts is shown of a status. -/
inductive Shows (rows : List Row) : Terminal → List Event → Prop
  | plain :
      Shows rows .plain
        ([.stderr "\nplatconst doctor\n", .stderr (rule 64 '=' ++ "\n"),
          .stderr (padRight 12 "Component" ++ " " ++ padRight 40 "Value" ++ " " ++
            padRight 8 "Status" ++ "\n"),
          .stderr (rule 64 '-' ++ "\n")] ++
          rows.map (fun row =>
            .stderr (padRight 12 row.label ++ " " ++ padRight 40 row.value ++ " " ++
              padRight 8 (plainStatus row.status) ++ "\n")) ++
          [.stderr "\n"])
  | styled (grid : Grid) (htitle : grid.title = "platconst doctor")
      (hheaders : grid.columns.map (·.header) = ["Component", "Value", "Status"])
      (hrows : grid.rows = rows.map fun row => [row.label, row.value, row.status]) :
      Shows rows .styled [.styled [], .styled [.grid grid], .styled []]

/-- What is shown for the values of a machine that differ from the snapshot: a heading, and a line
for each name with both values. -/
inductive Differences (found : List Mismatch) : Terminal → List Event → Prop
  | plain :
      Differences found .plain
        ([.stderr "Host values differ from the bundled snapshot (host values are used):\n"] ++
          found.map (fun item =>
            .stderr ("  " ++ item.name ++ " host=" ++ decimal item.value ++ " snapshot=" ++
              decimal item.reference ++ "\n")) ++
          [.stderr "\n"])
  | styled :
      Differences found .styled
        ([.styled [.markup ("[yellow]Host values differ from the bundled snapshot " ++
            "(host values are used):[/yellow]")]] ++
          found.map (fun item =>
            .styled [.markup ("  [bold]" ++ item.name ++ "[/bold] host=" ++ decimal item.value ++
              " snapshot=" ++ decimal item.reference)]) ++
          [.styled []])

/-- The last words of a report. -/
inductive Concludes (failed : Bool) : Terminal → Event → Prop
  | plain :
      Concludes failed .plain
        (.stderr (if failed then "Some checks failed.\n" else "All checks passed.\n"))
  | styled :
      Concludes failed .styled
        (.styled [.markup
          (if failed then "[bold red]Some checks failed.[/bold red]"
           else "[bold green]All checks passed.[/bold green]")])

theorem shows_report (terminal : Terminal) (rows : List Row) :
    Shows rows terminal (report terminal rows) := by
  cases terminal with
  | plain =>
      have hshows : Shows rows .plain _ := .plain
      simpa [report, plainReport, rowLine, line, title, Program.name, Event.errorLine,
        String.append_assoc] using hshows
  | styled =>
      have htitle : title = "platconst doctor" := by decide +kernel
      exact .styled (reportGrid rows) htitle rfl rfl

theorem differences_showMismatches (terminal : Terminal) (found : List Mismatch) :
    Differences found terminal (showMismatches terminal found) := by
  cases terminal with
  | plain =>
      have hline (item : Mismatch) : "  " ++ item.name ++ " " ++ mismatchValues item ++ "\n" =
          "  " ++ item.name ++ " host=" ++ decimal item.value ++ " snapshot=" ++
            decimal item.reference ++ "\n" := by
        rw [← String.toList_inj]
        simp [mismatchValues]
      simp only [showMismatches, Event.errorLine, hline]
      exact .plain
  | styled =>
      have hline (item : Mismatch) :
          "  [bold]" ++ item.name ++ "[/bold] " ++ mismatchValues item =
            "  [bold]" ++ item.name ++ "[/bold] host=" ++ decimal item.value ++ " snapshot=" ++
              decimal item.reference := by
        rw [← String.toList_inj]
        simp [mismatchValues]
      simp only [showMismatches, Terminal.print, List.map_cons, List.map_nil, hline]
      exact .styled

theorem concludes_closing (terminal : Terminal) (failed : Bool) :
    Concludes failed terminal (closing terminal failed) := by
  cases terminal with
  | plain =>
      cases failed with
      | true => exact .plain
      | false => exact .plain
  | styled =>
      cases failed with
      | true => exact .styled
      | false => exact .styled

end Doctor

end HeaderConstants
