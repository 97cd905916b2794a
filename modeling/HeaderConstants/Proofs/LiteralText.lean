import HeaderConstants.Host.Reference
import HeaderConstants.Proofs.FamilyChoice
import HeaderConstants.Proofs.MarkupSpans
import HeaderConstants.Program

namespace HeaderConstants

namespace Text

/-- The name of a style, as it stands in the tag that opens it and in the one that ends it. -/
structure IsStyleName (style : String) : Prop where
  opens : IsStyle style.toList
  closes : IsStyle ("/" ++ style).toList

theorem isStyleName_yellow : IsStyleName "yellow" := ⟨by decide, by decide⟩

theorem isStyleName_boldRed : IsStyleName "bold red" := ⟨by decide, by decide⟩

section Tags

variable {style label : String}

theorem spansAfter_style {style : List Char} (h : IsStyle style) (rest : List Char) :
    spansAfter 0 ('[' :: (style ++ ']' :: rest)) =
      .tag (String.ofList style) :: spansAfter 0 rest := by
  rw [spansAfter_tag h]
  rfl

/-- The spans of a label, in a style that ends behind it. -/
def labelSpans (style label : String) : List Span :=
  .tag style :: literalSpans label.toList ++ [.tag ("/" ++ style)]

theorem spans_label (hstyle : IsStyleName style) (hlabel : '[' ∉ label.toList)
    (hend : label.toList.getLast? ≠ some '\\') (rest : String) :
    spans ("[" ++ style ++ "]" ++ label ++ "[/" ++ style ++ "]" ++ rest) =
      labelSpans style label ++ spans rest := by
  have hchars : ("[" ++ style ++ "]" ++ label ++ "[/" ++ style ++ "]" ++ rest).toList =
      '[' :: (style.toList ++ ']' ::
        (label.toList ++ '[' :: (("/" ++ style).toList ++ ']' :: rest.toList))) := by
    simp
  rw [spans, hchars, spansAfter_style hstyle.opens, spansAfter_plain hlabel 0 hend,
    spansAfter_style hstyle.closes]
  simp [labelSpans, spans]

theorem spans_plain_append {s : String} (hs : '[' ∉ s.toList)
    (hend : s.toList.getLast? ≠ some '\\') (rest : String) :
    spans (s ++ rest) = literalSpans s.toList ++ spans rest := by
  rw [spans, String.toList_append, spansAfter_plain hs 0 hend]
  rfl

theorem spans_escapeMarkup (s : String) :
    spans (escapeMarkup s) = literalSpans (closeMarkup s.toList) := by
  rw [spans, toList_escapeMarkup, closeMarkup_escapeTags, spansAfter_escapeTags]

end Tags

section Message

variable {markup message : String} {before : List Span}

/-- A message is what markup ends with. It shows literally, unless it ends in a single backslash:
that one shows twice. -/
structure ShowsLast (markup : String) (before : List Span) (message : String) : Prop where
  literal : endRun message.toList ≠ 1 → spans markup = before ++ literalSpans message.toList
  doubled : endRun message.toList = 1 →
    spans markup = before ++ literalSpans (message ++ "\\").toList

theorem ShowsLast.of_spans_eq (h : spans markup = before ++ spans (escapeMarkup message)) :
    ShowsLast markup before message := by
  rw [spans_escapeMarkup, closeMarkup_eq] at h
  constructor
  · intro hrun
    rw [h, if_neg hrun]
  · intro hrun
    rw [h, if_pos hrun, String.toList_append]
    rfl

end Message

section Name

variable {name style rest : String}

theorem spans_name (hstyle : IsStyleName style) {body : List Char}
    (hbody : body.getLast? ≠ some '\\') {run : Nat}
    (hname : name.toList = body ++ List.replicate run '\\') (rest : String) :
    spans ("[" ++ style ++ "]" ++ escapeMarkup name ++ "[/" ++ style ++ "]" ++ rest) =
      .tag style :: literalSpans (body ++ List.replicate (closedRun run / 2) '\\') ++
        (if closedRun run % 2 = 1 then literalSpans ("[/" ++ style ++ "]").toList
         else [.tag ("/" ++ style)]) ++ spans rest := by
  have hchars : ("[" ++ style ++ "]" ++ escapeMarkup name ++ "[/" ++ style ++ "]" ++ rest).toList =
      '[' :: (style.toList ++ ']' :: (closeMarkup (escapeTags name.toList) ++
        '[' :: (("/" ++ style).toList ++ ']' :: rest.toList))) := by
    simp [toList_escapeMarkup]
  have hapart : Apart ('[' :: (("/" ++ style).toList ++ ']' :: rest.toList)) := by
    rw [Apart, List.find?_cons_of_pos (by decide)]
    decide
  rw [spans, hchars, spansAfter_style hstyle.opens, hname,
    spansAfter_escapeMarkup hbody hapart, spansAfter_tag hstyle.closes]
  simp [spans, literalSpans]

theorem spans_name_of_endRun_le (hstyle : IsStyleName style) (h : endRun name.toList ≤ 1)
    (rest : String) :
    spans ("[" ++ style ++ "]" ++ escapeMarkup name ++ "[/" ++ style ++ "]" ++ rest) =
      labelSpans style name ++ spans rest := by
  obtain ⟨body, hbody, hname⟩ := exists_eq_append_run name.toList
  have hrun : closedRun (endRun name.toList) / 2 = endRun name.toList ∧
      closedRun (endRun name.toList) % 2 = 0 := by
    rw [closedRun]
    split <;> omega
  rw [spans_name hstyle hbody hname, hrun.1, hrun.2, ← hname]
  simp [labelSpans]

/-- More than one backslash at the end of a name: half of them are lost, and where their number is
odd the tag behind the name shows as well. -/
theorem shownText_name_ne (hstyle : IsStyleName style) (h : 1 < endRun name.toList)
    (hrest : spans rest = literalSpans rest.toList)
    (hhead : rest.toList.head? ≠ some '\\') :
    shownText ("[" ++ style ++ "]" ++ escapeMarkup name ++ "[/" ++ style ++ "]" ++ rest) ≠
      name ++ rest := by
  obtain ⟨body, hbody, hname⟩ := exists_eq_append_run name.toList
  generalize endRun name.toList = run at h hname
  intro hshown
  have hclosed : closedRun run = run := by
    rw [closedRun, if_neg (by omega)]
  have hsplit : List.replicate run '\\' =
      List.replicate (run / 2) '\\' ++ '\\' :: List.replicate (run - run / 2 - 1) '\\' := by
    rw [← List.replicate_succ, List.replicate_append_replicate]
    congr 1
    omega
  have hchars : (shownText ("[" ++ style ++ "]" ++ escapeMarkup name ++ "[/" ++ style ++ "]" ++
      rest)).toList = name.toList ++ rest.toList := by
    rw [hshown, String.toList_append]
  rw [shownText, spans_name hstyle hbody hname, hrest, hclosed, String.toList_ofList,
    hname, hsplit] at hchars
  by_cases hodd : run % 2 = 1
  · simp [hodd] at hchars
  · simp [hodd] at hchars
    exact hhead (by rw [hchars]; rfl)

end Name

end Text

namespace Program

open Text

variable {resolver : Resolver} {name other : String}

theorem resolveEvent_styled (h : resolver.resolve name = none) :
    resolveEvent .styled resolver name =
      .styled [.markup ("[" ++ "yellow" ++ "]" ++ escapeMarkup name ++ "[/" ++ "yellow" ++ "]" ++
        (" is not defined for " ++ resolver.family.label ++ "."))] := by
  have hopen : "[yellow]" = "[" ++ "yellow" ++ "]" := by decide +kernel
  have hclose : "[/yellow] is not defined for " =
      "[/" ++ "yellow" ++ "]" ++ " is not defined for " := by
    decide +kernel
  rw [resolveEvent, h]
  simp only [notDefined, hopen, hclose, Terminal.print, Terminal.literal, List.map_cons,
    List.map_nil, String.append_assoc]

theorem spans_familyNote (family : Family) :
    spans (" is not defined for " ++ family.label ++ ".") =
      literalSpans (" is not defined for " ++ family.label ++ ".").toList := by
  cases family <;> decide +kernel

theorem resolveEvent_styled_eq_iff (h : resolver.resolve name = none)
    (hother : resolver.resolve other = none) :
    resolveEvent .styled resolver name = resolveEvent .styled resolver other ↔
      escapeMarkup name = escapeMarkup other := by
  rw [resolveEvent_styled h, resolveEvent_styled hother]
  simp [String.append_assoc]

theorem showsLast_of_label {style label between : String} (hstyle : IsStyleName style)
    (hlabel : '[' ∉ label.toList ∧ label.toList.getLast? ≠ some '\\')
    (hbetween : '[' ∉ between.toList ∧ between.toList.getLast? ≠ some '\\') (message : String) :
    ShowsLast ("[" ++ style ++ "]" ++ label ++ "[/" ++ style ++ "]" ++ between ++
        escapeMarkup message)
      (labelSpans style label ++ literalSpans between.toList) message := by
  apply ShowsLast.of_spans_eq
  rw [String.append_assoc, spans_label hstyle hlabel.1 hlabel.2,
    spans_plain_append hbetween.1 hbetween.2, List.append_assoc]

def errorLabel : List Span := labelSpans "bold red" "Error:" ++ literalSpans [' ']

def hintLabel : List Span := labelSpans "yellow" "Hint:" ++ literalSpans [' ']

def faultLabel (kind : String) : List Span :=
  labelSpans "bold red" "Unexpected error." ++
    literalSpans (" Please report this issue.\n  " ++ kind ++ ": ").toList

theorem error_showsLast (message : String) :
    ShowsLast ("[bold red]Error:[/bold red] " ++ escapeMarkup message) errorLabel message := by
  have htemplate : "[bold red]Error:[/bold red] " =
      "[" ++ "bold red" ++ "]" ++ "Error:" ++ "[/" ++ "bold red" ++ "]" ++ " " := by
    decide +kernel
  rw [htemplate]
  exact showsLast_of_label isStyleName_boldRed (by decide) (by decide) _

theorem hint_showsLast (hint : String) :
    ShowsLast ("[yellow]Hint:[/yellow] " ++ escapeMarkup hint) hintLabel hint := by
  have htemplate : "[yellow]Hint:[/yellow] " =
      "[" ++ "yellow" ++ "]" ++ "Hint:" ++ "[/" ++ "yellow" ++ "]" ++ " " := by
    decide +kernel
  rw [htemplate]
  exact showsLast_of_label isStyleName_yellow (by decide) (by decide) _

theorem faultWords_plain {kind : String} (hkind : '[' ∉ kind.toList) :
    '[' ∉ (" Please report this issue.\n  " ++ kind ++ ": ").toList ∧
      (" Please report this issue.\n  " ++ kind ++ ": ").toList.getLast? ≠ some '\\' := by
  refine ⟨by simp [hkind], ?_⟩
  rw [String.toList_append, List.getLast?_append]
  simp

theorem fault_showsLast {kind : String} (hkind : '[' ∉ kind.toList) (message : String) :
    ShowsLast
      ("[bold red]Unexpected error.[/bold red] Please report this issue.\n  " ++ kind ++ ": " ++
        escapeMarkup message)
      (faultLabel kind) message := by
  have htemplate : "[bold red]Unexpected error.[/bold red] Please report this issue.\n  " =
      "[" ++ "bold red" ++ "]" ++ "Unexpected error." ++ "[/" ++ "bold red" ++ "]" ++
        " Please report this issue.\n  " := by
    decide +kernel
  rw [htemplate]
  simpa only [String.append_assoc, faultLabel] using
    showsLast_of_label isStyleName_boldRed (by decide) (faultWords_plain hkind) message

/-- What a user or a fault says is shown literally in markup, with all tags being the template's own.
The exceptions are a name that ends in more than one backslash, which is not shown as it is, and a
message that ends in just one, which is shown with another one. Two names are told of in the same
markup only if they differ in a second backslash at the end. -/
theorem user_text_shows (resolver : Resolver) (name other : String) (failure : Failure)
    (kind message : String) :
    (resolver.resolve name = none →
      ∃ markup, resolveEvent .styled resolver name = .styled [.markup markup] ∧
        (endRun name.toList ≤ 1 →
          spans markup = labelSpans "yellow" name ++
            literalSpans (" is not defined for " ++ resolver.family.label ++ ".").toList) ∧
        (1 < endRun name.toList →
          shownText markup ≠ name ++ (" is not defined for " ++ resolver.family.label ++ "."))) ∧
    (resolver.resolve name = none → resolver.resolve other = none →
      (resolveEvent .styled resolver name = resolveEvent .styled resolver other ↔
        name = other ∨ endRun name.toList = 1 ∧ other = name ++ "\\" ∨
          endRun other.toList = 1 ∧ name = other ++ "\\")) ∧
    (∃ markup advice,
      (settleInterruption .styled (.failure failure)).1 = .styled [.markup markup] :: advice ∧
        ShowsLast markup errorLabel failure.message ∧
        (failure.hint.getD "" = "" → advice = []) ∧
        ∀ hint, failure.hint = some hint → hint ≠ "" →
          ∃ markup, advice = [.styled [.markup markup]] ∧ ShowsLast markup hintLabel hint) ∧
    ('[' ∉ kind.toList →
      ∃ markup, (settleInterruption .styled (.unexpected kind message)).1 =
          [.styled [.markup markup]] ∧
        ShowsLast markup (faultLabel kind) message) := by
  refine ⟨?_, ?_, ?_, ?_⟩
  · intro hnone
    refine ⟨_, resolveEvent_styled hnone, ?_, ?_⟩
    · intro hrun
      rw [spans_name_of_endRun_le isStyleName_yellow hrun, spans_familyNote]
    · intro hrun
      exact shownText_name_ne isStyleName_yellow hrun (spans_familyNote _) (by simp)
  · intro hname hother
    rw [resolveEvent_styled_eq_iff hname hother, escapeMarkup_eq_iff]
  · refine ⟨_, _, rfl, error_showsLast failure.message, ?_, ?_⟩
    · intro hempty
      have hsilent : failure.hint.filter (· ≠ "") = none := by
        cases hhint : failure.hint with
        | none => rfl
        | some hint =>
            rw [hhint] at hempty
            simpa using hempty
      simp only [hsilent]
    · intro hint hhint hne
      have hshown : failure.hint.filter (· ≠ "") = some hint :=
        Option.filter_eq_some_iff.mpr ⟨hhint, by simpa using hne⟩
      refine ⟨_, ?_, hint_showsLast hint⟩
      simp only [hshown]
      rfl
  · intro hkind
    exact ⟨_, rfl, fault_showsLast hkind message⟩

theorem user_text_shows_of_hostile_text :
    (∃ markup, resolveEvent .styled ⟨⟨.linux, .empty, "", []⟩⟩ "[/x]\\[b\\" =
        .styled [.markup markup] ∧
      spans markup = labelSpans "yellow" "[/x]\\[b\\" ++
        literalSpans " is not defined for Linux.".toList) ∧
    resolveEvent .styled ⟨⟨.linux, .empty, "", []⟩⟩ "[/x]\\[b\\" ≠
      resolveEvent .styled ⟨⟨.linux, .empty, "", []⟩⟩ "[/x]\\[b" ∧
    (∃ markup advice, (settleInterruption .styled (.failure (.unknownFamily "[red]\\"))).1 =
        [.styled [.markup markup], .styled [.markup advice]] ∧
      spans markup = errorLabel ++
        literalSpans (Failure.unknownFamily "[red]\\").message.toList ∧
      spans advice = hintLabel ++
        literalSpans "Choose one of: darwin, generic, linux, macos, posix".toList) ∧
    ∃ markup, (settleInterruption .styled (.unexpected "OSError" "no [file] \\")).1 =
        [.styled [.markup markup]] ∧
      spans markup = faultLabel "OSError" ++ literalSpans "no [file] \\\\".toList := by
  obtain ⟨hname, hpair, hfailure, hfault⟩ := user_text_shows ⟨⟨.linux, .empty, "", []⟩⟩
    "[/x]\\[b\\" "[/x]\\[b" (.unknownFamily "[red]\\") "OSError" "no [file] \\"
  obtain ⟨markup, hevent, hliteral, -⟩ := hname rfl
  obtain ⟨error, _, herror, hmessage, -, hhints⟩ := hfailure
  obtain ⟨advice, rfl, hadvice⟩ := hhints _ rfl (by decide +kernel)
  obtain ⟨fault, hevents, hdoubled⟩ := hfault (by decide)
  refine ⟨⟨markup, hevent, hliteral (by decide)⟩, ?_, ⟨error, advice, herror,
    hmessage.literal (by decide +kernel), ?_⟩, fault, hevents, hdoubled.doubled (by decide)⟩
  · rw [ne_eq, hpair rfl rfl]
    decide
  · exact hadvice.literal (by decide +kernel)

/-- The names of one and of two backslashes are told of in the same markup, and a message that ends
in a backslash shows another one. -/
theorem backslashes_show_otherwise :
    (∃ table, (Surroundings.build { host := .reference } (some .linux) none).result = .ok table ∧
      (Resolver.mk table).resolve "\\" = none ∧ (Resolver.mk table).resolve "\\\\" = none ∧
      resolveEvent .styled ⟨table⟩ "\\" =
        .styled [.markup "[yellow]\\\\[/yellow] is not defined for Linux."] ∧
      resolveEvent .styled ⟨table⟩ "\\\\" =
        .styled [.markup "[yellow]\\\\[/yellow] is not defined for Linux."] ∧
      shownText "[yellow]\\\\[/yellow] is not defined for Linux." =
        "\\ is not defined for Linux.") ∧
    (settleInterruption .styled (.unexpected "OSError" "C:\\")).1 =
      [.styled [.markup ("[bold red]Unexpected error.[/bold red] Please report this issue.\n" ++
        "  OSError: C:\\\\")]] ∧
    shownText ("[bold red]Unexpected error.[/bold red] Please report this issue.\n" ++
        "  OSError: C:\\\\") =
      "Unexpected error. Please report this issue.\n  OSError: C:\\\\" := by
  obtain ⟨table, htable⟩ := Resolver.exists_build_catalog .linux
    (Surroundings.source { host := .reference } .linux)
  have hfamily : (Resolver.mk table).family = .linux := Table.family_of_build htable
  have hnone : ∀ name, '\\' ∈ name.toList → (Resolver.mk table).resolve name = none := by
    intro name hname
    exact Resolver.resolve_eq_none_of_not_isCapital htable fun hcapital =>
      hcapital.notMem (by decide) hname
  have hsingle := hnone "\\" (by decide)
  have hdouble := hnone "\\\\" (by decide)
  refine ⟨⟨table, htable, hsingle, hdouble, ?_, ?_, ?_⟩, ?_, ?_⟩
  · rw [resolveEvent, hsingle, hfamily]
    decide +kernel
  · rw [resolveEvent, hdouble, hfamily]
    decide +kernel
  · decide +kernel
  · decide +kernel
  · decide +kernel

end Program

end HeaderConstants
