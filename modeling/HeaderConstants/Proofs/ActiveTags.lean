import HeaderConstants.Proofs.EscapedTags
import HeaderConstants.Proofs.LiteralText
import Mathlib.Data.List.Forall2

namespace HeaderConstants

namespace Text

/-- A text in a style of its own at the beginning of markup, behind `lead`. -/
structure Heading where
  lead : String := ""
  style : String
  text : String

namespace Heading

/-- A heading up to its closing tag. -/
def opening (heading : Heading) : String :=
  heading.lead ++ "[" ++ heading.style ++ "]" ++ heading.text

def markup (heading : Heading) : String := heading.opening ++ "[/" ++ heading.style ++ "]"

/-- The tags of the markup that are in effect are the two of the heading at its beginning. -/
def HoldsActiveTags (heading : Heading) (markup : String) : Prop :=
  ∀ before style, HasActiveTag markup.toList before style ↔
    before = heading.lead.toList ∧ style = heading.style.toList ∨
      before = heading.opening.toList ∧ style = ("/" ++ heading.style).toList

/-- The parts of a heading hold no markup of their own. -/
structure IsPlain (heading : Heading) : Prop where
  style : IsStyleName heading.style
  lead : '[' ∉ heading.lead.toList ∧ heading.lead.toList.getLast? ≠ some '\\'
  text : '[' ∉ heading.text.toList ∧ heading.text.toList.getLast? ≠ some '\\'

theorem holdsActiveTags {heading : Heading} (h : heading.IsPlain) (rest : String)
    (hrest : AllEscaped rest.toList) : heading.HoldsActiveTags (heading.markup ++ rest) := by
  have hchars : (heading.markup ++ rest).toList = heading.lead.toList ++
      '[' :: (heading.style.toList ++ ']' :: (heading.text.toList ++
        '[' :: (("/" ++ heading.style).toList ++ ']' :: rest.toList))) := by
    simp [markup, opening]
  intro before style
  rw [hchars, hasActiveTag_append_iff h.lead.1 h.lead.2]
  simp only [hasActiveTag_tag_iff h.style.opens, hasActiveTag_append_iff h.text.1 h.text.2,
    hasActiveTag_tag_iff h.style.closes, allEscaped_iff.mp hrest]
  have hopening : heading.opening.toList = heading.lead.toList ++
      '[' :: (heading.style.toList ++ ']' :: heading.text.toList) := by
    simp [opening]
  rw [hopening]
  constructor
  · rintro ⟨_, rfl, ⟨rfl, hstyle⟩ | ⟨_, rfl, _, rfl, ⟨rfl, hstyle⟩ | ⟨_, -, hfalse⟩⟩⟩
    · exact .inl ⟨by simp, hstyle⟩
    · exact .inr ⟨by simp, hstyle⟩
    · exact hfalse.elim
  · rintro (⟨rfl, hstyle⟩ | ⟨rfl, hstyle⟩)
    · exact ⟨[], by simp, .inl ⟨rfl, hstyle⟩⟩
    · exact ⟨_, rfl, .inr ⟨_, rfl, [], by simp, .inl ⟨rfl, hstyle⟩⟩⟩

end Heading

end Text

namespace Program

open Text

def errorHeading : Heading := { style := "bold red", text := "Error:" }

def hintHeading : Heading := { style := "yellow", text := "Hint:" }

def abortHeading : Heading := { lead := "\n", style := "yellow", text := "Aborted by user." }

def faultHeading : Heading := { style := "bold red", text := "Unexpected error." }

theorem isPlain_errorHeading : errorHeading.IsPlain := ⟨isStyleName_boldRed, by decide, by decide⟩

theorem isPlain_hintHeading : hintHeading.IsPlain := ⟨isStyleName_yellow, by decide, by decide⟩

theorem isPlain_abortHeading : abortHeading.IsPlain := ⟨isStyleName_yellow, by decide, by decide⟩

theorem isPlain_faultHeading : faultHeading.IsPlain := ⟨isStyleName_boldRed, by decide, by decide⟩

/-- The headings of what is shown for an interruption, one for each text. -/
def headings : Interruption → List Heading
  | .failure failure => errorHeading :: if failure.hint.getD "" = "" then [] else [hintHeading]
  | .byUser => [abortHeading]
  | .unexpected .. => [faultHeading]
  | .exit _ => []

/-- An event shows one piece of markup, with the heading at its beginning and no other tag in
effect. -/
def HoldsHeading (event : Event) (heading : Heading) : Prop :=
  ∃ markup, event = .styled [.markup markup] ∧ heading.HoldsActiveTags markup

theorem holdsActiveTags_message {heading : Heading} (h : heading.IsPlain) (between : String)
    (hbetween : '[' ∉ between.toList ∧ between.toList.getLast? ≠ some '\\') (message : String) :
    heading.HoldsActiveTags (heading.markup ++ between ++ escapeMarkup message) := by
  rw [String.append_assoc]
  apply Heading.holdsActiveTags h
  rw [String.toList_append, allEscaped_iff]
  intro before style htag
  obtain ⟨b, -, htag⟩ := (hasActiveTag_append_iff hbetween.1 hbetween.2).mp htag
  exact allEscaped_iff.mp (allEscaped_escapeMarkup message) b style htag

theorem failureEvents_holdActiveTags (failure : Failure) :
    List.Forall₂ HoldsHeading (settleInterruption .styled (.failure failure)).1
      (headings (.failure failure)) := by
  refine .cons ⟨_, rfl, ?_⟩ ?_
  · exact holdsActiveTags_message isPlain_errorHeading " " (by decide) _
  · cases hhint : failure.hint with
    | none => simp
    | some hint =>
        by_cases hempty : hint = ""
        · subst hempty
          exact .nil
        · have hshown : (some hint).filter (· ≠ "") = some hint := by
            simpa using hempty
          simp only [hshown, Option.getD_some, hempty, if_false]
          refine .cons ⟨_, rfl, ?_⟩ .nil
          exact holdsActiveTags_message isPlain_hintHeading " " (by decide) hint

theorem faultEvents_holdActiveTags {kind : String} (hkind : '[' ∉ kind.toList)
    (message : String) :
    List.Forall₂ HoldsHeading (settleInterruption .styled (.unexpected kind message)).1
      (headings (.unexpected kind message)) := by
  have hholds := holdsActiveTags_message isPlain_faultHeading _ (faultWords_plain hkind) message
  have htemplate : "[bold red]Unexpected error.[/bold red] Please report this issue.\n  " =
      faultHeading.markup ++ " Please report this issue.\n  " := by
    decide +kernel
  refine .cons ⟨_, rfl, ?_⟩ .nil
  rw [htemplate]
  simpa only [String.append_assoc, Terminal.literal] using hholds

theorem faultEvents_tags_before_message (kind message : String) :
    ∃ front, (settleInterruption .styled (.unexpected kind message)).1 =
        [.styled [.markup (front ++ Terminal.styled.literal message)]] ∧
      ∀ before style, HasActiveTag (front ++ Terminal.styled.literal message).toList before style →
        before.length < front.toList.length := by
  refine ⟨_, rfl, fun before style htag => ?_⟩
  rw [String.toList_append] at htag
  refine htag.length_lt (allEscaped_escapeMarkup message) ?_
  rw [String.toList_append, List.getLast?_append_of_ne_nil _ (by decide)]
  decide

/-- Escaping finds the tags from the start of the text on, doubles the backslashes in front of each
and adds one, and doubles a single backslash at the end. Then every tag is behind an odd number of
them, and halving these numbers gives the text back, with the backslash that was added at its end.
So where an interruption is shown, no message and no hint brings a tag into effect: the tags in
effect are those of the headings, if the kind of a fault is a name, which has no brackets. -/
theorem escaping_leaves_no_active_tag (s : String) :
    (∃ t, Resized (2 * · + 1) s.toList t ∧
      (Terminal.styled.literal s).toList = if endRun t = 1 then t ++ ['\\'] else t) ∧
    (∀ before style, HasTag (Terminal.styled.literal s).toList before style →
      endRun before % 2 = 1) ∧
    (∀ t, Resized (· / 2) (Terminal.styled.literal s).toList t ↔
      t = if endRun s.toList = 1 then s.toList ++ ['\\'] else s.toList) ∧
    (∀ interruption : Interruption,
      (∀ kind message, interruption = .unexpected kind message → '[' ∉ kind.toList) →
      List.Forall₂ HoldsHeading (settleInterruption .styled interruption).1
        (headings interruption)) ∧
    ∀ kind message, ∃ front, (settleInterruption .styled (.unexpected kind message)).1 =
        [.styled [.markup (front ++ Terminal.styled.literal message)]] ∧
      ∀ before style, HasActiveTag (front ++ Terminal.styled.literal message).toList before style →
        before.length < front.toList.length := by
  have hliteral : (Terminal.styled.literal s).toList = closeMarkup (escapeTags s.toList) :=
    toList_escapeMarkup s
  have hhalf := resized_half_escapeTags (closeMarkup s.toList)
  rw [← closeMarkup_escapeTags, ← hliteral, closeMarkup_eq] at hhalf
  refine ⟨⟨escapeTags s.toList, resized_escapeTags _, ?_⟩, allEscaped_escapeMarkup s, ?_, ?_,
    faultEvents_tags_before_message⟩
  · rw [hliteral, closeMarkup_eq]
  · intro t
    constructor
    · intro h
      exact h.unique hhalf
    · rintro rfl
      exact hhalf
  · intro interruption hkind
    cases interruption with
    | failure failure => exact failureEvents_holdActiveTags failure
    | byUser =>
        refine .cons ⟨_, rfl, ?_⟩ .nil
        exact Heading.holdsActiveTags isPlain_abortHeading "" (allEscaped_escapeTagsAfter 0 [])
    | unexpected kind message => exact faultEvents_holdActiveTags (hkind kind message rfl) message
    | exit code => exact .nil

theorem escaping_leaves_no_active_tag_of_hostile_text :
    Terminal.styled.literal "[[/x]\\\\[b\n]\\" = "[\\[/x]\\\\\\\\\\[b\n]\\\\" ∧
      Resized (· / 2) "[\\[/x]\\\\\\\\\\[b\n]\\\\".toList "[[/x]\\\\[b\n]\\\\".toList ∧
      HasTag "[\\[/x]\\\\\\\\\\[b\n]\\\\".toList "[\\[/x]\\\\\\\\\\".toList "b\n".toList ∧
      endRun "[\\[/x]\\\\\\\\\\".toList % 2 = 1 ∧
      List.Forall₂ HoldsHeading
        (settleInterruption .styled (.unexpected "OSError" "no [file]\\")).1 [faultHeading] := by
  have hliteral : Terminal.styled.literal "[[/x]\\\\[b\n]\\" = "[\\[/x]\\\\\\\\\\[b\n]\\\\" := by
    decide +kernel
  obtain ⟨-, hodd, hhalf, hshown, -⟩ := escaping_leaves_no_active_tag "[[/x]\\\\[b\n]\\"
  rw [hliteral] at hodd hhalf
  have htag : HasTag "[\\[/x]\\\\\\\\\\[b\n]\\\\".toList "[\\[/x]\\\\\\\\\\".toList "b\n".toList :=
    ⟨by decide, "\\\\".toList, by decide⟩
  refine ⟨hliteral, (hhalf _).mpr (by decide), htag, hodd _ _ htag, ?_⟩
  apply hshown
  rintro _ _ ⟨rfl, rfl⟩
  decide

end Program

end HeaderConstants
