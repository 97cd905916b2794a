import HeaderConstants.Proofs.FamilyChoice
import HeaderConstants.Proofs.QuotedText

namespace HeaderConstants

namespace Failure

open Text

/-- What a failure is raised about is told by its message, on one line. `Raises arguments failure`
says that the arguments lead to the failure. -/
structure Tells {α : Type} (Raises : α → Failure → Prop) : Prop where
  oneLine : ∀ arguments failure, Raises arguments failure → ShowsOnOneLine failure.message
  determines : ∀ arguments others failure other, Raises arguments failure →
    Raises others other → failure.message = other.message → arguments = others

-- By `rfl`, since the equations of `message` compare its words with each other.
theorem message_unresolved (name family : String) (hint : Option String) :
    (unresolved name family hint).message =
      quote name ++ " is not defined for platform family " ++ quote family ++ "." := rfl

theorem message_duplicate (name first second : String) :
    (duplicate name first second).message =
      quote name ++ " is defined by both tier " ++ quote first ++ " and tier " ++ quote second ++
        "." := rfl

theorem message_unknownFamily (text : String) :
    (unknownFamily text).message = "Unknown platform family: " ++ quote text := rfl

theorem message_invalidLogLevel (text : String) :
    (invalidLogLevel text).message = "Invalid PLATCONST_LOG_LEVEL: " ++ quote text := rfl

theorem tells_unresolved :
    Tells fun (arguments : String × String) failure =>
      ∃ hint, failure = .unresolved arguments.1 arguments.2 hint := by
  constructor
  · rintro ⟨name, family⟩ _ ⟨hint, rfl⟩
    rw [message_unresolved]
    simp only [showsOnOneLine_append_iff, showsOnOneLine_quote, true_and, and_true]
    exact ⟨showsOnOneLine_of_ascii (by decide), showsOnOneLine_of_ascii (by decide)⟩
  · rintro ⟨name, family⟩ ⟨name', family'⟩ _ _ ⟨hint, rfl⟩ ⟨hint', rfl⟩ h
    rw [message_unresolved, message_unresolved] at h
    simpa [String.append_assoc, quote_append_inj, quote_inj] using h

theorem tells_duplicate :
    Tells fun (arguments : String × String × String) failure =>
      failure = .duplicate arguments.1 arguments.2.1 arguments.2.2 := by
  constructor
  · rintro ⟨name, first, second⟩ _ rfl
    rw [message_duplicate]
    simp only [showsOnOneLine_append_iff, showsOnOneLine_quote, true_and, and_true]
    exact ⟨⟨showsOnOneLine_of_ascii (by decide), showsOnOneLine_of_ascii (by decide)⟩,
      showsOnOneLine_of_ascii (by decide)⟩
  · rintro ⟨name, first, second⟩ ⟨name', first', second'⟩ _ _ rfl rfl h
    rw [message_duplicate, message_duplicate] at h
    simpa [String.append_assoc, quote_append_inj, quote_inj] using h

theorem tells_unknownFamily : Tells fun text failure => Family.ofText text = .error failure := by
  constructor
  · intro text failure hrefused
    obtain ⟨-, rfl⟩ := Family.ofText_eq_error_iff.mp hrefused
    rw [message_unknownFamily, showsOnOneLine_append_iff]
    exact ⟨showsOnOneLine_of_ascii (by decide), showsOnOneLine_quote text⟩
  · intro text text' failure other hrefused hrefused' h
    obtain ⟨-, rfl⟩ := Family.ofText_eq_error_iff.mp hrefused
    obtain ⟨-, rfl⟩ := Family.ofText_eq_error_iff.mp hrefused'
    rw [message_unknownFamily, message_unknownFamily, String.append_right_inj] at h
    exact quote_inj.mp h

theorem tells_invalidLogLevel :
    Tells fun value failure => ∃ settings : Settings, settings.logLevel = value ∧
      settings.logThreshold = .error failure := by
  constructor
  · rintro value failure ⟨settings, -, hrefused⟩
    obtain ⟨text, -, rfl⟩ := Settings.logThreshold_eq_error_iff.mp hrefused
    rw [message_invalidLogLevel, showsOnOneLine_append_iff]
    exact ⟨showsOnOneLine_of_ascii (by decide), showsOnOneLine_quote text⟩
  · rintro value value' failure other ⟨settings, rfl, hrefused⟩ ⟨settings', rfl, hrefused'⟩ h
    obtain ⟨text, ⟨hset, -⟩, rfl⟩ := Settings.logThreshold_eq_error_iff.mp hrefused
    obtain ⟨text', ⟨hset', -⟩, rfl⟩ := Settings.logThreshold_eq_error_iff.mp hrefused'
    rw [message_invalidLogLevel, message_invalidLogLevel, String.append_right_inj,
      quote_inj] at h
    rw [hset, hset', h]

/-- The messages about a name without a value, about a name that two tiers list, about a text that
names no family and about a variable that sets no log level are one line of printable characters
each, and no two of one kind agree that are about different texts. -/
theorem messages_tell_arguments :
    (Tells fun (arguments : String × String) failure =>
      ∃ hint, failure = .unresolved arguments.1 arguments.2 hint) ∧
    (Tells fun (arguments : String × String × String) failure =>
      failure = .duplicate arguments.1 arguments.2.1 arguments.2.2) ∧
    (Tells fun text failure => Family.ofText text = .error failure) ∧
    (Tells fun value failure => ∃ settings : Settings, settings.logLevel = value ∧
      settings.logThreshold = .error failure) :=
  ⟨tells_unresolved, tells_duplicate, tells_unknownFamily, tells_invalidLogLevel⟩

theorem messages_tell_arguments_of_hostile_texts :
    (unresolved "x' is not defined for platform family 'y" "z" none).message ≠
        (unresolved "x" "y' is not defined for platform family 'z" none).message ∧
      (duplicate "x' is defined by both tier 'y" "z" "\\").message ≠
        (duplicate "x" "y' is defined by both tier 'z" "\\\\").message ∧
      Family.ofText "\x1b[1m\"linux'" = .error (.unknownFamily "\x1b[1m\"linux'") ∧
      ShowsOnOneLine (unknownFamily "\x1b[1m\"linux'").message ∧
      Settings.logThreshold { logLevel := some "LOUD\u2028" } =
        .error (.invalidLogLevel "LOUD\u2028") ∧
      ShowsOnOneLine (invalidLogLevel "LOUD\u2028").message := by
  obtain ⟨hunresolved, hduplicate, hfamily, hlevel⟩ := messages_tell_arguments
  have hrefused : Family.ofText "\x1b[1m\"linux'" = .error (.unknownFamily "\x1b[1m\"linux'") :=
    Family.ofText_eq_error_iff.mpr ⟨by decide +kernel, rfl⟩
  have hloud : Settings.logThreshold { logLevel := some "LOUD\u2028" } =
      .error (.invalidLogLevel "LOUD\u2028") :=
    Settings.logThreshold_eq_error_iff.mpr
      ⟨_, ⟨rfl, by decide +kernel, by decide +kernel⟩, rfl⟩
  refine ⟨?_, ?_, hrefused, hfamily.oneLine _ _ hrefused, hloud,
    hlevel.oneLine _ _ ⟨_, rfl, hloud⟩⟩
  · intro hsame
    have hequal := hunresolved.determines ("x' is not defined for platform family 'y", "z")
      ("x", "y' is not defined for platform family 'z") _ _ ⟨none, rfl⟩ ⟨none, rfl⟩ hsame
    exact absurd hequal (by decide)
  · intro hsame
    have hequal := hduplicate.determines ("x' is defined by both tier 'y", "z", "\\")
      ("x", "y' is defined by both tier 'z", "\\\\") _ _ rfl rfl hsame
    exact absurd hequal (by decide)

end Failure

end HeaderConstants
