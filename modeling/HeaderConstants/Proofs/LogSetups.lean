import HeaderConstants.Host.Reference
import HeaderConstants.Proofs.KeptResolver
import Mathlib.Algebra.Group.Nat.Even
import Mathlib.Data.List.TakeWhile

/-!
The log over a session. The last setup that succeeds decides alone, and one that is refused changes
nothing. After a setup each record of a logger that hangs from the package is written once or not at
all, by its severity.
-/

namespace HeaderConstants

namespace Logging

variable {request : Request} {level : Level}

/-- The level that a request asks for: to be quiet wins, then to be verbose, and then a level is
looked up by its name. -/
def Request.Asks (request : Request) (level : Level) : Prop :=
  if request.quiet then level = .error
  else if request.verbose then level = .debug
  else (Text.upper request.level, level) ∈ Level.names

/-- Neither switch is on, and the name is that of no level. -/
def Request.Refused (request : Request) : Prop :=
  request.quiet = false ∧ request.verbose = false ∧
    ∀ entry ∈ Level.names, entry.1 ≠ Text.upper request.level

theorem named?_eq_some_iff {name : String} :
    Level.named? name = some level ↔ (name, level) ∈ Level.names := by
  have hall : ∀ entry ∈ Level.names, Level.named? entry.1 = some entry.2 := by decide
  constructor
  · intro h
    obtain ⟨before, after, hnames, -⟩ := List.lookup_eq_some_iff.mp h
    rw [hnames]
    exact List.mem_append_right _ List.mem_cons_self
  · exact hall (name, level)

theorem named?_eq_none_iff {name : String} :
    Level.named? name = none ↔ ∀ entry ∈ Level.names, entry.1 ≠ name := by
  rw [Level.named?, List.lookup_eq_none_iff]
  refine forall₂_congr fun entry _ => ?_
  rw [bne_iff_ne, ne_comm]

theorem threshold_eq_ok_iff : request.threshold = .ok level ↔ request.Asks level := by
  rw [Request.threshold, Request.Asks, switchedLevel?, ← named?_eq_some_iff]
  cases request.quiet with
  | true => simp [eq_comm]
  | false =>
      cases request.verbose with
      | true => simp [eq_comm]
      | false => cases Level.named? (Text.upper request.level) <;> simp

theorem threshold_eq_error_iff {misuse : Misuse} :
    request.threshold = .error misuse ↔
      request.Refused ∧ misuse = .unknownLevel request.level := by
  rw [Request.threshold, Request.Refused, switchedLevel?, ← named?_eq_none_iff]
  cases request.quiet with
  | true => simp
  | false =>
      cases request.verbose with
      | true => simp
      | false => cases Level.named? (Text.upper request.level) <;> simp [eq_comm]

theorem setUp_eq (request : Request) (previous : Logging) :
    setUp request previous = setUp request := by
  rw [setUp, setUp, foldl_removeHandler rfl, foldl_removeHandler rfl]
  simp [addHandler]

theorem setUp_eq_ok_iff_asks {previous logging : Logging} :
    setUp request previous = .ok logging ↔
      ∃ level, request.Asks level ∧
        logging = ⟨level, [⟨level, Layout.named request.style⟩], false⟩ := by
  rw [setUp_eq_ok_iff]
  exact exists_congr fun level => and_congr_left' threshold_eq_ok_iff

theorem setUp_eq_error_iff {previous : Logging} {misuse : Misuse} :
    setUp request previous = .error misuse ↔
      request.Refused ∧ misuse = .unknownLevel request.level := by
  rw [← threshold_eq_error_iff, setUp]
  cases request.threshold <;> simp [Except.map]

theorem render_named (style : String) (record : Record) :
    (Layout.named style).render record =
      if style = "detailed" then
        record.time ++ " [" ++ Text.padRight 8 record.severity.name ++ "] " ++ record.logger ++
          ":" ++ Text.decimal record.line ++ " - " ++ record.message
      else Text.padRight 8 record.severity.name ++ " " ++ record.message := by
  rw [Layout.named]
  split <;>
    simp [Layout.render, Layout.detailed, Layout.simple, Piece.render, String.join]

theorem lines_initial (record : Record) :
    initial.lines record = if 30 ≤ record.severity.number then [record.message] else [] := by
  by_cases hsevere : 30 ≤ record.severity.number
  · simp [lines, passes, threshold, initial, handled, rootLevel, Level.number, hsevere]
  · simp [lines, passes, threshold, initial, rootLevel, Level.number, hsevere]

/-- With one handler, a record is written once or not at all. Where the level is unset, that of the
root logger counts. -/
theorem lines_withHandler (level : Level) (layout : Layout) (record : Record) :
    (withHandler level layout).lines record =
      if (withHandler level layout).threshold.number ≤ record.severity.number then
        [layout.render record] else [] := by
  have hhandler : level.number ≤ (withHandler level layout).threshold.number := by
    cases level <;> simp [threshold, withHandler, rootLevel, Level.number]
  rw [lines, passes]
  by_cases hpasses : (withHandler level layout).threshold.number ≤ record.severity.number
  · have hhandled : (level.number : Int) ≤ record.severity.number := by omega
    rw [if_pos (decide_eq_true hpasses), if_pos hpasses]
    simp [handled, withHandler, hhandled]
  · rw [if_neg (by rwa [decide_eq_true_eq]), if_neg hpasses]

namespace Loggers

/-- The number of dots that a name begins with. -/
def leadingDots (name : String) : Nat := (name.toList.takeWhile (· == '.')).length

theorem leadsToPackage_replicate_dot : ∀ dots : Nat,
    leadsToPackage [] (List.replicate (dots + 1) '.') = true ↔ Even dots
  | 0 => by decide
  | 1 => by decide
  | dots + 2 => by
    rw [Nat.even_add, iff_true_right (by decide : Even 2)]
    simpa [List.replicate_succ, leadsToPackage] using leadsToPackage_replicate_dot dots

theorem leadsToPackage_append_replicate_dot (dots : Nat) :
    ∀ {s : List Char}, s.getLast? ≠ some '.' →
      (leadsToPackage [] (s ++ List.replicate (dots + 1) '.') = true ↔ Even dots)
  | [], _ => leadsToPackage_replicate_dot dots
  | [c], h => by
    have hc : c ≠ '.' := by simpa using h
    rw [← leadsToPackage_replicate_dot dots]
    simp [List.replicate_succ, leadsToPackage, hc]
  | c :: d :: rest, h => by
    rw [List.getLast?_cons_cons] at h
    rw [List.cons_append, List.cons_append, leadsToPackage]
    split
    · exact leadsToPackage_append_replicate_dot dots h
    · apply leadsToPackage_append_replicate_dot dots
      cases rest with
      | nil => simp
      | cons e rest => rwa [List.getLast?_cons_cons] at h

theorem isAttached_iff_even_leadingDots {loggers : Loggers} (h : loggers.inUse = [])
    (name : String) : loggers.isAttached name = true ↔ Even (leadingDots name) := by
  have hdots : name.toList.takeWhile (· == '.') = List.replicate (leadingDots name) '.' := by
    refine List.eq_replicate_of_mem fun c hc => ?_
    simpa using List.mem_takeWhile_imp hc
  have hname : name.toList = List.replicate (leadingDots name) '.' ++
      name.toList.dropWhile (· == '.') := by
    rw [← hdots, List.takeWhile_append_dropWhile]
  have hpath : path name = (name.toList.dropWhile (· == '.')).reverse ++
      List.replicate (leadingDots name + 1) '.' := by
    rw [path, List.reverse_cons]
    nth_rewrite 1 [hname]
    rw [List.reverse_append, List.reverse_replicate, List.append_assoc, ← List.replicate_succ']
  rw [isAttached, h, hpath]
  apply leadsToPackage_append_replicate_dot
  rw [List.getLast?_reverse]
  intro hhead
  have hstops := List.head?_dropWhile_not (· == '.') name.toList
  rw [hhead] at hstops
  simp at hstops

end Loggers

end Logging

namespace Session

open Logging

variable {session : Session} {next : Step} {steps : List Step} {logging : Logging}

/-- What a step sets the log up as, if it is a setup that succeeds. -/
def Step.setUp? : Step → Option Logging
  | .setUpLog request => (Logging.setUp request).toOption
  | _ => none

/-- The log that the last setup gave, of those that succeeded. -/
def lastSetUp? (steps : List Step) : Option Logging := (steps.filterMap Step.setUp?).getLast?

theorem ask_log (session : Session) (question : Resolver → Answer) :
    (session.ask question).session.logging = session.logging ∧
      (session.ask question).session.loggers = session.loggers := by
  rcases ask_cases session question with ⟨_, -, hsession, -⟩ | ⟨_, -, -, hsession, -⟩ |
    ⟨_, -, -, hsession, -⟩ <;>
  · rw [hsession]
    exact ⟨rfl, rfl⟩

theorem log_step_cases (session : Session) (next : Step) :
    (∃ request logging, next = .setUpLog request ∧ Logging.setUp request = .ok logging ∧
      (session.step next).session =
        { session with logging := logging, loggers := session.loggers.undecided }) ∨
    (∃ name severity message, next = .log name severity message ∧
      (session.step next).session =
        { session with loggers := session.loggers.use session.logging name severity }) ∨
    (next.setUp? = none ∧ (session.step next).session.logging = session.logging ∧
      (session.step next).session.loggers = session.loggers) := by
  cases next with
  | setUpLog request =>
      cases h : Logging.setUp request with
      | ok logging => exact .inl ⟨request, logging, rfl, h, by simp [step, setUp_eq, h]⟩
      | error misuse =>
          exact .inr (.inr ⟨by simp [Step.setUp?, h, Except.toOption], by simp [step, setUp_eq, h],
            by simp [step, setUp_eq, h]⟩)
  | log name severity message => exact .inr (.inl ⟨name, severity, message, rfl, rfl⟩)
  | set | moveTo | dropResolver => exact .inr (.inr ⟨rfl, rfl, rfl⟩)
  | resolve | require | word | resolver => exact .inr (.inr ⟨rfl, ask_log session _⟩)
  | activeFamily =>
      refine .inr (.inr ⟨rfl, ?_⟩)
      rw [step]
      split <;> exact ⟨rfl, rfl⟩
  | build family source =>
      refine .inr (.inr ⟨rfl, ?_⟩)
      simp only [step]
      split <;> exact ⟨rfl, rfl⟩

theorem logging_step (session : Session) (next : Step) :
    (session.step next).session.logging = next.setUp?.getD session.logging := by
  rcases log_step_cases session next with ⟨request, logging, rfl, hsetUp, hsession⟩ |
    ⟨_, _, _, rfl, hsession⟩ | ⟨hnone, hlog, -⟩
  · rw [hsession, Step.setUp?, hsetUp]
    rfl
  · rw [hsession]
    rfl
  · rw [hlog, hnone]
    rfl

theorem lastSetUp?_cons (next : Step) (rest : List Step) :
    lastSetUp? (next :: rest) = (lastSetUp? rest).or next.setUp? := by
  rw [lastSetUp?, lastSetUp?, List.filterMap_cons]
  cases next.setUp? with
  | none => exact (Option.or_none).symm
  | some logging =>
      rw [List.getLast?_cons]
      cases (rest.filterMap Step.setUp?).getLast? <;> rfl

theorem exists_setUp_of_lastSetUp? (h : lastSetUp? steps = some logging) :
    ∃ request, .setUpLog request ∈ steps ∧ Logging.setUp request = .ok logging := by
  obtain ⟨next, hmem, hsetUp⟩ := List.mem_filterMap.mp (List.mem_of_getLast? h)
  cases next with
  | setUpLog request =>
      cases hresult : Logging.setUp request with
      | ok result =>
          rw [Step.setUp?, hresult] at hsetUp
          exact ⟨request, hmem, hresult.trans (congrArg _ (Option.some.inj hsetUp))⟩
      | error misuse =>
          rw [Step.setUp?, hresult] at hsetUp
          exact nomatch hsetUp
  | _ => exact nomatch hsetUp

theorem logging_after (session : Session) (steps : List Step) :
    (session.after steps).logging = (lastSetUp? steps).getD session.logging := by
  induction steps generalizing session with
  | nil => rfl
  | cons next rest ih =>
      rw [after_cons, ih, logging_step, lastSetUp?_cons]
      cases lastSetUp? rest <;> rfl

/-- No logger is written to in these steps. -/
def Unwritten (steps : List Step) : Prop :=
  ∀ name severity message, .log name severity message ∉ steps

theorem loggers_step_of_setUp? (h : next.setUp? = some logging) :
    (session.step next).session.loggers = session.loggers.undecided := by
  rcases log_step_cases session next with ⟨_, _, -, -, hsession⟩ | ⟨_, _, _, rfl, -⟩ | ⟨hnone, -⟩
  · rw [hsession]
  · exact nomatch h
  · exact nomatch hnone.symm.trans h

theorem loggers_after (session : Session) (h : Unwritten steps) :
    (session.after steps).loggers =
      if lastSetUp? steps = none then session.loggers else session.loggers.undecided := by
  induction steps generalizing session with
  | nil => rfl
  | cons next rest ih =>
      have hrest : Unwritten rest := fun name severity message hmem =>
        h name severity message (List.mem_cons_of_mem _ hmem)
      rw [after_cons, ih _ hrest, lastSetUp?_cons]
      rcases log_step_cases session next with ⟨request, logging, rfl, hsetUp, hsession⟩ |
        ⟨name, severity, message, rfl, -⟩ | ⟨hnone, -, hloggers⟩
      · rw [hsession, Step.setUp?, hsetUp]
        cases lastSetUp? rest <;> rfl
      · exact absurd List.mem_cons_self (h name severity message)
      · rw [hloggers, hnone, Option.or_none]

/-- Each decision about a logger whose name begins with no dot is what the log would decide now. -/
def Agreeing (session : Session) : Prop :=
  ∀ decision ∈ session.loggers.decisions, decision.1.1.toList.head? ≠ some '.' →
    decision.2 = session.logging.passes decision.1.2

theorem Agreeing.of_decisions_eq_nil (h : session.loggers.decisions = []) : Agreeing session := by
  intro decision hmem
  rw [h] at hmem
  exact nomatch hmem

theorem Agreeing.passes {name : String} (h : Agreeing session)
    (hname : name.toList.head? ≠ some '.') (severity : Severity) :
    session.loggers.passes session.logging name severity = session.logging.passes severity := by
  rw [Loggers.passes, Loggers.decider, if_pos (Loggers.isAttached_of_head?_ne_dot hname _)]
  cases hlookup : session.loggers.decisions.lookup (name, severity) with
  | none => rfl
  | some decided =>
      obtain ⟨before, after, hdecisions, -⟩ := List.lookup_eq_some_iff.mp hlookup
      refine h ((name, severity), decided) ?_ hname
      rw [hdecisions]
      exact List.mem_append_right _ List.mem_cons_self

theorem Agreeing.step (h : Agreeing session) (next : Step) :
    Agreeing (session.step next).session := by
  rcases log_step_cases session next with ⟨_, _, -, -, hsession⟩ |
    ⟨name, severity, message, -, hsession⟩ | ⟨-, hlogging, hloggers⟩
  · rw [hsession]
    exact of_decisions_eq_nil rfl
  · rw [hsession]
    intro decision hmem hname
    rcases List.mem_cons.mp hmem with rfl | hmem
    · exact h.passes hname severity
    · exact h decision hmem hname
  · rw [Agreeing, hlogging, hloggers]
    exact h

theorem Agreeing.after (h : Agreeing session ∨ lastSetUp? steps ≠ none) :
    Agreeing (session.after steps) := by
  -- Before the first setup nothing need agree; a setup makes it so, and every step keeps it so.
  induction steps generalizing session with
  | nil => exact h.resolve_right (absurd rfl)
  | cons next rest ih =>
      rw [after_cons]
      apply ih
      rw [lastSetUp?_cons] at h
      cases hsetUp : next.setUp? with
      | none =>
          rw [hsetUp, Option.or_none] at h
          exact h.imp_left fun hagreeing => hagreeing.step next
      | some logging =>
          left
          apply of_decisions_eq_nil
          rw [loggers_step_of_setUp? hsetUp]
          rfl

theorem lines_log_after {name : String} (hlast : lastSetUp? steps = some logging)
    (hname : name.toList.head? ≠ some '.') (severity : Severity) (message : String) :
    ((session.after steps).step (.log name severity message)).lines =
      logging.lines { logger := loggerName name, severity := severity, message := message } := by
  have hagreeing : Agreeing (session.after steps) := Agreeing.after (.inr (by simp [hlast]))
  rw [step, Loggers.lines, hagreeing.passes hname, Loggers.decider,
    if_pos (Loggers.isAttached_of_head?_ne_dot hname _), logging_after, hlast]
  rfl

theorem lines_log_after_of_unwritten (hlast : lastSetUp? steps = some logging)
    (hsteps : Unwritten steps) (hused : session.loggers.inUse = []) (name : String)
    (severity : Severity) (message : String) :
    ((session.after steps).step (.log name severity message)).lines =
      (if Even (Loggers.leadingDots name) then logging else .initial).lines
        { logger := loggerName name, severity := severity, message := message } := by
  have hloggers : (session.after steps).loggers = session.loggers.undecided := by
    rw [loggers_after session hsteps, hlast]
    rfl
  have hfree : (session.after steps).loggers.inUse = [] := by rw [hloggers]; exact hused
  rw [step, Loggers.lines_of_lookup_eq_none (by rw [hloggers]; rfl), Loggers.decider,
    logging_after, hlast]
  simp only [Loggers.isAttached_iff_even_leadingDots hfree, Option.getD_some]

theorem answer_setUpLog_eq_misuse_iff {request : Request} {misuse : Misuse} :
    (session.step (.setUpLog request)).answer = .misuse misuse ↔
      request.Refused ∧ misuse = .unknownLevel request.level := by
  rw [← @setUp_eq_error_iff request session.logging misuse, step]
  cases Logging.setUp request session.logging <;> simp

theorem step_setUpLog_of_refused {request : Request} (h : request.Refused) :
    session.step (.setUpLog request) = ⟨session, .misuse (.unknownLevel request.level), []⟩ := by
  rw [step, setUp_eq_error_iff.mpr ⟨h, rfl⟩]

/-- The log is as the last setup left it that succeeded, of whatever steps there were: with one
handler, of the log's own level, and cut off from the root logger. A setup is refused where no
switch is on and no level has the name; then everything is as before. After a setup that succeeds,
a record is written once from the level on, or from a warning on where the level is unset, and
otherwise not at all. That goes for each logger whose name begins with no dot; and where no logger
is in use yet, for each with an even number of dots there. The others hang from the root logger. -/
theorem log_after_set_ups (session : Session) (steps : List Step) :
    (session.after steps).logging = (lastSetUp? steps).getD session.logging ∧
    (∀ request previous logging, Logging.setUp request previous = .ok logging ↔
      ∃ level, request.Asks level ∧
        logging = ⟨level, [⟨level, Layout.named request.style⟩], false⟩) ∧
    (∀ style (record : Record), (Layout.named style).render record =
      if style = "detailed" then
        record.time ++ " [" ++ Text.padRight 8 record.severity.name ++ "] " ++ record.logger ++
          ":" ++ Text.decimal record.line ++ " - " ++ record.message
      else Text.padRight 8 record.severity.name ++ " " ++ record.message) ∧
    (∀ request misuse,
      ((session.after steps).step (.setUpLog request)).answer = .misuse misuse ↔
        request.Refused ∧ misuse = .unknownLevel request.level) ∧
    (∀ request, request.Refused →
      ((session.after steps).step (.setUpLog request)).session = session.after steps) ∧
    ∀ logging, lastSetUp? steps = some logging →
      ∃ request, .setUpLog request ∈ steps ∧ Logging.setUp request = .ok logging ∧
        (∀ name severity message,
          (name.toList.head? ≠ some '.' ∨
            Unwritten steps ∧ session.loggers.inUse = [] ∧ Even (Loggers.leadingDots name)) →
          ((session.after steps).step (.log name severity message)).lines =
            if (if logging.level = .unset then 30 else logging.level.number) ≤ severity.number then
              [(Layout.named request.style).render
                { logger := loggerName name, severity := severity, message := message }]
            else []) ∧
        ∀ name severity message, Unwritten steps → session.loggers.inUse = [] →
          ¬ Even (Loggers.leadingDots name) →
          ((session.after steps).step (.log name severity message)).lines =
            if 30 ≤ severity.number then [message] else [] := by
  refine ⟨logging_after session steps, fun _ _ _ => setUp_eq_ok_iff_asks, render_named,
    fun _ _ => answer_setUpLog_eq_misuse_iff, fun request h => ?_, fun logging hlast => ?_⟩
  · rw [step_setUpLog_of_refused h]
  · obtain ⟨request, hmem, hsetUp⟩ := exists_setUp_of_lastSetUp? hlast
    obtain ⟨level, -, hhandler⟩ := Logging.setUp_eq_ok_iff.mp hsetUp
    refine ⟨request, hmem, hsetUp, fun name severity message hname => ?_,
      fun name severity message hsteps hused hodd => ?_⟩
    · have hlines : ((session.after steps).step (.log name severity message)).lines =
          logging.lines
            { logger := loggerName name, severity := severity, message := message } := by
        rcases hname with hname | ⟨hsteps, hused, heven⟩
        · exact lines_log_after hlast hname severity message
        · rw [lines_log_after_of_unwritten hlast hsteps hused, if_pos heven]
      rw [hlines, hhandler, lines_withHandler]
      cases level <;> rfl
    · rw [lines_log_after_of_unwritten hlast hsteps hused, if_neg hodd, lines_initial]

theorem log_after_set_ups_of_refused_set_up :
    ((onReference.after [.setUpLog { verbose := true }, .setUpLog { level := "loud" }]).step
        (.setUpLog { level := "loud" })).session =
      onReference.after [.setUpLog { verbose := true }, .setUpLog { level := "loud" }] ∧
    ((onReference.after [.setUpLog { verbose := true }, .setUpLog { level := "loud" }]).step
        (.log "x" Level.info.severity "hello")).lines = ["INFO     hello"] ∧
    ((onReference.after [.setUpLog { verbose := true }, .setUpLog { level := "loud" }]).step
        (.log "..x" ⟨9⟩ "hello")).lines = [] ∧
    ((onReference.after [.setUpLog { verbose := true }, .setUpLog { level := "loud" }]).step
        (.log ".x" Level.info.severity "hello")).lines = [] := by
  have hrefused : Request.Refused { level := "loud" } :=
    ⟨rfl, rfl, by decide +kernel⟩
  have hlast : lastSetUp? [.setUpLog { verbose := true }, .setUpLog { level := "loud" }] =
      some (withHandler .debug .simple) := by
    decide +kernel
  have hsteps : Unwritten [.setUpLog { verbose := true }, .setUpLog { level := "loud" }] := by
    simp [Unwritten]
  obtain ⟨-, -, hrender, -, hsame, hwritten⟩ := log_after_set_ups onReference
    [.setUpLog { verbose := true }, .setUpLog { level := "loud" }]
  obtain ⟨request, hmem, -, hlines, hroot⟩ := hwritten _ hlast
  have hstyle : request.style = "simple" := by
    have hrequest : request = { verbose := true } ∨ request = { level := "loud" } := by
      simpa using hmem
    rcases hrequest with rfl | rfl <;> rfl
  refine ⟨hsame _ hrefused, ?_, ?_, ?_⟩
  · rw [hlines "x" Level.info.severity "hello" (.inl (by decide +kernel)), hrender, hstyle]
    decide +kernel
  · exact hlines "..x" ⟨9⟩ "hello" (.inr ⟨hsteps, rfl, by decide +kernel⟩)
  · exact hroot ".x" Level.info.severity "hello" hsteps rfl (by decide +kernel)

/-- A logger whose name begins with one dot does not hang from the package. A record that the log
lets through is not written, and one that it does not let through is written bare. -/
theorem dotted_logger_bypasses_set_up :
    (lastSetUp? [.setUpLog { verbose := true }] = some (withHandler .debug .simple) ∧
      (withHandler .debug .simple).threshold.number ≤ Level.info.severity.number ∧
      ((onReference.after [.setUpLog { verbose := true }]).step
        (.log ".x" Level.info.severity "hello")).lines = []) ∧
    lastSetUp? [.setUpLog { quiet := true }] = some (withHandler .error .simple) ∧
      ¬ (withHandler .error .simple).threshold.number ≤ Level.warning.severity.number ∧
      ((onReference.after [.setUpLog { quiet := true }]).step
        (.log ".x" Level.warning.severity "hello")).lines = ["hello"] := by
  decide +kernel

end Session

end HeaderConstants
