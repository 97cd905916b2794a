import HeaderConstants.Logging.Loggers
import HeaderConstants.Surroundings

/-!
A program that looks up constants over time. Its resolver is built at the first question and kept
until it is dropped, whatever happens to the surroundings in between; a build that fails leaves
nothing behind.
-/

namespace HeaderConstants

/-- The state of a program between its calls: what surrounds it, its log, and its resolver. -/
structure Session where
  around : Surroundings
  logging : Logging := .initial
  loggers : Logging.Loggers := {}
  kept : Option Resolver := none

namespace Session

/-- A call, or a change of what surrounds the program. -/
inductive Step
  | set (v : Variable) (value : Option String)
  | moveTo (system : String)
  | dropResolver
  | resolve (name : String)
  | require (name : String)
  | word (name : String)
  | activeFamily
  | resolver
  | build (family : Option Family) (source : Option Source)
  | setUpLog (request : Logging.Request)
  | log (logger : String) (severity : Logging.Severity) (message : String)

/-- What a call gives back, or why it gives nothing. -/
inductive Answer
  | done
  | value (value : Option Int)
  | family (family : Family)
  | resolver (resolver : Resolver)
  | logging (logging : Logging)
  | logger (name : String)
  | failure (failure : Failure)
  | misuse (misuse : Misuse)

/-- The session after a step, the answer, and the lines that were logged. -/
structure Reply where
  session : Session
  answer : Answer
  lines : List String := []

def logLines (session : Session) (records : List Logging.Record) : List String :=
  records.flatMap session.logging.lines

/-- Answers a question from the kept resolver, which is built now if there is none. -/
def ask (session : Session) (question : Resolver → Answer) : Reply :=
  match session.kept with
  | some resolver => ⟨session, question resolver, []⟩
  | none =>
    let outcome := session.around.build none none
    match outcome.result with
    | .error failure => ⟨session, .failure failure, session.logLines outcome.log⟩
    | .ok table =>
      ⟨{ session with kept := some ⟨table⟩ }, question ⟨table⟩, session.logLines outcome.log⟩

/-- One step of a session. -/
def step (session : Session) : Step → Reply
  | .set v value =>
    ⟨{ session with around.settings := session.around.settings.set value v }, .done, []⟩
  | .moveTo system => ⟨{ session with around.host.system := system }, .done, []⟩
  | .dropResolver => ⟨{ session with kept := none }, .done, []⟩
  | .resolve name => session.ask fun resolver => .value (resolver.resolve name)
  | .require name =>
    session.ask fun resolver =>
      match resolver.require name with
      | .ok value => .value (some value)
      | .error failure => .failure failure
  | .word name => session.ask fun resolver => .value (some (resolver.toWord name))
  | .activeFamily =>
    match session.around.activeFamily with
    | .ok family => ⟨session, .family family, []⟩
    | .error failure => ⟨session, .failure failure, []⟩
  | .resolver => session.ask .resolver
  | .build family source =>
    let outcome := session.around.build family source
    match outcome.result with
    | .error failure => ⟨session, .failure failure, session.logLines outcome.log⟩
    | .ok table => ⟨session, .resolver ⟨table⟩, session.logLines outcome.log⟩
  | .setUpLog request =>
    match Logging.setUp request session.logging with
    | .ok logging =>
      ⟨{ session with logging := logging, loggers := session.loggers.undecided },
        .logging logging, []⟩
    | .error misuse => ⟨session, .misuse misuse, []⟩
  | .log logger severity message =>
    ⟨{ session with loggers := session.loggers.use session.logging logger severity },
      .logger (Logging.loggerName logger),
      session.loggers.lines session.logging logger severity message⟩

/-- The replies to a history of steps. -/
def replies (session : Session) : List Step → List Reply
  | [] => []
  | next :: rest => session.step next :: (session.step next).session.replies rest

/-- The session that a history of steps leads to. -/
def after (session : Session) (steps : List Step) : Session :=
  steps.foldl (fun session next => (session.step next).session) session

theorem after_cons (session : Session) (next : Step) (rest : List Step) :
    session.after (next :: rest) = (session.step next).session.after rest := rfl

theorem length_replies (session : Session) (steps : List Step) :
    (session.replies steps).length = steps.length := by
  induction steps generalizing session with
  | nil => rfl
  | cons next rest ih => simp [replies, ih]

theorem ask_of_kept {session : Session} {resolver : Resolver} (h : session.kept = some resolver)
    (question : Resolver → Answer) :
    session.ask question = ⟨session, question resolver, []⟩ := by
  simp [ask, h]

end Session

end HeaderConstants
