import HeaderConstants.ExitStatus
import HeaderConstants.Output
import HeaderConstants.Table.Build

namespace HeaderConstants

/-- Why a run ends before it has a result. -/
inductive Interruption
  | failure (failure : Failure)
  | byUser
  /-- A mistake in the program itself, by its kind and its text. -/
  | unexpected (kind message : String)
  | exit (code : ExitCode)
  deriving DecidableEq

/-- A computation that writes output until it ends, with a result or without. -/
structure Run (α : Type) where
  output : List Event
  result : Except Interruption α

namespace Run

variable {α β : Type}

def pure (a : α) : Run α := ⟨[], .ok a⟩

/-- One run after another. An interruption ends both, and what was written stays. -/
def bind (run : Run α) (next : α → Run β) : Run β :=
  match run.result with
  | .error interruption => ⟨run.output, .error interruption⟩
  | .ok a => ⟨run.output ++ (next a).output, (next a).result⟩

instance : Monad Run where
  pure := pure
  bind := bind

/-- A run that only shows something. -/
def write (events : List Event) : Run Unit := ⟨events, .ok ()⟩

/-- A run that ends at once. -/
def interrupt (interruption : Interruption) : Run α := ⟨[], .error interruption⟩

/-- A failure ends the run that comes upon it. -/
def ofExcept (result : Except Failure α) : Run α :=
  match result with
  | .ok a => pure a
  | .error failure => interrupt (.failure failure)

/-- A mistake in a call is none that a user could act on. -/
def ofSetUp (result : Except Misuse α) : Run α :=
  match result with
  | .ok a => pure a
  | .error misuse => interrupt (.unexpected "ValueError" misuse.message)

/-- Nor is a name that a table lacks although it was taken to have it. -/
def ofWalk (result : Except Table.NoEntry α) : Run α :=
  match result with
  | .ok a => pure a
  | .error absent => interrupt (.unexpected "KeyError" absent.message)

/-- Shows the lines of log records. -/
def log (logging : Logging) (records : List Logging.Record) : Run Unit :=
  write ((records.flatMap logging.lines).map .errorLine)

/-- Writes what a scan logged, and goes on with its table. -/
def ofOutcome (logging : Logging) (outcome : Table.Outcome) : Run Table :=
  (log logging outcome.log).bind fun _ => ofExcept outcome.result

theorem bind_def (run : Run α) (next : α → Run β) : (run >>= next) = run.bind next := rfl

theorem pure_def (a : α) : (Pure.pure a : Run α) = Run.pure a := rfl

@[simp] theorem output_bind_ok {run : Run α} {a : α} (h : run.result = .ok a)
    (next : α → Run β) : (run.bind next).output = run.output ++ (next a).output := by
  simp [bind, h]

@[simp] theorem result_bind_ok {run : Run α} {a : α} (h : run.result = .ok a)
    (next : α → Run β) : (run.bind next).result = (next a).result := by
  simp [bind, h]

theorem bind_error {run : Run α} {interruption : Interruption}
    (h : run.result = .error interruption) (next : α → Run β) :
    run.bind next = ⟨run.output, .error interruption⟩ := by
  simp [bind, h]

def stdout (run : Run α) : String := String.join (run.output.filterMap Event.stdoutText?)

def stderr (run : Run α) : String := String.join (run.output.filterMap Event.stderrText?)

def displays (run : Run α) : List (List Display) := run.output.filterMap Event.displays?

end Run

end HeaderConstants
