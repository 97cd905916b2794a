import HeaderConstants.CommandLine.Grammar

/-!
A list of arguments as steps in the order in which they take effect. A fault is a step as well:
what comes before it has taken effect, and nothing comes after it.
-/

namespace HeaderConstants.CommandLine

/-- What one argument, or an option with its text, adds to a parse. -/
inductive Step
  | flag (flag : Flag) (text : Option String)
  | operands (texts : List String)
  | extra (text : String)
  | fault (error : UsageError)
  deriving DecidableEq

/-- A letter option with the characters after it: they are its text, or letters of more options.
The last of these may take the next argument as its text. -/
def Grammar.cluster (grammar : Grammar) (flag : Flag) :
    List Char → Except UsageError (List Step × Option Flag)
  | [] => .error (.ignoredText flag.title "")
  | c :: tail =>
    if flag.effect.takesText then
      .ok ([.flag flag (some (String.ofList (c :: tail)))], none)
    else
      match grammar.withLetter? c with
      | none => .error (.ignoredText flag.title (String.ofList (c :: tail)))
      | some next =>
        if tail.isEmpty then .ok ([.flag flag none], some next)
        else (grammar.cluster next tail).map fun (steps, last) => (.flag flag none :: steps, last)

/-- The steps of an option without a text of its own, given the arguments after it, and the
arguments that are left. -/
def takeText (flag : Flag) (rest : List (String × Reading)) :
    List Step × List (String × Reading) :=
  if flag.effect.takesText then
    match rest with
    | (text, .operand) :: rest => ([.flag flag (some text)], rest)
    | _ => ([.fault (.expectedText flag.title)], [])
  else ([.flag flag none], rest)

/-- The steps of one option, and the arguments that are left. -/
def Grammar.takeOption (grammar : Grammar) (argument : String) (reading : Reading)
    (rest : List (String × Reading)) : List Step × List (String × Reading) :=
  match reading with
  | .flag flag => takeText flag rest
  | .wordWithText flag text =>
    if flag.effect.takesText then ([.flag flag (some text)], rest)
    else ([.fault (.ignoredText flag.title text)], [])
  | .letterWithTail flag tail =>
    match grammar.cluster flag tail with
    | .error error => ([.fault error], [])
    | .ok (steps, none) => (steps, rest)
    | .ok (steps, some last) =>
      (steps ++ (takeText last rest).1, (takeText last rest).2)
  | _ => ([.extra argument], rest)

theorem length_takeText (flag : Flag) (rest : List (String × Reading)) :
    (takeText flag rest).2.length ≤ rest.length := by
  unfold takeText
  split
  · split <;> simp
  · simp

theorem Grammar.length_takeOption (grammar : Grammar) (argument : String) (reading : Reading)
    (rest : List (String × Reading)) :
    (grammar.takeOption argument reading rest).2.length ≤ rest.length := by
  cases reading with
  | operand => exact Nat.le_refl _
  | mark => exact Nat.le_refl _
  | unknown => exact Nat.le_refl _
  | flag flag => exact length_takeText flag rest
  | wordWithText flag text =>
    rw [takeOption]
    split <;> simp
  | letterWithTail flag tail =>
    rw [takeOption]
    split
    · simp
    · exact Nat.le_refl _
    · exact length_takeText _ rest

/-- The steps of a list of arguments; `taken` tells whether the operands were taken. Names are
taken from the first block of operands only, and a command takes all that follows it. A block
that holds nothing but the mark gives no operands. -/
def Grammar.steps (grammar : Grammar) (taken : Bool) : List (String × Reading) → List Step
  | [] => []
  | (argument, reading) :: rest =>
    if reading.isOption then
      let next := grammar.takeOption argument reading rest
      next.1 ++ grammar.steps taken next.2
    else
      let block := (argument, reading) :: rest.takeWhile (!·.2.isOption)
      let later := rest.dropWhile (!·.2.isOption)
      if taken || grammar.operands == .none || block.all (·.2 == .mark) then
        block.map (fun item => .extra item.1) ++ grammar.steps taken later
      else if grammar.operands == .command then
        [.operands (argument :: rest.map (·.1))]
      else .operands (block.map (·.1)) :: grammar.steps true later
termination_by arguments => arguments.length
decreasing_by
  · exact Nat.lt_succ_of_le (grammar.length_takeOption argument reading rest)
  · exact Nat.lt_succ_of_le (List.dropWhile_sublist _).length_le
  · exact Nat.lt_succ_of_le (List.dropWhile_sublist _).length_le

end HeaderConstants.CommandLine
