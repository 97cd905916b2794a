import HeaderConstants.CommandLine.Invocation
import Mathlib.Data.List.TakeWhile

namespace HeaderConstants.CommandLine

section Steps

variable {grammar : Grammar} {flag : Flag} {taken : Bool} {rest : List (String × Reading)}

theorem steps_switch (h : flag.effect.takesText = false) (argument : String) :
    grammar.steps taken ((argument, .flag flag) :: rest) =
      .flag flag none :: grammar.steps taken rest := by
  rw [Grammar.steps]
  simp [Reading.isOption, Grammar.takeOption, takeText, h]

theorem steps_option (h : flag.effect.takesText = true) (argument text : String) :
    grammar.steps taken ((argument, .flag flag) :: (text, .operand) :: rest) =
      .flag flag (some text) :: grammar.steps taken rest := by
  rw [Grammar.steps]
  simp [Reading.isOption, Grammar.takeOption, takeText, h]

theorem steps_command (argument : String) (rest : List (String × Reading)) :
    mainGrammar.steps false ((argument, .operand) :: rest) =
      [.operands (argument :: rest.map (·.1))] := by
  rw [Grammar.steps]
  rfl

theorem steps_names (name : String) (rest : List String) :
    resolveGrammar.steps false ((markText, .mark) :: (name :: rest).map (·, .operand)) =
      [.operands (markText :: name :: rest)] := by
  have htake : ((name :: rest).map fun text => (text, Reading.operand)).takeWhile
      (!·.2.isOption) = (name :: rest).map (·, .operand) := by
    rw [List.takeWhile_eq_self_iff]
    simp [Reading.isOption]
  have hdrop : ((name :: rest).map fun text => (text, Reading.operand)).dropWhile
      (!·.2.isOption) = [] := by
    rw [List.dropWhile_eq_nil_iff]
    simp [Reading.isOption]
  rw [Grammar.steps, htake, hdrop]
  simp [Reading.isOption, resolveGrammar, Grammar.steps, Function.comp_def]

end Steps

theorem parseCommand_resolve {names : List String} (h : names ≠ []) :
    parseCommand .resolve (markText :: names) = .ok (.resolve names, []) := by
  obtain ⟨name, rest, rfl⟩ := List.exists_cons_of_ne_nil h
  have hread : resolveGrammar.readAll (markText :: name :: rest) =
      .ok ((markText, .mark) :: (name :: rest).map (·, .operand)) := rfl
  rw [parseCommand, Verb.grammar, Grammar.parse, hread]
  simp only [steps_names]
  rfl

/-- A parse that goes on from what earlier arguments have given. -/
def Grammar.parseFrom (grammar : Grammar) (given : Given) (arguments : List String) :
    Except Halt Given :=
  match grammar.readAll arguments with
  | .error error => .error (.usage grammar error)
  | .ok readings => given.addAll grammar (grammar.steps false readings)

theorem parse_eq_parseFrom (grammar : Grammar) (arguments : List String) :
    grammar.parse arguments = grammar.parseFrom {} arguments := rfl

section ParseFrom

variable {grammar : Grammar} {flag : Flag} {argument text : String} {given next : Given}

theorem readAll_cons {reading : Reading} (hmark : argument ≠ markText)
    (h : grammar.read argument = .ok reading) (arguments : List String) :
    grammar.readAll (argument :: arguments) =
      (grammar.readAll arguments).map ((argument, reading) :: ·) := by
  rw [Grammar.readAll, if_neg hmark, h]

theorem parseFrom_switch (hmark : argument ≠ markText)
    (h : grammar.read argument = .ok (.flag flag)) (htext : flag.effect.takesText = false)
    (hadd : given.addFlag grammar flag "" = .ok next) (arguments : List String) :
    grammar.parseFrom given (argument :: arguments) = grammar.parseFrom next arguments := by
  rw [Grammar.parseFrom, readAll_cons hmark h, Grammar.parseFrom]
  cases grammar.readAll arguments with
  | error error => rfl
  | ok readings =>
      rw [Except.map]
      simp only [steps_switch htext, Given.addAll, Given.add, Option.getD_none, hadd]

theorem parseFrom_option (hmark : argument ≠ markText)
    (h : grammar.read argument = .ok (.flag flag)) (htext : flag.effect.takesText = true)
    (hmark' : text ≠ markText) (h' : grammar.read text = .ok .operand)
    (hadd : given.addFlag grammar flag text = .ok next) (arguments : List String) :
    grammar.parseFrom given (argument :: text :: arguments) =
      grammar.parseFrom next arguments := by
  rw [Grammar.parseFrom, readAll_cons hmark h, readAll_cons hmark' h', Grammar.parseFrom]
  cases grammar.readAll arguments with
  | error error => rfl
  | ok readings =>
      rw [Except.map, Except.map]
      simp only [steps_option htext, Given.addAll, Given.add, Option.getD_some, hadd]

theorem map_fst_readAll {arguments : List String} {readings : List (String × Reading)}
    (h : grammar.readAll arguments = .ok readings) : readings.map (·.1) = arguments := by
  induction arguments generalizing readings with
  | nil =>
      obtain rfl := Except.ok.inj h
      rfl
  | cons argument rest ih =>
      rw [Grammar.readAll] at h
      split at h
      · obtain rfl := Except.ok.inj h
        simp [Function.comp_def]
      · cases hread : grammar.read argument with
        | error error => simp [hread] at h
        | ok reading =>
            cases hrest : grammar.readAll rest with
            | error error => simp [hread, hrest, Except.map] at h
            | ok others =>
                obtain rfl : (argument, reading) :: others = readings := by
                  simpa [hread, hrest, Except.map] using h
                rw [List.map_cons, ih hrest]

theorem parseFrom_command (verb : Verb) (given : Given) {arguments : List String}
    {readings : List (String × Reading)} (h : mainGrammar.readAll arguments = .ok readings) :
    mainGrammar.parseFrom given (verb.name :: arguments) =
      .ok { given with operands := some (verb.name :: arguments) } := by
  have hread : mainGrammar.readAll (verb.name :: arguments) =
      .ok ((verb.name, .operand) :: readings) := by
    rw [readAll_cons (by cases verb <;> decide) (by cases verb <;> with_unfolding_all rfl), h]
    rfl
  rw [Grammar.parseFrom, hread]
  simp [steps_command, Given.addAll, Given.add, map_fst_readAll h]

end ParseFrom

/-- The options of a call, by what they ask for. -/
def optionArguments (verbose quiet : Bool) (family : Option Family) : List String :=
  (if verbose then ["-v"] else []) ++ (if quiet then ["-q"] else []) ++
    family.elim [] fun family => ["--family", family.key]

/-- The text of an option that names a family, or of none. -/
def optionText (family : Option Family) : OptionText :=
  family.elim .absent fun family => .given family.key

theorem parseFrom_optionArguments (verbose quiet : Bool) (family : Option Family)
    (arguments : List String) :
    mainGrammar.parseFrom {} (optionArguments verbose quiet family ++ arguments) =
      mainGrammar.parseFrom { verbose, quiet, family := optionText family } arguments := by
  have hverbose : ∀ (given : Given) (arguments : List String),
      mainGrammar.parseFrom given ((if verbose then ["-v"] else []) ++ arguments) =
        mainGrammar.parseFrom { given with verbose := given.verbose || verbose } arguments := by
    intro given arguments
    cases verbose with
    | false => simp
    | true =>
        rw [Bool.or_true]
        exact parseFrom_switch (by decide) (by with_unfolding_all rfl) rfl rfl arguments
  have hquiet : ∀ (given : Given) (arguments : List String),
      mainGrammar.parseFrom given ((if quiet then ["-q"] else []) ++ arguments) =
        mainGrammar.parseFrom { given with quiet := given.quiet || quiet } arguments := by
    intro given arguments
    cases quiet with
    | false => simp
    | true =>
        rw [Bool.or_true]
        exact parseFrom_switch (by decide) (by with_unfolding_all rfl) rfl rfl arguments
  rw [optionArguments, List.append_assoc, List.append_assoc, hverbose, hquiet]
  cases family with
  | none => rfl
  | some family =>
      refine parseFrom_option (by decide) (by with_unfolding_all rfl) rfl ?_ ?_ ?_ arguments
      · cases family <;> decide
      · cases family <;> with_unfolding_all rfl
      · cases family <;> rfl

theorem parse_resolve (verbose quiet : Bool) (family : Option Family) {names : List String}
    (h : names ≠ []) :
    parse (optionArguments verbose quiet family ++ Verb.resolve.name :: markText :: names) =
      .ok ⟨verbose, quiet, optionText family, some (.resolve names)⟩ := by
  have hread : mainGrammar.readAll (markText :: names) =
      .ok ((markText, .mark) :: names.map (·, .operand)) := rfl
  rw [parse, parse_eq_parseFrom, parseFrom_optionArguments, parseFrom_command .resolve _ hread]
  simp only [parseOperands, Verb.named?_name, parseCommand_resolve h]
  rfl

section Filters

variable {grammar : Grammar} {flag : Flag} {given : Given} {tier category : Option String}
  {text : String}

def OptionText.ofOption (text : Option String) : OptionText := text.elim .absent .given

theorem OptionText.passes_ofOption_iff {wanted : Option String} {choice : String} :
    (ofOption wanted).passes choice = true ↔ ∀ text ∈ wanted, choice = text := by
  cases wanted <;> simp [ofOption, passes]

/-- An option with its text, where there is a text for it. -/
def optionWith (flag : Flag) (text : Option String) : List String :=
  text.elim [] fun text => [flag.long, text]

/-- The filters of a list, by what they let through. -/
def filterArguments (tier category : Option String) : List String :=
  optionWith tierFlag tier ++ optionWith categoryFlag category

theorem read_of_no_dash (h : text.toList.head? ≠ some '-') : grammar.read text = .ok .operand := by
  rw [Grammar.read]
  simp only [if_pos h]

theorem ne_markText_of_no_dash (h : text.toList.head? ≠ some '-') : text ≠ markText := by
  rintro rfl
  exact h (by decide)

theorem no_dash_of_mem_tierNames : ∀ text ∈ tierNames, text.toList.head? ≠ some '-' := by
  decide +kernel

theorem no_dash_of_mem_categoryNames : ∀ text ∈ categoryNames, text.toList.head? ≠ some '-' := by
  decide +kernel

theorem exists_readAll_optionWith (reading : Reading) {wanted : Option String}
    {arguments : List String} (hmark : flag.long ≠ markText)
    (hread : grammar.read flag.long = .ok reading)
    (hwanted : ∀ text ∈ wanted, text.toList.head? ≠ some '-')
    (h : ∃ readings, grammar.readAll arguments = .ok readings) :
    ∃ readings, grammar.readAll (optionWith flag wanted ++ arguments) = .ok readings := by
  obtain ⟨readings, hreadings⟩ := h
  cases wanted with
  | none => exact ⟨readings, hreadings⟩
  | some text =>
      have hdash := hwanted text rfl
      refine ⟨(flag.long, reading) :: (text, .operand) :: readings, ?_⟩
      rw [optionWith, Option.elim_some, List.cons_append, List.singleton_append,
        readAll_cons hmark hread, readAll_cons (ne_markText_of_no_dash hdash)
          (read_of_no_dash hdash), hreadings]
      rfl

theorem exists_readAll_filterArguments (htier : ∀ text ∈ tier, text ∈ tierNames)
    (hcategory : ∀ text ∈ category, text ∈ categoryNames) :
    ∃ readings, mainGrammar.readAll (filterArguments tier category) = .ok readings := by
  rw [filterArguments, ← List.append_nil (optionWith categoryFlag category)]
  apply exists_readAll_optionWith .unknown (by decide) (by with_unfolding_all rfl)
  · exact fun text htext => no_dash_of_mem_tierNames text (htier text htext)
  · apply exists_readAll_optionWith .unknown (by decide) (by with_unfolding_all rfl)
    · exact fun text htext => no_dash_of_mem_categoryNames text (hcategory text htext)
    · exact ⟨[], rfl⟩

theorem parseFrom_nil (grammar : Grammar) (given : Given) :
    grammar.parseFrom given [] = .ok given := by
  simp [Grammar.parseFrom, Grammar.readAll, Grammar.steps, Given.addAll]

theorem parseFrom_optionWith (next : Option String → Given) {wanted : Option String}
    (hmark : flag.long ≠ markText) (h : grammar.read flag.long = .ok (.flag flag))
    (htext : flag.effect.takesText = true)
    (hwanted : ∀ text ∈ wanted, text.toList.head? ≠ some '-')
    (hadd : ∀ text ∈ wanted, (next none).addFlag grammar flag text = .ok (next (some text)))
    (arguments : List String) :
    grammar.parseFrom (next none) (optionWith flag wanted ++ arguments) =
      grammar.parseFrom (next wanted) arguments := by
  cases wanted with
  | none => rfl
  | some text =>
      have hdash := hwanted text rfl
      exact parseFrom_option hmark h htext (ne_markText_of_no_dash hdash) (read_of_no_dash hdash)
        (hadd text rfl) arguments

theorem choose_of_mem {choices : List String} (hmem : text ∈ choices)
    (h : text.toList.head? ≠ some '-') :
    Given.choose grammar flag choices text = .ok (.given text) := by
  have hchoice : choices.contains text = true := by simpa using hmem
  rw [Given.choose, OptionText.ofText, if_neg (ne_markText_of_no_dash h)]
  simp only [hchoice, if_true]

theorem addFlag_tier (h : text ∈ tierNames) (given : Given) :
    given.addFlag listGrammar tierFlag text = .ok { given with tier := .given text } := by
  have hchoose : Given.choose listGrammar tierFlag tierNames text = .ok (.given text) :=
    choose_of_mem h (no_dash_of_mem_tierNames text h)
  simp only [Given.addFlag, tierFlag] at hchoose ⊢
  rw [hchoose]
  rfl

theorem addFlag_category (h : text ∈ categoryNames) (given : Given) :
    given.addFlag listGrammar categoryFlag text = .ok { given with category := .given text } := by
  have hchoose : Given.choose listGrammar categoryFlag categoryNames text = .ok (.given text) :=
    choose_of_mem h (no_dash_of_mem_categoryNames text h)
  simp only [Given.addFlag, categoryFlag] at hchoose ⊢
  rw [hchoose]
  rfl

theorem parseFrom_tier (htier : ∀ text ∈ tier, text ∈ tierNames) (arguments : List String) :
    listGrammar.parseFrom {} (optionWith tierFlag tier ++ arguments) =
      listGrammar.parseFrom { tier := .ofOption tier } arguments :=
  parseFrom_optionWith (fun wanted => { tier := .ofOption wanted }) (by decide)
    (by with_unfolding_all rfl) rfl
    (fun text htext => no_dash_of_mem_tierNames text (htier text htext))
    (fun text htext => addFlag_tier (htier text htext) _) arguments

theorem parseFrom_category (hcategory : ∀ text ∈ category, text ∈ categoryNames)
    (option : OptionText) (arguments : List String) :
    listGrammar.parseFrom { tier := option } (optionWith categoryFlag category ++ arguments) =
      listGrammar.parseFrom { tier := option, category := .ofOption category } arguments :=
  parseFrom_optionWith (fun wanted => { tier := option, category := .ofOption wanted })
    (by decide) (by with_unfolding_all rfl) rfl
    (fun text htext => no_dash_of_mem_categoryNames text (hcategory text htext))
    (fun text htext => addFlag_category (hcategory text htext) _) arguments

theorem parseCommand_list (htier : ∀ text ∈ tier, text ∈ tierNames)
    (hcategory : ∀ text ∈ category, text ∈ categoryNames) :
    parseCommand .list (filterArguments tier category) =
      .ok (.list (.ofOption category) (.ofOption tier), []) := by
  have hparse : listGrammar.parse (filterArguments tier category) =
      .ok { tier := .ofOption tier, category := .ofOption category } := by
    rw [parse_eq_parseFrom, filterArguments, parseFrom_tier htier,
      ← List.append_nil (optionWith categoryFlag category), parseFrom_category hcategory,
      parseFrom_nil]
  rw [parseCommand, Verb.grammar, hparse]

theorem parse_list (verbose quiet : Bool) (family : Option Family)
    (htier : ∀ text ∈ tier, text ∈ tierNames)
    (hcategory : ∀ text ∈ category, text ∈ categoryNames) :
    parse (optionArguments verbose quiet family ++
        Verb.list.name :: filterArguments tier category) =
      .ok ⟨verbose, quiet, optionText family,
        some (.list (.ofOption category) (.ofOption tier))⟩ := by
  obtain ⟨readings, hread⟩ := exists_readAll_filterArguments htier hcategory
  rw [parse, parse_eq_parseFrom, parseFrom_optionArguments, parseFrom_command .list _ hread]
  simp only [parseOperands, Verb.named?_name, parseCommand_list htier hcategory]
  rfl

end Filters

end HeaderConstants.CommandLine
