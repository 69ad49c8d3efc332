/-!
# Options on a command line

Arguments are read from left to right. An option has two hyphens; one that takes a value has it behind an equals sign or as
the next argument, which may then not begin with a hyphen unless it is one. No option is given twice. The first fault ends
the reading, so that a request for the version counts only if everything before it is sound.
-/

namespace KeyText.Command

/-- An option of a level: its name, and whether it takes a value; if so, which values. -/
structure OptionSpec where
  name : String
  takesValue : Bool := true
  accepts : String → Bool := fun _ => true

/-- Why the arguments cannot be used. -/
inductive UsageError where
  | unknownOption (argument : String)
  | repeatedOption (name : String)
  | missingValue (name : String)
  | unexpectedValue (name : String)
  | invalidValue (name value : String)
  | unexpectedArgument (argument : String)
  | unknownCommand (name : String)
  | missingCommand
  | conflict (first second : String)
  deriving DecidableEq, Repr

/-- The wording of an error of usage. -/
def UsageError.message : UsageError → String
  | .unknownOption argument => s!"unexpected argument '{argument}' found"
  | .repeatedOption name => s!"the argument '--{name}' cannot be used multiple times"
  | .missingValue name => s!"a value is required for '--{name}' but none was supplied"
  | .unexpectedValue name => s!"unexpected value for '--{name}' found; no more were expected"
  | .invalidValue name value => s!"invalid value '{value}' for '--{name}'"
  | .unexpectedArgument argument => s!"unexpected argument '{argument}' found"
  | .unknownCommand name => s!"unrecognized subcommand '{name}'"
  | .missingCommand => "a subcommand is required but one was not provided"
  | .conflict first second => s!"the argument '--{first}' cannot be used with '--{second}'"

/-- The options that were given on a level, in order, each with its value; one that takes none has an empty value. -/
structure Given where
  options : List (String × String)
  deriving DecidableEq, Repr

/-- The value of an option that was given. -/
def Given.value? (given : Given) (name : String) : Option String :=
  given.options.lookup name

/-- Whether an option was given. -/
def Given.has (given : Given) (name : String) : Bool :=
  (given.value? name).isSome

/-- How the reading of a level ends. -/
inductive Ending where
  /-- All arguments are read. -/
  | finished
  /-- The version was asked for. -/
  | version
  /-- An argument that is no option, and those behind it. -/
  | word (word : String) (rest : List String)
  deriving DecidableEq, Repr

/-- What an argument is by its form. -/
inductive Token where
  /-- Two hyphens: no options follow. -/
  | separator
  /-- A long option, and the value behind its equals sign. -/
  | option (name : String) (value? : Option String)
  /-- Short options, by the first letter. -/
  | short (letter : Char)
  | word
  deriving DecidableEq, Repr

/-- The form of an argument. A single hyphen is a word. -/
def Token.ofArgument (argument : String) : Token :=
  match argument.toList with
  | ['-', '-'] => .separator
  | '-' :: '-' :: text =>
    let name := String.ofList (text.takeWhile (· != '='))
    match text.dropWhile (· != '=') with
    | [] => .option name none
    | _ :: value => .option name (some (String.ofList value))
  | '-' :: letter :: _ => .short letter
  | _ => .word

/-- Adds an option to those given; none is given twice on a level. -/
def Given.add (given : Given) (spec : OptionSpec) (value : String) : Except UsageError Given :=
  if given.has spec.name then .error (.repeatedOption spec.name)
  else if spec.takesValue && !spec.accepts value then .error (.invalidValue spec.name value)
  else .ok ⟨given.options ++ [(spec.name, value)]⟩

/-- Reads the arguments of a level with the options that it has. Only the first level knows the request for the version. -/
def scan (specs : List OptionSpec) (first : Bool) (given : Given) : List String → Except UsageError (Given × Ending)
  | [] => .ok (given, .finished)
  | argument :: rest =>
    match Token.ofArgument argument with
    | .word => .ok (given, .word argument rest)
    | .separator =>
      match rest with
      | [] => .ok (given, .finished)
      | word :: _ => .error (.unexpectedArgument word)
    | .short letter => if first && letter == 'V' then .ok (given, .version) else .error (.unknownOption argument)
    | .option name value? =>
      match specs.find? (·.name == name), value? with
      | none, none => if first && name == "version" then .ok (given, .version) else .error (.unknownOption argument)
      | none, some _ => .error (.unknownOption argument)
      | some spec, some value =>
        if spec.takesValue then do scan specs first (← given.add spec value) rest
        else .error (.unexpectedValue name)
      | some spec, none =>
        if spec.takesValue then
          match rest with
          | [] => .error (.missingValue name)
          | value :: rest =>
            if Token.ofArgument value = .word then do scan specs first (← given.add spec value) rest
            else .error (.missingValue name)
        else do scan specs first (← given.add spec "") rest

end KeyText.Command
