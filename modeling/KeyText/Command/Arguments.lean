import KeyText.Command.Request
import KeyText.Command.Usage
import KeyText.Text.WholeNumber

/-!
# The command line

Which commands and options there are, and what request they make. The options of the program stand before or behind the name
of a command; where both are given, the latter count. The options of a command stand behind its name.
-/

namespace KeyText.Command

/-- An option that is given or not. -/
def flag (name : String) : OptionSpec := { name, takesValue := false }

/-- An option with any value. -/
def valued (name : String) : OptionSpec := { name }

/-- An option with a whole number. -/
def numeric (name : String) : OptionSpec := { name, accepts := fun v => (wholeNumber? v).isSome }

/-- An option with one of some values. -/
def oneOf (name : String) (values : List String) : OptionSpec := { name, accepts := values.contains }

/-- The options of the program. -/
def programOptions : List OptionSpec :=
  [valued "log-level", oneOf "log-format" ["text", "json"], flag "json"]

/-- The options that say where the input is. A path cannot be empty. -/
def sourceOptions : List OptionSpec :=
  [valued "input", { name := "input-file", accepts := fun path => !path.isEmpty }]

/-- The option that chooses a checksum. -/
def checksumOption : OptionSpec :=
  { name := "checksum", accepts := fun name => (ChecksumKind.ofName? name).isSome }

/-- The commands. -/
inductive Verb where
  | encode
  | decode
  | repair
  | address
  | inspect
  | networks
  deriving DecidableEq, Repr

/-- All commands. -/
def Verb.all : List Verb :=
  [encode, decode, repair, address, inspect, networks]

/-- The name of a command. -/
def Verb.name : Verb → String
  | encode => "encode"
  | decode => "decode"
  | repair => "repair"
  | address => "address"
  | inspect => "inspect"
  | networks => "networks"

/-- The options of a command besides those of the program. -/
def Verb.options : Verb → List OptionSpec
  | encode => sourceOptions ++ [oneOf "input-format" ["hex", "raw"], flag "check", checksumOption]
  | decode => sourceOptions ++ [flag "check", checksumOption]
  | repair => sourceOptions ++ [checksumOption, numeric "max-changes", numeric "max-candidates", numeric "timeout-secs"]
  | address => sourceOptions ++ [valued "network"]
  | inspect => sourceOptions ++ [checksumOption]
  | networks => []

/-- Where the input is. -/
def Given.source (given : Given) : Source :=
  ⟨given.value? "input", given.value? "input-file"⟩

/-- The checksum that was chosen. -/
def Given.kind (given : Given) : ChecksumKind :=
  ((given.value? "checksum").bind ChecksumKind.ofName?).getD default

/-- The number that an option was given. -/
def Given.number? (given : Given) (name : String) : Option Nat :=
  (given.value? name).bind wholeNumber?

/-- The request that a command with its options makes. -/
def Verb.request (given : Given) : Verb → Request
  | encode =>
    let format := if given.value? "input-format" = some "raw" then InputFormat.raw else .hex
    .encode ⟨given.source, format, given.has "check", given.kind⟩
  | decode => .decode ⟨given.source, given.has "check", given.kind⟩
  | repair =>
    .repair
      ⟨given.source, given.kind, (given.number? "max-changes").getD 1, given.number? "max-candidates",
        given.number? "timeout-secs"⟩
  | address => .address ⟨given.source, (given.value? "network").getD "bitcoin"⟩
  | inspect => .inspect ⟨given.source, given.kind⟩
  | networks => .networks

/-- What a command line asks for. -/
inductive Invocation where
  | version
  /-- A request, whether its answer is JSON, and the filter of what is logged. -/
  | run (request : Request) (json : Bool) (logFilter? : Option String)
  deriving DecidableEq, Repr

/-- Reads the arguments behind the name of a command, whose input comes from one place at most. -/
def parseCommand (program : Given) (verb : Verb) (rest : List String) : Except UsageError Invocation := do
  let (given, ending) ← scan (programOptions ++ verb.options) false ⟨[]⟩ rest
  if let .word word _ := ending then .error (.unexpectedArgument word)
  if given.has "input" && given.has "input-file" then .error (.conflict "input" "input-file")
  let json := given.has "json" || program.has "json"
  return .run (verb.request given) json ((given.value? "log-level").or (program.value? "log-level"))

/-- Reads a command line. -/
def parse (arguments : List String) : Except UsageError Invocation := do
  let (program, ending) ← scan programOptions true ⟨[]⟩ arguments
  match ending with
  | .version => return .version
  | .word name rest =>
    match Verb.all.find? (·.name == name) with
    | some verb => parseCommand program verb rest
    | none => .error (.unknownCommand name)
  | .finished => .error .missingCommand

end KeyText.Command
