import CompileWorker.Json.Merge

namespace CompileWorker

structure CommandLine where
  isPersistent : Bool := false
  settingsPath : Option String := none
  maxRestarts : Option UInt32 := none
  guestCommand : Option (List String) := none
  toolingClasspath : Option (List String) := none
  logFilter : Option String := none
  skipsPackage : Bool := false
  showsSettings : Bool := false
  arguments : List String := []
  deriving DecidableEq, Repr

inductive UsageError
  | missingValue (option : String)
  | unexpectedValue (option : String)
  | invalidValue (option value : String)
  | repeated (option : String)
  deriving DecidableEq, Repr

def UsageError.message : UsageError → String
  | .missingValue option => "error: a value is required for '--" ++ option ++ "'"
  | .unexpectedValue option => "error: unexpected value for '--" ++ option ++ "'"
  | .invalidValue option value => "error: invalid value '" ++ value ++ "' for '--" ++ option ++ "'"
  | .repeated option => "error: the argument '--" ++ option ++ "' cannot be used multiple times"

namespace CommandLine

inductive Effect
  | version
  | help
  | switch (set : CommandLine → Option CommandLine)
  | value (set : String → CommandLine → Except UsageError CommandLine)

def once {α : Type} (option : String) (current : Option α) (set : α → CommandLine) (value : α) :
    Except UsageError CommandLine :=
  match current with
  | none => .ok (set value)
  | some _ => .error (.repeated option)

def word? (text : String) : Option UInt32 :=
  let read (digits : List Char) : Option Nat :=
    if digits ≠ [] ∧ digits.all Char.isDigit then
      some (digits.foldl (fun n c ↦ n * 10 + (c.toNat - 48)) 0)
    else none
  let number := match text.toList with
    | '+' :: digits => read digits
    | '-' :: digits => (read digits).filter (· = 0)
    | digits => read digits
  (number.filter (· ≤ 0xFFFFFFFF)).map Nat.toUInt32

def options : List (String × Effect) :=
  [("persistent_worker",
    .switch fun c ↦ if c.isPersistent then none else some { c with isPersistent := true }),
   ("config", .value fun v c ↦
    if v = "" then .error (.missingValue "config")
    else once "config" c.settingsPath (fun path ↦ { c with settingsPath := some path }) v),
   ("max-restarts", .value fun v c ↦
    match word? v with
    | some n => once "max-restarts" c.maxRestarts (fun n ↦ { c with maxRestarts := some n }) n
    | none => .error (.invalidValue "max-restarts" v)),
   ("guest-command", .value fun v c ↦
    .ok { c with guestCommand := some (c.guestCommand.getD [] ++ v.splitOn ",") }),
   ("tooling-classpath", .value fun v c ↦
    .ok { c with toolingClasspath := some (c.toolingClasspath.getD [] ++ v.splitOn ":") }),
   ("log-filter", .value fun v c ↦
    once "log-filter" c.logFilter (fun filter ↦ { c with logFilter := some filter }) v),
   ("no-package",
    .switch fun c ↦ if c.skipsPackage then none else some { c with skipsPackage := true }),
   ("print-config",
    .switch fun c ↦ if c.showsSettings then none else some { c with showsSettings := true }),
   ("version", .version),
   ("help", .help)]

def letters : List (Char × String) := [('c', "config"), ('V', "version"), ('h', "help")]

inductive Token
  | option (name : String) (effect : Effect) (attached : Option String)
  | endOfOptions
  | argument

def splitValue (text : List Char) : String × Option String :=
  (String.ofList (text.takeWhile (· ≠ '=')),
   match text.dropWhile (· ≠ '=') with
    | _ :: value => some (String.ofList value)
    | [] => none)

/-- Options may stand in a row of letters, of which the first decides; if it takes a value, the
others are the value. A row with any other character in it is an argument. -/
def Token.ofText (text : String) : Token :=
  match text.toList with
  | ['-', '-'] => .endOfOptions
  | '-' :: '-' :: long =>
    let (name, attached) := splitValue long
    match options.lookup name with
    | some effect => .option name effect attached
    | none => .argument
  | '-' :: letter :: rest =>
    if (letter :: rest).all fun c ↦ (letters.lookup c).isSome then
      match (letters.lookup letter).bind fun name ↦ (options.lookup name).map (name, ·) with
      | some (name, .value set) =>
        .option name (.value set) (if rest.isEmpty then none else some (String.ofList rest))
      | some (name, effect) => .option name effect none
      | none => .argument
    else .argument
  | _ => .argument

def Token.isArgument : Token → Bool
  | .argument => true
  | _ => false

inductive Purpose
  | showVersion
  | showHelp
  | work (commandLine : CommandLine)
  deriving DecidableEq, Repr

def readFrom (c : CommandLine) : List String → Except UsageError Purpose
  | [] => .ok (.work c)
  | text :: rest =>
    match Token.ofText text with
    | .endOfOptions => .ok (.work { c with arguments := rest })
    | .argument => .ok (.work { c with arguments := text :: rest })
    | .option name effect attached =>
      match effect, attached, rest with
      | .value set, some value, rest => do readFrom (← set value c) rest
      | .value set, none, value :: rest => do
        if (Token.ofText value).isArgument then readFrom (← set value c) rest
        else throw (.missingValue name)
      | .value _, none, [] => .error (.missingValue name)
      | _, some _, _ => .error (.unexpectedValue name)
      | .version, none, _ => .ok .showVersion
      | .help, none, _ => .ok .showHelp
      | .switch set, none, rest =>
        match set c with
        | some c => readFrom c rest
        | none => .error (.repeated name)

def read (arguments : List String) : Except UsageError Purpose := readFrom {} arguments

def overrides (c : CommandLine) : Option Json :=
  let worker (members : List (String × Json)) : Json := .object [("worker", .object members)]
  let guest (name : String) (words : List String) : Json :=
    worker [("guest", .object [(name, .array (words.map .string))])]
  let layers :=
    (c.maxRestarts.toList.map fun n ↦ worker [("max-restarts", .nat n.toNat)]) ++
    (c.guestCommand.toList.map (guest "command")) ++
    (c.toolingClasspath.toList.map (guest "tooling-classpath")) ++
    (c.logFilter.toList.map fun filter ↦
      .object [("logging", .object [("filter", .string filter)])]) ++
    (if c.skipsPackage then [worker [("entry-points", .object [("package", .string "")])]] else [])
  if layers.isEmpty then none else some (Json.mergeLayers layers)

end CommandLine

end CompileWorker
