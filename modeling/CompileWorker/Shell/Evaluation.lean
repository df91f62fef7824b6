import CompileWorker.Shell.Grammar
import CompileWorker.Shell.Utility

namespace CompileWorker.Shell.Evaluation

open Act

variable (run : Command → Act Unit)

def lines : Nat → Input → Act Unit
  | 0, _ => pure ()
  | fuel + 1, i => do
    match Reader.next.run i with
    | .error e =>
      modify fun s ↦ { s with line := e.line }
      fail (ofText e.message)
    | .ok (none, _) => pure ()
    | .ok (some commands, i) =>
      run (.sequence commands)
      lines fuel i

def script (text : Chars) : Act Unit := do
  answer 0
  lines run (text.length + 1) { text := text.filter (· ≠ '\x00') }

/-- Does what is to be done at the end, which does not change the status unless it leaves the
shell. -/
def close : Act Unit := do
  let s ← get
  match s.traps.lookup 0 with
  | none => pure ()
  | some text =>
    set { s with traps := [] }
    try
      lines run (text.length + 1) { text }
      answer s.status
    catch
      | .exits => pure ()
      | _ => answer s.status

/-- Performs something to its end in a shell of its own, which starts from a state: what is left. -/
def shell (start : State) (body : Act Unit) : Interaction State := do
  let (result, s) ← body.run.run start
  match result with
  | .error .dies => return s
  | _ => return (← (close run).run.run s).2

def inSubshell (body : Act Unit) : Act Unit := do
  let s ← get
  let after ← perform (shell run { s with traps := [], loops := 0 } body)
  set { s with status := after.status }

def refusal (opening : Opening) (e : SystemError) : String :=
  let isMissing := e = .noSuchFile || e = .notADirectory
  match opening with
  | .read => if isMissing then "No such file" else Utility.describe e
  | _ => if isMissing then "Directory nonexistent" else Utility.describe e

inductive Destination
  | file (opening : Opening) (path : Chars)
  | stream (number : Option Nat)
  | text (content : Word)

def destination : Redirection → Act (Nat × Destination)
  | .mk stream (.file opening word) => do return (stream, .file opening (← Expansion.text run word))
  | .mk stream (.text content) => return (stream, .text content)
  | .mk stream (.stream word) => do
    let target ← Expansion.text run word
    if target = ['-'] then return (stream, .stream none)
    match target, Utility.nat? target with
    | [_], some n => return (stream, .stream (some n))
    | _, _ =>
      modify fun s ↦ { s with line := s.line + 1 }
      fail (ofText "Syntax error: Bad fd number")

/-- Makes a stream lead elsewhere. Whether it does. -/
def redirect (stream : Nat) : Destination → Act Bool
  | .file opening path => do
    let isKept := opening = .write && (← hasOption 'C') && (special? path).isNone
    let kept := isKept && (← node? path).toOption.any fun | .file _ => true | .directory => false
    match ← if kept then pure (.error (.ofNumber 17)) else openPath opening path with
    | .ok channel =>
      Act.redirect stream (some channel)
      return true
    | .error e =>
      let verb := if opening = .read then "cannot open " else "cannot create "
      complain (ofText verb ++ path ++ ofText (": " ++ refusal opening e))
      return false
  | .stream none => do
    Act.redirect stream none
    return true
  | .stream (some n) => do
    match ← channel? n with
    | some channel =>
      Act.redirect stream (some channel)
      return true
    | none =>
      complain (numeral n ++ ofText ": Bad file descriptor")
      return false
  | .text content => do
    try
      Act.redirect stream (some (← openText (← Expansion.text run content)))
      return true
    catch
      | .exits => return false
      | e => throw e

def redirectTo : List (Nat × Destination) → Act Bool
  | [] => return true
  | (stream, d) :: others => do if ← redirect run stream d then redirectTo others else return false

def redirectAll (redirections : List Redirection) : Act Bool := do
  redirectTo run (← redirections.mapM (destination run))

def keepingStreams {α : Type} (body : Act α) : Act α := do
  let streams := (← get).streams
  try
    let result ← body
    modify fun s ↦ { s with streams }
    return result
  catch e =>
    modify fun s ↦ { s with streams }
    throw e

def redirected (redirections : List Redirection) (body : Act Unit) : Act Unit :=
  keepingStreams do
    if ← redirectAll run redirections then body else answer 2

/-- Assigns the values of words to variables, one after the other: what was assigned, and the
variables before. -/
def assignAll (isExported : Bool) (assignments : List (Chars × Word)) :
    Act (List (Chars × Chars) × List (Chars × Option Variable)) := do
  let mut assigned := []
  let mut old := []
  for (name, word) in assignments do
    let value ← Expansion.value run word
    old := (name, ← lookVariable name) :: old
    assign name value
    if isExported then
      setVariable name ((← lookVariable name).map fun v ↦ { v with isExported := true })
    assigned := (name, value) :: assigned
  return (assigned.reverse, old)

/-- Puts variables back that were assigned for something alone. -/
def restoring (old : List (Chars × Option Variable)) (body : Act Unit) : Act Unit := do
  try
    body
    old.forM fun (name, v) ↦ setVariable name v
  catch e =>
    old.forM fun (name, v) ↦ setVariable name v
    throw e

def leaveFunction (before : State) : Act Unit := do
  let s ← get
  (s.hidden.head?.getD []).forM fun (name, v) ↦ setVariable name v
  modify fun s ↦
    { s with hidden := before.hidden, arguments := before.arguments, loops := before.loops }

def call (body : Command) (arguments : List Chars) : Act Unit := do
  let s ← get
  set { s with arguments, hidden := [] :: s.hidden, loops := 0 }
  try
    run body
    leaveFunction s
  catch e =>
    leaveFunction s
    if e ≠ .returns then throw e

inductive Origin
  | argument
  | input
  | file

def beginOptions (origin : Origin) : List Chars → Act (Origin × List Chars)
  | ['-', '-'] :: rest | ['-'] :: rest => return (origin, rest)
  | [sign, 'o'] :: name :: rest => do
    if sign = '-' ∨ sign = '+' then
      let _ ← Builtin.setOptions [[sign, 'o'], name]
      beginOptions origin rest
    else return (origin, [sign, 'o'] :: name :: rest)
  | (sign :: letters) :: rest => do
    if (sign = '-' ∨ sign = '+') ∧ letters ≠ [] then
      let _ ← Builtin.setOptions [sign :: letters.filter fun c ↦ c ≠ 'c' && c ≠ 's']
      let origin :=
        if letters.contains 'c' then .argument
        else if letters.contains 's' then .input
        else origin
      beginOptions origin rest
    else return (origin, (sign :: letters) :: rest)
  | words => return (origin, words)

def firstVariables : List (Chars × Variable) :=
  [("IFS", " \t\n"), ("OPTIND", "1"), ("PS1", "$ "), ("PS2", "> "), ("PS4", "+ ")].map
    fun (name, value) ↦ (ofText name, { value := some (ofText value) })

def standardPath : Chars := ofText "/usr/local/sbin:/usr/local/bin:/usr/sbin:/usr/bin:/sbin:/bin"

def begin (name : Chars) (words : List Chars) : Act Unit := do
  let s ← get
  let given := s.bindings.filter fun (name, v) ↦ v.isExported && (firstVariables.lookup name).isNone
  let bindings := firstVariables ++ given ++ [(ofText "PATH", { value := some standardPath })]
  set
    { name, bindings, streams := s.streams, next := s.next, directory := s.directory, line := 0 :
      State }
  setVariable (ofText "PWD") (some { value := some (ofText s.path), isExported := true })
  match ← beginOptions .file words with
  | (.argument, []) => fail (ofText "-c requires an argument")
  | (.argument, text :: rest) =>
    modify fun s ↦ { s with name := rest.head?.getD name, arguments := rest.drop 1 }
    script run text
  | (.input, arguments) =>
    modify fun s ↦ { s with arguments }
    script run (← readAll 0).flatten
  | (.file, []) => script run (← readAll 0).flatten
  | (.file, path :: arguments) =>
    match ← openPath .read path with
    | .error e => do
      complain (ofText "cannot open " ++ path ++ ofText (": " ++ refusal .read e))
      exit 2
    | .ok _ =>
      let content ← node? path
      modify fun s ↦ { s with name := path, arguments }
      match content with
      | .ok (.file content) => script run (ofBytes content)
      | _ => script run []

def shellNames : List String := ["sh", "dash", "bash"]

def programName (word : Chars) : String :=
  let name := toText word
  match ["/bin/", "/usr/bin/", "/usr/local/bin/"].find? fun directory ↦
    name.startsWith directory with
  | some directory => (name.drop directory.length).toString
  | none => name

def leadingAssignments (words : List Chars) : List (Chars × Chars) :=
  (words.takeWhile (·.contains '=')).map fun word ↦
    let name := word.takeWhile (· ≠ '=')
    (name, word.drop (name.length + 1))

def skipOptions (valued : Chars) : List Chars → List Chars
  | ['-', '-'] :: rest => rest
  | ['-', letter] :: value :: rest =>
    if valued.contains letter then skipOptions valued rest else skipOptions valued (value :: rest)
  | ('-' :: _) :: rest => skipOptions valued rest
  | words => words

def runners : List String :=
  ["env", "nohup", "setsid", "stdbuf", "nice", "timeout", "which", "xargs"]

def isProgram (word : Chars) : Bool :=
  let name := programName word
  shellNames.contains name || (Utility.find? name).isSome || runners.contains name

def absence (runner : String) (word : Chars) : String :=
  let problem := match runner with
    | "xargs" => toText word
    | "setsid" => "failed to execute " ++ toText word
    | "env" | "nice" => Utility.quoted word
    | _ => "failed to run command " ++ Utility.quoted word
  problem ++ ": No such file or directory"

def program : Nat → Chars → List Chars → Act Unit
  | 0, _, _ => answer 127
  | fuel + 1, word, arguments => do
    let name := programName word
    let other (words : List Chars) : Act Unit :=
      match words with
      | [] => answer 0
      | word :: arguments =>
        if isProgram word then program fuel word arguments
        else do
          Utility.complain name (absence name word)
          answer 127
    if shellNames.contains name then
      begin run word arguments
    else
      match name with
      | "env" =>
        let isEmpty := arguments.contains ['-', 'i'] || arguments.contains ['-']
        if isEmpty then modify fun s ↦ { s with bindings := [] }
        for (option, name) in arguments.zip (arguments.drop 1) do
          if option = ['-', 'u'] then setVariable name none
        let words := skipOptions ['u', 'S', 'C'] arguments
        let assigned := leadingAssignments words
        for (name, value) in assigned do
          setVariable name (some { value := some value, isExported := true })
        let words := words.drop assigned.length
        if words.isEmpty then Utility.printenv [] else other words
      | "nohup" | "setsid" | "stdbuf" | "nice" => other (skipOptions ['n', 'o', 'i', 'e'] arguments)
      | "which" =>
        let known := arguments.filter fun word ↦
          shellNames.contains (toText word) || (Utility.find? (toText word)).isSome
        known.forM fun word ↦ Utility.put (ofText "/usr/bin/" ++ word ++ ['\n'])
        answer (if known.length = arguments.length then 0 else 1)
      | "timeout" => other ((skipOptions ['k', 's'] arguments).drop 1)
      | "xargs" =>
        let words := skipOptions ['n', 'I', 'd', 'L'] arguments
        let input := ((← readAll 0).flatten).splitOnP fun c ↦ c = ' ' || c = '\t' || c = '\n'
        let found := input.filter (!·.isEmpty)
        let size := ((arguments.zip (arguments.drop 1)).lookup ['-', 'n']).bind Utility.nat?
        let groups := match size with
          | some n => (List.range ((found.length + n - 1) / max n 1)).map fun i ↦
              (found.drop (i * n)).take n
          | none => [found]
        let words := if words.isEmpty then [ofText "echo"] else words
        for group in groups do other (words ++ group)
      | _ =>
        match Utility.find? name with
        | some body => body arguments
        | none =>
          if word.isEmpty then
            complain (ofText ": Permission denied")
            answer 127
          else if word.contains '/' then
            match ← node? word with
            | .ok _ =>
              complain (word ++ ofText ": Permission denied")
              answer 126
            | .error _ =>
              complain (word ++ ofText ": not found")
              answer 127
          else
            complain (word ++ ofText ": not found")
            answer 127

/-- Runs a program: what it changes of its state is gone at its end. -/
def external (word : Chars) (arguments : List Chars) : Act Unit := do
  let s ← get
  let body : Act Unit := program run 100 word arguments
  let after ← perform
    (shell run { s with traps := [], loops := 0, functions := [], options := [] } body)
  set { s with status := after.status }

def inNameOf {α : Type} (name : Chars) (body : Act α) : Act α := do
  let old := (← get).builtin
  modify fun s ↦ { s with builtin := name }
  try
    let result ← body
    modify fun s ↦ { s with builtin := old }
    return result
  catch e =>
    modify fun s ↦ { s with builtin := old }
    throw e

def forgiving (body : Act Unit) : Act Unit := do
  try body
  catch
    | .exits => pure ()
    | e => throw e

inductive Kind
  | keyword
  | special
  | function
  | builtin
  | program

def specialNames : List String := [".", "eval", "exec"]

def builtinNames : List String := ["command", "type"]

def kind? (word : Chars) : Act (Option Kind) := do
  let name := toText word
  if Reader.reserved.contains name then return some .keyword
  if (Builtin.special? name).isSome || specialNames.contains name then return some .special
  if ((← get).functions.lookup word).isSome then return some .function
  if (Builtin.plain? name).isSome || builtinNames.contains name then return some .builtin
  if isProgram word then return some .program
  return none

def pathOf (word : Chars) : Chars := if word.contains '/' then word else ofText "/usr/bin/" ++ word

def describeWord (isShort : Bool) (word : Chars) : Act Unit := do
  match ← kind? word with
  | none =>
    if !isShort then Builtin.print (word ++ ofText ": not found\n")
    answer 127
  | some kind =>
    let text := match isShort, kind with
      | true, .program => pathOf word
      | true, _ => word
      | false, .keyword => word ++ ofText " is a shell keyword"
      | false, .special => word ++ ofText " is a special shell builtin"
      | false, .function => word ++ ofText " is a shell function"
      | false, .builtin => word ++ ofText " is a shell builtin"
      | false, .program => word ++ ofText " is " ++ pathOf word
    Builtin.print (text ++ ['\n'])

def describeWords (isShort : Bool) (words : List Chars) : Act Unit := do
  let mut status := 0
  for word in if isShort then words.take 1 else words do
    describeWord isShort word
    status := max status (← get).status
  answer status

def source (arguments : List Chars) : Act Unit := do
  match (← Builtin.takeLetters "" arguments).2 with
  | [] => answer 0
  | path :: _ =>
    if !path.contains '/' then fail (path ++ ofText ": not found")
    match ← node? path with
    | .ok (.file content) =>
      try inNameOf path (script run (ofBytes content))
      catch
        | .returns => pure ()
        | e => throw e
    | .ok .directory => pure ()
    | .error e => fail (ofText "cannot open " ++ path ++ ofText (": " ++ refusal .read e))

def replaceShell (arguments : List Chars) : Act Unit := do
  match arguments with
  | [] => answer 0
  | word :: arguments =>
    let isKnown := isProgram word
    if !isKnown then
      let isThere := word.isEmpty || ((← node? word).toOption.isSome && word.contains '/')
      complain (word ++ ofText (if isThere then ": Permission denied" else ": not found"))
      answer (if isThere then 126 else 127)
      throw .exits
    modify fun s ↦ { s with builtin := [] }
    external run word arguments
    throw .dies

def special? (name : String) : Option (List Chars → Act Unit) :=
  match name with
  | "." => some (source run)
  | "eval" => some fun words ↦ script run (List.intercalate [' '] words)
  | "exec" => some (replaceShell run)
  | name => Builtin.special? name

/-- Performs a command by its words, functions left out of account if `isDirect`. -/
def dispatch (isDirect : Bool) (word : Chars) (arguments : List Chars) : Nat → Act Unit
  | 0 => answer 127
  | fuel + 1 => do
    let s ← get
    let name := toText word
    match special? run name, if isDirect then none else s.functions.lookup word with
    | some body, _ =>
      let body := inNameOf word (body arguments)
      if isDirect then forgiving body else body
    | none, some body => call run body arguments
    | none, none =>
      match name, arguments with
      | "command", words => forgiving do
        let (letters, words) ← inNameOf word (Builtin.takeLetters "pvV" words)
        if letters.contains 'v' then describeWords true words
        else if letters.contains 'V' then describeWords false words
        else match words with
          | [] => answer 0
          | word :: arguments => dispatch true word arguments fuel
      | "type", words => describeWords false words
      | _, _ =>
        match Builtin.plain? name with
        | some body => forgiving (inNameOf word (body arguments))
        | none => external run word arguments

/-- The commands of which an argument that assigns a value is read as an assignment is. -/
def assigningNames : List String := ["export", "local", "readonly"]

def fieldsOf : List Word → Act (List Chars)
  | [] => return []
  | word :: words => do
    let found ← Expansion.fields run word
    match found.find? (· ≠ ofText "command") with
    | none => return found ++ (← fieldsOf words)
    | some name =>
      if assigningNames.contains (toText name) then return found ++ (← words.mapM argument).flatten
      else return found ++ (← words.mapM (Expansion.fields run)).flatten
where
  argument (word : Word) : Act (List Chars) := do
    match Reader.assignment? word with
    | some (name, value) => return [name ++ '=' :: (← Expansion.value run value)]
    | none => Expansion.fields run word

def trace (assigned : List (Chars × Chars)) (fields : List Chars) : Act Unit := do
  if ← hasOption 'x' then
    let words := (assigned.map fun (name, value) ↦ name ++ '=' :: value) ++ fields
    if !words.isEmpty then say (['+', ' '] ++ List.intercalate [' '] words)

def simple (line : Nat) (assignments : List (Chars × Word)) (words : List Word)
    (redirections : List Redirection) : Act Unit := do
  modify fun s ↦ { s with line, answered := none }
  let fields ← fieldsOf run words
  let isSpecial := match fields with
    | [] => false
    | name :: _ => (special? run (toText name)).isSome
  match fields with
  | [] =>
    keepingStreams do
      if ← redirectAll run redirections then
        let (assigned, _) ← assignAll run false assignments
        trace assigned []
        modify fun s ↦ { s with status := s.answered.getD 0 }
      else answer 2
  | word :: arguments =>
    let perform : Act Unit := do
      if ← redirectAll run redirections then
        let (assigned, old) ← assignAll run (!isSpecial) assignments
        trace assigned fields
        let body := dispatch run false word arguments 100
        if isSpecial then body else restoring old body
      else if isSpecial then exit 2
      else answer 2
    if word = ofText "exec" then perform else keepingStreams perform

/-- Leaves the shell after a failure, if it has been told to and nobody asked for the status. -/
def check : Act Unit := do
  let s ← get
  if s.status ≠ 0 && !s.isTested && s.options.contains 'e' then throw .exits

def tested (body : Act Unit) : Act Unit := do
  let old := (← get).isTested
  modify fun s ↦ { s with isTested := true }
  try
    body
    modify fun s ↦ { s with isTested := old }
  catch e =>
    modify fun s ↦ { s with isTested := old }
    throw e

def round (level : Nat) (body : Act Bool) : Act Bool := do
  modify fun s ↦ { s with loops := level }
  pause 0
  try body
  catch
    | .breaks levels => if levels ≤ 1 then return false else throw (.breaks (levels - 1))
    | .repeats levels => if levels ≤ 1 then return true else throw (.repeats (levels - 1))
    | e => throw e

def rounds (level : Nat) (isUntil : Bool) (condition body : Command) : Nat → Nat → Act Unit
  | 0, _ => throw .exits
  | fuel + 1, status => do
    answer status
    let goesOn ← round level do
      tested (run condition)
      if ((← get).status = 0) = isUntil then
        answer status
        return false
      run body
      return true
    if goesOn then rounds level isUntil condition body fuel (← get).status

def each (level : Nat) (name : Chars) (body : Command) : List Chars → Act Unit
  | [] => pure ()
  | value :: values => do
    let goesOn ← round level do
      assign name value
      run body
      return true
    if goesOn then each level name body values

def fitsAny (text : Chars) : List Word → Act Bool
  | [] => return false
  | word :: words => do
    if (← Expansion.pattern run word).fits text then return true else fitsAny text words

def choose (text : Chars) : List (List Word × Command) → Act Unit
  | [] => answer 0
  | (patterns, body) :: arms => do
    if ← fitsAny run text patterns then
      answer 0
      run body
    else choose text arms

/-- Performs commands at once, each reading what the one before writes. -/
def pipe : List Command → Act Unit
  | [] => pure ()
  | [command] => inSubshell run (run command)
  | command :: commands => do
    let s ← get
    let number := s.next
    let lead (stream : Nat) : Act Unit := Act.redirect stream (some (.port (.pipe number)))
    let start := { s with next := number + 1, traps := [], loops := 0 }
    let writer := shell run start (lead 1 *> run command)
    let reader := shell run start (lead 0 *> pipe commands)
    let after ← perform (reader.connect number (writer.bind fun _ ↦ .done ()) [])
    set { s with status := after.status }

def step (command : Command) : Act Unit := do
  match command with
  | .simple line assignments words redirections =>
    simple run line assignments words redirections
    check
  | .sequence commands => commands.forM run
  | .pipeline commands =>
    pipe run commands
    check
  | .negation command =>
    tested (run command)
    answer (if (← get).status = 0 then 1 else 0)
  | .both first second =>
    tested (run first)
    if (← get).status = 0 then run second
  | .either first second =>
    tested (run first)
    if (← get).status ≠ 0 then run second
  | .background command =>
    let s ← get
    let _ ← perform (shell run { s with traps := [] }
      (Act.redirect 0 (some .nothing) *> run command)).hurry
    answer 0
  | .subshell body =>
    inSubshell run (run body)
    check
  | .choice condition body otherwise =>
    tested (run condition)
    if (← get).status = 0 then run body
    else
      match otherwise with
      | .sequence [] => answer 0
      | otherwise => run otherwise
  | .loop isUntil condition body =>
    let level := (← get).loops + 1
    rounds run level isUntil condition body patience 0
    modify fun s ↦ { s with loops := level - 1 }
  | .each line name words body =>
    modify fun s ↦ { s with line }
    let values ← match words with
      | some words => do pure (← words.mapM (Expansion.fields run)).flatten
      | none => do pure (← get).arguments
    let level := (← get).loops + 1
    answer 0
    each run level name body values
    modify fun s ↦ { s with loops := level - 1 }
  | .case line subject arms =>
    modify fun s ↦ { s with line }
    choose run (← Expansion.text run subject) arms
  | .define name body =>
    modify fun s ↦
      { s with functions := (name, body) :: s.functions.filter (·.1 ≠ name), status := 0 }
  | .redirected line command redirections =>
    modify fun s ↦ { s with line }
    redirected run redirections (run command)
    check

/-- Performs a command that is nested at most so deep. -/
def perform : Nat → Command → Act Unit
  | 0, _ => do
    answer 139
    throw .dies
  | depth + 1, command => step (perform depth) command

def deepest : Nat := 4000

def main (word : Chars) (arguments : List Chars) (bindings : List (Chars × Chars)) :
    Interaction Unit := do
  let bindings :=
    bindings.map fun (name, value) ↦
      (name, ({ value := some value, isExported := true } : Variable))
  let run := perform deepest
  let _ ← shell run { name := word, bindings } (program run 100 word arguments)

end CompileWorker.Shell.Evaluation
