import CompileWorker.Shell.Evaluation

namespace CompileWorker.Shell

structure Process where
  rest : Interaction Unit
  input : Chars := []
  isClosed : Bool := false
  texts : List (Nat × Chars) := []
  next : Nat := 0

inductive Patience
  | untilLine
  | upTo (milliseconds : Nat)
  deriving DecidableEq, Repr

/-- What a program has around it while it goes on. -/
structure Surroundings where
  process : Process
  files : Files
  patience : Patience
  room : Nat
  output : List Chars := []
  diagnostics : List Chars := []

namespace Surroundings

/-- The next line of the input. None if it has not come yet. -/
def takeLine (s : Surroundings) : Option (Chars × Surroundings) :=
  match Interaction.splitLine? s.process.input with
  | some (line, input) => some (line, { s with process := { s.process with input } })
  | none =>
    if s.process.isClosed then
      some (s.process.input, { s with process := { s.process with input := [] } })
    else none

def takeFrom (number : Nat) (s : Surroundings) : Chars × Surroundings :=
  let p := s.process
  let text := (p.texts.lookup number).getD []
  let others := p.texts.filter (·.1 ≠ number)
  match Interaction.splitLine? text with
  | some (line, rest) => (line, { s with process := { p with texts := (number, rest) :: others } })
  | none => (text, { s with process := { p with texts := others } })

def write (text : Chars) (s : Surroundings) : Surroundings :=
  let isAnswer := s.patience = .untilLine && text.contains '\n'
  let patience := if isAnswer then .upTo 0 else s.patience
  { s with output := text :: s.output, room := s.room - text.length, patience }

def wait (milliseconds : Nat) (s : Surroundings) : Option Surroundings :=
  match s.patience with
  | .untilLine => some s
  | .upTo n =>
    if milliseconds ≤ n then some { s with patience := .upTo (n - milliseconds) } else none

def keep (rest : Interaction Unit) (s : Surroundings) : Surroundings :=
  { s with process := { s.process with rest } }

def run : Interaction Unit → Surroundings → Surroundings
  | .done value, s => s.keep (.done value)
  | .input .standard resume, s =>
    match s.takeLine with
    | some (line, s) => run (resume line) s
    | none => s.keep (.input .standard resume)
  | .input (.text number) resume, s =>
    let (line, s) := s.takeFrom number
    run (resume line) s
  | .input _ resume, s => run (resume []) s
  | .output port text resume, s =>
    match port with
    | .standard =>
      if s.room = 0 then s.keep (.output port text resume) else run (resume ()) (s.write text)
    | .diagnostics => run (resume ()) { s with diagnostics := text :: s.diagnostics }
    | _ => run (resume ()) s
  | .provide text resume, s =>
    let p := s.process
    run (resume p.next)
      { s with process := { p with texts := (p.next, text) :: p.texts, next := p.next + 1 } }
  | .look resume, s => run (resume s.files) s
  | .store files resume, s => run (resume ()) { s with files }
  | .pause milliseconds resume, s =>
    match s.wait milliseconds with
    | some s => run (resume ()) s
    | none => s.keep (.pause milliseconds resume)

end Surroundings

namespace Process

def isEnded (p : Process) : Bool :=
  match p.rest with
  | .done _ => true
  | _ => false

def room : Nat := 65536

def resume (patience : Patience) (files : Files) (p : Process) : Surroundings :=
  Surroundings.run p.rest { process := p, files, patience, room }

end Process

end CompileWorker.Shell
