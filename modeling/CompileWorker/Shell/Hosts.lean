import CompileWorker.Environment.Hosted
import CompileWorker.Shell.Process

namespace CompileWorker.Shell

structure Scripts where
  files : Files
  environment : List (String × String) := []
  processes : EnvironmentId → Option Process := fun _ ↦ none
  diagnostics : List UInt8 := []

namespace Scripts

/-- Why a program is not started. A path has to lead to a program, and none of the files is one. -/
def refusal (fs : Files) (program : String) : SystemError :=
  if program.toList.contains '/' then
    match fs.find program with
    | .ok _ => .permissionDenied
    | .error e => e
  else if Files.longestName < program.utf8ByteSize then .nameTooLong
  else .noSuchFile

def surroundsPath (c : Char) : Bool := " \t\n;|&<>()'\"$=\x60\x7b\x7d".toList.contains c

def paths (fs : Files) (words : List String) : List String :=
  let scripts := words ++ words.filterMap fun word ↦ (fs.readText word).toOption
  let found := scripts.flatMap fun script ↦ (script.toList.splitOnP surroundsPath).map String.ofList
  (words ++ found).filter fun path ↦ path ≠ "" && !(path.startsWith "/dev/") &&
    !(path.startsWith "/proc/")

def resume (id : EnvironmentId) (patience : Patience) (p : Process) (s : Scripts) :
    List Framing.Piece × Scripts :=
  let after := p.resume patience s.files
  let diagnostics := s.diagnostics ++ toBytes after.diagnostics.reverse.flatten
  ([.bytes (toBytes after.output.reverse.flatten)],
   { s with
     files := after.files
     diagnostics
     processes := fun i ↦ if i = id then some after.process else s.processes i })

def start (id : EnvironmentId) (command : HostCommand) (s : Scripts) :
    Except SystemError (List Framing.Piece) × Scripts :=
  if (command.program :: command.arguments).any fun word ↦ word.toList.contains '\x00' then
    (.error .nulInCommand, s)
  else if Evaluation.isProgram (ofText command.program) then
    let given := s.environment.filter fun (name, _) ↦ (command.bindings.lookup name).isNone
    let bindings := (given ++ command.bindings).map fun (name, value) ↦ (ofText name, ofText value)
    let rest := Evaluation.main (ofText command.program) (command.arguments.map ofText) bindings
    let (pieces, s) := s.resume id (.upTo 0) { rest }
    (.ok pieces, s)
  else (.error (refusal s.files command.program), s)

def send (id : EnvironmentId) (line : String) (s : Scripts) :
    Except SystemError (List Framing.Piece) × Scripts :=
  match s.processes id with
  | none => (.error .brokenPipe, s)
  | some p =>
    if p.isEnded then (.error .brokenPipe, s)
    else
      let (pieces, s) := s.resume id .untilLine { p with input := p.input ++ ofText line ++ ['\n'] }
      (.ok pieces, s)

/-- Lets a process go on to its end, for so many milliseconds. -/
def stop (id : EnvironmentId) (milliseconds : Nat) (s : Scripts) : Scripts :=
  match s.processes id with
  | none => s
  | some p =>
    let s := (s.resume id (.upTo milliseconds) { p with isClosed := true }).2
    { s with processes := fun i ↦ if i = id then none else s.processes i }

instance : Hosts Scripts where
  files s := s.files
  start := start
  send := send
  stop := stop
  diagnostics s := Utf8.decodeLossy s.diagnostics

end Scripts

end CompileWorker.Shell
