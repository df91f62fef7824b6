import CompileWorker.Shell.Interaction
import CompileWorker.Text.Utf8

namespace CompileWorker.Shell

structure Variable where
  value : Option Chars
  isExported : Bool := false
  isReadonly : Bool := false

inductive Channel
  | port (port : Port)
  | file (names : List String)
  | nothing
  deriving DecidableEq, Repr

structure State where
  bindings : List (Chars × Variable) := []
  functions : List (Chars × Command) := []
  name : Chars
  arguments : List Chars := []
  status : Nat := 0
  options : Chars := []
  streams : List (Nat × Channel) :=
    [(0, .port .standard), (1, .port .standard), (2, .port .diagnostics)]
  next : Nat := 0
  directory : List String := []
  traps : List (Nat × Chars) := []
  line : Nat := 1
  builtin : Chars := []
  loops : Nat := 0
  /-- the values that a function's own variables hide, while functions run -/
  hidden : List (List (Chars × Option Variable)) := []
  /-- the status of the last command whose output was put into a word -/
  answered : Option Nat := none
  /-- the number of a word among the arguments and of the character in it that is the next option,
  if there is more than one in the word -/
  optionPlace : Option (Nat × Nat) := none
  isTested : Bool := false

def workingPath : String := "/work"

def State.placed (s : State) (path : String) : List String × String :=
  if path = workingPath ∨ path.startsWith (workingPath ++ "/") then
    ([], "." ++ String.ofList (path.toList.drop workingPath.length))
  else (s.directory, path)

def State.path (s : State) : String :=
  match s.directory with
  | [] => workingPath
  | "/" :: names => "/" ++ "/".intercalate names
  | ".." :: _ => "/"
  | names => workingPath ++ "/" ++ "/".intercalate names

inductive Leave
  | breaks (levels : Nat)
  | repeats (levels : Nat)
  | returns
  | exits
  /-- the shell, without what is done at its end -/
  | dies
  deriving DecidableEq, Repr

/-- What a shell does in the world with a state of its own, until it is done or something leaves
it. -/
abbrev Act := ExceptT Leave (StateT State Interaction)

def ofText (text : String) : Chars := ofBytes (Utf8.encode text)

def toText (text : Chars) : String := (Utf8.decode? (toBytes text)).getD (String.ofList text)

namespace Act

def perform {α : Type} (i : Interaction α) : Act α := ExceptT.lift (StateT.lift i)

def look : Act Files := perform (.look .done)

def store (files : Files) : Act Unit := perform (.store files .done)

def pause (milliseconds : Nat) : Act Unit := perform (.pause milliseconds .done)

def answer (status : Nat) : Act Unit := modify fun s ↦ { s with status }

def exit {α : Type} (status : Nat) : Act α := do
  answer status
  throw .exits

def channel? (stream : Nat) : Act (Option Channel) := do return (← get).streams.lookup stream

def redirect (stream : Nat) (channel : Option Channel) : Act Unit := modify fun s ↦
  let others := s.streams.filter (·.1 ≠ stream)
  { s with streams := match channel with
    | some channel => (stream, channel) :: others
    | none => others }

def openText (text : Chars) :
    Act Channel := do return .port (.text (← perform (.provide text .done)))

def writeTo (channel : Channel) (text : Chars) : Act Bool := do
  match channel with
  | .port (.text _) => return false
  | .port port => perform (.output port text .done)
  | .file names =>
    let fs ← look
    match fs.node? names with
    | some (.file content) => store (fs.put names (.file (content ++ toBytes text)))
    | _ => pure ()
  | .nothing => pure ()
  return true

def write (stream : Nat) (text : Chars) : Act Bool := do
  match ← channel? stream with
  | some channel => if text.isEmpty then return true else writeTo channel text
  | none => return text.isEmpty

/-- Takes a line with its end from a stream, and nothing at the end of what can be read. None if the
stream is not open. -/
def readLine (stream : Nat) : Act (Option Chars) := do
  match ← channel? stream with
  | some (.port .diagnostics) => return some []
  | some (.port port) => some <$> perform (.input port .done)
  | some _ => return some []
  | none => return none

def readLines (stream : Nat) : Nat → List Chars → Act (List Chars)
  | 0, lines => return lines.reverse
  | fuel + 1, lines => do
    match ← readLine stream with
    | none | some [] => return lines.reverse
    | some line => readLines stream fuel (line :: lines)

def patience : Nat := 100000

def readAll (stream : Nat) : Act (List Chars) := readLines stream patience []

def say (text : Chars) : Act Unit := do
  let _ ← write 2 (text ++ ['\n'])

/-- Says where in the script something is wrong, and which command of the shell says so. -/
def complain (text : Chars) : Act Unit := do
  let s ← get
  let command := if s.builtin.isEmpty then [] else s.builtin ++ [':', ' ']
  say (s.name ++ ofText (": " ++ toString s.line ++ ": ") ++ command ++ text)

def fail {α : Type} (text : Chars) : Act α := do
  complain text
  exit 2

def lookVariable (name : Chars) : Act (Option Variable) := do return (← get).bindings.lookup name

def value? (name : Chars) : Act (Option Chars) := do return (← lookVariable name).bind (·.value)

def setVariable (name : Chars) (v : Option Variable) : Act Unit := modify fun s ↦
  let others := s.bindings.filter (·.1 ≠ name)
  { s with bindings := match v with
    | some v => (name, v) :: others
    | none => others }

def assign (name value : Chars) : Act Unit := do
  let old := (← lookVariable name).getD { value := none }
  if old.isReadonly then fail (name ++ ofText ": is read only")
  let isExported := old.isExported || (← get).options.contains 'a'
  setVariable name (some { old with value := some value, isExported })

def separators : Act Chars := do return (← value? (ofText "IFS")).getD [' ', '\t', '\n']

def hasOption (letter : Char) : Act Bool := do return (← get).options.contains letter

def resolve (path : Chars) : Act (Except SystemError (List String)) := do
  let (base, path) := (← get).placed (toText path)
  return (← look).resolveFrom base path

def locate (path : Chars) : Act (Except SystemError (List String)) := do
  let (base, path) := (← get).placed (toText path)
  return (← look).locate base path

def node? (path : Chars) : Act (Except SystemError FileNode) := do
  let fs ← look
  return match ← resolve path with
    | .ok names => (fs.node? names).elim (.error .noSuchFile) .ok
    | .error e => .error e

/-- The streams that a path with a special meaning stands for, or nothing at all. -/
def special? (path : Chars) : Option (Option Nat) :=
  match toText path with
  | "/dev/null" => some none
  | "/dev/stdin" | "/dev/fd/0" | "/proc/self/fd/0" => some (some 0)
  | "/dev/stdout" | "/dev/fd/1" | "/proc/self/fd/1" => some (some 1)
  | "/dev/stderr" | "/dev/fd/2" | "/proc/self/fd/2" => some (some 2)
  | _ => none

def openPath (opening : Opening) (path : Chars) : Act (Except SystemError Channel) := do
  match special? path with
  | some none => return .ok .nothing
  | some (some stream) =>
    return match ← channel? stream with
      | some channel => .ok channel
      | none => .error .noSuchFile
  | none =>
    if opening = .read then
      match ← node? path with
      | .ok (.file content) => .ok <$> openText (ofBytes content)
      | .ok .directory => return .ok .nothing
      | .error e => return .error e
    else
      let fs ← look
      match ← locate path with
      | .error e => return .error e
      | .ok names =>
        if path.getLast? = some '/' then return .error .isADirectory
        match fs.node? names with
        | some .directory => return .error .isADirectory
        | some (.file _) =>
          if opening ≠ .append then store (fs.put names (.file []))
          return .ok (.file names)
        | none =>
          store (fs.put names (.file []))
          return .ok (.file names)

end Act

end CompileWorker.Shell
