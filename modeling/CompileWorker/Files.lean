import CompileWorker.SystemError
import CompileWorker.Text.Utf8

namespace CompileWorker

inductive FileNode
  | file (content : List UInt8)
  | directory
  deriving DecidableEq, Repr

structure Files where
  /-- by path; of equal paths the first counts -/
  entries : List (List String × FileNode) := []
  deriving Repr

namespace Files

def root : List String := ["/"]

def isAbove (names : List String) : Bool := names.all (· = "..")

/-- What stands under a list of names. The root, the working directory and the directories above it
are always there; of what else is in those nothing is known. -/
def node? (fs : Files) (names : List String) : Option FileNode :=
  if isAbove names ∨ names = root then some .directory else fs.entries.lookup names

def parent (names : List String) : List String :=
  if names = root then root else if isAbove names then ".." :: names else names.dropLast

def longestName : Nat := 255

def longestPath : Nat := 4095

/-- Walks from a directory along the parts of a path. Only a directory has anything in it. -/
def walk (fs : Files) : List String → List String → Except SystemError (List String)
  | names, [] => .ok names
  | names, part :: parts =>
    match fs.node? names with
    | some .directory =>
      if part = "" ∨ part = "." then fs.walk names parts
      else if part = ".." then fs.walk (parent names) parts
      else if longestName < part.utf8ByteSize then .error .nameTooLong
      else if (fs.node? (names ++ [part])).isSome then fs.walk (names ++ [part]) parts
      else .error .noSuchFile
    | _ => .error .notADirectory

def parts (path : String) : List String := path.splitOn "/"

def origin (path : String) : List String := if path.startsWith "/" then root else []

def resolveFrom (fs : Files) (base : List String) (path : String) :
    Except SystemError (List String) :=
  if path.toList.contains '\x00' then .error .nulInPath
  else if path = "" then .error .noSuchFile
  else if longestPath < path.utf8ByteSize then .error .nameTooLong
  else fs.walk (if path.startsWith "/" then root else base) (parts path)

def resolve (fs : Files) (path : String) : Except SystemError (List String) :=
  fs.resolveFrom [] path

def find (fs : Files) (path : String) : Except SystemError FileNode := do
  match fs.node? (← fs.resolve path) with
  | some node => return node
  | none => throw .noSuchFile

def read (fs : Files) (path : String) : Except SystemError (List UInt8) := do
  match ← fs.find path with
  | .file content => return content
  | .directory => throw .isADirectory

def readText (fs : Files) (path : String) : Except SystemError String := do
  match Utf8.decode? (← fs.read path) with
  | some text => return text
  | none => throw .notUtf8

def put (fs : Files) (names : List String) (node : FileNode) : Files :=
  let missing := ((List.range names.length).map names.take).filter fun way ↦ (fs.node? way).isNone
  { entries := (names, node) :: missing.map (·, .directory) ++ fs.entries.filter (·.1 ≠ names) }

def remove (fs : Files) (names : List String) : Files :=
  { entries := fs.entries.filter fun (way, _) ↦ !names.isPrefixOf way }

def namesOf (path : String) : List String :=
  (parts path).foldl (fun names part ↦
    if part = "" ∨ part = "." then names
    else if part = ".." then parent names
    else names ++ [part]) (origin path)

/-- The names that a path leads to, or will lead to once something is made there. The directory for
it has to be there. -/
def locate (fs : Files) (base : List String) (path : String) : Except SystemError (List String) :=
  match fs.resolveFrom base path with
  | .error e =>
    if e ≠ .noSuchFile ∨ path = "" then .error e
    else
      let way := (parts path).reverse.dropWhile (· = "") |>.reverse
      match way.getLast? with
      | none => .error e
      | some name => do
        let directory ← fs.walk (if path.startsWith "/" then root else base) way.dropLast
        if fs.node? directory ≠ some .directory then throw .notADirectory
        if (fs.node? (directory ++ [name])).isSome ∨ name = "." ∨ name = ".." then throw e
        return directory ++ [name]
  | found => found

/-- What is in a directory, in the order of the names' bytes. -/
def namesIn (fs : Files) (directory : List String) : List String :=
  let names := fs.entries.filterMap fun (way, _) ↦
    if way.length = directory.length + 1 ∧ directory.isPrefixOf way ∧ way ≠ root ∧ !isAbove way then
      way.getLast?
    else none
  (names.mergeSort fun a b ↦ !decide (b < a)).eraseDups

end Files

end CompileWorker
