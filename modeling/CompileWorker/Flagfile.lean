import CompileWorker.Files
import CompileWorker.Text.Blank

namespace CompileWorker.Flagfile

/-- Cuts a text at its line feeds. A line feed at the end begins no further line. -/
def splitLines (acc : List Char) : List Char → List (List Char)
  | [] => if acc.isEmpty then [] else [acc.reverse]
  | c :: rest => if c = '\n' then acc.reverse :: splitLines [] rest else splitLines (c :: acc) rest

def arguments (text : String) : List String :=
  ((splitLines [] text.toList).map fun line ↦ Text.trimEnd (String.ofList line)).filter (· ≠ "")

/-- The path of the flagfile that an argument names. A lone at sign names none. -/
def path? (argument : String) : Option String :=
  match argument.toList with
  | '@' :: c :: path => some (String.ofList (c :: path))
  | _ => none

def read (fs : Files) (path : String) : Except SystemError (List String) :=
  match fs.readText path with
  | .ok text => .ok (arguments text)
  | .error e => .error ⟨e.kind, "flagfile " ++ path ++ ": " ++ e.text⟩

/-- All arguments, with flagfiles replaced by what they hold. The first that cannot be read is the
error. -/
def expand (fs : Files) : List String → Except SystemError (List String)
  | [] => .ok []
  | argument :: rest => do
    let expanded ← match path? argument with
      | some path => read fs path
      | none => .ok [argument]
    return expanded ++ (← expand fs rest)

end CompileWorker.Flagfile
