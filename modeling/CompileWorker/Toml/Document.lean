import CompileWorker.Toml.Scalar
import CompileWorker.Toml.Table

namespace CompileWorker.Toml

open Reader

/-- How deep lists and tables may be nested, and how many names a key may have. -/
def greatestDepth : Nat := 79

/-- Reads the items of a list up to its bracket; a comma may stand before the bracket. -/
def items (item : Reader Value) : Nat → Reader (List Value)
  | 0 => failure
  | fuel + 1 => do
    gap
    if ← skip? ']' then return []
    let first ← item
    gap
    if ← skip? ',' then return first :: (← items item fuel)
    char ']'
    return [first]

def entry (value : Reader Value) : Reader (List String × Value) := do
  let key ← key greatestDepth
  char '='
  blanks
  return (key, ← value)

def entries (value : Reader Value) : Nat → Reader (List (List String × Value))
  | 0 => failure
  | fuel + 1 => do
    let first ← entry value
    blanks
    if ← skip? ',' then return first :: (← entries value fuel)
    char '\x7d'
    return [first]

def inlineTable (value : Reader Value) : Reader Value := do
  blanks
  if ← skip? '\x7d' then return .table []
  let values ← entries value (← get).length
  match Entries.addAll values [] with
  | some table => return table.toValue
  | none => failure

def nestedValue : Nat → Reader Value
  | 0 => scalar
  | depth + 1 => do
    if ← skip? '[' then return .array (← items (nestedValue depth) ((← get).length + 1))
    else if ← skip? '\x7b' then inlineTable (nestedValue depth)
    else scalar

inductive Line
  | blank
  | entry (key : List String) (value : Value)
  | header (isItem : Bool) (path : List String)

def header : Reader Line := do
  char '['
  let isItem ← skip? '['
  let path ← key greatestDepth
  char ']'
  if isItem then char ']'
  return .header isItem path

def line : Reader Line := do
  blanks
  let line ← match (← get).head? with
    | none | some '#' | some '\n' | some '\r' => pure .blank
    | some '[' => header
    | some _ => do
      let (key, value) ← entry (nestedValue greatestDepth)
      pure (.entry key value)
  lineEnd
  return line

def lines : Nat → Reader (List Line)
  | 0 => failure
  | fuel + 1 => do
    let first ← line
    if ← accepts atEnd then return [first]
    return first :: (← lines fuel)

structure Section where
  isItem : Bool
  path : List String
  values : List (List String × Value)

def sections (lines : List Line) : List (List String × Value) × List Section :=
  lines.foldr (fun line (values, rest) ↦
    match line with
    | .blank => (values, rest)
    | .entry key value => ((key, value) :: values, rest)
    | .header isItem path => ([], ⟨isItem, path, values⟩ :: rest)) ([], [])

def Section.addTo (s : Section) (table : Entries) : Option Entries :=
  if s.isItem then table.append s.path s.values else table.define s.path s.values

/-- Reads a document; a byte order mark before it does not count. None if the text is no TOML. -/
def document (text : String) : Option Value := do
  let text := match text.toList with
    | '\ufeff' :: rest => rest
    | text => text
  let (lines, _) ← (lines (text.length + 1)).run text
  let (values, rest) := sections lines
  let root ← Entries.addAll values []
  return (← rest.foldlM (fun table s ↦ s.addTo table) root).toValue

end CompileWorker.Toml
