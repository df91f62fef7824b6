import CompileWorker.Toml.Value

namespace CompileWorker.Toml

inductive Standing
  /-- on the way to the table of a header -/
  | implied
  /-- on the way to a dotted key -/
  | dotted
  | defined
  deriving DecidableEq, Repr

inductive Item
  | value (value : Value)
  | table (standing : Standing) (entries : List (String × Item))
  /-- a list of tables, the last one apart and the others in reverse -/
  | tables (last : List (String × Item)) (earlier : List (List (String × Item)))

abbrev Entries := List (String × Item)

namespace Entries

def place (name : String) (item : Item) : Entries → Entries
  | [] => [(name, item)]
  | entry :: entries =>
    if entry.1 = name then (name, item) :: entries else entry :: place name item entries

/-- Changes the table that names lead to from a table of some standing; tables that are missing on
the way are made. Nothing leads into a value, and a dotted key leads into no table that has a
header. -/
def descend (isDotted : Bool) (change : Standing → Entries → Option Entries) :
    Standing → List String → Entries → Option Entries
  | standing, [], entries => change standing entries
  | _, name :: path, entries => do
    let item ← match entries.lookup name with
      | none =>
        let made := if isDotted then .dotted else .implied
        pure (.table made (← descend isDotted change made path []))
      | some (.table standing inner) =>
        if isDotted ∧ standing = .defined then none
        else pure (.table standing (← descend isDotted change standing path inner))
      | some (.tables last earlier) =>
        pure (.tables (← descend isDotted change .defined path last) earlier)
      | some (.value _) => none
    return place name item entries

/-- Adds a value under a key. A key is given once, and a dotted key ends in a table made by dotted
keys. -/
def add (key : List String) (value : Value) (entries : Entries) : Option Entries := do
  let name ← key.getLast?
  let path := key.dropLast
  descend true (fun standing entries ↦
    if (standing = .dotted) ≠ (path ≠ []) ∨ (entries.lookup name).isSome then none
    else some (place name (.value value) entries)) .defined path entries

def addAll (values : List (List String × Value)) (entries : Entries) : Option Entries :=
  values.foldlM (fun entries entry ↦ entries.add entry.1 entry.2) entries

/-- Fills the table of a header, which is new or was implied so far. It moves behind the entries
before it. -/
def define (header : List String) (values : List (List String × Value)) (entries : Entries) :
    Option Entries := do
  let name ← header.getLast?
  descend false (fun _ entries ↦ do
    let base ← match entries.lookup name with
      | none => some []
      | some (.table .implied inner) => some inner
      | some _ => none
    return entries.filter (·.1 ≠ name) ++ [(name, .table .defined (← addAll values base))]) .defined
      header.dropLast entries

/-- Adds a table to the list of a header, which is new or made by such headers. -/
def append (header : List String) (values : List (List String × Value)) (entries : Entries) :
    Option Entries := do
  let name ← header.getLast?
  descend false (fun _ entries ↦ do
    let added ← addAll values []
    let item ← match entries.lookup name with
      | none => some (.tables added [])
      | some (.tables last earlier) => some (.tables added (last :: earlier))
      | some _ => none
    return place name item entries) .defined header.dropLast entries

end Entries

mutual

def Item.toValue : Item → Value
  | .value value => value
  | .table _ entries => .table (membersOf entries)
  | .tables last earlier => .array ((.table (membersOf last) :: tablesOf earlier).reverse)

def membersOf : List (String × Item) → List (String × Value)
  | [] => []
  | (name, item) :: entries => (name, item.toValue) :: membersOf entries

def tablesOf : List (List (String × Item)) → List Value
  | [] => []
  | entries :: rest => .table (membersOf entries) :: tablesOf rest

end

def Entries.toValue (entries : Entries) : Value := .table (membersOf entries)

end CompileWorker.Toml
