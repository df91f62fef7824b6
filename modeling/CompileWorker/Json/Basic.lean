import CompileWorker.Numeral.Double
import CompileWorker.Sorted

namespace CompileWorker

/-- A number is an integer only if it was written as one and fits 64 bits; any other is a double. -/
inductive Number
  | integer (value : Int)
  | double (value : Double)
  deriving DecidableEq, Repr

inductive Json
  | null
  | bool (value : Bool)
  | number (value : Number)
  | string (text : String)
  | array (items : List Json)
  | object (members : List (String × Json))
  deriving Repr, Inhabited

namespace Json

def nat (n : Nat) : Json := .number (.integer n)

def int (n : Int) : Json := .number (.integer n)

def sortMembers {α : Type} (members : List (String × α)) : List (String × α) :=
  members.foldl (fun sorted m ↦ Sorted.put m.1 m.2 sorted) []

mutual

def canonical : Json → Json
  | .array items => .array (canonicalItems items)
  | .object members => .object (sortMembers (canonicalMembers members))
  | j => j

def canonicalItems : List Json → List Json
  | [] => []
  | j :: items => j.canonical :: canonicalItems items

def canonicalMembers : List (String × Json) → List (String × Json)
  | [] => []
  | (name, j) :: members => (name, j.canonical) :: canonicalMembers members

end

def member? (name : String) : Json → Option Json
  | .object members => members.lookup name
  | _ => none

def at? (j : Json) (path : List String) : Option Json := path.foldlM (fun j name ↦ j.member? name) j

def asString? : Json → Option String
  | .string s => some s
  | _ => none

def asNat? : Json → Option Nat
  | .number (.integer n) => n.toNat?
  | _ => none

end Json

end CompileWorker
