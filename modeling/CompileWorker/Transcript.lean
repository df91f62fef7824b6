import CompileWorker.Message.Error

namespace CompileWorker

inductive Passage
  | guest (text : String)
  | note (line : String)
  | failure (error : WorkError) (context : List (String × String))
  deriving Repr

namespace Passage

def isNote : Passage → Bool
  | .note _ => true
  | _ => false

/-- What a guest printed is ended by a line feed; nothing printed stays nothing. -/
def text : Passage → String
  | .guest text => if text = "" || text.endsWith "\n" then text else text ++ "\n"
  | .note line => "[cljw] " ++ line ++ "\n"
  | .failure error context =>
    error.display ++ "\n" ++
      String.join (context.map fun (label, value) ↦ label ++ ": " ++ value ++ "\n")

end Passage

structure Transcript where
  isVerbose : Bool
  passages : List Passage := []
  /-- labelled values to show if the request fails -/
  context : List (String × String) := []
  deriving Repr

namespace Transcript

def add (t : Transcript) (p : Passage) : Transcript := { t with passages := t.passages ++ [p] }

def guest (t : Transcript) (text : String) : Transcript := t.add (.guest text)

def note (t : Transcript) (line : String) : Transcript := t.add (.note line)

def relabel (label value : String) : List (String × String) → List (String × String)
  | [] => [(label, value)]
  | entry :: rest =>
    if entry.1 = label then (label, value) :: rest else entry :: relabel label value rest

def remember (t : Transcript) (label value : String) : Transcript :=
  { t with context := relabel label value t.context }

def fail (t : Transcript) (error : WorkError) : Transcript := t.add (.failure error t.context)

def shown (t : Transcript) : List Passage := t.passages.filter fun p ↦ t.isVerbose || !p.isNote

def output (t : Transcript) : String := String.join (t.shown.map Passage.text)

end Transcript

end CompileWorker
