import CompileWorker.Sorted
import CompileWorker.Message.Request

namespace CompileWorker

structure DigestMap where
  entries : List (String × String)
  sorted : Sorted.IsSorted entries

namespace DigestMap

instance : DecidableEq DigestMap := fun a b ↦
  decidable_of_iff (a.entries = b.entries) (by cases a; cases b; simp)

def empty : DigestMap := ⟨[], List.Pairwise.nil⟩

instance : Inhabited DigestMap := ⟨empty⟩

def insert (m : DigestMap) (location digest : String) : DigestMap :=
  ⟨Sorted.put location digest m.entries, m.sorted.put location digest⟩

def get? (m : DigestMap) (location : String) : Option String := m.entries.lookup location

def contains (m : DigestMap) (location : String) : Bool := (m.get? location).isSome

def size (m : DigestMap) : Nat := m.entries.length

/-- Of equal locations the last digest counts. -/
def ofPairs (pairs : List (String × String)) : DigestMap :=
  pairs.foldl (fun m p ↦ m.insert p.1 p.2) empty

/-- Both maps together; where they share a location the other's digest counts. -/
def merge (m other : DigestMap) : DigestMap := other.entries.foldl (fun m p ↦ m.insert p.1 p.2) m

/-- The key of a request: the digested inputs that stand on the classpath. -/
def forRequest (classpath : List String) (inputs : List Input) : DigestMap :=
  ofPairs ((inputs.filter fun i ↦ i.isDigested && classpath.contains i.path).map fun i ↦
    (i.path, i.digest))

inductive Comparison
  | agree
  /-- the least shared location whose digests differ -/
  | differ (location recorded requested : String)
  deriving DecidableEq, Repr

/-- Compares what was recorded with what is requested now. Only a shared location can differ. -/
def compare (recorded requested : DigestMap) : Comparison :=
  let changed := recorded.entries.findSome? fun (location, old) ↦
    match requested.get? location with
    | some new => if new = old then none else some (Comparison.differ location old new)
    | none => none
  changed.getD .agree

end DigestMap

end CompileWorker
