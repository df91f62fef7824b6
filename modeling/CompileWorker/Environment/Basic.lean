import CompileWorker.Framing.Message
import CompileWorker.Sorted

namespace CompileWorker

/-- What an environment is for. The two roles never share one, because their dependencies may
disagree. -/
inductive Role
  /-- plans and packages, with the worker's own dependencies -/
  | tooling
  | compile
  deriving DecidableEq, Repr

def Role.name : Role → String
  | .tooling => "tooling"
  | .compile => "compile"

/-- Identities are numbered from 1 and never used twice. -/
structure EnvironmentId where
  number : Nat
  deriving DecidableEq, Repr

def EnvironmentId.display (id : EnvironmentId) : String := "env-" ++ toString id.number

/-- A unit as defined inside one environment: the same name elsewhere is another unit. -/
structure UnitId where
  owner : EnvironmentId
  name : String
  deriving DecidableEq, Repr

namespace UnitId

instance : LT UnitId :=
  ⟨fun a b ↦ a.owner.number < b.owner.number ∨ a.owner = b.owner ∧ a.name < b.name⟩

instance : DecidableLT UnitId := fun a b ↦
  inferInstanceAs
    (Decidable (a.owner.number < b.owner.number ∨ a.owner = b.owner ∧ a.name < b.name))

def sameName (a b : UnitId) : Bool := a.name = b.name

def display (u : UnitId) : String := u.name ++ "@" ++ u.owner.display

def toJson (u : UnitId) : Json := .object [("owner", .nat u.owner.number), ("name", .string u.name)]

end UnitId

inductive EnvironmentError
  | spawn (program : String) (error : SystemError)
  | resolution (location reason : String)
  | guest (entryPoint message output : String)
  | frame (error : Framing.FrameError)
  | io (error : SystemError)
  | closed
  | invalidCommand (message : String)
  deriving Repr

def EnvironmentError.message : EnvironmentError → String
  | .spawn program e => "failed to start guest host '" ++ program ++ "': " ++ e.text
  | .resolution location reason => "cannot load classpath location '" ++ location ++ "': " ++ reason
  | .guest entryPoint message _ => entryPoint ++ " raised: " ++ message
  | .frame e => "guest host channel error: " ++ e.message
  | .io e => "I/O error: " ++ e.text
  | .closed => "guest host closed its channel"
  | .invalidCommand message => "invalid guest command: " ++ message

structure Invocation where
  value : Json
  output : String
  deriving Repr

structure Environment where
  id : EnvironmentId
  role : Role
  locations : List String := []
  /-- sorted, without repeats -/
  units : List UnitId := []
  deriving DecidableEq, Repr

def Environment.hasLocation (env : Environment) (location : String) : Bool :=
  env.locations.contains location

end CompileWorker
