import CompileWorker.Environment.Basic

namespace CompileWorker

inductive Start
  | started
  | failed (error : EnvironmentError)
  /-- it was turned down before an identity was given out -/
  | refused (error : EnvironmentError)
  deriving Repr

/-- How guests behave, as a transition of some state for each thing that can be asked of them. -/
class Guests (σ : Type) where
  start : EnvironmentId → Role → σ → Start × σ
  load : Environment → String → σ → Except EnvironmentError Unit × σ
  /-- runs an entry point with a payload; the names are those of the units it defined -/
  invoke : Environment → String → String → σ →
    (Except EnvironmentError Invocation × List String) × σ
  discard : Environment → σ → Except EnvironmentError Unit × σ
  abandon : Environment → σ → σ

inductive Event
  | created (id : EnvironmentId) (role : Role)
  | notCreated (role : Role) (error : EnvironmentError)
  | located (id : EnvironmentId) (location : String) (answer : Except EnvironmentError Bool)
  | invoked (id : EnvironmentId) (entryPoint payload : String)
      (answer : Except EnvironmentError Invocation)
  | discarded (id : EnvironmentId) (answer : Except EnvironmentError Unit)
  | abandoned (id : EnvironmentId)
  deriving Repr

structure World (σ : Type) where
  guests : σ
  issued : Nat := 0
  /-- the newest event first -/
  trace : List Event := []

namespace World

variable {σ : Type} [Guests σ]

def record (w : World σ) (event : Event) (guests : σ) : World σ :=
  { w with guests, trace := event :: w.trace }

def create (role : Role) (w : World σ) : Except EnvironmentError Environment × World σ :=
  let id : EnvironmentId := ⟨w.issued + 1⟩
  match Guests.start id role w.guests with
  | (.started, guests) =>
    (.ok { id, role }, { w.record (.created id role) guests with issued := id.number })
  | (.failed e, guests) =>
    (.error e, { w.record (.notCreated role e) guests with issued := id.number })
  | (.refused e, guests) => (.error e, w.record (.notCreated role e) guests)

end World

namespace Environment

variable {σ : Type} [Guests σ]

/-- Loads a location, unless it is loaded; tells whether it was not. -/
def addLocation (env : Environment) (location : String) (w : World σ) :
    Except EnvironmentError Bool × Environment × World σ :=
  if env.hasLocation location then
    (.ok false, env, w.record (.located env.id location (.ok false)) w.guests)
  else match Guests.load env location w.guests with
    | (.ok (), guests) =>
      (.ok true, { env with locations := env.locations ++ [location] },
       w.record (.located env.id location (.ok true)) guests)
    | (.error e, guests) => (.error e, env, w.record (.located env.id location (.error e)) guests)

/-- Runs an entry point. A unit that is defined again is still one unit. -/
def invoke (env : Environment) (entryPoint payload : String) (w : World σ) :
    Except EnvironmentError Invocation × Environment × World σ :=
  let ((answer, defined), guests) := Guests.invoke env entryPoint payload w.guests
  (answer, { env with units := Sorted.insertAll (defined.map (⟨env.id, ·⟩)) env.units },
   w.record (.invoked env.id entryPoint payload answer) guests)

def discard (env : Environment) (w : World σ) : Except EnvironmentError Unit × World σ :=
  let (answer, guests) := Guests.discard env w.guests
  (answer, w.record (.discarded env.id answer) guests)

def abandon (env : Environment) (w : World σ) : World σ :=
  w.record (.abandoned env.id) (Guests.abandon env w.guests)

end Environment

end CompileWorker
