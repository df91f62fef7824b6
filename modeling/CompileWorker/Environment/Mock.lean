import CompileWorker.Environment.World

namespace CompileWorker

inductive MockReply
  | value (value : Json) (output : String)
  | fail (message output : String)
  deriving Repr

inductive MockEvent
  | created (id : EnvironmentId) (role : Role)
  | locationAdded (id : EnvironmentId) (location : String)
  | invoked (id : EnvironmentId) (entryPoint : String)
  | discarded (id : EnvironmentId)
  deriving DecidableEq, Repr

structure Mock where
  events : List MockEvent := []
  /-- for each role the environment created last, unless it is gone -/
  live : Role → Option EnvironmentId := fun _ ↦ none
  /-- pairs of an environment still alive and the one created meanwhile, the newest first -/
  overlaps : List (EnvironmentId × EnvironmentId) := []
  leaked : List EnvironmentId := []
  queued : List (String × MockReply) := []
  defaults : List (String × MockReply) := []
  failingLocations : List String := []

namespace Mock

def respond (entryPoint : String) (value : Json) (m : Mock) : Mock :=
  { m with defaults := (entryPoint, .value value "") :: m.defaults }

def queue (entryPoint : String) (reply : MockReply) (m : Mock) : Mock :=
  { m with queued := m.queued ++ [(entryPoint, reply)] }

def failLocation (location : String) (m : Mock) : Mock :=
  { m with failingLocations := location :: m.failingLocations }

def healLocation (location : String) (m : Mock) : Mock :=
  { m with failingLocations := m.failingLocations.filter (· ≠ location) }

def clearEvents (m : Mock) : Mock := { m with events := [] }

def dequeue (entryPoint : String) :
    List (String × MockReply) → Option MockReply × List (String × MockReply)
  | [] => (none, [])
  | entry :: rest =>
    if entry.1 = entryPoint then (some entry.2, rest)
    else
      let (reply, rest) := dequeue entryPoint rest
      (reply, entry :: rest)

/-- The next reply of an entry point; `null` if the script has none. -/
def nextReply (entryPoint : String) (m : Mock) : MockReply × Mock :=
  match dequeue entryPoint m.queued with
  | (some reply, queued) => (reply, { m with queued })
  | (none, _) => ((m.defaults.lookup entryPoint).getD (.value .null ""), m)

def setLive (role : Role) (id : Option EnvironmentId) (m : Mock) : Mock :=
  { m with live := fun r ↦ if r = role then id else m.live r }

def clearLive (env : Environment) (m : Mock) : Mock :=
  if m.live env.role = some env.id then m.setLive env.role none else m

def start (id : EnvironmentId) (role : Role) (m : Mock) : Mock :=
  let overlaps := match m.live role with
    | some alive => (alive, id) :: m.overlaps
    | none => m.overlaps
  { m.setLive role (some id) with overlaps, events := .created id role :: m.events }

def load (env : Environment) (location : String) (m : Mock) : Except EnvironmentError Unit × Mock :=
  if m.failingLocations.contains location then
    (.error (.resolution location "No such file or directory"), m)
  else (.ok (), { m with events := .locationAdded env.id location :: m.events })

/-- Every invocation defines the unit named by its entry point, whether it fails or not. -/
def invoke (env : Environment) (entryPoint : String) (m : Mock) :
    (Except EnvironmentError Invocation × List String) × Mock :=
  let (reply, m) := nextReply entryPoint { m with events := .invoked env.id entryPoint :: m.events }
  ((match reply with
    | .value value output => .ok ⟨value, output⟩
    | .fail message output => .error (.guest entryPoint message output),
    [entryPoint]), m)

def discard (env : Environment) (m : Mock) : Mock :=
  let m := m.clearLive env
  { m with events := .discarded env.id :: m.events }

def abandon (env : Environment) (m : Mock) : Mock :=
  { m.clearLive env with leaked := env.id :: m.leaked }

def created (role : Role) (m : Mock) : List EnvironmentId :=
  m.events.reverse.filterMap fun
    | .created id r => if r = role then some id else none
    | _ => none

def invocations (id : EnvironmentId) (m : Mock) : List String :=
  m.events.reverse.filterMap fun
    | .invoked i entryPoint => if i = id then some entryPoint else none
    | _ => none

def discards (id : EnvironmentId) (m : Mock) : Nat := m.events.count (.discarded id)

instance : Guests Mock where
  start id role m := (.started, m.start id role)
  load env location m := m.load env location
  invoke env entryPoint _ m := m.invoke env entryPoint
  discard env m := (.ok (), m.discard env)
  abandon env m := m.abandon env

end Mock

end CompileWorker
