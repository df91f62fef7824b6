import CompileWorker.Cache.Roles
import CompileWorker.Message.Compile
import CompileWorker.Message.Response
import CompileWorker.Message.Signal
import CompileWorker.Settings.Basic
import CompileWorker.Transcript

namespace CompileWorker

inductive DispatchError
  | work (error : WorkError)
  | cache (error : CacheError)
  | invoke (role : Role) (error : EnvironmentError)
  | unexpectedPlan (entryPoint : String) (found : Json)
  | restartLoop (attempts : UInt32)
  deriving Repr

namespace DispatchError

def message : DispatchError → String
  | .work e => e.display
  | .cache e => e.message
  | .invoke role e => role.name ++ " environment: " ++ e.message
  | .unexpectedPlan entryPoint found =>
    entryPoint ++ " returned " ++ found.text ++ ", expected a compilation script"
  | .restartLoop attempts =>
    "compiler requested a restart " ++ toString attempts.toNat ++ " times in a row"

private def environmentFailed (message field value : String) : WorkError :=
  { code := .environmentFailed, message, data := some (.object [(field, .string value)]) }

def toWorkError : DispatchError → WorkError
  | .work e => e
  | .cache (.create role e) =>
    environmentFailed ("failed to create " ++ role.name ++ " environment: " ++ e.message) "role"
      role.name
  | .cache (.load _ location (.resolution _ reason)) => .resolutionFailed location reason
  | .cache (.load _ location (.guest _ message _)) => .resolutionFailed location message
  | .cache (.load _ location e) =>
    environmentFailed ("environment failed while loading '" ++ location ++ "': " ++ e.message)
      "location" location
  | .invoke _ (.guest entryPoint message _) => .compilerFailed entryPoint message
  | .invoke role e =>
    environmentFailed (role.name ++ " environment failed: " ++ e.message) "role" role.name
  | .unexpectedPlan entryPoint found => .guestProtocol (unexpectedPlan entryPoint found).message
  | .restartLoop attempts => .restartLoop attempts

end DispatchError

structure Session (σ : Type) where
  caches : RoleCaches
  world : World σ
  transcript : Transcript

/-- A step of handling a request: it may fail, and what it did until then stays done. -/
abbrev Step (σ : Type) := ExceptT DispatchError (StateM (Session σ))

namespace Step

variable {σ : Type} [Guests σ]

def transcribe (f : Transcript → Transcript) : Step σ Unit :=
  modify fun s ↦ { s with transcript := f s.transcript }

def discard (role : Role) : Step σ Unit :=
  modify fun s ↦
    let (_, caches, world) := s.caches.discard role s.world
    { s with caches, world }

def acquire (role : Role) (key : DigestMap) (classpath : List String) : Step σ Unit := do
  let s ← get
  let (result, caches, world) := s.caches.acquire role key classpath s.world
  set { s with caches, world }
  match result with
  | .error e => throw (.cache e)
  | .ok acquisition =>
    let id := ((caches.get role).entry.map (·.environment.id.display)).getD ""
    transcribe (·.note (role.name ++ " environment " ++ id ++ ": " ++ acquisition.display))

/-- Runs an entry point in the role's environment and takes down what the guest printed. An error
that the guest raised leaves the environment as it is; after any other the guest cannot be used
again. -/
def invoke (role : Role) (entryPoint payload : String) : Step σ Invocation := do
  let s ← get
  let (result, caches, world) := s.caches.invoke role entryPoint payload s.world
  set { s with caches, world }
  match result with
  | .ok invocation =>
    transcribe (·.guest invocation.output)
    return invocation
  | .error e =>
    match e with
    | .guest _ _ output => transcribe (·.guest output)
    | _ => discard role
    throw (.invoke role e)

end Step

inductive Round
  | settled (signal : Signal)
  /-- a restart is asked for and granted; so many were by now -/
  | restarted (restarts : UInt32)
  deriving DecidableEq, Repr

def Round.signal? : Round → Option Signal
  | .settled signal => some signal
  | .restarted _ => none

structure Policy where
  settings : WorkerSettings
  toolingKey : DigestMap := .empty
  /-- How many more rounds of compiling are made once the count of restarts has come back to zero:
  none where that is an error, any number where it is not. -/
  overtime : Nat := 0

namespace Policy

variable {σ : Type} [Guests σ] (p : Policy)

def invokeTooling (entryPoint payload : String) : Step σ Invocation := do
  Step.acquire .tooling p.toolingKey p.settings.guest.toolingClasspath
  Step.invoke .tooling entryPoint payload

def plan (payload : String) : Step σ String := do
  let entryPoint := p.settings.entryPoints.plan
  match (← p.invokeTooling entryPoint payload).value with
  | .string script => return script
  | found => throw (.unexpectedPlan entryPoint found)

/-- One round of compiling: the script is run. If it asks for a restart, that is counted and its
environment is discarded; the count is raised before it is compared with the limit, and both are
32-bit words. -/
def round (key : DigestMap) (classpath : List String) (script : String) (restarts : UInt32) :
    Step σ Round := do
  Step.acquire .compile key classpath
  let invocation ← Step.invoke .compile p.settings.entryPoints.compile script
  match Signal.ofValue invocation.value with
  | .error e => throw (.work e)
  | .ok .retry =>
    let restarts := restarts + 1
    Step.discard .compile
    if p.settings.maxRestarts < restarts then throw (.restartLoop restarts)
    else return .restarted restarts
  | .ok signal => return .settled signal

def rounds (key : DigestMap) (classpath : List String) (script : String) :
    Nat → UInt32 → Step σ Round
  | 0, restarts => p.round key classpath script restarts
  | more + 1, restarts => do
    match ← p.round key classpath script restarts with
    | .settled signal => return .settled signal
    | .restarted restarts =>
      Step.transcribe (·.note "compile environment discarded (restart)")
      rounds key classpath script more restarts

/-- Runs the script until it does not ask for a restart. A restart beyond the limit fails in its
round. Where the count comes back to zero no restart is beyond the limit, and there is no signal if
the rounds at hand do not settle on one. -/
def compile (key : DigestMap) (classpath : List String) (script : String) :
    Step σ (Option Signal) := do
  return (← p.rounds key classpath script (p.settings.maxRestarts.toNat + p.overtime) 0).signal?

def package (payload : String) : Step σ Unit := do
  match p.settings.entryPoints.package? with
  | none => return
  | some entryPoint => let _ ← p.invokeTooling entryPoint payload

/-- Handles a request up to its signal, if it comes to one. A compile environment that must not
serve again is discarded after packaging, whether that succeeds or not. -/
def process (request : WorkRequest) : Step σ (Option Signal) := do
  let some payload := request.payload? | throw (.work (.invalidRequest "request has no arguments"))
  Step.transcribe (·.remember "request" payload)
  let compileRequest ← match CompileRequest.ofString payload with
    | .ok r => pure r
    | .error e => throw (.work e)
  let script ← p.plan payload
  Step.transcribe (·.remember "script" script)
  let key := DigestMap.forRequest compileRequest.classpath request.inputs
  let some signal ← p.compile key compileRequest.classpath script | return none
  let packaged ← ExceptT.lift (p.package payload).run
  if signal = .okThenInvalidate then
    Step.discard .compile
    Step.transcribe (·.note "compile environment discarded (reload)")
  match packaged with
  | .ok () => return some signal
  | .error e => throw e

end Policy

structure Dispatcher (σ : Type) where
  policy : Policy
  caches : RoleCaches := {}
  world : World σ

namespace Dispatcher

variable {σ : Type} [Guests σ]

def handle (d : Dispatcher σ) (request : WorkRequest) : Option WorkResponse × Dispatcher σ :=
  let session : Session σ :=
    { caches := d.caches, world := d.world, transcript := { isVerbose := request.isVerbose } }
  let (result, s) := (d.policy.process request).run.run session
  let d := { d with caches := s.caches, world := s.world }
  match result with
  | .ok none => (none, d)
  | .ok (some _) => (some (.success request.requestId s.transcript.output), d)
  | .error e => (some (.failure request.requestId (s.transcript.fail e.toWorkError).output), d)

def shutdown (d : Dispatcher σ) : Nat × Dispatcher σ :=
  let (n, caches, world) := d.caches.discardAll d.world
  (n, { d with caches, world })

def runOnce (d : Dispatcher σ) (arguments : List String) : Option WorkResponse × Dispatcher σ :=
  match d.handle { arguments } with
  | (none, d) => (none, d)
  | (some response, d) => (some response, d.shutdown.2)

end Dispatcher

end CompileWorker
