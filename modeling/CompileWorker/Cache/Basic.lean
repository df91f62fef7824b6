import CompileWorker.Digest.Map
import CompileWorker.Environment.World

namespace CompileWorker

inductive CacheError
  | create (role : Role) (error : EnvironmentError)
  | load (role : Role) (location : String) (error : EnvironmentError)
  deriving Repr

def CacheError.message : CacheError → String
  | .create role e => "failed to create " ++ role.name ++ " environment: " ++ e.message
  | .load role location e =>
    "failed to load '" ++ location ++ "' into " ++ role.name ++ " environment: " ++ e.message

inductive Acquisition
  | built
  | rebuilt (location : String)
  | reused (added : Nat)
  deriving DecidableEq, Repr

def Acquisition.display : Acquisition → String
  | .built => "built"
  | .rebuilt location => "rebuilt (" ++ location ++ " changed)"
  | .reused 0 => "reused"
  | .reused added => "reused (+" ++ toString added ++ " locations)"

structure CacheStats where
  builds : Nat := 0
  reuses : Nat := 0
  discards : Nat := 0
  locationsAdded : Nat := 0
  deriving DecidableEq, Repr

structure CacheEntry where
  environment : Environment
  key : DigestMap
  /-- the locations that failed to load, sorted -/
  poisoned : List String := []

def CacheEntry.staleLocation? (entry : CacheEntry) (requested : DigestMap) : Option String :=
  match entry.poisoned.find? requested.contains with
  | some location => some location
  | none =>
    match entry.key.compare requested with
    | .agree => none
    | .differ location _ _ => some location

variable {σ : Type} [Guests σ]

/-- Loads the locations of a classpath one after the other, up to the first that fails; counts those
that were new. -/
def Environment.loadAll (env : Environment) (w : World σ) :
    List String → Except (String × EnvironmentError) Nat × Environment × World σ
  | [] => (.ok 0, env, w)
  | location :: classpath =>
    match env.addLocation location w with
    | (.error e, env, w) => (.error (location, e), env, w)
    | (.ok added, env, w) =>
      match env.loadAll w classpath with
      | (.error e, env, w) => (.error e, env, w)
      | (.ok n, env, w) => (.ok (added.toNat + n), env, w)

structure EnvironmentCache where
  role : Role
  entry : Option CacheEntry := none
  stats : CacheStats := {}

namespace EnvironmentCache

def isVacant (c : EnvironmentCache) : Bool := c.entry.isNone

/-- Discards an environment. That it failed to go quietly is of no consequence. -/
def dispose (c : EnvironmentCache) (env : Environment) (w : World σ) : EnvironmentCache × World σ :=
  ({ c with stats := { c.stats with discards := c.stats.discards + 1 } }, (env.discard w).2)

def discard (c : EnvironmentCache) (w : World σ) : Bool × EnvironmentCache × World σ :=
  match c.entry with
  | none => (false, c, w)
  | some entry => (true, { c with entry := none }.dispose entry.environment w)

def build (c : EnvironmentCache) (key : DigestMap) (classpath : List String)
    (acquisition : Acquisition) (w : World σ) :
    Except CacheError Acquisition × EnvironmentCache × World σ :=
  match w.create c.role with
  | (.error e, w) => (.error (.create c.role e), c, w)
  | (.ok env, w) =>
    match env.loadAll w classpath with
    | (.error (location, e), env, w) => (.error (.load c.role location e), c.dispose env w)
    | (.ok _, env, w) =>
      (.ok acquisition,
       { c with
         entry := some { environment := env, key }
         stats := { c.stats with builds := c.stats.builds + 1 } },
       w)

/-- Grows the live environment by a classpath. Once it is grown, the key is guarded by the request's
digests too; a location that fails to load is remembered. -/
def extend (c : EnvironmentCache) (entry : CacheEntry) (key : DigestMap) (classpath : List String)
    (w : World σ) : Except CacheError Acquisition × EnvironmentCache × World σ :=
  match entry.environment.loadAll w classpath with
  | (.ok added, environment, w) =>
    (.ok (.reused added),
     { c with
       entry := some { entry with environment, key := entry.key.merge key }
       stats :=
         { c.stats with
           reuses := c.stats.reuses + 1
           locationsAdded := c.stats.locationsAdded + added } },
     w)
  | (.error (location, e), environment, w) =>
    (.error (.load c.role location e),
     { c with
       entry := some
         { entry with
           environment
           poisoned := Sorted.insert location entry.poisoned } },
     w)

/-- Provides an environment that is valid for the key and has the classpath loaded. -/
def acquire (c : EnvironmentCache) (key : DigestMap) (classpath : List String) (w : World σ) :
    Except CacheError Acquisition × EnvironmentCache × World σ :=
  match c.entry with
  | none => c.build key classpath .built w
  | some entry =>
    match entry.staleLocation? key with
    | none => c.extend entry key classpath w
    | some location =>
      let (_, c, w) := c.discard w
      c.build key classpath (.rebuilt location) w

def invoke (c : EnvironmentCache) (entryPoint payload : String) (w : World σ) :
    Except EnvironmentError Invocation × EnvironmentCache × World σ :=
  match c.entry with
  | none => (.error .closed, c, w)
  | some entry =>
    let (answer, environment, w) := entry.environment.invoke entryPoint payload w
    (answer, { c with entry := some { entry with environment } }, w)

end EnvironmentCache

end CompileWorker
