import CompileWorker.Proofs.Actions
import CompileWorker.Proofs.CacheOutcomes

namespace CompileWorker

structure GuestTask where
  role : Role
  key : DigestMap
  classpath : List String
  entryPoint : String
  payload : String

inductive TaskOutcome
  | notReady (error : CacheError)
  | ran (id : EnvironmentId) (answer : Except EnvironmentError Invocation)

def Invocation.printed? : Except EnvironmentError Invocation → Option String
  | .ok invocation => some invocation.output
  | .error (.guest _ _ output) => some output
  | .error _ => none

/-- The guest was heard, even if all it said was that it raised an error. -/
def isHeard : Except EnvironmentError Invocation → Bool
  | .ok _ | .error (.guest _ _ _) => true
  | .error _ => false

namespace TaskOutcome

def result (role : Role) : TaskOutcome → Except DispatchError Invocation
  | .notReady e => .error (.cache e)
  | .ran _ (.error e) => .error (.invoke role e)
  | .ran _ (.ok invocation) => .ok invocation

def isReady : TaskOutcome → Bool
  | .notReady _ => false
  | .ran _ _ => true

def invocation? : TaskOutcome → Option Invocation
  | .ran _ (.ok invocation) => some invocation
  | _ => none

def script? (o : TaskOutcome) : Option String := o.invocation?.bind (·.value.asString?)

def planned (entryPoint : String) (o : TaskOutcome) : Except DispatchError String :=
  match o.result .tooling with
  | .ok ⟨.string script, _⟩ => .ok script
  | .ok invocation => .error (.unexpectedPlan entryPoint invocation.value)
  | .error e => .error e

theorem script?_eq (entryPoint : String) (o : TaskOutcome) :
    o.script? = (o.planned entryPoint).toOption := by
  rcases o with e | ⟨id, e | ⟨value, output⟩⟩
  · rfl
  · rfl
  · cases value <;> rfl

def verdict : TaskOutcome → Except DispatchError Signal
  | .notReady e => .error (.cache e)
  | .ran _ (.error e) => .error (.invoke .compile e)
  | .ran _ (.ok invocation) => (Signal.ofValue invocation.value).mapError .work

def signal? (o : TaskOutcome) : Option Signal := o.verdict.toOption

/-- The environment that a compilation leaves for the next request: its own, unless that asked to go
or could not be heard any more. -/
def kept? : TaskOutcome → Option EnvironmentId
  | .ran id (.ok invocation) =>
    match Signal.ofValue invocation.value with
    | .ok .okThenInvalidate | .ok .retry => none
    | .ok .ok | .error _ => some id
  | .ran id (.error (.guest _ _ _)) => some id
  | _ => none

end TaskOutcome

structure Attempt where
  task : GuestTask
  outcome : TaskOutcome

structure Course where
  plan : Option Attempt := none
  compiles : List Attempt := []
  package : Option Attempt := none

namespace Course

def steps (c : Course) : List Attempt := c.plan.toList ++ c.compiles ++ c.package.toList

def script? (c : Course) : Option String := c.plan.bind (·.outcome.script?)

def signal? (c : Course) : Option Signal := c.compiles.getLast?.bind (·.outcome.signal?)

end Course

def WorkRequest.accept (request : WorkRequest) : Except WorkError (String × CompileRequest) :=
  match request.payload? with
  | none => .error (.invalidRequest "request has no arguments")
  | some payload => (CompileRequest.ofString payload).map (payload, ·)

/-- The first argument and the compile request that it carries, if it does. -/
def WorkRequest.accepted? (request : WorkRequest) : Option (String × CompileRequest) :=
  request.payload?.bind fun payload ↦ (CompileRequest.ofString payload).toOption.map (payload, ·)

theorem WorkRequest.accepted?_eq (request : WorkRequest) :
    request.accepted? = request.accept.toOption := by
  rw [accepted?, accept]
  cases request.payload? with
  | none => rfl
  | some payload =>
    simp only [Option.bind_some]
    cases CompileRequest.ofString payload <;> rfl

namespace Policy

variable (p : Policy)

def toolingTask (entryPoint payload : String) : GuestTask :=
  ⟨.tooling, p.toolingKey, p.settings.guest.toolingClasspath, entryPoint, payload⟩

def compileTask (request : WorkRequest) (r : CompileRequest) (script : String) : GuestTask :=
  ⟨.compile, .forRequest r.classpath request.inputs, r.classpath, p.settings.entryPoints.compile,
    script⟩

end Policy

variable {σ : Type} [Guests σ]

namespace Bench

inductive Makes (b : Bench σ) (t : GuestTask) : TaskOutcome → Bench σ → Prop
  | notReady {e : CacheError} {c : EnvironmentCache} {w : World σ}
      (ha : (b.caches.get t.role).acquire t.key t.classpath b.world = (.error e, c, w)) :
      Makes b t (.notReady e) { caches := b.caches.set t.role c, world := w }
  | heard {acquisition : Acquisition} {c c' : EnvironmentCache} {w w' : World σ}
      {id : EnvironmentId} {answer : Except EnvironmentError Invocation}
      (ha : (b.caches.get t.role).acquire t.key t.classpath b.world = (.ok acquisition, c, w))
      (hid : c.environmentId? = some id) (hi : c.invoke t.entryPoint t.payload w = (answer, c', w'))
      (hheard : isHeard answer) :
      Makes b t (.ran id answer) { caches := b.caches.set t.role c', world := w' }
  | broken {acquisition : Acquisition} {c c' : EnvironmentCache} {w w' : World σ}
      {id : EnvironmentId} {answer : Except EnvironmentError Invocation}
      (ha : (b.caches.get t.role).acquire t.key t.classpath b.world = (.ok acquisition, c, w))
      (hid : c.environmentId? = some id) (hi : c.invoke t.entryPoint t.payload w = (answer, c', w'))
      (hheard : ¬ isHeard answer) :
      Makes b t (.ran id answer)
        { caches := b.caches.set t.role (c'.discard w').2.1, world := (c'.discard w').2.2 }

/-- Attempts are made in order, and nothing else happens but that environments are discarded. -/
inductive Follows : Bench σ → List Attempt → Bench σ → Prop
  | done (b : Bench σ) : Follows b [] b
  | attempt {b b₁ b₂ : Bench σ} {a : Attempt} {as : List Attempt} (h : b.Makes a.task a.outcome b₁)
      (hrest : Follows b₁ as b₂) : Follows b (a :: as) b₂
  | discard {b b₂ : Bench σ} {as : List Attempt} (role : Role)
      (hrest : Follows (b.perform (.discard role)) as b₂) : Follows b as b₂

/-- Attempts at a compilation, each of which asked for a restart and had its environment
discarded. -/
inductive Restarts (t : GuestTask) : Bench σ → List Attempt → Bench σ → Prop
  | done (b : Bench σ) : Restarts t b [] b
  | retry {b b₁ b₂ : Bench σ} {o : TaskOutcome} {as : List Attempt} (h : b.Makes t o b₁)
      (hretry : o.signal? = some .retry)
      (hrest : Restarts t (b₁.perform (.discard .compile)) as b₂) :
      Restarts t b (⟨t, o⟩ :: as) b₂

end Bench

/-- What handling a request comes to: a signal, a failure, or none of both. -/
def ending : Except DispatchError (Option Signal) → Option (Except DispatchError Signal)
  | .error e => some (.error e)
  | .ok signal => signal.map .ok

namespace Policy

variable (p : Policy)

/-- How many restarts are granted to a request. At the largest limit there is no word for one too
many. -/
def grants : Nat :=
  if p.settings.maxRestarts = 0xFFFFFFFF then p.settings.maxRestarts.toNat + p.overtime
  else p.settings.maxRestarts.toNat

/-- What compiling comes to if the restarts that are granted are used up and another is asked
for. -/
def exhausted : Option (Except DispatchError Signal) :=
  if p.settings.maxRestarts = 0xFFFFFFFF then none
  else some (.error (.restartLoop (p.settings.maxRestarts + 1)))

/-- Compiling with so many restarts to spare: attempts that asked for one, then the attempt that
settles it. -/
inductive Compiles (t : GuestTask) (restarts : Nat) (b : Bench σ) :
    List Attempt → Option (Except DispatchError Signal) → Bench σ → Prop
  | exhausted {as : List Attempt} {b' : Bench σ} (h : b.Restarts t as b')
      (hlen : as.length = restarts + 1) :
      Compiles t restarts b as p.exhausted b'
  | settled {as : List Attempt} {o : TaskOutcome} {b₁ b' : Bench σ} (h : b.Restarts t as b₁)
      (hlen : as.length ≤ restarts) (hm : b₁.Makes t o b') (ho : o.signal? ≠ some .retry) :
      Compiles t restarts b (as ++ [⟨t, o⟩]) (some o.verdict) b'

/-- Rounds of compiling, one and so many more, after so many already made. Each but perhaps the last
asked for a restart, and the counts before the last restart were not above the limit. -/
inductive Repeats (t : GuestTask) (made more : Nat) (b : Bench σ) :
    List Attempt → Except DispatchError Round → Bench σ → Prop
  | settled {as : List Attempt} {o : TaskOutcome} {b₁ b' : Bench σ} (h : b.Restarts t as b₁)
      (hlen : as.length ≤ more) (hm : b₁.Makes t o b') (ho : o.signal? ≠ some .retry)
      (hgranted : ∀ i, made < i → i ≤ made + as.length → UInt32.ofNat i ≤ p.settings.maxRestarts) :
      Repeats t made more b (as ++ [⟨t, o⟩]) (o.verdict.map .settled) b'
  | refused {as : List Attempt} {b' : Bench σ} (h : b.Restarts t as b') (hne : as ≠ [])
      (hlen : as.length ≤ more + 1)
      (hgranted : ∀ i, made < i → i < made + as.length → UInt32.ofNat i ≤ p.settings.maxRestarts)
      (hover : p.settings.maxRestarts < UInt32.ofNat (made + as.length)) :
      Repeats t made more b as (.error (.restartLoop (UInt32.ofNat (made + as.length)))) b'
  | unsettled {as : List Attempt} {b' : Bench σ} (h : b.Restarts t as b')
      (hlen : as.length = more + 1)
      (hgranted : ∀ i, made < i → i ≤ made + as.length → UInt32.ofNat i ≤ p.settings.maxRestarts) :
      Repeats t made more b as (.ok (.restarted (UInt32.ofNat (made + as.length)))) b'

inductive Packages (payload : String) (b : Bench σ) :
    Option Attempt → Except DispatchError Unit → Bench σ → Prop
  | disabled (h : p.settings.entryPoints.package? = none) : Packages payload b none (.ok ()) b
  | made {entryPoint : String} {o : TaskOutcome} {b' : Bench σ}
      (h : p.settings.entryPoints.package? = some entryPoint)
      (hm : b.Makes (p.toolingTask entryPoint payload) o b') :
      Packages payload b (some ⟨p.toolingTask entryPoint payload, o⟩)
        ((o.result .tooling).map fun _ ↦ ()) b'

/-- Handling a request: the course that it takes, what it comes to and the bench that it leaves. -/
inductive Processes (request : WorkRequest) (b : Bench σ) :
    Course → Option (Except DispatchError Signal) → Bench σ → Prop
  | rejected {e : WorkError} (h : request.accepted? = none) (he : request.accept = .error e) :
      Processes request b {} (some (.error (.work e))) b
  | unplanned {payload : String} {r : CompileRequest} {o : TaskOutcome} {e : DispatchError}
      {b₁ : Bench σ} (h : request.accepted? = some (payload, r))
      (hm : b.Makes (p.toolingTask p.settings.entryPoints.plan payload) o b₁)
      (hscript : o.script? = none) (he : o.planned p.settings.entryPoints.plan = .error e) :
      Processes request b { plan := some ⟨p.toolingTask p.settings.entryPoints.plan payload, o⟩ }
        (some (.error e)) b₁
  | uncompiled {payload script : String} {r : CompileRequest} {o : TaskOutcome} {as : List Attempt}
      {compiled : Option (Except DispatchError Signal)} {b₁ b₂ : Bench σ}
      (h : request.accepted? = some (payload, r))
      (hm : b.Makes (p.toolingTask p.settings.entryPoints.plan payload) o b₁)
      (hscript : o.script? = some script)
      (hc : p.Compiles (p.compileTask request r script) p.grants b₁ as compiled b₂)
      (hfailed : ∀ signal, compiled ≠ some (.ok signal)) :
      Processes request b
        { plan := some ⟨p.toolingTask p.settings.entryPoints.plan payload, o⟩, compiles := as }
        compiled b₂
  | compiled {payload script : String} {r : CompileRequest} {o : TaskOutcome} {as : List Attempt}
      {signal : Signal} {package : Option Attempt} {packaged : Except DispatchError Unit}
      {b₁ b₂ b₃ : Bench σ} (h : request.accepted? = some (payload, r))
      (hm : b.Makes (p.toolingTask p.settings.entryPoints.plan payload) o b₁)
      (hscript : o.script? = some script)
      (hc : p.Compiles (p.compileTask request r script) p.grants b₁ as (some (.ok signal)) b₂)
      (hp : p.Packages payload b₂ package packaged b₃) :
      Processes request b
        { plan := some ⟨p.toolingTask p.settings.entryPoints.plan payload, o⟩
          compiles := as
          package }
        (some (packaged.map fun _ ↦ signal))
        (if signal = .okThenInvalidate then b₃.perform (.discard .compile) else b₃)

end Policy

namespace Step

variable {α β : Type} {b b' : Bench σ}

/-- The step takes one bench to another with a result, whatever is written down meanwhile. -/
def Runs (x : Step σ α) (b : Bench σ) (r : Except DispatchError α) (b' : Bench σ) : Prop :=
  ∃ s s', s.bench = b ∧ x.run.run s = (r, s') ∧ s'.bench = b'

omit [Guests σ] in
theorem Runs.bind {x : Step σ α} {f : α → Step σ β} {r : Except DispatchError β}
    (h : Runs (x >>= f) b r b') :
    (∃ e, r = .error e ∧ Runs x b (.error e) b') ∨ ∃ a b₁, Runs x b (.ok a) b₁ ∧
    Runs (f a) b₁ r b' := by
  obtain ⟨s, s', rfl, hrun, rfl⟩ := h
  rw [run_bind] at hrun
  rcases hx : x.run.run s with ⟨e | a, s₁⟩
  · rw [hx] at hrun
    obtain ⟨rfl, rfl⟩ := Prod.mk.inj hrun
    exact .inl ⟨e, rfl, s, s₁, rfl, hx, rfl⟩
  · rw [hx] at hrun
    exact .inr ⟨a, s₁.bench, ⟨s, s₁, rfl, hx, rfl⟩, s₁, s', rfl, hrun, rfl⟩

omit [Guests σ] in
theorem Runs.pure {a : α} {r : Except DispatchError α} (h : Runs (pure a) b r b') :
    r = .ok a ∧ b' = b := by
  obtain ⟨s, s', rfl, hrun, rfl⟩ := h
  obtain ⟨rfl, rfl⟩ := Prod.mk.inj hrun
  exact ⟨rfl, rfl⟩

omit [Guests σ] in
theorem Runs.throw {e : DispatchError} {r : Except DispatchError α} (h : Runs (throw e) b r b') :
    r = .error e ∧ b' = b := by
  obtain ⟨s, s', rfl, hrun, rfl⟩ := h
  obtain ⟨rfl, rfl⟩ := Prod.mk.inj hrun
  exact ⟨rfl, rfl⟩

omit [Guests σ] in
theorem Runs.transcribe_bind {f : Transcript → Transcript} {g : Unit → Step σ β}
    {r : Except DispatchError β} (h : Runs (Step.transcribe f >>= g) b r b') :
    Runs (g ()) b r b' := by
  obtain ⟨s, s', rfl, hrun, rfl⟩ := h
  exact ⟨{ s with transcript := f s.transcript }, s', rfl, hrun, rfl⟩

theorem Runs.discard_bind {role : Role} {g : Unit → Step σ β} {r : Except DispatchError β}
    (h : Runs (Step.discard role >>= g) b r b') : Runs (g ()) (b.perform (.discard role)) r b' := by
  obtain ⟨s, s', rfl, hrun, rfl⟩ := h
  exact ⟨_, s', rfl, hrun, rfl⟩

omit [Guests σ] in
theorem Runs.lift_bind {x : Step σ α} {g : Except DispatchError α → Step σ β}
    {r : Except DispatchError β} (h : Runs (ExceptT.lift x.run >>= g) b r b') :
    ∃ r₁ b₁, Runs x b r₁ b₁ ∧ Runs (g r₁) b₁ r b' := by
  obtain ⟨s, s', rfl, hrun, rfl⟩ := h
  exact ⟨(x.run.run s).1, (x.run.run s).2.bench, ⟨s, _, rfl, rfl, rfl⟩, _, s', rfl, hrun, rfl⟩

omit [Guests σ] in
theorem of_run_bind {x : Step σ α} {f : α → Step σ β} {r : Except DispatchError β}
    {s s' : Session σ} (h : (x >>= f).run.run s = (r, s')) :
    ∃ r₁ s₁, x.run.run s = (r₁, s₁) ∧
      ((∃ e, r₁ = .error e ∧ r = .error e ∧ s' = s₁) ∨ ∃ a, r₁ = .ok a ∧
        (f a).run.run s₁ = (r, s')) := by
  rw [run_bind] at h
  rcases hx : x.run.run s with ⟨e | a, s₁⟩ <;> rw [hx] at h
  · obtain ⟨rfl, rfl⟩ := Prod.mk.inj h
    exact ⟨_, _, rfl, .inl ⟨e, rfl, rfl, rfl⟩⟩
  · exact ⟨_, _, rfl, .inr ⟨a, rfl, h⟩⟩

theorem Runs.attempt {t : GuestTask} {r : Except DispatchError Invocation}
    (h : Runs (do Step.acquire t.role t.key t.classpath; Step.invoke t.role t.entryPoint t.payload)
      b r b') :
    ∃ o, b.Makes t o b' ∧ r = o.result t.role := by
  obtain ⟨s, s', rfl, hrun, rfl⟩ := h
  obtain ⟨transcript, hacquire⟩ := run_acquire t.role t.key t.classpath s
  rw [run_bind, hacquire] at hrun
  rcases ha : (s.caches.get t.role).acquire t.key t.classpath s.world with ⟨e | acquisition, c, w⟩
  · simp only [ha] at hrun
    obtain ⟨rfl, rfl⟩ := Prod.mk.inj hrun
    exact ⟨.notReady e, .notReady ha, rfl⟩
  · obtain ⟨id, hid⟩ := EnvironmentCache.live_of_acquire ha
    obtain ⟨_, hinvoke⟩ :=
      run_invoke t.role t.entryPoint t.payload ⟨s.caches.set t.role c, w, transcript⟩
    simp only [ha, hinvoke, RoleCaches.get_set, if_true, RoleCaches.set_set] at hrun
    rcases hi : c.invoke t.entryPoint t.payload w with ⟨e | invocation, c', w'⟩
    · cases e with
      | guest entryPoint message output =>
        simp only [hi] at hrun
        obtain ⟨rfl, rfl⟩ := Prod.mk.inj hrun
        exact ⟨_, .heard ha hid hi rfl, rfl⟩
      | _ =>
        simp only [hi] at hrun
        obtain ⟨rfl, rfl⟩ := Prod.mk.inj hrun
        exact ⟨_, .broken ha hid hi (by simp [isHeard]), rfl⟩
    · simp only [hi] at hrun
      obtain ⟨rfl, rfl⟩ := Prod.mk.inj hrun
      exact ⟨_, .heard ha hid hi rfl, rfl⟩

end Step

namespace Policy

variable (p : Policy) {b b' : Bench σ}

theorem runs_plan {payload : String} {r : Except DispatchError String}
    (h : (p.plan payload).Runs b r b') :
    ∃ o, b.Makes (p.toolingTask p.settings.entryPoints.plan payload) o b' ∧
      r = o.planned p.settings.entryPoints.plan := by
  rcases h.bind with ⟨e, rfl, hinvoke⟩ | ⟨⟨value, output⟩, b₁, hinvoke, hrest⟩
  · obtain ⟨o, hm, ho⟩ := hinvoke.attempt (t := p.toolingTask p.settings.entryPoints.plan payload)
    refine ⟨o, hm, ?_⟩
    rw [TaskOutcome.planned, show o.result .tooling = .error e from ho.symm]
  · obtain ⟨o, hm, ho⟩ := hinvoke.attempt (t := p.toolingTask p.settings.entryPoints.plan payload)
    have hresult : o.result .tooling = .ok ⟨value, output⟩ := ho.symm
    have hplanned : r = o.planned p.settings.entryPoints.plan ∧ b' = b₁ := by
      rw [TaskOutcome.planned, hresult]
      cases value with
      | string script => exact hrest.pure
      | _ => exact hrest.throw
    obtain ⟨rfl, rfl⟩ := hplanned
    exact ⟨o, hm, rfl⟩

theorem run_rounds_succ (key : DigestMap) (classpath : List String) (script : String) (more : Nat)
    (restarts : UInt32) (s : Session σ) :
    (p.rounds key classpath script (more + 1) restarts).run.run s =
      match (p.round key classpath script restarts).run.run s with
      | (.ok (.restarted restarts), s₁) =>
        (p.rounds key classpath script more restarts).run.run
          { s₁ with transcript := s₁.transcript.note "compile environment discarded (restart)" }
      | out => out := by
  rw [rounds, Step.run_bind]
  rcases (p.round key classpath script restarts).run.run s with ⟨e | round, s₁⟩
  · rfl
  · cases round <;> rfl

theorem run_compile (key : DigestMap) (classpath : List String) (script : String) (s : Session σ) :
    (p.compile key classpath script).run.run s =
      match (p.rounds key classpath script (p.settings.maxRestarts.toNat + p.overtime) 0).run.run
        s with
      | (r, s') => (r.map Round.signal?, s') := by
  rw [compile, Step.run_bind]
  rcases (p.rounds key classpath script (p.settings.maxRestarts.toNat + p.overtime) 0).run.run s
    with ⟨e | round, s'⟩
  · rfl
  · rfl

theorem run_round {key : DigestMap} {classpath : List String} {script : String} {restarts : UInt32}
    {r : Except DispatchError Round} {s s' : Session σ}
    (h : (p.round key classpath script restarts).run.run s = (r, s')) : ∃ o s₁, (do
        Step.acquire .compile key classpath
        Step.invoke .compile p.settings.entryPoints.compile script :
        Step σ Invocation).run.run s = (o.result .compile, s₁) ∧
      s.bench.Makes ⟨.compile, key, classpath, p.settings.entryPoints.compile, script⟩ o s₁.bench ∧
      (o.signal? ≠ some .retry ∧ r = o.verdict.map .settled ∧ s' = s₁ ∨
        o.signal? = some .retry ∧ s'.bench = s₁.bench.perform (.discard .compile) ∧
        s'.transcript = s₁.transcript ∧
          r = if p.settings.maxRestarts < restarts + 1 then .error (.restartLoop (restarts + 1))
            else .ok (.restarted (restarts + 1))) := by
  unfold round at h
  rw [← bind_assoc] at h
  obtain ⟨_, s₁, hinvoke, hrest⟩ := Step.of_run_bind h
  obtain ⟨o, hm, rfl⟩ :=
    Step.Runs.attempt (t := ⟨.compile, key, classpath, p.settings.entryPoints.compile, script⟩)
    ⟨s, s₁, rfl, hinvoke, rfl⟩
  refine ⟨o, s₁, hinvoke, hm, ?_⟩
  obtain ⟨e, ho, rfl, rfl⟩ | ⟨invocation, ho, hrest⟩ := hrest
  · rcases o with e' | ⟨id, e' | invocation⟩ <;> cases ho
    · exact .inl ⟨by rintro ⟨⟩, rfl, rfl⟩
    · exact .inl ⟨by rintro ⟨⟩, rfl, rfl⟩
  · rcases o with e' | ⟨id, e' | invocation'⟩ <;> cases ho
    simp only [TaskOutcome.signal?, TaskOutcome.verdict]
    rcases hv : Signal.ofValue invocation.value with e | signal
    · simp only [hv] at hrest
      cases hrest
      exact .inl ⟨by rintro ⟨⟩, rfl, rfl⟩
    · simp only [hv] at hrest
      cases signal with
      | retry =>
        refine .inr ⟨rfl, ?_⟩
        by_cases hover : p.settings.maxRestarts < restarts + 1
        · simp only [if_pos hover] at hrest ⊢
          cases hrest
          exact ⟨rfl, rfl, rfl⟩
        · simp only [if_neg hover] at hrest ⊢
          cases hrest
          exact ⟨rfl, rfl, rfl⟩
      | _ =>
        cases hrest
        exact .inl ⟨by rintro ⟨⟩, rfl, rfl⟩

/-- How the rounds go on from the attempt of the first: it settles compiling or asks for one restart
too many, or else it is the last at hand or the others follow. -/
inductive Proceeds (p : Policy) (key : DigestMap) (classpath : List String) (script : String)
    (made : Nat) (o : TaskOutcome) (s : Session σ) :
    Nat → Except DispatchError Round → Session σ → Prop
  | settled {more : Nat} (ho : o.signal? ≠ some .retry) :
    Proceeds p key classpath script made o s more (o.verdict.map .settled) s
  | exceeded {more : Nat} {s' : Session σ} (ho : o.signal? = some .retry)
    (hover : p.settings.maxRestarts < UInt32.ofNat (made + 1))
    (hbench : s'.bench = s.bench.perform (.discard .compile))
    (htranscript : s'.transcript = s.transcript) :
    Proceeds p key classpath script made o s more (.error (.restartLoop (UInt32.ofNat (made + 1))))
      s'
  | last {s' : Session σ} (ho : o.signal? = some .retry)
    (hgranted : UInt32.ofNat (made + 1) ≤ p.settings.maxRestarts)
    (hbench : s'.bench = s.bench.perform (.discard .compile))
    (htranscript : s'.transcript = s.transcript) :
    Proceeds p key classpath script made o s 0 (.ok (.restarted (UInt32.ofNat (made + 1)))) s'
  | again {more : Nat} {r : Except DispatchError Round} {s₁ s' : Session σ}
      (ho : o.signal? = some .retry)
    (hgranted : UInt32.ofNat (made + 1) ≤ p.settings.maxRestarts)
    (hbench : s₁.bench = s.bench.perform (.discard .compile))
    (htranscript : s₁.transcript = s.transcript.note "compile environment discarded (restart)")
    (hrest : (p.rounds key classpath script more (UInt32.ofNat (made + 1))).run.run s₁ = (r, s')) :
    Proceeds p key classpath script made o s (more + 1) r s'

theorem run_rounds {key : DigestMap} {classpath : List String} {script : String} {made more : Nat}
    {r : Except DispatchError Round} {s s' : Session σ}
    (h : (p.rounds key classpath script more (UInt32.ofNat made)).run.run s = (r, s')) : ∃ o s₁, (do
        Step.acquire .compile key classpath
        Step.invoke .compile p.settings.entryPoints.compile script :
        Step σ Invocation).run.run s = (o.result .compile, s₁) ∧
      s.bench.Makes ⟨.compile, key, classpath, p.settings.entryPoints.compile, script⟩ o s₁.bench ∧
      p.Proceeds key classpath script made o s₁ more r s' := by
  have hnext : UInt32.ofNat made + 1 = UInt32.ofNat (made + 1) := (UInt32.ofNat_add made 1).symm
  cases more with
  | zero =>
    obtain ⟨o, s₁, hinvoke, hm, ⟨ho, rfl, rfl⟩ | ⟨ho, hbench, htranscript, rfl⟩⟩ := p.run_round h
    · exact ⟨o, _, hinvoke, hm, .settled ho⟩
    · refine ⟨o, s₁, hinvoke, hm, ?_⟩
      rw [hnext]
      split
      · exact .exceeded ho ‹_› hbench htranscript
      · exact .last ho (UInt32.not_lt.mp ‹_›) hbench htranscript
  | succ more =>
    rw [run_rounds_succ] at h
    rcases hround : (p.round key classpath script (UInt32.ofNat made)).run.run s with ⟨r₁, s₂⟩
    rw [hround] at h
    obtain ⟨o, s₁, hinvoke, hm, ⟨ho, rfl, rfl⟩ | ⟨ho, hbench, htranscript, rfl⟩⟩ :=
      p.run_round hround
    · obtain ⟨rfl, rfl⟩ : r = o.verdict.map .settled ∧ s' = s₂ := by
        cases hv : o.verdict <;> rw [hv] at h <;> cases h <;> exact ⟨rfl, rfl⟩
      exact ⟨o, _, hinvoke, hm, .settled ho⟩
    · refine ⟨o, s₁, hinvoke, hm, ?_⟩
      rw [hnext] at h
      by_cases hover : p.settings.maxRestarts < UInt32.ofNat (made + 1)
      · rw [if_pos hover] at h
        cases h
        exact .exceeded ho hover hbench htranscript
      · rw [if_neg hover] at h
        refine .again ho (UInt32.not_lt.mp hover) ?_ ?_ h
        · exact hbench
        · rw [htranscript]

namespace Repeats

variable {p : Policy} {t : GuestTask} {made more : Nat} {o : TaskOutcome} {b b₁ b' : Bench σ}
  {as : List Attempt} {r : Except DispatchError Round}

theorem exceeded (hm : b.Makes t o b₁) (ho : o.signal? = some .retry)
    (hover : p.settings.maxRestarts < UInt32.ofNat (made + 1)) :
    p.Repeats t made more b [⟨t, o⟩] (.error (.restartLoop (UInt32.ofNat (made + 1))))
      (b₁.perform (.discard .compile)) :=
  .refused (.retry hm ho (.done _)) (List.cons_ne_nil _ _) (Nat.le_add_left 1 more)
    (fun _ hi hlt ↦ absurd hlt (Nat.not_lt_of_le hi)) hover

theorem last (hm : b.Makes t o b₁) (ho : o.signal? = some .retry)
    (hgranted : UInt32.ofNat (made + 1) ≤ p.settings.maxRestarts) :
    p.Repeats t made 0 b [⟨t, o⟩] (.ok (.restarted (UInt32.ofNat (made + 1))))
      (b₁.perform (.discard .compile)) := by
  refine .unsettled (.retry hm ho (.done _)) rfl fun i hi hle ↦ ?_
  obtain rfl : i = made + 1 := Nat.le_antisymm hle hi
  exact hgranted

theorem retry (hm : b.Makes t o b₁) (ho : o.signal? = some .retry)
    (hgranted : UInt32.ofNat (made + 1) ≤ p.settings.maxRestarts)
    (h : p.Repeats t (made + 1) more (b₁.perform (.discard .compile)) as r b') :
    p.Repeats t made (more + 1) b (⟨t, o⟩ :: as) r b' := by
  have hcons : ∀ as :
      List Attempt, made + 1 + as.length = made + (⟨t, o⟩ :: as : List Attempt).length := by
    intro as
    rw [List.length_cons]
    omega
  have hfirst : ∀ i, made < i → ¬ made + 1 < i → UInt32.ofNat i ≤ p.settings.maxRestarts := by
    intro i hi hlt
    obtain rfl : i = made + 1 := by omega
    exact hgranted
  cases h with
  | settled h hlen hm' ho' hrest =>
    refine .settled (.retry hm ho h) (Nat.succ_le_succ hlen) hm' ho' fun i hi hle ↦ ?_
    by_cases hnext : made + 1 < i
    · exact hrest i hnext (hcons _ ▸ hle)
    · exact hfirst i hi hnext
  | refused h _ hlen hrest hover =>
    rw [hcons _] at hover ⊢
    refine .refused (.retry hm ho h) (List.cons_ne_nil _ _) (Nat.succ_le_succ hlen)
      (fun i hi hlt ↦ ?_) hover
    by_cases hnext : made + 1 < i
    · exact hrest i hnext (hcons _ ▸ hlt)
    · exact hfirst i hi hnext
  | unsettled h hlen hrest =>
    rw [hcons _]
    refine .unsettled (.retry hm ho h) (congrArg (· + 1) hlen) fun i hi hle ↦ ?_
    by_cases hnext : made + 1 < i
    · exact hrest i hnext (hcons _ ▸ hle)
    · exact hfirst i hi hnext

theorem ne_nil (h : p.Repeats t made more b as r b') : as ≠ [] := by
  cases h with
  | settled => exact List.append_ne_nil_of_right_ne_nil _ (List.cons_ne_nil _ _)
  | refused _ hne => exact hne
  | unsettled _ hlen =>
    apply List.ne_nil_of_length_pos
    omega

theorem eq_succ_of_first_above {limit : UInt32} {n : Nat}
    (hgranted : ∀ i, 0 < i → i < n → UInt32.ofNat i ≤ limit) (hover : limit < UInt32.ofNat n) :
    n = limit.toNat + 1 := by
  have hlt := UInt32.lt_iff_toNat_lt.mp hover
  have hword : limit.toNat + 1 < UInt32.size := Nat.lt_of_le_of_lt hlt (UInt32.toNat_lt_size _)
  have hcount : (UInt32.ofNat n).toNat ≤ n := by
    rw [UInt32.toNat_ofNat']
    exact Nat.mod_le _ _
  apply Nat.le_antisymm
  · apply Nat.le_of_not_lt
    intro hearlier
    have hle := (UInt32.ofNat_le_iff hword).mp (hgranted _ (Nat.succ_pos _) hearlier)
    omega
  · omega

theorem le_limit_of_granted {limit : UInt32} {n : Nat} (hlimit : limit ≠ 0xFFFFFFFF)
    (hgranted : ∀ i, 0 < i → i ≤ 0 + n → UInt32.ofNat i ≤ limit) : n ≤ limit.toNat := by
  apply Nat.le_of_not_lt
  intro hlt
  have hword : limit.toNat + 1 < UInt32.size := by
    have hlimit' : limit.toNat ≠ (0xFFFFFFFF : UInt32).toNat :=
      fun h ↦ hlimit (UInt32.toNat_inj.mp h)
    have hlargest : (0xFFFFFFFF : UInt32).toNat + 1 = UInt32.size := rfl
    have hsize := UInt32.toNat_lt_size limit
    omega
  have hle := (UInt32.ofNat_le_iff hword).mp (hgranted _ (Nat.succ_pos _) (by omega))
  omega

theorem compiles (h : p.Repeats t 0 (p.settings.maxRestarts.toNat + p.overtime) b as r b') :
    p.Compiles t p.grants b as (ending (r.map Round.signal?)) b' := by
  cases h with
  | @settled _ o _ _ h hlen hm ho hgranted =>
    have hverdict : ending ((o.verdict.map Round.settled).map Round.signal?) = some o.verdict := by
      cases o.verdict <;> rfl
    rw [hverdict]
    refine .settled h ?_ hm ho
    rw [grants]
    split
    · exact hlen
    · exact le_limit_of_granted ‹_› hgranted
  | refused h _ _ hgranted hover =>
    have hlen := eq_succ_of_first_above hgranted hover
    have hlargest : p.settings.maxRestarts ≠ 0xFFFFFFFF := by
      intro hlargest
      rw [hlargest] at hover
      exact absurd (UInt32.lt_iff_toNat_lt.mp hover)
        (Nat.not_lt_of_le (Nat.le_of_lt_succ (UInt32.toNat_lt_size _)))
    have hexhausted :
        p.exhausted = some (.error (.restartLoop (UInt32.ofNat (0 + as.length)))) := by
      rw [exhausted, if_neg hlargest, hlen, UInt32.ofNat_add, UInt32.ofNat_toNat]
      rfl
    have hexceeded : p.Compiles t p.settings.maxRestarts.toNat b as p.exhausted b' :=
      .exhausted h (by rw [← hlen, Nat.zero_add])
    rw [hexhausted] at hexceeded
    rw [grants, if_neg hlargest]
    exact hexceeded
  | unsettled h hlen hgranted =>
    have hlargest : p.settings.maxRestarts = 0xFFFFFFFF := by
      apply Decidable.byContradiction
      intro hlargest
      have hle := le_limit_of_granted hlargest hgranted
      omega
    have hexhausted : p.exhausted = none := if_pos hlargest
    have hexceeded : p.Compiles t (p.settings.maxRestarts.toNat + p.overtime) b as p.exhausted b' :=
      .exhausted h hlen
    rw [hexhausted] at hexceeded
    rw [grants, if_pos hlargest]
    exact hexceeded

end Repeats

theorem repeats_rounds {key : DigestMap} {classpath : List String} {script : String} (made : Nat)
    {more : Nat} {r : Except DispatchError Round} {s s' : Session σ}
    (h : (p.rounds key classpath script more (UInt32.ofNat made)).run.run s = (r, s')) :
    ∃ as, p.Repeats ⟨.compile, key, classpath, p.settings.entryPoints.compile, script⟩ made more
      s.bench as r s'.bench := by
  -- on the rounds after the first; each starts from what the one before leaves
  induction more using Nat.strongRecOn generalizing made s with
  | ind more ih =>
    obtain ⟨o, s₁, -, hm, hproceeds⟩ := p.run_rounds h
    cases hproceeds with
    | settled ho =>
      exact ⟨_, .settled (.done _) (Nat.zero_le _) hm ho fun _ hi hle ↦
        absurd hi (Nat.not_lt_of_le hle)⟩
    | exceeded ho hover hbench =>
      rw [hbench]
      exact ⟨_, .exceeded hm ho hover⟩
    | last ho hgranted hbench =>
      rw [hbench]
      exact ⟨_, .last hm ho hgranted⟩
    | again ho hgranted hbench _ hrest =>
      obtain ⟨as, hrepeats⟩ := ih _ (Nat.lt_succ_self _) _ hrest
      rw [hbench] at hrepeats
      exact ⟨_, .retry hm ho hgranted hrepeats⟩

theorem runs_compile {key : DigestMap} {classpath : List String} {script : String}
    {r : Except DispatchError (Option Signal)} (h : (p.compile key classpath script).Runs b r b') :
    ∃ as, p.Compiles ⟨.compile, key, classpath, p.settings.entryPoints.compile, script⟩ p.grants b
      as (ending r) b' := by
  obtain ⟨s, s', rfl, hrun, rfl⟩ := h
  rw [run_compile] at hrun
  rcases hrounds :
    (p.rounds key classpath script (p.settings.maxRestarts.toNat + p.overtime) 0).run.run s
    with ⟨r₁, s₁⟩
  rw [hrounds] at hrun
  obtain ⟨rfl, rfl⟩ := Prod.mk.inj hrun
  obtain ⟨as, hrepeats⟩ := p.repeats_rounds 0 hrounds
  exact ⟨as, hrepeats.compiles⟩

theorem runs_package {payload : String} {r : Except DispatchError Unit}
    (h : (p.package payload).Runs b r b') : ∃ package, p.Packages payload b package r b' := by
  unfold package at h
  cases hp : p.settings.entryPoints.package? with
  | none =>
    simp only [hp] at h
    obtain ⟨rfl, rfl⟩ := h.pure
    exact ⟨none, .disabled hp⟩
  | some entryPoint =>
    simp only [hp] at h
    rcases h.bind with ⟨e, rfl, hinvoke⟩ | ⟨invocation, b₁, hinvoke, hrest⟩
    · obtain ⟨o, hm, ho⟩ := hinvoke.attempt (t := p.toolingTask entryPoint payload)
      have hmade := Packages.made hp hm
      rw [show o.result .tooling = _ from ho.symm] at hmade
      exact ⟨_, hmade⟩
    · obtain ⟨o, hm, ho⟩ := hinvoke.attempt (t := p.toolingTask entryPoint payload)
      obtain ⟨rfl, rfl⟩ := hrest.pure
      have hmade := Packages.made hp hm
      rw [show o.result .tooling = _ from ho.symm] at hmade
      exact ⟨_, hmade⟩

omit [Guests σ] in
theorem ending_map (packaged : Except DispatchError Unit) (signal : Signal) :
    ending (packaged.map fun _ ↦ some signal) = some (packaged.map fun _ ↦ signal) := by
  cases packaged <;> rfl

omit [Guests σ] in
theorem runs_answer {packaged : Except DispatchError Unit} {signal : Signal}
    {result : Except DispatchError (Option Signal)}
    (h : Step.Runs (match packaged with | .ok () => pure (some signal) | .error e => throw e)
      b result b') :
    result = packaged.map (fun _ ↦ some signal) ∧ b' = b := by
  cases packaged with
  | ok => exact h.pure
  | error e => exact h.throw

theorem runs_process {request : WorkRequest} {result : Except DispatchError (Option Signal)}
    (h : (p.process request).Runs b result b') :
    ∃ c, p.Processes request b c (ending result) b' := by
  unfold process at h
  cases hpayload : request.payload? with
  | none =>
    simp only [hpayload] at h
    obtain ⟨rfl, rfl⟩ := h.throw
    exact ⟨{}, .rejected (by simp [WorkRequest.accepted?, hpayload])
      (by simp [WorkRequest.accept, hpayload])⟩
  | some payload =>
    simp only [hpayload] at h
    replace h := h.transcribe_bind
    cases hr : CompileRequest.ofString payload with
    | error e =>
      simp only [hr] at h
      rcases h.bind with ⟨e, rfl, hthrow⟩ | ⟨r, b₁, hthrow, -⟩
      · obtain ⟨he, rfl⟩ := hthrow.throw
        cases he
        refine ⟨{}, .rejected (by simp [WorkRequest.accepted?, hpayload, hr, Except.toOption]) ?_⟩
        simp [WorkRequest.accept, hpayload, hr, Except.map]
      · cases hthrow.throw.1
    | ok r =>
      have haccepted : request.accepted? = some (payload, r) := by
        simp [WorkRequest.accepted?, hpayload, hr, Except.toOption]
      simp only [hr, pure_bind] at h
      rcases h.bind with ⟨e, rfl, hplan⟩ | ⟨script, b₁, hplan, hscript⟩
      · obtain ⟨o, hm, he⟩ := p.runs_plan hplan
        have ho : o.script? = none := (o.script?_eq _).trans (congrArg Except.toOption he.symm)
        exact ⟨_, .unplanned haccepted hm ho he.symm⟩
      · obtain ⟨o, hm, hplanned⟩ := p.runs_plan hplan
        have ho : o.script? = some script :=
          (o.script?_eq _).trans (congrArg Except.toOption hplanned.symm)
        rcases hscript.transcribe_bind.bind with ⟨e, rfl, hcompile⟩ | ⟨signal, b₂, hcompile, hrest⟩
        · obtain ⟨as, hc⟩ := p.runs_compile hcompile
          exact ⟨_, .uncompiled haccepted hm ho hc fun _ ↦ by nofun⟩
        obtain ⟨as, hc⟩ := p.runs_compile hcompile
        cases signal with
        | none =>
          obtain ⟨rfl, rfl⟩ := hrest.pure
          exact ⟨_, .uncompiled haccepted hm ho hc fun _ ↦ by nofun⟩
        | some signal =>
          obtain ⟨packaged, b₃, hpackage, hrest⟩ := hrest.lift_bind
          obtain ⟨package, hp⟩ := p.runs_package hpackage
          have hcompiled := Processes.compiled haccepted hm ho hc hp
          rw [← ending_map packaged signal] at hcompiled
          by_cases hreload : signal = .okThenInvalidate
          · rw [if_pos hreload] at hrest hcompiled
            obtain ⟨rfl, rfl⟩ := runs_answer hrest.discard_bind.transcribe_bind
            exact ⟨_, hcompiled⟩
          · rw [if_neg hreload] at hrest hcompiled
            obtain ⟨rfl, rfl⟩ := runs_answer hrest
            exact ⟨_, hcompiled⟩

end Policy

def WorkRequest.conclude (request : WorkRequest) (t : Transcript) :
    Except DispatchError Signal → WorkResponse
  | .ok _ => .success request.requestId t.output
  | .error e => .failure request.requestId (t.fail e.toWorkError).output

theorem WorkRequest.exitCode_conclude (request : WorkRequest) (t : Transcript)
    (r : Except DispatchError Signal) : (request.conclude t r).exitCode = 0 ↔ r.isOk := by
  cases r with
  | ok => exact iff_of_true rfl rfl
  | error => exact iff_of_false (show ¬ (1 : Int32) = 0 by decide) Bool.false_ne_true

theorem WorkRequest.exitCode_concludes (request : WorkRequest) (t : Transcript)
    (r : Option (Except DispatchError Signal)) :
    (∃ response ∈ r.map (request.conclude t), response.exitCode = 0) ↔
    ∃ signal, r = some (.ok signal) := by
  rcases r with _ | e | signal
  · exact iff_of_false nofun nofun
  · have hfailed := request.exitCode_conclude t (.error e)
    simp [Except.isOk, Except.toBool, hfailed]
  · have hsucceeded := request.exitCode_conclude t (.ok signal)
    simp [Except.isOk, Except.toBool, hsucceeded]

namespace Dispatcher

omit [Guests σ] in
def session (d : Dispatcher σ) (request : WorkRequest) : Session σ :=
  { caches := d.caches, world := d.world, transcript := { isVerbose := request.isVerbose } }

theorem handle_of_run {d : Dispatcher σ} {request : WorkRequest}
    {result : Except DispatchError (Option Signal)} {s : Session σ}
    (hrun : (d.policy.process request).run.run (d.session request) = (result, s)) :
    d.handle request = ((ending result).map (request.conclude s.transcript),
      { d with caches := s.caches, world := s.world }) := by
  rw [handle, show (d.policy.process request).run.run ⟨d.caches, d.world, _⟩ = _ from hrun]
  rcases result with e | _ | signal
  · rfl
  · rfl
  · rfl

theorem handle_policy (d : Dispatcher σ) (request : WorkRequest) :
    (d.handle request).2.policy = d.policy := by
  rw [handle_of_run rfl]

theorem handle_processes (d : Dispatcher σ) (request : WorkRequest) :
    ∃ c result, d.policy.Processes request d.bench c result (d.handle request).2.bench ∧
      ∃ t, (d.handle request).1 = result.map (request.conclude t) := by
  rcases hrun : (d.policy.process request).run.run (d.session request) with ⟨result, s⟩
  obtain ⟨c, hc⟩ := d.policy.runs_process ⟨_, s, rfl, hrun, rfl⟩
  rw [handle_of_run hrun]
  exact ⟨c, ending result, hc, s.transcript, rfl⟩

end Dispatcher

end CompileWorker
