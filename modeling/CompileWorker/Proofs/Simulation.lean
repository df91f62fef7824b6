import CompileWorker.Proofs.CacheSteps

namespace CompileWorker

variable {σ τ : Type}

namespace Step

variable {α β : Type} {R : Session σ → Session τ → Prop}

/-- From related sessions both steps come to the same result, and leave the sessions related. -/
def Mirrors (R : Session σ → Session τ → Prop) (x : Step σ α) (y : Step τ α) : Prop :=
  ∀ s t, R s t → (x.run.run s).1 = (y.run.run t).1 ∧ R (x.run.run s).2 (y.run.run t).2

namespace Mirrors

theorem throw_bind (e : DispatchError) (f : α → Step σ β) (g : α → Step τ β) :
    Mirrors R (throw e >>= f) (throw e >>= g) := fun _ _ h ↦ ⟨rfl, h⟩

theorem pure (a : α) : Mirrors R (pure a : Step σ α) (pure a) := fun _ _ h ↦ ⟨rfl, h⟩

theorem throw (e : DispatchError) : Mirrors R (throw e : Step σ α) (throw e) := fun _ _ h ↦ ⟨rfl, h⟩

theorem bind {x : Step σ α} {y : Step τ α} {f : α → Step σ β} {g : α → Step τ β} (h : Mirrors R x y)
    (hrest : ∀ a, Mirrors R (f a) (g a)) : Mirrors R (x >>= f) (y >>= g) := by
  intro s t hst
  obtain ⟨hresult, hleft⟩ := h s t hst
  rw [run_bind, run_bind]
  rcases hx : x.run.run s with ⟨r, s'⟩
  rcases hy : y.run.run t with ⟨r', t'⟩
  rw [hx, hy] at hresult hleft
  obtain rfl : r = r' := hresult
  cases r with
  | error e => exact ⟨rfl, hleft⟩
  | ok a => exact hrest a s' t' hleft

theorem lift {x : Step σ α} {y : Step τ α} (h : Mirrors R x y) :
    Mirrors R (ExceptT.lift x.run : Step σ (Except DispatchError α)) (ExceptT.lift y.run) := by
  intro s t hst
  obtain ⟨hresult, hleft⟩ := h s t hst
  exact ⟨congrArg Except.ok hresult, hleft⟩

/-- What a step keeps up, as a relation of a run to itself. -/
theorem of_keeps {P : Session σ → Prop} {x : Step σ α} (h : ∀ s, P s → P (x.run.run s).2) :
    Mirrors (fun s t ↦ s = t ∧ P s) x x := by
  rintro s _ ⟨rfl, hs⟩
  exact ⟨rfl, rfl, h s hs⟩

theorem keeps {P : Session σ → Prop} {x : Step σ α} {r : Except DispatchError α} {s s' : Session σ}
    (h : Mirrors (fun s t ↦ s = t ∧ P s) x x) (hs : P s) (hrun : x.run.run s = (r, s')) : P s' := by
  have hkept := (h s s ⟨rfl, hs⟩).2.2
  rw [hrun] at hkept
  exact hkept

end Mirrors

section Runs

theorem run_bind_error {x : Step σ α} {f : α → Step σ β} {s s₁ : Session σ} {e : DispatchError}
    (h : x.run.run s = (.error e, s₁)) : (x >>= f).run.run s = (.error e, s₁) := by
  rw [run_bind, h]

theorem run_bind_ok {x : Step σ α} {f : α → Step σ β} {s s₁ : Session σ} {a : α}
    {out : Except DispatchError β × Session σ} (h : x.run.run s = (.ok a, s₁))
    (hrest : (f a).run.run s₁ = out) : (x >>= f).run.run s = out := by
  rw [run_bind, h]
  exact hrest

theorem run_transcribe_bind (f : Transcript → Transcript) (g : Unit → Step σ β) (s : Session σ) :
    (transcribe f >>= g).run.run s = (g ()).run.run { s with transcript := f s.transcript } := rfl

variable [Guests σ]

theorem run_discard (role : Role) (s : Session σ) :
    (Step.discard role).run.run s =
      (.ok (), { s with
        caches := (s.caches.discard role s.world).2.1, world :=
          (s.caches.discard role s.world).2.2 }) := rfl

theorem run_acquire_eq (role : Role) (key : DigestMap) (classpath : List String) (s : Session σ) :
    (Step.acquire role key classpath).run.run s =
      match s.caches.acquire role key classpath s.world with
      | (.error e, caches, world) => (.error (.cache e), { s with caches, world })
      | (.ok acquisition, caches, world) =>
        let id := ((caches.get role).entry.map (·.environment.id.display)).getD ""
        (.ok (),
          { caches
            world
            transcript :=
              s.transcript.note
                (role.name ++ " environment " ++ id ++ ": " ++ acquisition.display) }) := by
  simp only [Step.acquire, run_bind, run_get, run_set]
  rcases s.caches.acquire role key classpath s.world with ⟨_ | _, caches, world⟩ <;> rfl

theorem run_invoke_eq (role : Role) (entryPoint payload : String) (s : Session σ) :
    (Step.invoke role entryPoint payload).run.run s =
      match s.caches.invoke role entryPoint payload s.world with
      | (.ok invocation, caches, world) =>
        (.ok invocation, { caches, world, transcript := s.transcript.guest invocation.output })
      | (.error (.guest raising message output), caches, world) =>
        (.error (.invoke role (.guest raising message output)),
         { caches, world, transcript := s.transcript.guest output })
      | (.error e, caches, world) =>
        (.error (.invoke role e),
         { s with
           caches := (caches.discard role world).2.1
           world := (caches.discard role world).2.2 }) := by
  simp only [Step.invoke, run_bind, run_get, run_set]
  rcases s.caches.invoke role entryPoint payload s.world with ⟨e | _, caches, world⟩
  · cases e <;> rfl
  · rfl

end Runs

structure Carries [Guests σ] [Guests τ] (R : Session σ → Session τ → Prop) : Prop where
  note : ∀ line, Mirrors R (transcribe (·.note line)) (transcribe (·.note line))
  discard : ∀ role, Mirrors R (discard role) (discard role)
  acquire : ∀ role key classpath, Mirrors R (acquire role key classpath)
    (acquire role key classpath)
  invoke : ∀ role entryPoint payload, Mirrors R (invoke role entryPoint payload)
    (invoke role entryPoint payload)

structure Simulates [Guests σ] [Guests τ] (R : Session σ → Session τ → Prop) :
    Prop extends Carries R where
  remember : ∀ label value, Mirrors R (transcribe (·.remember label value))
    (transcribe (·.remember label value))

end Step

namespace Policy

open Step

def release [Guests σ] (packaged : Except DispatchError Unit) (signal : Signal) :
    Step σ (Option Signal) := do
  if signal = .okThenInvalidate then
    Step.discard .compile
    Step.transcribe (·.note "compile environment discarded (reload)")
  match packaged with
  | .ok () => return some signal
  | .error e => throw e

variable {R : Session σ → Session τ → Prop} [Guests σ] [Guests τ]

section Carries

variable (h : Carries R) (p : Policy)
include h

theorem mirrors_invokeTooling (entryPoint payload : String) :
    Mirrors R (p.invokeTooling entryPoint payload) (p.invokeTooling entryPoint payload) :=
  (h.acquire _ _ _).bind fun _ ↦ h.invoke _ _ _

theorem mirrors_plan (payload : String) : Mirrors R (p.plan payload) (p.plan payload) := by
  refine (p.mirrors_invokeTooling h _ payload).bind fun invocation ↦ ?_
  split
  · exact .pure _
  · exact .throw _

theorem mirrors_package (payload : String) : Mirrors R (p.package payload) (p.package payload) := by
  unfold package
  split
  · exact .pure ()
  · exact (p.mirrors_invokeTooling h _ payload).bind fun _ ↦ .pure ()

theorem mirrors_round (key : DigestMap) (classpath : List String) (script : String)
    (restarts : UInt32) :
    Mirrors R (p.round key classpath script restarts) (p.round key classpath script restarts) := by
  unfold round
  refine (h.acquire _ _ _).bind fun _ ↦ (h.invoke _ _ _).bind fun invocation ↦ ?_
  split
  · exact .throw _
  · refine (h.discard .compile).bind fun _ ↦ ?_
    split
    · exact .throw _
    · exact .pure _
  · exact .pure _

theorem mirrors_rounds (key : DigestMap) (classpath : List String) (script : String) (more : Nat)
    (restarts : UInt32) :
    Mirrors R (p.rounds key classpath script more restarts)
      (p.rounds key classpath script more restarts) := by
  induction more generalizing restarts with
  | zero => exact p.mirrors_round h key classpath script restarts
  | succ more ih =>
    refine (p.mirrors_round h key classpath script restarts).bind fun round ↦ ?_
    cases round with
    | settled => exact .pure _
    | restarted restarts => exact (h.note _).bind fun _ ↦ ih restarts

theorem mirrors_compile (key : DigestMap) (classpath : List String) (script : String) :
    Mirrors R (p.compile key classpath script) (p.compile key classpath script) :=
  (p.mirrors_rounds h key classpath script _ 0).bind fun round ↦ .pure round.signal?

theorem mirrors_release (packaged : Except DispatchError Unit) (signal : Signal) :
    Mirrors R (release packaged signal) (release packaged signal) := by
  have hanswer : Mirrors R
      (match packaged with | .ok () => pure (some signal) | .error e => throw e)
      (match packaged with | .ok () => pure (some signal) | .error e => throw e) := by
    cases packaged with
    | ok => exact .pure (some signal)
    | error e => exact .throw e
  unfold release
  by_cases hreload : signal = .okThenInvalidate
  · simp only [if_pos hreload]
    exact (h.discard .compile).bind fun _ ↦ (h.note _).bind fun _ ↦ hanswer
  · simp only [if_neg hreload]
    exact hanswer

end Carries

theorem mirrors_process (h : Simulates R) (p : Policy) (request : WorkRequest) :
    Mirrors R (p.process request) (p.process request) := by
  unfold process
  cases request.payload? with
  | none => exact .throw _
  | some payload =>
    refine (h.remember _ _).bind fun _ ↦ ?_
    cases CompileRequest.ofString payload with
    | error e => exact .throw_bind _ _ _
    | ok r =>
      refine (Mirrors.pure r).bind fun r ↦ (p.mirrors_plan h.toCarries _).bind fun script ↦
        (h.remember _ _).bind fun _ ↦ ?_
      refine (p.mirrors_compile h.toCarries _ _ _).bind fun signal ↦ ?_
      cases signal with
      | none => exact .pure none
      | some signal =>
        exact (p.mirrors_package h.toCarries _).lift.bind fun packaged ↦
          mirrors_release h.toCarries packaged signal

end Policy

namespace Dispatcher

theorem handle_of_not_acquired [Guests σ] (d : Dispatcher σ) {request : WorkRequest}
    {payload : String} {r : CompileRequest} {e : CacheError} {caches : RoleCaches} {w : World σ}
    (hpayload : request.payload? = some payload) (hr : CompileRequest.ofString payload = .ok r)
    (hacquire : d.caches.acquire .tooling d.policy.toolingKey
      d.policy.settings.guest.toolingClasspath d.world =
      (.error e, caches, w)) :
    d.handle request =
      (some (request.conclude
        (({ isVerbose := request.isVerbose } : Transcript).remember "request" payload)
        (.error (.cache e))), { d with caches, world := w }) := by
  let t : Transcript := ({ isVerbose := request.isVerbose } : Transcript).remember "request" payload
  -- nothing is asked of any environment before the plan, whose first step fails
  have hplan : (d.policy.plan payload).run.run
        { caches := d.caches, world := d.world, transcript := t } =
      (.error (.cache e), { caches, world := w, transcript := t }) := by
    refine Step.run_bind_error (Step.run_bind_error ?_)
    rw [Step.run_acquire_eq, hacquire]
  have hprocess : (d.policy.process request).run.run (d.session request) =
      (.error (.cache e), { caches, world := w, transcript := t }) := by
    unfold Policy.process
    simp only [hpayload, hr, pure_bind]
    exact Step.run_bind_ok rfl (Step.run_bind_error hplan)
  exact handle_of_run hprocess

theorem handle_mirrors [Guests σ] [Guests τ] {R : Session σ → Session τ → Prop}
    (h : Step.Simulates R) (d : Dispatcher σ) (d' : Dispatcher τ) (hpolicy : d.policy = d'.policy)
    (request : WorkRequest) (hstart : R (d.session request) (d'.session request)) :
    ∃ (result : Option (Except DispatchError Signal)) (s : Session σ) (t : Session τ), R s t ∧
      d.handle request =
        (result.map (request.conclude s.transcript),
          { d with caches := s.caches, world := s.world }) ∧
      d'.handle request =
        (result.map (request.conclude t.transcript),
          { d' with caches := t.caches, world := t.world }) := by
  obtain ⟨hresult, hleft⟩ := d.policy.mirrors_process h request _ _ hstart
  exact ⟨_, _, _, hleft, handle_of_run rfl,
    handle_of_run (Prod.ext (hpolicy ▸ hresult.symm) (hpolicy ▸ rfl))⟩

end Dispatcher

variable [Guests σ] [Guests τ]

/-- The map goes with all that is asked of guests whose environments are in caches. -/
structure Guests.Maps (f : σ → τ) : Prop where
  start : ∀ id role g, start id role (f g) = ((start id role g).1, f (start id role g).2)
  load : ∀ env location g, load env location (f g) =
    ((load env location g).1, f (load env location g).2)
  invoke : ∀ env entryPoint payload g,
    invoke env entryPoint payload (f g) =
      ((invoke env entryPoint payload g).1, f (invoke env entryPoint payload g).2)
  discard : ∀ env g, discard env (f g) = ((discard env g).1, f (discard env g).2)

omit [Guests σ] [Guests τ] in
def World.map (f : σ → τ) (w : World σ) : World τ :=
  { guests := f w.guests, issued := w.issued, trace := w.trace }

def mapOut {α γ : Type} (f : σ → τ) (out : α × γ × World σ) : α × γ × World τ :=
  (out.1, out.2.1, out.2.2.map f)

variable {f : σ → τ} (hf : Guests.Maps f)
include hf

theorem World.create_map (role : Role) (w : World σ) :
    (w.map f).create role = ((w.create role).1, (w.create role).2.map f) := by
  have hstart : Guests.start ⟨w.issued + 1⟩ role (f w.guests) = _ := hf.start _ _ _
  simp only [create, map, hstart]
  rcases Guests.start ⟨w.issued + 1⟩ role w.guests with ⟨_ | _ | _, g⟩ <;> rfl

namespace Environment

theorem addLocation_map (env : Environment) (location : String) (w : World σ) :
    env.addLocation location (w.map f) = mapOut f (env.addLocation location w) := by
  by_cases hloaded : location ∈ env.locations
  · rw [addLocation_loaded hloaded, addLocation_loaded hloaded]
    rfl
  · have hload : Guests.load env location (w.map f).guests = _ := hf.load _ _ _
    rw [addLocation_new hloaded, addLocation_new hloaded, hload]
    rcases Guests.load env location w.guests with ⟨_ | _, g⟩ <;> rfl

theorem invoke_map (env : Environment) (entryPoint payload : String) (w : World σ) :
    env.invoke entryPoint payload (w.map f) = mapOut f (env.invoke entryPoint payload w) := by
  have hinvoke : Guests.invoke env entryPoint payload (w.map f).guests = _ := hf.invoke _ _ _ _
  simp only [invoke, hinvoke]
  rfl

theorem discard_map (env : Environment) (w : World σ) :
    env.discard (w.map f) = ((env.discard w).1, (env.discard w).2.map f) := by
  have hdiscard : Guests.discard env (w.map f).guests = _ := hf.discard _ _
  simp only [discard, hdiscard]
  rfl

theorem loadAll_map (env : Environment) (w : World σ) (classpath : List String) :
    env.loadAll (w.map f) classpath = mapOut f (env.loadAll w classpath) := by
  fun_induction env.loadAll w classpath with
  | case1 env w => rfl
  | case2 env w location classpath e env₁ w₁ ha =>
    rw [loadAll, addLocation_map hf, ha]
    rfl
  | case3 env w location classpath added env₁ w₁ ha failure env₂ w₂ hr ih =>
    rw [loadAll, addLocation_map hf, ha]
    simp only [mapOut, ih, hr]
  | case4 env w location classpath added env₁ w₁ ha n env₂ w₂ hr ih =>
    rw [loadAll, addLocation_map hf, ha]
    simp only [mapOut, ih, hr]

end Environment

namespace EnvironmentCache

theorem discard_map (c : EnvironmentCache) (w : World σ) :
    c.discard (w.map f) = mapOut f (c.discard w) := by
  cases hc : c.entry with
  | none => simp only [discard, hc, mapOut]
  | some entry => simp only [discard, hc, dispose, entry.environment.discard_map hf, mapOut]

theorem build_map (c : EnvironmentCache) (key : DigestMap) (classpath : List String)
    (acquisition : Acquisition) (w : World σ) :
    c.build key classpath acquisition (w.map f) =
      mapOut f (c.build key classpath acquisition w) := by
  simp only [build, w.create_map hf]
  rcases w.create c.role with ⟨_ | env, w₁⟩
  · rfl
  · simp only [env.loadAll_map hf, mapOut]
    rcases env.loadAll w₁ classpath with ⟨⟨_, _⟩ | _, env', w₂⟩
    · simp only [dispose, env'.discard_map hf]
    · rfl

theorem extend_map (c : EnvironmentCache) (entry : CacheEntry) (key : DigestMap)
    (classpath : List String) (w : World σ) :
    c.extend entry key classpath (w.map f) = mapOut f (c.extend entry key classpath w) := by
  simp only [extend, entry.environment.loadAll_map hf, mapOut]
  rcases entry.environment.loadAll w classpath with ⟨⟨_, _⟩ | _, env', w₂⟩ <;> rfl

theorem acquire_map (c : EnvironmentCache) (key : DigestMap) (classpath : List String)
    (w : World σ) : c.acquire key classpath (w.map f) = mapOut f (c.acquire key classpath w) := by
  cases hc : c.entry with
  | none => simp only [acquire, hc, c.build_map hf]
  | some entry =>
    cases hs : entry.staleLocation? key with
    | none => simp only [acquire, hc, hs, c.extend_map hf]
    | some location => simp only [acquire, hc, hs, c.discard_map hf, mapOut, build_map hf]

theorem invoke_map (c : EnvironmentCache) (entryPoint payload : String) (w : World σ) :
    c.invoke entryPoint payload (w.map f) = mapOut f (c.invoke entryPoint payload w) := by
  cases hc : c.entry with
  | none => simp only [invoke, hc, mapOut]
  | some entry => simp only [invoke, hc, entry.environment.invoke_map hf, mapOut]

end EnvironmentCache

namespace RoleCaches

theorem acquire_map (caches : RoleCaches) (role : Role) (key : DigestMap) (classpath : List String)
    (w : World σ) :
    caches.acquire role key classpath (w.map f) =
      mapOut f (caches.acquire role key classpath w) := by
  simp only [acquire, (caches.get role).acquire_map hf, mapOut]

theorem invoke_map (caches : RoleCaches) (role : Role) (entryPoint payload : String) (w : World σ) :
    caches.invoke role entryPoint payload (w.map f) =
      mapOut f (caches.invoke role entryPoint payload w) := by
  simp only [invoke, (caches.get role).invoke_map hf, mapOut]

theorem discard_map (caches : RoleCaches) (role : Role) (w : World σ) :
    caches.discard role (w.map f) = mapOut f (caches.discard role w) := by
  simp only [discard, (caches.get role).discard_map hf, mapOut]

theorem discardAll_map (caches : RoleCaches) (w : World σ) :
    caches.discardAll (w.map f) = mapOut f (caches.discardAll w) := by
  simp only [discardAll, discard_map hf, mapOut]

end RoleCaches

omit [Guests σ] [Guests τ] hf in
def Session.map (f : σ → τ) (s : Session σ) : Session τ :=
  { caches := s.caches, world := s.world.map f, transcript := s.transcript }

theorem Step.simulates_map : Step.Simulates fun (s : Session σ) (t : Session τ) ↦ t = s.map f where
  note _ := by
    rintro s _ rfl
    exact ⟨rfl, rfl⟩
  remember _ _ := by
    rintro s _ rfl
    exact ⟨rfl, rfl⟩
  discard role := by
    rintro s _ rfl
    simp only [run_discard, Session.map, s.caches.discard_map hf, mapOut, and_self]
  acquire role key classpath := by
    rintro s _ rfl
    simp only [run_acquire_eq, Session.map, s.caches.acquire_map hf, mapOut]
    rcases s.caches.acquire role key classpath s.world with ⟨_ | _, caches, w⟩ <;> exact ⟨rfl, rfl⟩
  invoke role entryPoint payload := by
    rintro s _ rfl
    simp only [run_invoke_eq, Session.map, s.caches.invoke_map hf, mapOut]
    rcases s.caches.invoke role entryPoint payload s.world with ⟨e | _, caches, w⟩
    · cases e <;> simp only [caches.discard_map hf, mapOut, and_self]
    · exact ⟨rfl, rfl⟩

namespace Dispatcher

omit [Guests σ] [Guests τ] hf in
def map (f : σ → τ) (d : Dispatcher σ) : Dispatcher τ :=
  { policy := d.policy, caches := d.caches, world := d.world.map f }

theorem handle_map (d : Dispatcher σ) (request : WorkRequest) :
    (d.map f).handle request = ((d.handle request).1, (d.handle request).2.map f) := by
  have hstart : (d.map f).session request = (d.session request).map f := rfl
  obtain ⟨result, s, _, rfl, hd, hd'⟩ :=
    handle_mirrors (Step.simulates_map hf) d (d.map f) rfl request hstart
  rw [hd, hd']
  rfl

theorem shutdown_map (d : Dispatcher σ) :
    (d.map f).shutdown = ((d.shutdown).1, (d.shutdown).2.map f) := by
  have hdiscard : (d.map f).caches.discardAll (d.map f).world = _ :=
    d.caches.discardAll_map hf d.world
  simp only [shutdown, hdiscard]
  rfl

theorem call_map (d : Dispatcher σ) (c : DispatcherCall) : (d.map f).call c = (d.call c).map f := by
  cases c with
  | handle request => simp only [call, d.handle_map hf]
  | shutdown => simp only [call, d.shutdown_map hf]

theorem after_map (d : Dispatcher σ) (calls : List DispatcherCall) :
    (d.map f).after calls = (d.after calls).map f := by
  induction calls generalizing d with
  | nil => rfl
  | cons c calls ih =>
    exact (congrArg (Dispatcher.after · calls) (d.call_map hf c)).trans (ih (d.call c))

end Dispatcher

end CompileWorker
