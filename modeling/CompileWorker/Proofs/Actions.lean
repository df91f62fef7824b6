import CompileWorker.Service

namespace CompileWorker

inductive Action
  | attempt (role : Role) (key : DigestMap) (classpath : List String) (entryPoint payload : String)
  | discard (role : Role)

variable {σ : Type}

structure Bench (σ : Type) where
  caches : RoleCaches := {}
  world : World σ

def Bench.start (guests : σ) : Bench σ := { world := { guests } }

namespace RoleCaches

@[simp] theorem get_set (caches : RoleCaches) (role r : Role) (c : EnvironmentCache) :
    (caches.set role c).get r = if r = role then c else caches.get r := by
  cases role <;> cases r <;> rfl

@[simp] theorem set_set (caches : RoleCaches) (role : Role) (c c' : EnvironmentCache) :
    (caches.set role c).set role c' = caches.set role c' := by
  cases role <;> rfl

end RoleCaches

variable [Guests σ]

namespace EnvironmentCache

def attempt (c : EnvironmentCache) (key : DigestMap) (classpath : List String)
    (entryPoint payload : String) (w : World σ) : EnvironmentCache × World σ :=
  match c.acquire key classpath w with
  | (.error _, c, w) => (c, w)
  | (.ok _, c, w) =>
    match c.invoke entryPoint payload w with
    | (.ok _, c, w) => (c, w)
    | (.error (.guest _ _ _), c, w) => (c, w)
    | (.error _, c, w) => (c.discard w).2

inductive Attempts (c : EnvironmentCache) (key : DigestMap) (classpath : List String)
    (entryPoint payload : String) (w : World σ) : EnvironmentCache × World σ → Prop
  | notAcquired {e : CacheError} {c₁ : EnvironmentCache} {w₁ : World σ}
      (ha : c.acquire key classpath w = (.error e, c₁, w₁)) :
      Attempts c key classpath entryPoint payload w (c₁, w₁)
  | invoked {acquisition : Acquisition} {c₁ c₂ : EnvironmentCache} {w₁ w₂ : World σ}
      {answer : Except EnvironmentError Invocation}
      (ha : c.acquire key classpath w = (.ok acquisition, c₁, w₁))
      (hi : c₁.invoke entryPoint payload w₁ = (answer, c₂, w₂))
      (hanswer : ∀ e, answer = .error e →
        ∃ entryPoint message output, e = .guest entryPoint message output) :
      Attempts c key classpath entryPoint payload w (c₂, w₂)
  | broken {acquisition : Acquisition} {c₁ c₂ : EnvironmentCache} {w₁ w₂ : World σ}
      {e : EnvironmentError} (ha : c.acquire key classpath w = (.ok acquisition, c₁, w₁))
      (hi : c₁.invoke entryPoint payload w₁ = (.error e, c₂, w₂))
      (he : ∀ entryPoint message output, e ≠ .guest entryPoint message output) :
      Attempts c key classpath entryPoint payload w (c₂.discard w₂).2

theorem attempts (c : EnvironmentCache) (key : DigestMap) (classpath : List String)
    (entryPoint payload : String) (w : World σ) :
    Attempts c key classpath entryPoint payload w
      (c.attempt key classpath entryPoint payload w) := by
  unfold attempt
  split
  · exact .notAcquired ‹_›
  · split
    · exact .invoked ‹_› ‹_› (by simp)
    · exact .invoked ‹_› ‹_› (by simp)
    · rename_i hnotGuest hi
      exact .broken ‹_› hi fun a b o he ↦ hnotGuest a b o he

end EnvironmentCache

namespace Bench

def on (b : Bench σ) (role : Role) (f : EnvironmentCache → World σ → EnvironmentCache × World σ) :
    Bench σ :=
  let (cache, world) := f (b.caches.get role) b.world
  { caches := b.caches.set role cache, world }

def perform (b : Bench σ) : Action → Bench σ
  | .attempt role key classpath entryPoint payload =>
    b.on role fun c w ↦ c.attempt key classpath entryPoint payload w
  | .discard role => b.on role fun c w ↦ (c.discard w).2

def after (b : Bench σ) (actions : List Action) : Bench σ := actions.foldl perform b

theorem after_append (b : Bench σ) (first second : List Action) :
    b.after (first ++ second) = (b.after first).after second :=
  List.foldl_append

end Bench

def Session.bench (s : Session σ) : Bench σ := { caches := s.caches, world := s.world }

namespace Step

variable {α β : Type}

/-- Whatever it starts from, a step does nothing but some actions. -/
def Acts (x : Step σ α) : Prop :=
  ∀ s : Session σ, ∃ actions, (x.run.run s).2.bench = s.bench.after actions

omit [Guests σ] in
theorem run_bind (x : Step σ α) (f : α → Step σ β) (s : Session σ) :
    (x >>= f).run.run s =
      match x.run.run s with
      | (.ok a, s') => (f a).run.run s'
      | (.error e, s') => (.error e, s') := by
  rw [ExceptT.run_bind, StateT.run_bind]
  cases x.run.run s with
  | mk result s' => cases result <;> rfl

omit [Guests σ] in
theorem run_get (s : Session σ) : (get : Step σ (Session σ)).run.run s = (.ok s, s) := rfl

omit [Guests σ] in
theorem run_set (s s' : Session σ) : (set s' : Step σ PUnit).run.run s = (.ok ⟨⟩, s') := rfl

theorem Acts.pure (a : α) : Acts (pure a : Step σ α) := fun _ ↦ ⟨[], rfl⟩

theorem Acts.throw (e : DispatchError) : Acts (throw e : Step σ α) := fun _ ↦ ⟨[], rfl⟩

theorem Acts.transcribe (f : Transcript → Transcript) : Acts (Step.transcribe f : Step σ Unit) :=
  fun _ ↦ ⟨[], rfl⟩

theorem Acts.discard (role : Role) : Acts (Step.discard role : Step σ Unit) :=
  fun _ ↦ ⟨[.discard role], rfl⟩

theorem Acts.bind {x : Step σ α} {f : α → Step σ β} (hx : Acts x) (hf : ∀ a, Acts (f a)) :
    Acts (x >>= f) := by
  intro s
  obtain ⟨first, hfirst⟩ := hx s
  rw [run_bind]
  cases hrun : x.run.run s with
  | mk result s' =>
    rw [hrun] at hfirst
    cases result with
    | error e => exact ⟨first, hfirst⟩
    | ok a =>
      obtain ⟨second, hsecond⟩ := hf a s'
      exact ⟨first ++ second, by rw [Bench.after_append, ← hfirst]; exact hsecond⟩

theorem Acts.lift {x : Step σ α} (hx : Acts x) :
    Acts (ExceptT.lift x.run : Step σ (Except DispatchError α)) :=
  fun s ↦ hx s

theorem run_acquire (role : Role) (key : DigestMap) (classpath : List String) (s : Session σ) :
    ∃ transcript, (Step.acquire role key classpath).run.run s =
      match (s.caches.get role).acquire key classpath s.world with
      | (.error e, c, world) =>
        (.error (.cache e), { caches := s.caches.set role c, world, transcript })
      | (.ok _, c, world) => (.ok (), { caches := s.caches.set role c, world, transcript }) := by
  simp only [Step.acquire, run_bind, run_get, run_set, RoleCaches.acquire]
  cases (s.caches.get role).acquire key classpath s.world with
  | mk result rest => cases result <;> exact ⟨_, rfl⟩

theorem run_invoke (role : Role) (entryPoint payload : String) (s : Session σ) :
    ∃ transcript, (Step.invoke role entryPoint payload).run.run s =
      match (s.caches.get role).invoke entryPoint payload s.world with
      | (.ok invocation, c, world) =>
        (.ok invocation, { caches := s.caches.set role c, world, transcript })
      | (.error (.guest e m o), c, world) =>
        (.error (.invoke role (.guest e m o)), { caches := s.caches.set role c, world, transcript })
      | (.error e, c, w) =>
        let (_, c, world) := c.discard w
        (.error (.invoke role e), { caches := s.caches.set role c, world, transcript }) := by
  simp only [Step.invoke, run_bind, run_get, run_set, RoleCaches.invoke]
  cases (s.caches.get role).invoke entryPoint payload s.world with
  | mk result rest =>
    cases result with
    | ok invocation => exact ⟨_, rfl⟩
    | error e =>
      cases e with
      | guest e m o => exact ⟨_, rfl⟩
      | _ => cases role <;> exact ⟨_, rfl⟩

theorem Acts.attempt (role : Role) (key : DigestMap) (classpath : List String)
    (entryPoint payload : String) : Acts (do
      Step.acquire role key classpath
      Step.invoke role entryPoint payload : Step σ Invocation) := by
  intro s
  refine ⟨[.attempt role key classpath entryPoint payload], ?_⟩
  obtain ⟨transcript, hacquire⟩ := run_acquire role key classpath s
  rw [run_bind, hacquire]
  simp only [Bench.after, List.foldl_cons, List.foldl_nil, Bench.perform, Bench.on,
    EnvironmentCache.attempt, Session.bench]
  rcases (s.caches.get role).acquire key classpath s.world with ⟨e | acquisition, c, w⟩
  · rfl
  · obtain ⟨_, hinvoke⟩ := run_invoke role entryPoint payload ⟨s.caches.set role c, w, transcript⟩
    simp only [hinvoke, RoleCaches.get_set, if_true, RoleCaches.set_set]
    rcases c.invoke entryPoint payload w with ⟨e | invocation, c, w⟩
    · cases e <;> rfl
    · rfl

end Step

namespace Policy

open Step

variable (p : Policy)

theorem acts_invokeTooling (entryPoint payload : String) :
    Acts (p.invokeTooling entryPoint payload : Step σ Invocation) :=
  .attempt .tooling p.toolingKey p.settings.guest.toolingClasspath entryPoint payload

theorem acts_plan (payload : String) : Acts (p.plan payload : Step σ String) := by
  refine (p.acts_invokeTooling _ payload).bind fun invocation ↦ ?_
  split
  · exact .pure _
  · exact .throw _

theorem acts_package (payload : String) : Acts (p.package payload : Step σ Unit) := by
  unfold package
  split
  · exact .pure ()
  · exact (p.acts_invokeTooling _ payload).bind fun _ ↦ .pure ()

theorem acts_round (key : DigestMap) (classpath : List String) (script : String)
    (restarts : UInt32) : Acts (p.round key classpath script restarts : Step σ Round) := by
  unfold round
  rw [← bind_assoc]
  refine (Acts.attempt .compile key classpath _ script).bind fun invocation ↦ ?_
  split
  · exact .throw _
  · refine (Acts.discard .compile).bind fun _ ↦ ?_
    split
    · exact .throw _
    · exact .pure _
  · exact .pure _

theorem acts_rounds (key : DigestMap) (classpath : List String) (script : String) (more : Nat)
    (restarts : UInt32) : Acts (p.rounds key classpath script more restarts : Step σ Round) := by
  induction more generalizing restarts with
  | zero => exact p.acts_round key classpath script restarts
  | succ more ih =>
    refine (p.acts_round key classpath script restarts).bind fun round ↦ ?_
    cases round with
    | settled => exact .pure _
    | restarted restarts => exact (Acts.transcribe _).bind fun _ ↦ ih restarts

theorem acts_compile (key : DigestMap) (classpath : List String) (script : String) :
    Acts (p.compile key classpath script : Step σ (Option Signal)) :=
  (p.acts_rounds key classpath script _ 0).bind fun round ↦ .pure round.signal?

theorem acts_process (request : WorkRequest) :
    Acts (p.process request : Step σ (Option Signal)) := by
  unfold process
  split
  · refine (Acts.transcribe _).bind fun _ ↦ ?_
    extract_lets rest
    have hrest : ∀ compileRequest, Acts (rest compileRequest) := fun compileRequest ↦ by
      refine (p.acts_plan _).bind fun script ↦ (Acts.transcribe _).bind fun _ ↦
        (p.acts_compile _ _ script).bind fun signal ↦ ?_
      cases signal with
      | none => exact .pure none
      | some signal =>
        refine (p.acts_package _).lift.bind fun packaged ↦ ?_
        extract_lets answer
        have hanswer : ∀ u, Acts (answer u) := fun _ ↦ by
          simp only [answer]
          split
          · exact .pure _
          · exact .throw _
        split
        · exact (Acts.discard .compile).bind fun _ ↦ (Acts.transcribe _).bind hanswer
        · exact hanswer ()
    split
    · exact (Acts.pure _).bind hrest
    · exact (Acts.throw _).bind hrest
  · exact .throw _

end Policy

namespace Dispatcher

def start (policy : Policy) (guests : σ) : Dispatcher σ := { policy, world := { guests } }

def bench (d : Dispatcher σ) : Bench σ := { caches := d.caches, world := d.world }

theorem handle_acts (d : Dispatcher σ) (request : WorkRequest) :
    ∃ actions, (d.handle request).2.bench = d.bench.after actions := by
  obtain ⟨actions, h⟩ := d.policy.acts_process request
    { caches := d.caches, world := d.world, transcript := { isVerbose := request.isVerbose } }
  refine ⟨actions, Eq.trans ?_ h⟩
  simp only [handle]
  rcases (d.policy.process request).run.run
    { caches := d.caches, world := d.world, transcript := { isVerbose := request.isVerbose } } with
      ⟨e | _ | signal, s⟩
  · rfl
  · rfl
  · rfl

def handleAll (d : Dispatcher σ) (requests : List WorkRequest) : Dispatcher σ :=
  requests.foldl (fun d request ↦ (d.handle request).2) d

theorem handleAll_acts (d : Dispatcher σ) (requests : List WorkRequest) :
    ∃ actions, (d.handleAll requests).bench = d.bench.after actions := by
  induction requests generalizing d with
  | nil => exact ⟨[], rfl⟩
  | cons request requests ih =>
    obtain ⟨first, hfirst⟩ := d.handle_acts request
    obtain ⟨rest, hrest⟩ := ih (d.handle request).2
    exact ⟨first ++ rest, by rw [Bench.after_append, ← hfirst]; exact hrest⟩

theorem shutdown_bench (d : Dispatcher σ) :
    d.shutdown.2.bench = d.bench.after [.discard .tooling, .discard .compile] := rfl

end Dispatcher

namespace Service

omit [Guests σ] in
theorem dispatcher_of_respond {s next : Service σ} {response : WorkResponse}
    {result : Except Framing.FrameError Unit} (h : s.respond response = (result, next)) :
    next.dispatcher = s.dispatcher :=
  (congrArg (·.2.dispatcher) h).symm

theorem serve_handles (s : Service σ) :
    ∃ requests, s.serve.2.dispatcher = s.dispatcher.handleAll requests := by
  -- on the messages read; a line that is no request changes nothing about the dispatcher
  fun_induction serve s with
  | case1 => exact ⟨[], rfl⟩
  | case2 s request source hread dispatcher hhandle =>
    exact ⟨[request], by rw [Dispatcher.handleAll, List.foldl_cons, hhandle, List.foldl_nil]⟩
  | case3 s request source hread response dispatcher hhandle e next hrespond =>
    have hnext := dispatcher_of_respond hrespond
    exact ⟨[request], by simp only [Dispatcher.handleAll, List.foldl_cons, List.foldl_nil, hhandle,
      hnext]⟩
  | case4 s request source hread response dispatcher hhandle next hrespond ih =>
    obtain ⟨requests, h⟩ := ih
    rw [dispatcher_of_respond hrespond] at h
    exact ⟨request :: requests, by rw [h, Dispatcher.handleAll, Dispatcher.handleAll,
      List.foldl_cons, hhandle]⟩
  | case5 s e source hread hrecoverable e' next hrespond =>
    have hnext := dispatcher_of_respond hrespond
    exact ⟨[], hnext⟩
  | case6 s e source hread hrecoverable next hrespond ih =>
    rwa [dispatcher_of_respond hrespond] at ih
  | case7 => exact ⟨[], rfl⟩

theorem serve_acts (s : Service σ) :
    ∃ actions, s.serve.2.dispatcher.bench = s.dispatcher.bench.after actions := by
  obtain ⟨requests, hserve⟩ := s.serve_handles
  obtain ⟨actions, hactions⟩ := s.dispatcher.handleAll_acts requests
  exact ⟨actions, by rw [hserve, hactions]⟩

theorem run_of_serve_none {s : Service σ} (h : s.serve.1 = none) : s.run = (none, s.serve.2) := by
  rcases hserve : s.serve with ⟨result, next⟩
  rw [hserve] at h
  obtain rfl : result = none := h
  rw [run, hserve]

theorem run_of_serve_some {s : Service σ} {result : Except SystemError Unit}
    (h : s.serve.1 = some result) :
    s.run = (some (result.map fun () ↦ s.serve.2.summary),
      { s.serve.2 with dispatcher := s.serve.2.dispatcher.shutdown.2 }) := by
  rcases hserve : s.serve with ⟨result', next⟩
  rw [hserve] at h
  obtain rfl : result' = some result := h
  rw [run, hserve]

/-- A service run is a run of actions, the last of which discard what both roles have, if it comes
to its end. -/
theorem run_acts (s : Service σ) :
    ∃ actions, s.run.2.dispatcher.bench = s.dispatcher.bench.after
      (actions ++ if s.run.1.isSome then [.discard .tooling, .discard .compile] else []) := by
  obtain ⟨actions, hserve⟩ := s.serve_acts
  refine ⟨actions, ?_⟩
  rw [Bench.after_append, ← hserve]
  cases hresult : s.serve.1 with
  | none =>
    rw [run_of_serve_none hresult]
    rfl
  | some result =>
    rw [run_of_serve_some hresult]
    exact s.serve.2.dispatcher.shutdown_bench

end Service

end CompileWorker
