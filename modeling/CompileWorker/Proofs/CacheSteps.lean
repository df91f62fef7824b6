import CompileWorker.Proofs.RestartBudget
import Mathlib.Data.List.Induction

namespace CompileWorker

structure CacheStep where
  role : Role
  call : CacheCall

inductive DispatcherCall
  | handle (request : WorkRequest)
  | shutdown

/-- The guest was given an entry point to run, and was not heard any more. -/
def Event.breaks (id : EnvironmentId) : Event → Bool
  | .invoked i _ _ answer => i = id ∧ ¬ isHeard answer
  | _ => false

variable {σ : Type} [Guests σ]

def EnvironmentCache.call (c : EnvironmentCache) (w : World σ) :
    CacheCall → EnvironmentCache × World σ
  | .acquire key classpath => (c.acquire key classpath w).2
  | .invoke entryPoint payload => (c.invoke entryPoint payload w).2
  | .discard => (c.discard w).2

namespace Bench

def step (b : Bench σ) (s : CacheStep) : Bench σ := b.on s.role fun c w ↦ c.call w s.call

def through (b : Bench σ) (steps : List CacheStep) : Bench σ := steps.foldl step b

theorem through_append (b : Bench σ) (first second : List CacheStep) :
    b.through (first ++ second) = (b.through first).through second :=
  List.foldl_append

theorem step_other (b : Bench σ) {s : CacheStep} {role : Role} (h : role ≠ s.role) :
    (b.step s).caches.get role = b.caches.get role := by
  simp [step, on, h]

theorem step_own (b : Bench σ) (s : CacheStep) :
    (b.step s).caches.get s.role = ((b.caches.get s.role).call b.world s.call).1 := by
  simp [step, on]

theorem step_suffix (b : Bench σ) (s : CacheStep) : b.world.trace <:+ (b.step s).world.trace := by
  change b.world.trace <:+ ((b.caches.get s.role).call b.world s.call).2.trace
  generalize b.caches.get s.role = c
  cases s.call with
  | acquire key classpath =>
    obtain ⟨events, hacq⟩ := c.acquires key classpath b.world
    exact ⟨events, hacq.trace.symm⟩
  | invoke entryPoint payload =>
    cases hc : c.entry with
    | none => simp [EnvironmentCache.call, EnvironmentCache.invoke, hc]
    | some entry =>
      simp only [EnvironmentCache.call, EnvironmentCache.invoke, hc]
      exact List.suffix_cons _ _
  | discard =>
    obtain ⟨events, htrace, -⟩ := c.discard_trace b.world
    exact ⟨events, htrace.symm⟩

theorem through_suffix (b : Bench σ) (steps : List CacheStep) :
    b.world.trace <:+ (b.through steps).world.trace := by
  induction steps generalizing b with
  | nil => exact List.suffix_refl _
  | cons s steps ih => exact (b.step_suffix s).trans (ih (b.step s))

theorem Orderly.step {b : Bench σ} (hb : b.Orderly) (s : CacheStep) : (b.step s).Orderly := by
  refine hb.on s.role (fun c w ↦ c.call w s.call) ?_
  have hkept := hb.kept s.role
  cases s.call with
  | acquire key classpath => exact hkept.acquire key classpath
  | invoke entryPoint payload => exact hkept.invoke entryPoint payload
  | discard => exact hkept.discard

theorem Orderly.through {b : Bench σ} (hb : b.Orderly) (steps : List CacheStep) :
    (b.through steps).Orderly := by
  induction steps generalizing b with
  | nil => exact hb
  | cons s steps ih => exact ih (hb.step s)

def Along (P : Bench σ → CacheStep → Prop) (b : Bench σ) : List CacheStep → Prop
  | [] => True
  | s :: steps => P b s ∧ Along P (b.step s) steps

namespace Along

variable {P Q : Bench σ → CacheStep → Prop} {b : Bench σ} {steps : List CacheStep}

theorem append {later : List CacheStep} (h : b.Along P steps)
    (h' : (b.through steps).Along P later) : b.Along P (steps ++ later) := by
  induction steps generalizing b with
  | nil => exact h'
  | cons s steps ih => exact ⟨h.1, ih h.2 h'⟩

theorem mono (h : b.Along P steps) (hPQ : ∀ b s, P b s → Q b s) : b.Along Q steps := by
  induction steps generalizing b with
  | nil => trivial
  | cons s steps ih => exact ⟨hPQ _ _ h.1, ih h.2⟩

theorem of_append {before after : List CacheStep} (h : b.Along P (before ++ after)) :
    b.Along P before ∧ (b.through before).Along P after := by
  induction before generalizing b with
  | nil => exact ⟨trivial, h⟩
  | cons s before ih =>
    obtain ⟨hbefore, hafter⟩ := ih h.2
    exact ⟨⟨h.1, hbefore⟩, hafter⟩

end Along

def Reaches (P : Bench σ → CacheStep → Prop) (b b' : Bench σ) : Prop :=
  ∃ steps, b' = b.through steps ∧ b.Along P steps

namespace Reaches

variable {P Q : Bench σ → CacheStep → Prop} {b b₁ b' : Bench σ}

theorem refl (P : Bench σ → CacheStep → Prop) (b : Bench σ) : b.Reaches P b := ⟨[], rfl, trivial⟩

theorem trans (h : b.Reaches P b₁) (h' : b₁.Reaches P b') : b.Reaches P b' := by
  obtain ⟨steps, rfl, hsteps⟩ := h
  obtain ⟨later, rfl, hlater⟩ := h'
  exact ⟨steps ++ later, (b.through_append steps later).symm, hsteps.append hlater⟩

theorem mono (h : b.Reaches P b') (hPQ : ∀ b s, P b s → Q b s) : b.Reaches Q b' := by
  obtain ⟨steps, hb', hsteps⟩ := h
  exact ⟨steps, hb', hsteps.mono hPQ⟩

theorem step {s : CacheStep} (h : P b s) : b.Reaches P (b.step s) := ⟨[s], rfl, h, trivial⟩

end Reaches

end Bench

/-- The step belongs to an attempt at the task. Only an environment that broke is discarded. -/
def GuestTask.Guides (t : GuestTask) (b : Bench σ) (s : CacheStep) : Prop :=
  s.role = t.role ∧
    match s.call with
    | .acquire key classpath => key = t.key ∧ classpath = t.classpath
    | .invoke entryPoint payload => entryPoint = t.entryPoint ∧ payload = t.payload
    | .discard => ∀ id, b.live t.role = some id → ∃ e ∈ b.world.trace, e.breaks id

theorem Bench.Makes.reaches {b b' : Bench σ} {t : GuestTask} {o : TaskOutcome}
    (h : b.Makes t o b') : b.Reaches t.Guides b' := by
  let acquire : CacheStep := ⟨t.role, .acquire t.key t.classpath⟩
  let invoke : CacheStep := ⟨t.role, .invoke t.entryPoint t.payload⟩
  have hacquire : t.Guides b acquire := ⟨rfl, rfl, rfl⟩
  cases h with
  | notReady ha =>
    exact ⟨[acquire], by simp [acquire, through, step, on, EnvironmentCache.call, ha], hacquire,
      trivial⟩
  | heard ha _ hi =>
    refine ⟨[acquire, invoke], ?_, hacquire, ⟨rfl, rfl, rfl⟩, trivial⟩
    simp [acquire, invoke, through, step, on, EnvironmentCache.call, ha, hi]
  | @broken acquisition c c' w w' id answer ha hid hi hheard =>
    have hinvoked :
        (b.step acquire).step invoke = { caches := b.caches.set t.role c', world := w' } := by
      simp [acquire, invoke, step, on, EnvironmentCache.call, ha, hi]
    obtain ⟨hid', htrace⟩ := EnvironmentCache.invoke_of_live hid t.entryPoint t.payload w
    rw [hi] at hid' htrace
    refine ⟨[acquire, invoke, ⟨t.role, .discard⟩], ?_, hacquire, ⟨rfl, rfl, rfl⟩,
      ⟨rfl, fun id' hlive ↦ ?_⟩, trivial⟩
    · simp only [through, List.foldl_cons, List.foldl_nil, hinvoked]
      simp [step, on, EnvironmentCache.call]
    · rw [hinvoked] at hlive ⊢
      simp only [Bench.live, RoleCaches.get_set, if_true] at hlive
      obtain rfl := Option.some.inj (hid'.symm.trans hlive)
      exact ⟨_, htrace ▸ List.mem_cons_self, by simpa [Event.breaks] using hheard⟩

namespace Policy

variable (p : Policy)

/-- In the tooling role nothing is done but for tasks of the worker's own. -/
def Tends (b : Bench σ) (s : CacheStep) : Prop :=
  s.role = .compile ∨ ∃ entryPoint payload, (p.toolingTask entryPoint payload).Guides b s

variable {p : Policy} {request : WorkRequest} {b b' : Bench σ}

theorem reaches_tooling {entryPoint payload : String} {o : TaskOutcome}
    (h : b.Makes (p.toolingTask entryPoint payload) o b') : b.Reaches p.Tends b' :=
  h.reaches.mono fun _ _ hs ↦ .inr ⟨entryPoint, payload, hs⟩

theorem reaches_compile {t : GuestTask} {o : TaskOutcome} (h : b.Makes t o b')
    (ht : t.role = .compile) : b.Reaches p.Tends b' :=
  h.reaches.mono fun _ _ hs ↦ .inl (hs.1.trans ht)

theorem reaches_discard (p : Policy) (b : Bench σ) :
    b.Reaches p.Tends (b.perform (.discard .compile)) := by
  have hdiscard : p.Tends b ⟨.compile, .discard⟩ := .inl rfl
  exact Bench.Reaches.step hdiscard

theorem reaches_restarts {t : GuestTask} {as : List Attempt} (h : b.Restarts t as b')
    (ht : t.role = .compile) : b.Reaches p.Tends b' := by
  induction h with
  | done b => exact .refl _ b
  | @retry b b₁ _ _ _ hm _ _ ih =>
    exact ((reaches_compile hm ht).trans (p.reaches_discard b₁)).trans ih

theorem Compiles.reaches {t : GuestTask} {restarts : Nat} {as : List Attempt}
    {r : Option (Except DispatchError Signal)} (h : p.Compiles t restarts b as r b')
    (ht : t.role = .compile) : b.Reaches p.Tends b' := by
  cases h with
  | exhausted h => exact reaches_restarts h ht
  | settled h _ hm => exact (reaches_restarts h ht).trans (reaches_compile hm ht)

theorem Packages.reaches {payload : String} {package : Option Attempt}
    {r : Except DispatchError Unit} (h : p.Packages payload b package r b') :
    b.Reaches p.Tends b' := by
  cases h with
  | disabled => exact .refl _ b
  | made _ hm => exact reaches_tooling hm

theorem Processes.reaches {c : Course} {result : Option (Except DispatchError Signal)}
    (h : p.Processes request b c result b') : b.Reaches p.Tends b' := by
  cases h with
  | rejected => exact .refl _ b
  | unplanned _ hm => exact reaches_tooling hm
  | uncompiled _ hm _ hc => exact (reaches_tooling hm).trans (hc.reaches rfl)
  | @compiled _ _ _ _ _ _ _ _ _ _ b₃ _ hm _ hc hp =>
    have hpackaged := ((reaches_tooling hm).trans (hc.reaches rfl)).trans hp.reaches
    split
    · exact hpackaged.trans (p.reaches_discard b₃)
    · exact hpackaged

end Policy

namespace Dispatcher

def call (d : Dispatcher σ) : DispatcherCall → Dispatcher σ
  | .handle request => (d.handle request).2
  | .shutdown => d.shutdown.2

def after (d : Dispatcher σ) (calls : List DispatcherCall) : Dispatcher σ := calls.foldl call d

theorem after_snoc (d : Dispatcher σ) (calls : List DispatcherCall) (c : DispatcherCall) :
    d.after (calls ++ [c]) = (d.after calls).call c :=
  List.foldl_append

theorem policy_after (d : Dispatcher σ) (calls : List DispatcherCall) :
    (d.after calls).policy = d.policy := by
  induction calls generalizing d with
  | nil => rfl
  | cons c calls ih =>
    have hpolicy : (d.call c).policy = d.policy := by
      cases c with
      | handle request => exact d.handle_policy request
      | shutdown => rfl
    exact (ih (d.call c)).trans hpolicy

theorem reachable_after (policy : Policy) (guests : σ) (calls : List DispatcherCall) :
    ((Dispatcher.start policy guests).after calls).Reachable := by
  induction calls using List.reverseRecOn with
  | nil => exact .start policy guests
  | append_singleton calls c ih =>
    rw [after_snoc]
    cases c with
    | handle request => exact .handle ih request
    | shutdown => exact .shutdown ih

theorem handle_reaches (d : Dispatcher σ) (request : WorkRequest) :
    d.bench.Reaches d.policy.Tends (d.handle request).2.bench := by
  obtain ⟨c, result, h, -⟩ := d.handle_processes request
  exact h.reaches

theorem handleAll_reaches (d : Dispatcher σ) (requests : List WorkRequest) :
    d.bench.Reaches d.policy.Tends (d.handleAll requests).bench := by
  induction requests generalizing d with
  | nil => exact .refl _ d.bench
  | cons request requests ih =>
    have hrest := ih (d.handle request).2
    rw [d.handle_policy request] at hrest
    exact (d.handle_reaches request).trans hrest

theorem call_steps (d : Dispatcher σ) (c : DispatcherCall) :
    ∃ steps, (d.call c).bench = d.bench.through steps := by
  cases c with
  | handle request =>
    obtain ⟨steps, hsteps, -⟩ := d.handle_reaches request
    exact ⟨steps, hsteps⟩
  | shutdown => exact ⟨[⟨.tooling, .discard⟩, ⟨.compile, .discard⟩], rfl⟩

end Dispatcher

end CompileWorker
