import CompileWorker.Environment.Mock
import CompileWorker.Proofs.Overrun
import CompileWorker.Proofs.Simulation

namespace CompileWorker

variable {σ : Type}

def World.restarts (w : World σ) : Nat := w.trace.countP (·.signal? = some .retry)

variable [Guests σ]

/-- Guests that were started as the first property tells ask for a restart when they run the entry
point; then the second one holds of them, and goes on to. -/
structure Guests.Urge (entryPoint : String) (P Q : σ → Prop) : Prop where
  start : ∀ id role g, P g → ∃ g', Guests.start id role g = (.started, g') ∧ P g'
  invoke : ∀ env payload g, P g → ∃ output units g',
    Guests.invoke env entryPoint payload g = ((.ok ⟨.string "restart", output⟩, units), g') ∧ Q g'
  discard : ∀ env g, Q g → Q (Guests.discard env g).2

namespace Step

variable {s : Session σ} {g : σ}

theorem acquire_started (key : DigestMap) (hvacant : s.caches.compile.entry = none)
    (hstart : Guests.start ⟨s.world.issued + 1⟩ s.caches.compile.role s.world.guests =
      (.started, g)) :
    ∃ s', (Step.acquire .compile key []).run.run s = (.ok (), s') ∧ s'.caches.compile.entry.isSome ∧
      s'.world.guests = g ∧ s'.world.restarts = s.world.restarts := by
  rw [run_acquire_eq]
  simp only [RoleCaches.acquire, RoleCaches.get, EnvironmentCache.acquire, hvacant,
    EnvironmentCache.build, World.create, hstart, Environment.loadAll]
  exact ⟨_, rfl, rfl, rfl, by simp [World.restarts, World.record, Event.signal?]⟩

theorem invoke_urged {entry : CacheEntry} {entryPoint payload output : String} {units : List String}
    (hentry : s.caches.compile.entry = some entry)
    (hinvoke : Guests.invoke entry.environment entryPoint payload s.world.guests =
      ((.ok ⟨.string "restart", output⟩, units), g)) :
    ∃ s', (Step.invoke .compile entryPoint payload).run.run s =
      (.ok ⟨.string "restart", output⟩, s') ∧
      s'.caches.compile.entry.isSome ∧ s'.world.guests = g ∧
      s'.world.restarts = s.world.restarts + 1 := by
  rw [run_invoke_eq]
  simp only [RoleCaches.invoke, RoleCaches.get, EnvironmentCache.invoke, hentry, Environment.invoke,
    hinvoke]
  refine ⟨_, rfl, rfl, rfl, ?_⟩
  have hsignal :
    ∀ id, (Event.invoked id entryPoint payload (.ok ⟨.string "restart", output⟩)).signal? =
      some .retry := fun _ ↦ rfl
  simp [World.restarts, World.record, hsignal]

theorem invoke_raised {entry : CacheEntry} {entryPoint payload raising message output : String}
    {units : List String} (hentry : s.caches.compile.entry = some entry)
    (hinvoke : Guests.invoke entry.environment entryPoint payload s.world.guests =
      ((.error (.guest raising message output), units), g)) :
    ∃ s', (Step.invoke .compile entryPoint payload).run.run s =
        (.error (.invoke .compile (.guest raising message output)), s') ∧
      s'.world.restarts = s.world.restarts := by
  rw [run_invoke_eq]
  simp only [RoleCaches.invoke, RoleCaches.get, EnvironmentCache.invoke, hentry, Environment.invoke,
    hinvoke]
  exact ⟨_, rfl, by simp [World.restarts, World.record, Event.signal?]⟩

theorem discard_entry {entry : CacheEntry} (hentry : s.caches.compile.entry = some entry) :
    ∃ s', (Step.discard .compile).run.run s = (.ok (), s') ∧ s'.caches.compile.entry = none ∧
      s'.world.guests = (Guests.discard entry.environment s.world.guests).2 ∧
      s'.world.restarts = s.world.restarts := by
  refine ⟨_, run_discard .compile s, ?_⟩
  simp only [RoleCaches.discard, RoleCaches.get, EnvironmentCache.discard, hentry,
    EnvironmentCache.dispose, Environment.discard]
  exact ⟨rfl, rfl, by simp [World.restarts, World.record, Event.signal?]⟩

end Step

namespace Policy

variable {p : Policy} {s : Session σ}

theorem round_urged {P Q : σ → Prop} (hurge : Guests.Urge p.settings.entryPoints.compile P Q)
    (hlargest : p.settings.maxRestarts = 0xFFFFFFFF) (key : DigestMap) (script : String)
    (restarts : UInt32) (hvacant : s.caches.compile.entry = none) (h : P s.world.guests) :
    ∃ s', (p.round key [] script restarts).run.run s = (.ok (.restarted (restarts + 1)), s') ∧
      s'.caches.compile.entry = none ∧ Q s'.world.guests ∧
      s'.world.restarts = s.world.restarts + 1 := by
  obtain ⟨g, hstart, hg⟩ := hurge.start ⟨s.world.issued + 1⟩ s.caches.compile.role _ h
  obtain ⟨s₁, hacquire, hentry, rfl, hcount⟩ := Step.acquire_started key hvacant hstart
  obtain ⟨entry, hentry⟩ := Option.isSome_iff_exists.mp hentry
  obtain ⟨output, units, g, hanswer, hg⟩ := hurge.invoke entry.environment script _ hg
  obtain ⟨s₂, hinvoke, hentry, rfl, hcount₂⟩ := Step.invoke_urged hentry hanswer
  obtain ⟨entry, hentry⟩ := Option.isSome_iff_exists.mp hentry
  obtain ⟨s₃, hdiscard, hvacant, hleft, hcount₃⟩ := Step.discard_entry hentry
  refine ⟨s₃, Step.run_bind_ok hacquire (Step.run_bind_ok hinvoke (Step.run_bind_ok hdiscard ?_)),
    hvacant, hleft ▸ hurge.discard _ _ hg, ?_⟩
  · -- no word is above the largest
    have hgranted : ¬ p.settings.maxRestarts < restarts + 1 := by
      rw [hlargest]
      exact UInt32.not_lt.mpr
        (UInt32.le_iff_toNat_le.mpr (Nat.le_of_lt_succ (UInt32.toNat_lt_size _)))
    rw [if_neg hgranted]
    rfl
  · rw [hcount₃, hcount₂, hcount]

theorem rounds_urged {P : Nat → σ → Prop}
    (hurge : ∀ n, Guests.Urge p.settings.entryPoints.compile (P (n + 1)) (P n))
    (hlargest : p.settings.maxRestarts = 0xFFFFFFFF) (key : DigestMap) (script : String) {n : Nat}
    (restarts : UInt32) (hvacant : s.caches.compile.entry = none) (h : P n s.world.guests) :
    ∃ restarts' s', s'.caches.compile.entry = none ∧ P 0 s'.world.guests ∧
      s'.world.restarts = s.world.restarts + n ∧ ∀ more,
        (p.rounds key [] script (n + more) restarts).run.run s =
          (p.rounds key [] script more restarts').run.run s' := by
  induction n generalizing restarts s with
  | zero =>
    refine ⟨restarts, s, hvacant, h, rfl, fun more ↦ ?_⟩
    rw [Nat.zero_add]
  | succ n ih =>
    obtain ⟨s₁, hround, hvacant, hleft, hcount⟩ :=
      round_urged (hurge n) hlargest key script restarts hvacant h
    obtain ⟨restarts', s', hvacant, hleft, hcount', hrest⟩ := ih (restarts + 1)
      (s := { s₁ with transcript := s₁.transcript.note "compile environment discarded (restart)" })
      hvacant hleft
    refine ⟨restarts', s', hvacant, hleft, ?_, fun more ↦ ?_⟩
    · rw [hcount', hcount]
      omega
    · rw [Nat.add_right_comm, run_rounds_succ, hround]
      exact hrest more

theorem process_of_compile {request : WorkRequest} {payload script : String} {r : CompileRequest}
    {s₁ s₂ : Session σ} {result : Except DispatchError (Option Signal)}
    (hpayload : request.payload? = some payload) (hr : CompileRequest.ofString payload = .ok r)
    (hplan : (p.plan payload).run.run
      { s with transcript := s.transcript.remember "request" payload } = (.ok script, s₁))
    (hcompile : (p.compile (.forRequest r.classpath request.inputs) r.classpath script).run.run
      { s₁ with transcript := s₁.transcript.remember "script" script } = (result, s₂))
    (hresult : ∀ signal, result ≠ .ok (some signal)) :
    (p.process request).run.run s = (result, s₂) := by
  unfold process
  simp only [hpayload, hr, pure_bind]
  refine Step.run_bind_ok rfl (Step.run_bind_ok hplan (Step.run_bind_ok rfl ?_))
  rcases result with e | _ | signal
  · exact Step.run_bind_error hcompile
  · exact Step.run_bind_ok hcompile rfl
  · exact absurd rfl (hresult signal)

end Policy

namespace Mock

variable {entryPoint : String} {m : Mock}

def IsRestless (m : Mock) (entryPoint : String) : Prop :=
  m.queued = [] ∧ m.defaults.lookup entryPoint = some (.value (.string "restart") "")

theorem IsRestless.discard (h : m.IsRestless entryPoint) (env : Environment) :
    (m.discard env).IsRestless entryPoint := by
  unfold Mock.discard clearLive
  split <;> exact h

theorem urge_of_isRestless :
    Guests.Urge entryPoint (fun m : Mock ↦ m.IsRestless entryPoint) fun m ↦
      m.IsRestless entryPoint where
  start _ _ g h := ⟨_, rfl, h⟩
  invoke env _ g h := by
    refine ⟨"", [entryPoint], { g with events := .invoked env.id entryPoint :: g.events }, ?_, h⟩
    obtain ⟨hqueued, hdefault⟩ := h
    simp only [Guests.invoke, Mock.invoke, nextReply, hqueued, dequeue, hdefault, Option.getD_some]
  discard env _ h := h.discard env

end Mock

theorem Policy.rounds_restless {p : Policy} {s : Session Mock}
    (hlargest : p.settings.maxRestarts = 0xFFFFFFFF) (key : DigestMap) (script : String)
    (more : Nat) (restarts : UInt32) (hvacant : s.caches.compile.entry = none)
    (h : s.world.guests.IsRestless p.settings.entryPoints.compile) :
    ∃ restarts' s', (p.rounds key [] script more restarts).run.run s =
      (.ok (.restarted restarts'), s') := by
  obtain ⟨restarts₁, s₁, hvacant, h, -, hrest⟩ :=
    rounds_urged (P := fun _ m ↦ m.IsRestless p.settings.entryPoints.compile) (n := more)
      (fun _ ↦ Mock.urge_of_isRestless) hlargest key script restarts hvacant h
  obtain ⟨s₂, hround, -⟩ :=
    round_urged Mock.urge_of_isRestless hlargest key script restarts₁ hvacant h
  exact ⟨_, s₂, (hrest 0).trans hround⟩

def unlimitedPolicy : Policy := { settings := { maxRestarts := 0xFFFFFFFF } }

def restlessGuests : Mock :=
  Mock.respond "rules-clojure.compile/eval-script" (.string "restart")
    (Mock.respond "rules-clojure.jar/get-compilation-script-json" (.string "s") {})

def restlessRequest : WorkRequest := { arguments := ["[[],\"c\",[],\"o\"]"] }

/-- Guests that plan a script for every request, and ask for so many restarts before they fail to
run it. -/
structure PatientGuests where
  restarts : Nat

namespace PatientGuests

instance : Guests PatientGuests where
  start _ _ g := (.started, g)
  load _ _ g := (.ok (), g)
  invoke _ entryPoint _ g :=
    if entryPoint = "rules-clojure.jar/get-compilation-script-json" then
      ((.ok ⟨.string "s", ""⟩, []), g)
    else match g.restarts with
      | 0 => ((.error (.guest entryPoint "no such var" ""), []), g)
      | restarts + 1 => ((.ok ⟨.string "restart", ""⟩, []), ⟨restarts⟩)
  discard _ g := (.ok (), g)
  abandon _ g := g

theorem urge (n : Nat) :
    Guests.Urge "rules-clojure.compile/eval-script" (fun g : PatientGuests ↦ g.restarts = n + 1)
      (·.restarts = n) where
  start _ _ g h := ⟨g, rfl, h⟩
  invoke _ _ g h := by
    refine ⟨"", [], ⟨n⟩, ?_, rfl⟩
    simp [Guests.invoke, h]
  discard _ _ h := h

theorem rounds_failed {p : Policy} {s : Session PatientGuests}
    (hcompile : p.settings.entryPoints.compile = "rules-clojure.compile/eval-script")
    (key : DigestMap) (script : String) (more : Nat) (restarts : UInt32)
    (hvacant : s.caches.compile.entry = none) (h : s.world.guests.restarts = 0) :
    ∃ s', (p.rounds key [] script more restarts).run.run s =
        (.error (.invoke .compile (.guest "rules-clojure.compile/eval-script" "no such var" "")),
          s') ∧
      s'.world.restarts = s.world.restarts := by
  obtain ⟨s₁, hacquire, hentry, hguests, hcount⟩ :=
    Step.acquire_started (g := s.world.guests) key hvacant rfl
  obtain ⟨entry, hentry⟩ := Option.isSome_iff_exists.mp hentry
  have hraise :
    Guests.invoke entry.environment p.settings.entryPoints.compile script s₁.world.guests =
      ((.error (.guest "rules-clojure.compile/eval-script" "no such var" ""), []),
        s₁.world.guests) := by
    rw [hguests, hcompile]
    simp [Guests.invoke, h]
  obtain ⟨s₂, hinvoke, hcount₂⟩ := Step.invoke_raised hentry hraise
  have hround : (p.round key [] script restarts).run.run s =
      (.error (.invoke .compile (.guest "rules-clojure.compile/eval-script" "no such var" "")),
        s₂) :=
    Step.run_bind_ok hacquire (Step.run_bind_error hinvoke)
  refine ⟨s₂, ?_, hcount₂.trans hcount⟩
  cases more with
  | zero => exact hround
  | succ more => rw [Policy.run_rounds_succ, hround]

end PatientGuests

theorem restlessRequest_accepted :
    ∃ r, CompileRequest.ofString "[[],\"c\",[],\"o\"]" = .ok r ∧ r.classpath = [] := by
  have hclasspath : (CompileRequest.ofString "[[],\"c\",[],\"o\"]").toOption.map (·.classpath) =
      some [] := by
    decide +kernel
  cases hr : CompileRequest.ofString "[[],\"c\",[],\"o\"]" with
  | error e =>
    rw [hr] at hclasspath
    cases hclasspath
  | ok r =>
    rw [hr] at hclasspath
    exact ⟨r, rfl, Option.some.inj hclasspath⟩

namespace Dispatcher

def restlessScript (d : Dispatcher σ) : Except DispatchError String × Session σ :=
  let s := d.session restlessRequest
  (d.policy.plan "[[],\"c\",[],\"o\"]").run.run
    { s with transcript := s.transcript.remember "request" "[[],\"c\",[],\"o\"]" }

def restlessSession (d : Dispatcher σ) : Session σ :=
  let s := d.restlessScript.2
  { s with transcript := s.transcript.remember "script" "s" }

theorem handle_of_rounds {d : Dispatcher σ} {s' : Session σ} {r : Except DispatchError Round}
    (hscript : d.restlessScript.1 = .ok "s")
    (hrounds : (d.policy.rounds (.forRequest [] []) [] "s"
      (d.policy.settings.maxRestarts.toNat + d.policy.overtime) 0).run.run d.restlessSession =
        (r, s'))
    (hr : ∀ signal, r ≠ .ok (.settled signal)) :
    d.handle restlessRequest =
      ((ending (r.map Round.signal?)).map (restlessRequest.conclude s'.transcript),
        { d with caches := s'.caches, world := s'.world }) := by
  obtain ⟨request, hrequest, hclasspath⟩ := restlessRequest_accepted
  have hplan : d.restlessScript = (.ok "s", d.restlessScript.2) := Prod.ext hscript rfl
  refine handle_of_run (Policy.process_of_compile rfl hrequest hplan ?_ ?_)
  · rw [hclasspath, Policy.run_compile]
    rw [show DigestMap.forRequest [] restlessRequest.inputs = .forRequest [] [] from rfl]
    exact congrArg (fun out ↦ (out.1.map Round.signal?, out.2)) hrounds
  · rcases r with e | signal | restarts
    · nofun
    · exact absurd rfl (hr signal)
    · nofun

variable {overtime : Nat}

/-- There is no response, however long compiling goes on. -/
theorem handle_restless {d : Dispatcher Mock}
    (hd : d = start { unlimitedPolicy with overtime } restlessGuests) :
    (d.handle restlessRequest).1 = none := by
  have hscript : d.restlessScript.1 = .ok "s" := by
    rw [hd]
    rfl
  have hvacant : d.restlessSession.caches.compile.entry = none := by
    rw [hd]
    rfl
  have hrestless :
      d.restlessSession.world.guests.IsRestless d.policy.settings.entryPoints.compile := by
    rw [hd]
    exact ⟨rfl, rfl⟩
  have hlargest : d.policy.settings.maxRestarts = 0xFFFFFFFF := by
    rw [hd]
    rfl
  obtain ⟨restarts, s', hrounds⟩ := Policy.rounds_restless hlargest (.forRequest [] []) "s"
    (d.policy.settings.maxRestarts.toNat + d.policy.overtime) 0 hvacant hrestless
  rw [handle_of_rounds hscript hrounds fun _ ↦ nofun]
  rfl

theorem handle_patient {d : Dispatcher PatientGuests} {n : Nat}
    (hd : d = start { unlimitedPolicy with overtime } ⟨n⟩) (hn : n < UInt32.size + overtime) :
    (d.handle restlessRequest).2.world.restarts = n ∧
      ∃ t, (d.handle restlessRequest).1 = some (restlessRequest.conclude t
        (.error (.invoke .compile
          (.guest "rules-clojure.compile/eval-script" "no such var" "")))) := by
  have hscript : d.restlessScript.1 = .ok "s" := by
    rw [hd]
    rfl
  have hvacant : d.restlessSession.caches.compile.entry = none := by
    rw [hd]
    rfl
  have hpatient : d.restlessSession.world.guests.restarts = n := by
    rw [hd]
    rfl
  have hcount : d.restlessSession.world.restarts = 0 := by
    rw [hd]
    rfl
  have hpolicy : d.policy = { unlimitedPolicy with overtime } := by
    rw [hd]
    rfl
  obtain ⟨more, hmore⟩ :
      ∃ more, d.policy.settings.maxRestarts.toNat + d.policy.overtime = n + more := by
    apply Nat.exists_eq_add_of_le
    have hsize : (0xFFFFFFFF : UInt32).toNat + 1 = UInt32.size := rfl
    rw [hpolicy]
    change n ≤ (0xFFFFFFFF : UInt32).toNat + overtime
    omega
  obtain ⟨restarts, s₁, hvacant, hpatient, hcount₁, hrest⟩ :=
    Policy.rounds_urged (P := fun n (g : PatientGuests) ↦ g.restarts = n) (p := d.policy)
      (hpolicy ▸ PatientGuests.urge) (hpolicy ▸ rfl) (.forRequest [] []) "s" 0 hvacant hpatient
  obtain ⟨s₂, hrounds, hcount₂⟩ := PatientGuests.rounds_failed (p := d.policy) (hpolicy ▸ rfl)
    (.forRequest [] []) "s" more restarts hvacant hpatient
  rw [← hrest, ← hmore] at hrounds
  rw [handle_of_rounds hscript hrounds nofun]
  refine ⟨?_, _, rfl⟩
  rw [hcount₂, hcount₁, hcount, Nat.zero_add]

end Dispatcher

end CompileWorker
