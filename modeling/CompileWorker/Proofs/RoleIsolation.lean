import CompileWorker.Proofs.CacheSteps
import CompileWorker.Proofs.ChannelFailure
import CompileWorker.Proofs.FailedLoads
import CompileWorker.Proofs.VerboseNotes

namespace CompileWorker

def Move.role : Move → Role
  | .attempt t => t.role
  | .restart | .giveUp | .reload => .compile

def GuestTask.Asks (t : GuestTask) : Event → Prop
  | .located _ location _ => location ∈ t.classpath
  | .invoked _ entryPoint payload _ => entryPoint = t.entryPoint ∧ payload = t.payload
  | _ => False

/-- What an environment of a role is asked for a request, after all that was done before and that
part of it that was done for the request. -/
inductive Policy.Asks (p : Policy) (request : WorkRequest) (older earlier : List Event) :
    Role → Event → Prop
  | loadTooling {id : EnvironmentId} {location : String} {answer : Except EnvironmentError Bool}
      (h : location ∈ p.settings.guest.toolingClasspath) :
      Asks p request older earlier .tooling (.located id location answer)
  | runTooling {id : EnvironmentId} {entryPoint payload : String}
      {answer : Except EnvironmentError Invocation}
      (h : entryPoint = p.settings.entryPoints.plan ∨
        p.settings.entryPoints.package? = some entryPoint)
      (hpayload : request.payload? = some payload) :
      Asks p request older earlier .tooling (.invoked id entryPoint payload answer)
  | loadCompile {id : EnvironmentId} {location payload : String} {r : CompileRequest}
      {answer : Except EnvironmentError Bool} (h : request.accepted? = some (payload, r))
      (hlocation : location ∈ r.classpath) :
      Asks p request older earlier .compile (.located id location answer)
  | runCompile {id planner : EnvironmentId} {payload script output : String}
      {answer : Except EnvironmentError Invocation} (hpayload : request.payload? = some payload)
      (hplanner : .created planner .tooling ∈ older)
      (hplanned : .invoked planner p.settings.entryPoints.plan payload
        (.ok ⟨.string script, output⟩) ∈ earlier) :
      Asks p request older earlier .compile
        (.invoked id p.settings.entryPoints.compile script answer)

theorem Lives.alive_of_used {newer older : List Event} {live : Live} {e : Event}
    {id : EnvironmentId} {role : Role} (h : Lives (newer ++ e :: older) live)
    (hused : e.used? = some id) (hcreated : .created id role ∈ newer ++ e :: older) :
    .created id role ∈ older ∧ ∀ answer, .discarded id answer ∉ older := by
  obtain ⟨live', h'⟩ := h.of_append
  cases h' with
  | created | notCreated | discarded => cases hused
  | @used _ _ id' role' _ h' hlive hused' =>
    obtain rfl := Option.some.inj (hused.symm.trans hused')
    have hcreated' := h'.created_of_live hlive
    have hrole :=
      h.role_unique hcreated (List.mem_append_right _ (List.mem_cons_of_mem _ hcreated'))
    refine ⟨hrole ▸ hcreated', fun answer hgone ↦ ?_⟩
    obtain ⟨between, oldest, rfl⟩ := List.append_of_mem hgone
    exact h'.after_discarded.1 role' hlive

theorem exists_mem_of_forall₂ {R : String → Event → Prop} {asked : List String}
    {events : List Event} (h : asked.Forall₂ R events) :
    ∀ e ∈ events, ∃ location ∈ asked, R location e := by
  induction h with
  | nil => simp
  | cons hfirst _ ih =>
    refine List.forall_mem_cons.mpr ⟨⟨_, List.mem_cons_self, hfirst⟩, fun e he ↦ ?_⟩
    obtain ⟨location, hlocation, hanswer⟩ := ih e he
    exact ⟨location, List.mem_cons_of_mem _ hlocation, hanswer⟩

variable {σ : Type} [Guests σ]

theorem Environment.loadAll_mem {env : Environment} {w : World σ} {classpath : List String}
    {loads : List Event} (h : (env.loadAll w classpath).2.2.trace = loads ++ w.trace) :
    ∀ e ∈ loads, ∃ location ∈ classpath, ∃ answer, e = .located env.id location answer := by
  obtain ⟨asked, rest, loads', rfl, htrace, hasked, -⟩ := env.loadAll_asks w classpath
  obtain rfl := List.append_cancel_right (htrace.symm.trans h)
  intro e he
  obtain ⟨location, hlocation, hanswer⟩ := exists_mem_of_forall₂ hasked e (List.mem_reverse.mpr he)
  exact ⟨location, List.mem_append_left _ hlocation, hanswer⟩

namespace EnvironmentCache

variable {c : EnvironmentCache} {key : DigestMap} {classpath : List String} {w : World σ}
  {live : Live} {role : Role} {out : Except CacheError Acquisition × EnvironmentCache × World σ}
  {events : List Event}

theorem Vacates.own {acquisition : Acquisition} {c₁ : EnvironmentCache} {w₁ : World σ}
    {released : List Event} (hv : c.Vacates key w acquisition c₁ w₁ released)
    (hk : Kept live role c w) :
    ∀ e ∈ released, ∀ id, e.environment? = some id → .created id role ∈ w.trace := by
  cases hv with
  | vacant => simp
  | stale hc =>
    refine List.forall_mem_singleton.mpr fun id hid ↦ ?_
    obtain rfl := Option.some.inj hid
    exact (hk.environment hc).lives.created_of_live Live.set_same

omit [Guests σ] in
theorem eq_of_grows {env env' : Environment} {w' : World σ} {loads : List Event}
    (hg : env.Grows w env' w' loads) {e : Event} (he : e ∈ loads) {id : EnvironmentId}
    (hid : e.environment? = some id) : id = env.id := by
  obtain ⟨location, answer, rfl⟩ := hg.located e he
  exact (Option.some.inj hid).symm

theorem Vacates.own_built {acquisition : Acquisition} {c₁ : EnvironmentCache} {w₁ w₂ w₃ : World σ}
    {env env' : Environment} {released loads : List Event}
    (hv : c.Vacates key w acquisition c₁ w₁ released) (hk : Kept live role c w)
    (hg : env.Grows w₂ env' w₃ loads) :
    ∀ e ∈ loads ++ .created env.id c₁.role :: released, ∀ id, e.environment? = some id →
      .created id role ∈ loads ++ .created env.id c₁.role :: released ++ w.trace := by
  intro e he id hid
  rw [hv.role, hk.role_eq] at he ⊢
  rcases List.mem_append.mp he with he | he
  · obtain rfl := eq_of_grows hg he hid
    simp
  · rcases List.mem_cons.mp he with rfl | he
    · cases hid
      simp
    · exact List.mem_append_right _ (hv.own hk e he id hid)

theorem Acquires.own (h : c.Acquires key classpath w out events) (hk : Kept live role c w) :
    ∀ e ∈ events, ∀ id, e.environment? = some id → .created id role ∈ out.2.2.trace := by
  have htrace := h.trace
  intro e he id hid
  rw [htrace]
  cases h with
  | reused hc _ _ hg | stuck hc _ _ hg =>
    obtain rfl := eq_of_grows hg he hid
    exact List.mem_append_right _ ((hk.environment hc).lives.created_of_live Live.set_same)
  | notCreated hv =>
    rcases List.mem_cons.mp he with rfl | he
    · cases hid
    · exact List.mem_append_right _ (hv.own hk e he id hid)
  | built hv _ _ hg => exact hv.own_built hk hg e he id hid
  | unloadable hv _ _ hg =>
    have hbuilt := hv.own_built hk hg
    rcases List.mem_cons.mp he with rfl | he
    · obtain rfl := Option.some.inj hid
      exact List.mem_cons_of_mem _ (hbuilt _ List.mem_cons_self _ rfl)
    · exact List.mem_cons_of_mem _ (hbuilt e he id hid)

/-- All that an acquire asks for is locations of its classpath. -/
theorem Acquires.asks (h : c.Acquires key classpath w out events) :
    ∀ e ∈ events, ∀ id, e.used? = some id →
      ∃ location ∈ classpath, ∃ answer, e = .located id location answer := by
  have hlocated : ∀ {env env' : Environment} {w₁ w₂ : World σ} {loads : List Event} {r},
      env.loadAll w₁ classpath = (r, env', w₂) → env.Grows w₁ env' w₂ loads →
      ∀ e ∈ loads, ∀ id, e.used? = some id →
        ∃ location ∈ classpath, ∃ answer, e = .located id location answer := by
    intro env env' w₁ w₂ loads r hl hg e he id hused
    have htrace : (env.loadAll w₁ classpath).2.2.trace = loads ++ w₁.trace := by rw [hl, hg.trace]
    obtain ⟨location, hmem, answer, rfl⟩ := Environment.loadAll_mem htrace e he
    obtain rfl := Option.some.inj hused
    exact ⟨location, hmem, answer, rfl⟩
  intro e he id hused
  cases h with
  | reused _ _ hl hg | stuck _ _ hl hg => exact hlocated hl hg e he id hused
  | built hv _ hl hg =>
    exact hlocated hl hg e (CacheRun.mem_of_append_unused hv.created_unused hused he) id hused
  | notCreated hv =>
    rcases List.mem_cons.mp he with rfl | he
    · cases hused
    · rw [hv.unused e he] at hused
      cases hused
  | unloadable hv _ hl hg =>
    rcases List.mem_cons.mp he with rfl | he
    · cases hused
    · rw [← List.cons_append] at he
      exact hlocated hl hg e (CacheRun.mem_of_append_unused hv.created_unused hused he) id hused

omit [Guests σ] in
theorem own_of_live {entry : CacheEntry} (hc : c.entry = some entry) (hk : Kept live role c w)
    {w' : World σ} {e : Event} (he : e.environment? = some entry.environment.id)
    (htrace : w'.trace = e :: w.trace) :
    ∃ events, w'.trace = events ++ w.trace ∧
      ∀ e ∈ events, ∀ id, e.environment? = some id → .created id role ∈ w'.trace := by
  refine ⟨[e], htrace, List.forall_mem_singleton.mpr fun id hid ↦ ?_⟩
  obtain rfl := Option.some.inj (he.symm.trans hid)
  rw [htrace]
  exact List.mem_cons_of_mem _ ((hk.environment hc).lives.created_of_live Live.set_same)

theorem call_own (hk : Kept live role c w) (call : CacheCall) :
    ∃ events, (c.call w call).2.trace = events ++ w.trace ∧
      ∀ e ∈ events, ∀ id, e.environment? = some id →
        .created id role ∈ (c.call w call).2.trace := by
  cases call with
  | acquire key classpath =>
    obtain ⟨events, hacq⟩ := c.acquires key classpath w
    exact ⟨events, hacq.trace, hacq.own hk⟩
  | invoke entryPoint payload =>
    cases hc : c.entry with
    | none => exact ⟨[], by simp [EnvironmentCache.call, EnvironmentCache.invoke, hc], by simp⟩
    | some entry =>
      have hid : c.environmentId? = some entry.environment.id := by simp [environmentId?, hc]
      exact own_of_live hc hk rfl (invoke_of_live hid entryPoint payload w).2
  | discard =>
    cases hc : c.entry with
    | none => exact ⟨[], by simp [EnvironmentCache.call, EnvironmentCache.discard, hc], by simp⟩
    | some entry =>
      have hid : c.environmentId? = some entry.environment.id := by simp [environmentId?, hc]
      obtain ⟨answer, htrace⟩ := discard_of_live hid w
      exact own_of_live hc hk rfl htrace

end EnvironmentCache

namespace Bench

variable {b b' : Bench σ}

/-- After its acquire an attempt asks for nothing but to run the entry point. -/
theorem Makes.later {t : GuestTask} {o : TaskOutcome} (h : b.Makes t o b') :
    ∃ later, b'.world.trace =
      later ++ ((b.caches.get t.role).acquire t.key t.classpath b.world).2.2.trace ∧
      ∀ e ∈ later, ∀ id, e.used? = some id →
        ∃ answer, o = .ran id answer ∧ e = .invoked id t.entryPoint t.payload answer := by
  cases h with
  | notReady ha => exact ⟨[], by rw [ha]; rfl, by simp⟩
  | @heard _ c c' w w' id answer ha hid hi =>
    have hinvoked := (EnvironmentCache.invoke_of_live hid t.entryPoint t.payload w).2
    rw [hi] at hinvoked
    refine ⟨[_], by rw [ha]; exact hinvoked, List.forall_mem_singleton.mpr fun id' hused ↦ ?_⟩
    obtain rfl := Option.some.inj hused
    exact ⟨answer, rfl, rfl⟩
  | @broken _ c c' w w' id answer ha hid hi =>
    obtain ⟨hid', hinvoked⟩ := EnvironmentCache.invoke_of_live hid t.entryPoint t.payload w
    rw [hi] at hid' hinvoked
    obtain ⟨gone, hdiscarded⟩ := EnvironmentCache.discard_of_live hid' w'
    refine ⟨[_, _], by rw [ha]; exact hdiscarded.trans (congrArg _ hinvoked), ?_⟩
    refine List.forall_mem_cons.mpr ⟨nofun, List.forall_mem_singleton.mpr fun id' hused ↦ ?_⟩
    obtain rfl := Option.some.inj hused
    exact ⟨answer, rfl, rfl⟩

theorem Makes.asks {t : GuestTask} {o : TaskOutcome} (h : b.Makes t o b') (hb : b.Orderly)
    {events : List Event} (hevents : b'.world.trace = events ++ b.world.trace) :
    ∀ e ∈ events, ∀ id, e.used? = some id → .created id t.role ∈ b'.world.trace ∧ t.Asks e := by
  obtain ⟨loads, hacq⟩ := (b.caches.get t.role).acquires t.key t.classpath b.world
  have hown := hacq.own (hb.kept t.role)
  obtain ⟨later, htrace, hlater⟩ := h.later
  rw [hacq.trace] at hown
  rw [hacq.trace, ← List.append_assoc] at htrace
  obtain rfl := List.append_cancel_right (hevents.symm.trans htrace)
  intro e he id hused
  rcases List.mem_append.mp he with he | he
  · obtain ⟨answer, rfl, rfl⟩ := hlater e he id hused
    exact ⟨h.created hb, rfl, rfl⟩
  · have hcreated := hown e he id (Event.environment?_of_used? hused)
    obtain ⟨location, hlocation, answer, rfl⟩ := hacq.asks e he id hused
    rw [hevents, List.append_assoc]
    exact ⟨List.mem_append_right _ hcreated, hlocation⟩

theorem discard_unused (b : Bench σ) (role : Role) :
    ∃ events, (b.perform (.discard role)).world.trace = events ++ b.world.trace ∧
      ∀ e ∈ events, e.used? = none := by
  cases hid : (b.caches.get role).environmentId? with
  | none =>
    have hc : (b.caches.get role).entry = none := Option.map_eq_none_iff.mp hid
    exact ⟨[], by simp [perform, on, EnvironmentCache.discard, hc], by simp⟩
  | some id =>
    obtain ⟨answer, htrace⟩ := EnvironmentCache.discard_of_live hid b.world
    exact ⟨[_], htrace, by simp [Event.used?]⟩

/-- What was done from one bench to the other has to do with the cache of a role, and with
environments of that role. -/
structure Isolates (b : Bench σ) (role : Role) (b' : Bench σ) : Prop where
  others : ∀ other, other ≠ role → b'.caches.get other = b.caches.get other
  own : ∃ events, b'.world.trace = events ++ b.world.trace ∧
    ∀ e ∈ events, ∀ id, e.environment? = some id → .created id role ∈ b'.world.trace

namespace Isolates

variable {b₁ : Bench σ} {role : Role}

omit [Guests σ] in
theorem refl (b : Bench σ) (role : Role) : b.Isolates role b where
  others _ _ := rfl
  own := ⟨[], rfl, List.forall_mem_nil _⟩

omit [Guests σ] in
theorem trans (h : b.Isolates role b₁) (h' : b₁.Isolates role b') : b.Isolates role b' where
  others other hother := (h'.others other hother).trans (h.others other hother)
  own := by
    obtain ⟨first, hfirst, hown⟩ := h.own
    obtain ⟨second, hsecond, hown'⟩ := h'.own
    refine ⟨second ++ first, by rw [hsecond, hfirst, List.append_assoc],
      List.forall_mem_append.mpr ⟨hown', ?_⟩⟩
    intro e he id hid
    rw [hsecond]
    exact List.mem_append_right _ (hown e he id hid)

end Isolates

theorem Orderly.step_isolates (hb : b.Orderly) (s : CacheStep) : b.Isolates s.role (b.step s) where
  others _ hrole := b.step_other hrole
  own := EnvironmentCache.call_own (hb.kept s.role) s.call

theorem Orderly.through_isolates (hb : b.Orderly) {role : Role} {steps : List CacheStep}
    (h : ∀ s ∈ steps, s.role = role) : b.Isolates role (b.through steps) := by
  induction steps generalizing b with
  | nil => exact .refl b role
  | cons s steps ih =>
    obtain ⟨rfl, hrest⟩ := List.forall_mem_cons.mp h
    exact (hb.step_isolates s).trans (ih (hb.step s) hrest)

theorem perform_steps (b : Bench σ) (m : Move) :
    ∃ steps, b.perform m.action = b.through steps ∧ ∀ s ∈ steps, s.role = m.role := by
  cases m with
  | restart | giveUp | reload => exact ⟨[⟨.compile, .discard⟩], rfl, by simp [Move.role]⟩
  | attempt t =>
    have hattempts :=
      (b.caches.get t.role).attempts t.key t.classpath t.entryPoint t.payload b.world
    simp only [Move.action, perform, on]
    generalize (b.caches.get t.role).attempt t.key t.classpath t.entryPoint t.payload b.world =
      out at hattempts ⊢
    let acquire : CacheStep := ⟨t.role, .acquire t.key t.classpath⟩
    let invoke : CacheStep := ⟨t.role, .invoke t.entryPoint t.payload⟩
    cases hattempts with
    | notAcquired ha =>
      refine ⟨[acquire], ?_, by simp [acquire, Move.role]⟩
      simp [acquire, through, step, on, EnvironmentCache.call, ha]
    | invoked ha hi =>
      refine ⟨[acquire, invoke], ?_, by simp [acquire, invoke, Move.role]⟩
      simp [acquire, invoke, through, step, on, EnvironmentCache.call, ha, hi]
    | broken ha hi =>
      refine ⟨[acquire, invoke, ⟨t.role, .discard⟩], ?_, by simp [acquire, invoke, Move.role]⟩
      simp [acquire, invoke, through, step, on, EnvironmentCache.call, ha, hi]

theorem Orderly.perform_isolates (hb : b.Orderly) (m : Move) :
    b.Isolates m.role (b.perform m.action) := by
  obtain ⟨steps, hsteps, hrole⟩ := b.perform_steps m
  rw [hsteps]
  exact hb.through_isolates hrole

theorem Follows.asks {as : List Attempt} (h : b.Follows as b') (hb : b.Orderly)
    {events : List Event} (hevents : b'.world.trace = events ++ b.world.trace) :
    ∀ e ∈ events, ∀ id, e.used? = some id → ∃ a ∈ as, .created id a.task.role ∈ b'.world.trace ∧
      a.task.Asks e := by
  induction h generalizing events with
  | done b =>
    obtain rfl : events = [] := by simpa using hevents
    simp
  | @attempt b b₁ b₂ a as hm hrest ih =>
    obtain ⟨first, hfirst⟩ := hm.follows.suffix
    obtain ⟨later, hlater⟩ := hrest.suffix
    obtain rfl : events = later ++ first := by
      rw [← hlater, ← hfirst, ← List.append_assoc] at hevents
      exact (List.append_cancel_right hevents).symm
    intro e he id hused
    rcases List.mem_append.mp he with he | he
    · obtain ⟨a', ha', hasked⟩ := ih (hm.orderly hb) hlater.symm e he id hused
      exact ⟨a', List.mem_cons_of_mem _ ha', hasked⟩
    · obtain ⟨hcreated, hasks⟩ := hm.asks hb hfirst.symm e he id hused
      exact ⟨a, List.mem_cons_self, hrest.suffix.mem hcreated, hasks⟩
  | @discard b b₂ as role hrest ih =>
    obtain ⟨first, hfirst, hunused⟩ := b.discard_unused role
    obtain ⟨later, hlater⟩ := hrest.suffix
    obtain rfl : events = later ++ first := by
      rw [← hlater, hfirst, ← List.append_assoc] at hevents
      exact (List.append_cancel_right hevents).symm
    intro e he id hused
    rcases List.mem_append.mp he with he | he
    · exact ih (hb.perform _) hlater.symm e he id hused
    · rw [hunused e he] at hused
      cases hused

end Bench

variable {p : Policy} {request : WorkRequest} {older earlier : List Event} {e : Event}

omit [Guests σ] in
theorem WorkRequest.payload_of_accepted {payload : String} {r : CompileRequest}
    (h : request.accepted? = some (payload, r)) : request.payload? = some payload := by
  obtain ⟨payload', hpayload, hr⟩ := Option.bind_eq_some_iff.mp h
  obtain ⟨_, -, heq⟩ := Option.map_eq_some_iff.mp hr
  cases heq
  exact hpayload

namespace GuestTask.Asks

omit [Guests σ] in
theorem tooling {entryPoint payload : String} (h : (p.toolingTask entryPoint payload).Asks e)
    (hentry : entryPoint = p.settings.entryPoints.plan ∨
      p.settings.entryPoints.package? = some entryPoint)
    (hpayload : request.payload? = some payload) : p.Asks request older earlier .tooling e := by
  cases e with
  | located => exact .loadTooling h
  | invoked =>
    obtain ⟨rfl, rfl⟩ := h
    exact .runTooling hentry hpayload
  | _ => cases h

omit [Guests σ] in
theorem compile {r : CompileRequest} {payload script output : String} {planner : EnvironmentId}
    (h : (p.compileTask request r script).Asks e)
    (haccepted : request.accepted? = some (payload, r))
    (hplanner : .created planner .tooling ∈ older)
    (hplanned : .invoked planner p.settings.entryPoints.plan payload
      (.ok ⟨.string script, output⟩) ∈ earlier) :
    p.Asks request older earlier .compile e := by
  cases e with
  | located => exact .loadCompile haccepted h
  | invoked =>
    obtain ⟨rfl, rfl⟩ := h
    exact .runCompile (request.payload_of_accepted haccepted) hplanner hplanned
  | _ => cases h

end GuestTask.Asks

namespace Policy.Processes

variable {b b' : Bench σ} {c : Course} {result : Option (Except DispatchError Signal)}

theorem after_plan (h : p.Processes request b c result b') :
    ∃ b₁, b.Follows c.plan.toList b₁ ∧ b₁.Follows (c.compiles ++ c.package.toList) b' := by
  cases h with
  | rejected => exact ⟨b, .done b, .done b⟩
  | unplanned _ hm => exact ⟨b', hm.follows, .done b'⟩
  | uncompiled _ hm _ hc => exact ⟨_, hm.follows, by simpa using hc.follows⟩
  | @compiled _ _ _ _ _ _ _ _ _ _ b₃ _ hm _ hc hp =>
    refine ⟨_, hm.follows, ?_⟩
    have hrest := hc.follows.append hp.follows
    split
    · have hdiscarded := hrest.append (.discard .compile (.done _))
      rwa [List.append_nil] at hdiscarded
    · exact hrest

theorem planned (h : p.Processes request b c result b') {b₁ : Bench σ}
    (hplan : b.Follows c.plan.toList b₁) (hb : b.Orderly) {first : List Event}
    (hfirst : b₁.world.trace = first ++ b.world.trace) {payload script : String}
    {r : CompileRequest} (haccepted : request.accepted? = some (payload, r))
    (hscript : c.script? = some script) :
    ∃ planner output, .created planner .tooling ∈ b₁.world.trace ∧
      .invoked planner p.settings.entryPoints.plan payload (.ok ⟨.string script, output⟩) ∈
        first := by
  have htask := h.lawful.plan
  rw [haccepted, Option.map_some, Option.map_eq_some_iff] at htask
  obtain ⟨⟨t, o⟩, hc, rfl⟩ := htask
  simp only [Course.script?, hc, Option.bind_some] at hscript
  rcases o with e | ⟨planner, e | ⟨value, output⟩⟩
  · cases hscript
  · cases hscript
  · cases value with
    | string script' =>
      cases hscript
      rw [hc] at hplan
      obtain ⟨events, htrace, hcalls⟩ := hplan.calls
      obtain rfl := List.append_cancel_right (hfirst.symm.trans htrace)
      have hmem : Event.invoked planner p.settings.entryPoints.plan payload
          (.ok ⟨.string script, output⟩) ∈ first.reverse.filter Event.isCall := by
        rw [hcalls]
        exact List.mem_singleton_self _
      have hmem' := List.mem_reverse.mp (List.mem_filter.mp hmem).1
      obtain ⟨a, ha, hcreated, -⟩ := hplan.asks hb hfirst _ hmem' planner rfl
      obtain rfl := List.mem_singleton.mp ha
      exact ⟨planner, output, hcreated, hmem'⟩
    | _ => cases hscript

theorem asks (h : p.Processes request b c result b') (hb : b.Orderly) {newer : List Event}
    {id : EnvironmentId} (htrace : b'.world.trace = newer ++ e :: (earlier ++ b.world.trace))
    (hused : e.used? = some id) :
    ∃ role, .created id role ∈ b'.world.trace ∧
      p.Asks request (earlier ++ b.world.trace) earlier role e := by
  obtain ⟨b₁, hplan, hrest⟩ := h.after_plan
  obtain ⟨first, hfirst⟩ := hplan.suffix
  obtain ⟨later, hlater⟩ := hrest.suffix
  rcases Event.split_cases (htrace.symm.trans hlater.symm) with ⟨mid, hmid, rfl⟩ | ⟨mid, rfl, hmid⟩
  · rw [← hfirst, ← List.append_assoc] at hmid
    obtain rfl := List.append_cancel_right hmid
    obtain ⟨a, ha, hcreated, hasks⟩ :=
      hrest.asks (hplan.orderly hb) hlater.symm e (by simp) id hused
    refine ⟨a.task.role, hcreated, ?_⟩
    rcases List.mem_append.mp ha with ha | ha
    · obtain ⟨payload, r, script, haccepted, hscript, htask⟩ := h.lawful.compiles a ha
      obtain ⟨planner, output, hplanner, hplanned⟩ :=
        h.planned hplan hb hfirst.symm haccepted hscript
      rw [← hfirst] at hplanner
      rw [htask] at hasks ⊢
      exact hasks.compile haccepted (List.append_assoc mid _ _ ▸ List.mem_append_right mid hplanner)
        (List.mem_append_right mid hplanned)
    · have hpackage := Option.mem_toList.mp ha
      obtain ⟨payload, r, haccepted, htask⟩ := h.lawful.package a hpackage
      have henabled := (h.lawful.package_iff.mp (Option.isSome_of_mem hpackage)).2
      rw [htask] at hasks ⊢
      exact hasks.tooling (.inr (by simp [EntryPoints.package?, henabled]))
        (request.payload_of_accepted haccepted)
  · rw [← hfirst] at hmid
    have hevents : first = mid ++ e :: earlier := by
      rw [← List.cons_append, ← List.append_assoc] at hmid
      exact List.append_cancel_right hmid
    obtain ⟨a, ha, hcreated, hasks⟩ := hplan.asks hb hfirst.symm e (by simp [hevents]) id hused
    have htask := h.lawful.plan
    rw [Option.mem_toList.mp ha, Option.map_some] at htask
    obtain ⟨⟨payload, r⟩, haccepted, htask⟩ := Option.map_eq_some_iff.mp htask.symm
    simp only at htask
    refine ⟨a.task.role, hrest.suffix.mem hcreated, ?_⟩
    rw [← htask] at hasks ⊢
    exact hasks.tooling (.inl rfl) (request.payload_of_accepted haccepted)

theorem compile_cache (h : p.Processes request b c result b') (hscript : c.script? = none) :
    b'.caches.get .compile = b.caches.get .compile := by
  cases h with
  | rejected => rfl
  | unplanned _ hm => exact hm.other nofun
  | uncompiled _ _ hscript' | compiled _ _ hscript' =>
    rw [Course.script?, Option.bind_some, hscript'] at hscript
    cases hscript

end Policy.Processes

namespace Dispatcher

theorem shutdown_unused (d : Dispatcher σ) :
    ∃ events, d.shutdown.2.world.trace = events ++ d.world.trace ∧
      ∀ e ∈ events, e.used? = none := by
  obtain ⟨first, hfirst, hfirst'⟩ := d.bench.discard_unused .tooling
  obtain ⟨second, hsecond, hsecond'⟩ :=
    (d.bench.perform (.discard .tooling)).discard_unused .compile
  refine ⟨second ++ first, ?_, List.forall_mem_append.mpr ⟨hsecond', hfirst'⟩⟩
  rw [List.append_assoc, ← show _ = first ++ d.world.trace from hfirst]
  exact hsecond

/-- An environment is asked for something for a request: while that is handled, and the environment
is alive in a role that may be asked for it. -/
def AskedForRequest (policy : Policy) (guests : σ) (calls : List DispatcherCall)
    (older : List Event) (e : Event) (id : EnvironmentId) : Prop :=
  ∃ before request after earlier role, calls = before ++ .handle request :: after ∧
    older = earlier ++ ((start policy guests).after before).world.trace ∧
    e :: older <:+ ((start policy guests).after (before ++ [.handle request])).world.trace ∧
    .created id role ∈ older ∧ (∀ answer, .discarded id answer ∉ older) ∧
    policy.Asks request older earlier role e

theorem AskedForRequest.snoc {policy : Policy} {guests : σ} {calls : List DispatcherCall}
    {id : EnvironmentId} (h : AskedForRequest policy guests calls older e id)
    (call : DispatcherCall) : AskedForRequest policy guests (calls ++ [call]) older e id := by
  obtain ⟨before, request, after, earlier, role, rfl, hrest⟩ := h
  exact ⟨before, request, after ++ [call], earlier, role, by simp, hrest⟩

theorem asked_for_request (policy : Policy) (guests : σ) (calls : List DispatcherCall)
    {newer : List Event} {id : EnvironmentId}
    (htrace : ((start policy guests).after calls).world.trace = newer ++ e :: older)
    (hused : e.used? = some id) : AskedForRequest policy guests calls older e id := by
  -- on the calls, the last one split off: the event is part of it, or stood there before
  induction calls using List.reverseRecOn generalizing newer with
  | nil => simp [after, start] at htrace
  | append_singleton calls call ih =>
    have hlives : Lives ((start policy guests).after (calls ++ [call])).world.trace _ :=
      (reachable_after policy guests (calls ++ [call])).orderly.world.lives
    have hcall := htrace
    rw [after_snoc] at hcall
    cases call with
    | shutdown =>
      obtain ⟨events, hevents, hunused⟩ := ((start policy guests).after calls).shutdown_unused
      rcases Event.split_cases (hcall.symm.trans hevents) with ⟨mid, -, rfl⟩ | ⟨mid, -, hmid⟩
      · have hnone := hunused e (by simp)
        rw [hused] at hnone
        cases hnone
      · exact (ih hmid).snoc .shutdown
    | handle request =>
      have horderly := (reachable_after policy guests calls).orderly
      obtain ⟨c, result, h, -⟩ := ((start policy guests).after calls).handle_processes request
      rw [policy_after] at h
      obtain ⟨events, hevents⟩ := h.follows.suffix
      rcases Event.split_cases (hcall.symm.trans hevents.symm)
        with ⟨earlier, rfl, -⟩ | ⟨mid, -, hmid⟩
      · obtain ⟨role, hcreated, hasks⟩ := h.asks horderly hcall hused
        have hcreated' :
            .created id role ∈
              ((start policy guests).after (calls ++ [.handle request])).world.trace := by
          rw [after_snoc]
          exact hcreated
        rw [htrace] at hlives hcreated'
        obtain ⟨hborn, halive⟩ := hlives.alive_of_used hused hcreated'
        exact ⟨calls, request, [], earlier, role, rfl, rfl, ⟨newer, htrace.symm⟩, hborn, halive,
          hasks⟩
      · exact (ih hmid).snoc (.handle request)

omit [Guests σ] in
theorem script?_of_calls {c : Course}
    (h : ((c.plan.toList ++ c.package.toList).filterMap Attempt.call?).head?.bind Event.script? =
      none) :
    c.script? = none := by
  rcases hplan : c.plan with _ | ⟨t, e | ⟨id, answer⟩⟩
  · rw [Course.script?, hplan, Option.bind_none]
  · rw [Course.script?, hplan]
    rfl
  · rw [hplan] at h
    rw [Course.script?, hplan, ← h]
    cases answer <;> rfl

/-- In every run of a dispatcher, whatever guests do: environments are asked for nothing but what a
request takes of their role; what is done for a request is to plan, to compile, to package and to
discard compile environments, each of which leaves the cache and the environments of the other role
as they are, and so do both parts of a shutdown; and a request for which no script is planned leaves
the compile cache as it is. -/
theorem roles_isolated (policy : Policy) (guests : σ) (calls : List DispatcherCall) :
    let d := (start policy guests).after calls
    (∀ newer e older id, d.world.trace = newer ++ e :: older → e.used? = some id →
      AskedForRequest policy guests calls older e id) ∧
    (∀ request, ∃ c : Course, c.Lawful policy request ∧
      d.bench.Follows c.steps (d.handle request).2.bench ∧
      (d.handle request).2.bench = d.bench.after (c.moves.map Move.action) ∧
      ∀ before m after, c.moves = before ++ m :: after →
        let b := d.bench.after (before.map Move.action)
        b.Isolates m.role (b.perform m.action)) ∧
    (d.bench.Isolates .tooling (d.bench.perform (.discard .tooling)) ∧
      (d.bench.perform (.discard .tooling)).Isolates .compile d.shutdown.2.bench) ∧
    ∀ request, (d.world.calls (d.handle request).2.world .tooling).head?.bind Event.script? = none →
      (d.handle request).2.caches.get .compile = d.caches.get .compile := by
  intro d
  have horderly : d.bench.Orderly := (reachable_after policy guests calls).orderly
  refine ⟨fun newer e older id ↦ asked_for_request policy guests calls, fun request ↦ ?_, ?_,
    fun request hunplanned ↦ ?_⟩
  · obtain ⟨c, hc, hfollows, hmoves⟩ := d.handle_moves request
    rw [policy_after] at hc
    exact ⟨c, hc, hfollows, hmoves, fun before m after _ ↦ (horderly.after _).perform_isolates m⟩
  · exact ⟨horderly.step_isolates ⟨.tooling, .discard⟩,
      (horderly.perform _).step_isolates ⟨.compile, .discard⟩⟩
  · obtain ⟨c, result, h, -⟩ := d.handle_processes request
    have hcalls : d.world.calls (d.handle request).2.world .tooling = _ := h.calls_tooling horderly
    rw [hcalls] at hunplanned
    exact h.compile_cache (script?_of_calls hunplanned)

theorem script_run_for_request : ∃ e older, e.isCall ∧ e.used? = some ⟨3⟩ ∧
    AskedForRequest { settings := {} } restartingGuests [.handle (requestFor "[\"a.jar\"]")] older e
      ⟨3⟩ := by
  have hrun : ∃ e ∈ ((start { settings := {} } restartingGuests).after
      [.handle (requestFor "[\"a.jar\"]")]).world.trace, e.isCall ∧ e.used? = some ⟨3⟩ := by
    decide +kernel
  obtain ⟨e, he, hcall, hused⟩ := hrun
  obtain ⟨newer, older, htrace⟩ := List.append_of_mem he
  have hisolated :=
    roles_isolated { settings := {} } restartingGuests [.handle (requestFor "[\"a.jar\"]")]
  exact ⟨e, older, hcall, hused, hisolated.1 newer e older ⟨3⟩ htrace hused⟩

end Dispatcher

end CompileWorker
