import CompileWorker.Proofs.CacheHistory
import CompileWorker.Proofs.Course

namespace CompileWorker

namespace Event

def isCall : Event → Bool
  | .invoked _ _ _ _ => true
  | _ => false

theorem not_call_of_unused {e : Event} (h : e.used? = none) : ¬ e.isCall := by
  cases e <;> simp_all [isCall, used?]

end Event

def Attempt.call? (a : Attempt) : Option Event :=
  match a.outcome with
  | .notReady _ => none
  | .ran id answer => some (.invoked id a.task.entryPoint a.task.payload answer)

namespace Course

/-- The script was planned, the compiler's last signal lets its result stand, and packaging did not
fail. -/
structure Succeeds (c : Course) : Prop where
  planned : c.script?.isSome
  compiled : c.signal? = some .ok ∨ c.signal? = some .okThenInvalidate
  packaged : ∀ a ∈ c.package, a.outcome.invocation?.isSome

structure Lawful (c : Course) (p : Policy) (request : WorkRequest) : Prop where
  plan : c.plan.map (·.task) =
    request.accepted?.map fun (payload, _) ↦ p.toolingTask p.settings.entryPoints.plan payload
  compiles_iff : c.compiles ≠ [] ↔ c.script?.isSome
  compiles : ∀ a ∈ c.compiles, ∃ payload r script, request.accepted? = some (payload, r) ∧
    c.script? = some script ∧
    a.task = p.compileTask request r script
  again : ∀ a ∈ c.compiles.dropLast, a.outcome.signal? = some .retry
  package_iff : c.package.isSome ↔
    (c.signal? = some .ok ∨ c.signal? = some .okThenInvalidate) ∧
    p.settings.entryPoints.package ≠ ""
  package : ∀ a ∈ c.package, ∃ payload r, request.accepted? = some (payload, r) ∧
    a.task = p.toolingTask p.settings.entryPoints.package payload

end Course

variable {σ : Type} [Guests σ]

omit [Guests σ] in
theorem Environment.Grows.not_call {env env' : Environment} {w w' : World σ} {events : List Event}
    (h : env.Grows w env' w' events) : ∀ e ∈ events, ¬ e.isCall := by
  intro e he
  obtain ⟨location, answer, rfl⟩ := h.located e he
  exact Bool.false_ne_true

theorem EnvironmentCache.Acquires.not_call {c : EnvironmentCache} {key : DigestMap}
    {classpath : List String} {w : World σ}
    {out : Except CacheError Acquisition × EnvironmentCache × World σ} {events : List Event}
    (h : c.Acquires key classpath w out events) : ∀ e ∈ events, ¬ e.isCall := by
  have hunused : ∀ events : List Event, (∀ e ∈ events, e.used? = none) → ∀ e ∈ events, ¬ e.isCall :=
    fun events hevents e he ↦ Event.not_call_of_unused (hevents e he)
  cases h with
  | reused _ _ _ hg | stuck _ _ _ hg => exact hg.not_call
  | built hv _ _ hg => exact List.forall_mem_append.mpr ⟨hg.not_call, hunused _ hv.created_unused⟩
  | notCreated hv => exact hunused _ (List.forall_mem_cons.mpr ⟨rfl, hv.unused⟩)
  | unloadable hv _ _ hg =>
    refine List.forall_mem_cons.mpr ⟨Bool.false_ne_true, ?_⟩
    rw [← List.cons_append]
    exact List.forall_mem_append.mpr ⟨hg.not_call, hunused _ hv.created_unused⟩

theorem EnvironmentCache.discard_trace (c : EnvironmentCache) (w : World σ) :
    ∃ events, (c.discard w).2.2.trace = events ++ w.trace ∧ ∀ e ∈ events, ¬ e.isCall := by
  unfold EnvironmentCache.discard
  cases c.entry with
  | none => exact ⟨[], rfl, by simp⟩
  | some entry => exact ⟨[_], entry.environment.discard_trace w, by simp [Event.isCall]⟩

namespace Bench

variable {b b' : Bench σ} {t : GuestTask} {o : TaskOutcome}

theorem discard_trace (b : Bench σ) (role : Role) :
    ∃ events, (b.perform (.discard role)).world.trace = events ++ b.world.trace ∧
      ∀ e ∈ events, ¬ e.isCall :=
  (b.caches.get role).discard_trace b.world

theorem Makes.acquired {id : EnvironmentId} {answer : Except EnvironmentError Invocation}
    (h : b.Makes t (.ran id answer) b') :
    ∃ acquisition c w after,
      (b.caches.get t.role).acquire t.key t.classpath b.world = (.ok acquisition, c, w) ∧
        c.environmentId? = some id ∧
        b'.world.trace = after ++ .invoked id t.entryPoint t.payload answer :: w.trace ∧
        (∀ e ∈ after, ¬ e.isCall) ∧ (isHeard answer → after = []) := by
  cases h with
  | @heard acquisition c c' w w' _ _ ha hid hi =>
    have hinvoked := (EnvironmentCache.invoke_of_live hid t.entryPoint t.payload w).2
    rw [hi] at hinvoked
    exact ⟨acquisition, c, w, [], ha, hid, hinvoked, by simp, fun _ ↦ rfl⟩
  | @broken acquisition c c' w w' _ _ ha hid hi hheard =>
    obtain ⟨hid', hinvoked⟩ := EnvironmentCache.invoke_of_live hid t.entryPoint t.payload w
    rw [hi] at hid' hinvoked
    obtain ⟨gone, hdiscarded⟩ := EnvironmentCache.discard_of_live hid' w'
    rw [hinvoked] at hdiscarded
    exact ⟨acquisition, c, w, [_], ha, hid, hdiscarded, by simp [Event.isCall],
      fun h ↦ absurd h hheard⟩

theorem Makes.calls (h : b.Makes t o b') :
    ∃ events, b'.world.trace = events ++ b.world.trace ∧
      events.reverse.filter Event.isCall = (Attempt.call? ⟨t, o⟩).toList := by
  have hquiet : ∀ events : List Event, (∀ e ∈ events, ¬ e.isCall) →
      events.reverse.filter Event.isCall = [] :=
    fun events hevents ↦ List.filter_eq_nil_iff.mpr fun e he ↦ hevents e (List.mem_reverse.mp he)
  obtain ⟨events, hacq⟩ := (b.caches.get t.role).acquires t.key t.classpath b.world
  cases o with
  | notReady e =>
    cases h with
    | notReady ha =>
      rw [ha] at hacq
      exact ⟨events, hacq.trace, hquiet events hacq.not_call⟩
  | ran id answer =>
    obtain ⟨acquisition, c, w, after, ha, hid, htrace, hafter, -⟩ := h.acquired
    rw [ha] at hacq
    have hacquired : w.trace = events ++ b.world.trace := hacq.trace
    refine ⟨after ++ .invoked id t.entryPoint t.payload answer :: events, by simp [htrace,
      hacquired], ?_⟩
    rw [List.reverse_append, List.filter_append, List.reverse_cons, List.filter_append,
      hquiet events hacq.not_call, hquiet after hafter]
    rfl

theorem Follows.gather {α : Type} {f : Event → Option α} {g : Attempt → Option α}
    {as : List Attempt} (hmake : ∀ (b b' : Bench σ) (a : Attempt), b.Makes a.task a.outcome b' →
      ∃ events, b'.world.trace = events ++ b.world.trace ∧
        events.reverse.filterMap f = (g a).toList)
    (hdiscard : ∀ (b : Bench σ) (role : Role), ∃ events,
      (b.perform (.discard role)).world.trace = events ++ b.world.trace ∧
      events.reverse.filterMap f = [])
    (h : b.Follows as b') :
    ∃ events, b'.world.trace = events ++ b.world.trace ∧
      events.reverse.filterMap f = as.filterMap g := by
  induction h with
  | done b => exact ⟨[], rfl, rfl⟩
  | @attempt b b₁ b₂ a as hm _ ih =>
    obtain ⟨first, hfirst, hown⟩ := hmake b b₁ a hm
    obtain ⟨rest, hrest, hothers⟩ := ih
    refine ⟨rest ++ first, by rw [hrest, hfirst, List.append_assoc], ?_⟩
    rw [List.reverse_append, List.filterMap_append, hothers, hown, List.filterMap_cons]
    cases g a <;> rfl
  | @discard b b₂ as role _ ih =>
    obtain ⟨first, hfirst, hnone⟩ := hdiscard b role
    obtain ⟨rest, hrest, hothers⟩ := ih
    refine ⟨rest ++ first, by rw [hrest, hfirst, List.append_assoc], ?_⟩
    rw [List.reverse_append, List.filterMap_append, hothers, hnone, List.nil_append]

theorem Follows.calls {as : List Attempt} (h : b.Follows as b') :
    ∃ events, b'.world.trace = events ++ b.world.trace ∧
      events.reverse.filter Event.isCall = as.filterMap Attempt.call? := by
  rw [← List.filterMap_eq_filter]
  refine h.gather (fun b b' a hm ↦ ?_) fun b role ↦ ?_
  · rw [List.filterMap_eq_filter]
    exact hm.calls
  · obtain ⟨events, htrace, hquiet⟩ := b.discard_trace role
    refine ⟨events, htrace, ?_⟩
    rw [List.filterMap_eq_filter]
    exact List.filter_eq_nil_iff.mpr fun e he ↦ hquiet e (List.mem_reverse.mp he)

theorem Follows.append {b₁ : Bench σ} {as as' : List Attempt} (h : b.Follows as b₁)
    (h' : b₁.Follows as' b') : b.Follows (as ++ as') b' := by
  induction h with
  | done => exact h'
  | attempt hm _ ih => exact .attempt hm (ih h')
  | discard role _ ih => exact .discard role (ih h')

theorem Makes.follows (h : b.Makes t o b') : b.Follows [⟨t, o⟩] b' := .attempt h (.done b')

theorem Restarts.follows {as : List Attempt} (h : b.Restarts t as b') : b.Follows as b' := by
  induction h with
  | done b => exact .done b
  | retry hm _ _ ih => exact .attempt hm (.discard .compile ih)

theorem Makes.other {role : Role} (h : b.Makes t o b') (hrole : role ≠ t.role) :
    b'.caches.get role = b.caches.get role := by
  cases h <;> simp [hrole]

theorem Makes.slot {id : EnvironmentId} {answer : Except EnvironmentError Invocation}
    (h : b.Makes t (.ran id answer) b') :
    (b'.caches.get t.role).environmentId? = if isHeard answer then some id else none := by
  cases h with
  | @heard acquisition c c' w _ _ _ ha hid hi hheard =>
    have hid' := (EnvironmentCache.invoke_of_live hid t.entryPoint t.payload w).1
    rw [hi] at hid'
    simpa [hheard] using hid'
  | @broken acquisition c c' w w' _ _ ha hid hi hheard =>
    simp [hheard, EnvironmentCache.environmentId?, c'.discard_entry w']

theorem discard_slot (b : Bench σ) (role : Role) :
    ((b.perform (.discard role)).caches.get role).environmentId? = none := by
  simp [perform, on, EnvironmentCache.environmentId?, EnvironmentCache.discard_entry]

theorem Restarts.slot {as : List Attempt} (h : b.Restarts t as b') (hne : as ≠ []) :
    (b'.caches.get .compile).environmentId? = none := by
  induction h with
  | done => exact absurd rfl hne
  | @retry b b₁ b₂ o as hm ho hrest ih =>
    cases hrest with
    | done => exact b₁.discard_slot .compile
    | retry => exact ih (List.cons_ne_nil _ _)

theorem Restarts.attempt_of_mem {as : List Attempt} (h : b.Restarts t as b') :
    ∀ a ∈ as, a.task = t ∧ a.outcome.signal? = some .retry := by
  induction h with
  | done => simp
  | retry _ ho _ ih => exact List.forall_mem_cons.mpr ⟨⟨rfl, ho⟩, ih⟩

end Bench

namespace TaskOutcome

theorem kept?_eq {id : EnvironmentId} {answer : Except EnvironmentError Invocation}
    (hretry : (ran id answer).signal? ≠ some .retry)
    (hreload : (ran id answer).signal? ≠ some .okThenInvalidate) :
    (ran id answer).kept? = if isHeard answer then some id else none := by
  cases answer with
  | error e => cases e <;> rfl
  | ok invocation =>
    simp only [signal?, verdict] at hretry hreload
    rcases hv : Signal.ofValue invocation.value with e | signal
    · simp [kept?, hv, isHeard]
    · rw [hv] at hretry hreload
      cases signal with
      | ok => simp [kept?, hv, isHeard]
      | okThenInvalidate => exact absurd rfl hreload
      | retry => exact absurd rfl hretry

theorem kept?_eq_none {o : TaskOutcome} {signal : Signal} (h : o.signal? = some signal)
    (hok : signal ≠ .ok) : o.kept? = none := by
  rcases o with e | ⟨id, e | invocation⟩
  · rfl
  · cases h
  · simp only [signal?, verdict] at h
    rcases hv : Signal.ofValue invocation.value with e | signal'
    · rw [hv] at h
      cases h
    · rw [hv] at h
      cases h
      cases signal with
      | ok => exact absurd rfl hok
      | okThenInvalidate | retry => simp [kept?, hv]

theorem verdict_eq_ok_iff {o : TaskOutcome} {signal : Signal} :
    o.verdict = .ok signal ↔ o.signal? = some signal := by
  rw [signal?]
  cases o.verdict <;> simp [Except.toOption]

theorem result_isOk (o : TaskOutcome) (role : Role) :
    (o.result role).isOk = o.invocation?.isSome := by
  rcases o with e | ⟨id, e | invocation⟩ <;> rfl

end TaskOutcome

namespace Policy

omit [Guests σ] in
theorem exhausted_ne_ok (p : Policy) (signal : Signal) : p.exhausted ≠ some (.ok signal) := by
  unfold exhausted
  split <;> nofun

variable {p : Policy} {request : WorkRequest} {t : GuestTask} {restarts : Nat} {b b' : Bench σ}

namespace Compiles

variable {as : List Attempt} {r : Option (Except DispatchError Signal)}

theorem follows (h : p.Compiles t restarts b as r b') : b.Follows as b' := by
  cases h with
  | exhausted h => exact h.follows
  | settled h _ hm => exact h.follows.append hm.follows

theorem ne_nil (h : p.Compiles t restarts b as r b') : as ≠ [] := by
  cases h with
  | exhausted _ hlen =>
    rintro rfl
    cases hlen
  | settled => simp

theorem task_of_mem (h : p.Compiles t restarts b as r b') : ∀ a ∈ as, a.task = t := by
  cases h with
  | exhausted h => exact fun a ha ↦ (h.attempt_of_mem a ha).1
  | settled h =>
    exact List.forall_mem_append.mpr ⟨fun a ha ↦ (h.attempt_of_mem a ha).1, by simp⟩

theorem again (h : p.Compiles t restarts b as r b') :
    ∀ a ∈ as.dropLast, a.outcome.signal? = some .retry := by
  cases h with
  | exhausted h => exact fun a ha ↦ (h.attempt_of_mem a (List.dropLast_subset as ha)).2
  | settled h =>
    rw [List.dropLast_concat]
    exact fun a ha ↦ (h.attempt_of_mem a ha).2

/-- The last signal is what compiling comes to, unless it asks for one restart too many. -/
theorem eq_ok_iff (h : p.Compiles t restarts b as r b') (signal : Signal) :
    r = some (.ok signal) ↔ as.getLast?.bind (·.outcome.signal?) = some signal ∧
    signal ≠ .retry := by
  cases h with
  | exhausted h hlen =>
    have hne : as ≠ [] := by
      rintro rfl
      cases hlen
    have hlast := (h.attempt_of_mem _ (List.getLast_mem hne)).2
    rw [List.getLast?_eq_some_getLast hne, Option.bind_some, hlast]
    exact iff_of_false (p.exhausted_ne_ok signal) fun ⟨hretry, hne⟩ ↦
      hne (Option.some.inj hretry).symm
  | @settled _ o _ _ h _ hm ho =>
    rw [List.getLast?_concat, Option.bind_some, Option.some_inj, TaskOutcome.verdict_eq_ok_iff]
    refine ⟨fun hsignal ↦ ⟨hsignal, ?_⟩, And.left⟩
    rintro rfl
    exact ho hsignal

theorem slot (h : p.Compiles t restarts b as r b') (ht : t.role = .compile) {a : Attempt}
    (ha : a ∈ as.getLast?) (hready : a.outcome.isReady)
    (hreload : a.outcome.signal? ≠ some .okThenInvalidate) :
    (b'.caches.get .compile).environmentId? = a.outcome.kept? := by
  cases h with
  | exhausted h hlen =>
    have hmem := List.mem_of_getLast? ha
    rw [h.slot (List.ne_nil_of_mem hmem),
      TaskOutcome.kept?_eq_none (h.attempt_of_mem a hmem).2 nofun]
  | @settled _ o _ _ h _ hm ho =>
    rw [List.getLast?_concat] at ha
    cases ha
    cases o with
    | notReady => cases hready
    | ran id answer => rw [TaskOutcome.kept?_eq ho hreload, ← ht, hm.slot]

end Compiles

namespace Packages

variable {payload : String} {package : Option Attempt} {r : Except DispatchError Unit}

theorem follows (h : p.Packages payload b package r b') : b.Follows package.toList b' := by
  cases h with
  | disabled => exact .done b
  | made _ hm => exact hm.follows

theorem isSome_iff (h : p.Packages payload b package r b') :
    package.isSome ↔ p.settings.entryPoints.package ≠ "" := by
  cases h with
  | disabled h => simpa [EntryPoints.package?] using h
  | made h =>
    simp only [EntryPoints.package?, Option.ite_none_left_eq_some] at h
    simpa using h.1

theorem task_of_mem (h : p.Packages payload b package r b') :
    ∀ a ∈ package, a.task = p.toolingTask p.settings.entryPoints.package payload := by
  cases h with
  | disabled => simp
  | made h =>
    simp only [EntryPoints.package?, Option.ite_none_left_eq_some, Option.some.injEq] at h
    obtain ⟨-, rfl⟩ := h
    simp

theorem isOk_iff (h : p.Packages payload b package r b') :
    r.isOk ↔ ∀ a ∈ package, a.outcome.invocation?.isSome := by
  cases h with
  | disabled => simp [Except.isOk, Except.toBool]
  | @made _ o _ _ hm =>
    have hresult := o.result_isOk .tooling
    cases hr : o.result .tooling <;> rw [hr] at hresult <;>
      simp [← hresult, Except.isOk, Except.toBool, Except.map]

theorem compile_cache (h : p.Packages payload b package r b') :
    b'.caches.get .compile = b.caches.get .compile := by
  cases h with
  | disabled => rfl
  | made _ hm => exact hm.other nofun

end Packages

namespace Processes

variable {c : Course} {result : Option (Except DispatchError Signal)}

theorem follows (h : p.Processes request b c result b') : b.Follows c.steps b' := by
  cases h with
  | rejected => exact .done b
  | unplanned _ hm => exact hm.follows
  | uncompiled _ hm _ hc =>
    have hsteps := hm.follows.append hc.follows
    simpa [Course.steps] using hsteps
  | compiled _ hm _ hc hp =>
    have hsteps := (hm.follows.append hc.follows).append hp.follows
    simp only [Course.steps, Option.toList_some]
    split
    · have hdiscarded := hsteps.append (.discard .compile (.done _))
      rwa [List.append_nil] at hdiscarded
    · exact hsteps

theorem lawful (h : p.Processes request b c result b') : c.Lawful p request := by
  cases h with
  | rejected h =>
    exact ⟨by simp [h], by simp [Course.script?], by simp, by simp, by simp [Course.signal?],
      by simp⟩
  | unplanned h _ hscript =>
    exact ⟨by simp [h], by simp [Course.script?, hscript], by simp, by simp,
      by simp [Course.signal?], by simp⟩
  | @uncompiled payload script r o as compiled b₁ _ h _ hscript hc hfailed =>
    refine ⟨by simp [h], ?_, fun a ha ↦ ?_, hc.again, ?_, by simp⟩
    · simpa [Course.script?, hscript] using hc.ne_nil
    · exact ⟨payload, r, script, h, hscript, hc.task_of_mem a ha⟩
    · have hnone : ∀ signal, signal ≠ .retry → as.getLast?.bind (·.outcome.signal?) ≠ some signal :=
        fun signal hne hlast ↦ hfailed signal ((hc.eq_ok_iff signal).mpr ⟨hlast, hne⟩)
      simp [Course.signal?, hnone .ok nofun, hnone .okThenInvalidate nofun]
  | @compiled payload script r o as signal package packaged b₁ b₂ b₃ h _ hscript hc hp =>
    obtain ⟨hlast, hne⟩ := (hc.eq_ok_iff signal).mp rfl
    refine ⟨by simp [h], ?_, fun a ha ↦ ?_, hc.again, ?_, fun a ha ↦ ?_⟩
    · simpa [Course.script?, hscript] using hc.ne_nil
    · exact ⟨payload, r, script, h, hscript, hc.task_of_mem a ha⟩
    · simp only [Course.signal?, hlast, hp.isSome_iff]
      cases signal with
      | ok | okThenInvalidate => simp
      | retry => exact absurd rfl hne
    · exact ⟨payload, r, h, hp.task_of_mem a ha⟩

theorem succeeds_iff (h : p.Processes request b c result b') :
    (∃ signal, result = some (.ok signal)) ↔ c.Succeeds := by
  cases h with
  | rejected => exact iff_of_false nofun fun hs ↦ by simpa [Course.script?] using hs.planned
  | unplanned _ _ hscript =>
    exact iff_of_false nofun fun hs ↦ by simpa [Course.script?, hscript] using hs.planned
  | uncompiled _ _ _ hc hfailed =>
    refine iff_of_false (fun ⟨signal, h⟩ ↦ hfailed signal h) fun hs ↦ ?_
    rcases hs.compiled with hlast | hlast
    · exact hfailed .ok ((hc.eq_ok_iff .ok).mpr ⟨hlast, nofun⟩)
    · exact hfailed .okThenInvalidate ((hc.eq_ok_iff .okThenInvalidate).mpr ⟨hlast, nofun⟩)
  | @compiled payload script r o as signal package packaged b₁ b₂ b₃ _ _ hscript hc hp =>
    obtain ⟨hlast, hne⟩ := (hc.eq_ok_iff signal).mp rfl
    have hok : (∃ s, some (packaged.map fun _ ↦ signal) = some (.ok s)) ↔ packaged.isOk := by
      cases packaged with
      | ok => exact iff_of_true ⟨signal, rfl⟩ rfl
      | error => exact iff_of_false nofun Bool.false_ne_true
    rw [hok, hp.isOk_iff]
    refine ⟨fun hpackaged ↦ ⟨by simp [Course.script?, hscript], ?_, hpackaged⟩, (·.packaged)⟩
    simp only [Course.signal?, hlast]
    cases signal with
    | ok => exact .inl rfl
    | okThenInvalidate => exact .inr rfl
    | retry => exact absurd rfl hne

theorem slot (h : p.Processes request b c result b') {a : Attempt} (ha : a ∈ c.compiles.getLast?)
    (hready : a.outcome.isReady) : (b'.caches.get .compile).environmentId? = a.outcome.kept? := by
  cases h with
  | rejected | unplanned => cases ha
  | uncompiled _ _ _ hc hfailed =>
    refine hc.slot rfl ha hready fun hreload ↦ hfailed .okThenInvalidate ?_
    exact (hc.eq_ok_iff .okThenInvalidate).mpr ⟨by rw [Option.mem_def.mp ha]; exact hreload, nofun⟩
  | @compiled payload script r o as signal package packaged b₁ b₂ b₃ _ _ _ hc hp =>
    obtain ⟨hlast, -⟩ := (hc.eq_ok_iff signal).mp rfl
    rw [Option.mem_def.mp ha, Option.bind_some] at hlast
    by_cases hreload : signal = .okThenInvalidate
    · rw [if_pos hreload, b₃.discard_slot, TaskOutcome.kept?_eq_none hlast (by simp [hreload])]
    · rw [if_neg hreload, hp.compile_cache]
      refine hc.slot rfl ha hready fun hsignal ↦ hreload ?_
      rw [hlast] at hsignal
      exact Option.some.inj hsignal

end Processes

end Policy

namespace Dispatcher

/-- Whatever state a dispatcher is in and whatever guests do, a request is handled by the lawful
steps in their order. There is a response with exit code zero exactly if they succeed, and the
compile role keeps the environment of the last compilation unless that is to be gone. -/
theorem handle_in_order (d : Dispatcher σ) (request : WorkRequest) :
    ∃ c : Course, c.Lawful d.policy request ∧ d.bench.Follows c.steps (d.handle request).2.bench ∧
      (d.world.since (d.handle request).2.world).reverse.filter Event.isCall =
        c.steps.filterMap Attempt.call? ∧
      ((∃ response ∈ (d.handle request).1, response.exitCode = 0) ↔ c.Succeeds) ∧
      ∀ a ∈ c.compiles.getLast?, a.outcome.isReady →
        ((d.handle request).2.caches.get .compile).environmentId? = a.outcome.kept? := by
  obtain ⟨c, result, h, t, hresponse⟩ := d.handle_processes request
  obtain ⟨events, htrace, hcalls⟩ := h.follows.calls
  have hsince : d.world.since (d.handle request).2.world = events := World.since_eq htrace
  refine ⟨c, h.lawful, h.follows, hsince ▸ hcalls, ?_, fun a ha hready ↦ h.slot ha hready⟩
  rw [hresponse, request.exitCode_concludes, h.succeeds_iff]

end Dispatcher

end CompileWorker
