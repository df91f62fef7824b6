import CompileWorker.Proofs.CacheSteps
import CompileWorker.Proofs.ClasspathOrder
import CompileWorker.Proofs.DigestAlgebra

namespace CompileWorker

structure Policy.Tools (p : Policy) (entry : CacheEntry) : Prop where
  unpoisoned : entry.poisoned = []
  agrees : entry.key.Agrees p.toolingKey
  loaded : p.settings.guest.toolingClasspath ⊆ entry.environment.locations

theorem Policy.Tools.not_stale {p : Policy} {entry : CacheEntry} (h : p.Tools entry) :
    entry.staleLocation? p.toolingKey = none := by
  refine CacheEntry.staleLocation?_eq_none_iff.mpr ⟨?_, DigestMap.compare_eq_agree_iff.mpr h.agrees⟩
  rw [h.unpoisoned]
  simp

variable {σ : Type} [Guests σ]

namespace Environment

/-- Nothing is left to load. -/
theorem loadAll_of_subset {env : Environment} {classpath : List String}
    (h : classpath ⊆ env.locations) (w : World σ) :
    ∃ w', env.loadAll w classpath = (.ok 0, env, w') := by
  induction classpath generalizing w with
  | nil => exact ⟨w, rfl⟩
  | cons location classpath ih =>
    obtain ⟨hlocation, hrest⟩ := List.cons_subset.mp h
    obtain ⟨w', hloaded⟩ := ih hrest (w.record (.located env.id location (.ok false)) w.guests)
    exact ⟨w', by simp [loadAll, addLocation_loaded hlocation, hloaded]⟩

theorem subset_of_loadAll {env env' : Environment} {classpath : List String} {w w' : World σ}
    {n : Nat} (hempty : env.locations = []) (h : env.loadAll w classpath = (.ok n, env', w')) :
    classpath ⊆ env'.locations := by
  intro location hlocation
  have hlocations : env'.locations = ([] ++ classpath).eraseDups := loadAll_eraseDups h hempty
  rw [hlocations, List.nil_append, List.mem_eraseDups]
  exact hlocation

end Environment

namespace EnvironmentCache

variable {p : Policy} {c : EnvironmentCache}

def Fits (c : EnvironmentCache) (p : Policy) : Prop := ∀ entry, c.entry = some entry → p.Tools entry

omit [Guests σ] in
theorem fits_of_vacant (hc : c.entry = none) : c.Fits p := by
  intro entry hentry
  rw [hc] at hentry
  cases hentry

theorem Fits.reused (h : c.Fits p) {id : EnvironmentId} (hid : c.environmentId? = some id)
    (w : World σ) :
    ∃ c' w', c.acquire p.toolingKey p.settings.guest.toolingClasspath w =
      (.ok (.reused 0), c', w') ∧
      c'.environmentId? = some id ∧ c'.Fits p := by
  obtain ⟨entry, hc, rfl⟩ := Option.map_eq_some_iff.mp hid
  have htools := h entry hc
  obtain ⟨w', hloaded⟩ := Environment.loadAll_of_subset htools.loaded w
  refine ⟨_, w', by simp only [acquire, hc, htools.not_stale, extend, hloaded]; rfl, rfl, ?_⟩
  rintro entry' ⟨⟩
  exact ⟨htools.unpoisoned, DigestMap.agrees_merge _ _, htools.loaded⟩

theorem Fits.built (hid : c.environmentId? = none) (w : World σ) :
    ((c.acquire p.toolingKey p.settings.guest.toolingClasspath w).1 = .ok .built ∨
      ∃ e, (c.acquire p.toolingKey p.settings.guest.toolingClasspath w).1 = .error e) ∧
    (c.acquire p.toolingKey p.settings.guest.toolingClasspath w).2.1.Fits p := by
  have hvacant : c.entry = none := Option.map_eq_none_iff.mp hid
  obtain ⟨events, hacq⟩ := c.acquires p.toolingKey p.settings.guest.toolingClasspath w
  generalize c.acquire p.toolingKey p.settings.guest.toolingClasspath w = out at hacq
  cases hacq with
  | reused hc | stuck hc =>
    rw [hvacant] at hc
    cases hc
  | built hv hn hl =>
    obtain ⟨rfl, -, -⟩ := hv.create_ok hn
    cases hv with
    | stale hc =>
      rw [hvacant] at hc
      cases hc
    | vacant =>
      refine ⟨.inl rfl, ?_⟩
      rintro entry ⟨⟩
      exact ⟨rfl, .refl _, Environment.subset_of_loadAll rfl hl⟩
  | notCreated hv => exact ⟨.inr ⟨_, rfl⟩, fits_of_vacant hv.entry⟩
  | unloadable hv => exact ⟨.inr ⟨_, rfl⟩, fits_of_vacant hv.entry⟩

theorem Fits.acquire (h : c.Fits p) (w : World σ) :
    (c.acquire p.toolingKey p.settings.guest.toolingClasspath w).2.1.Fits p := by
  cases hid : c.environmentId? with
  | none => exact (Fits.built hid w).2
  | some id =>
    obtain ⟨c', w', hacquired, -, hfits⟩ := h.reused hid w
    rwa [hacquired]

theorem Fits.invoke (h : c.Fits p) (entryPoint payload : String) (w : World σ) :
    (c.invoke entryPoint payload w).2.1.Fits p := by
  cases hc : c.entry with
  | none => simpa [EnvironmentCache.invoke, hc] using h
  | some entry =>
    simp only [EnvironmentCache.invoke, hc]
    rintro entry' ⟨⟩
    obtain ⟨hunpoisoned, hagrees, hloaded⟩ := h entry hc
    exact ⟨hunpoisoned, hagrees, hloaded⟩

theorem invoke_environmentId? (c : EnvironmentCache) (entryPoint payload : String) (w : World σ) :
    (c.invoke entryPoint payload w).2.1.environmentId? = c.environmentId? := by
  cases hid : c.environmentId? with
  | none => simpa [EnvironmentCache.invoke, Option.map_eq_none_iff.mp hid] using hid
  | some id => exact (invoke_of_live hid entryPoint payload w).1

end EnvironmentCache

omit [Guests σ] in
theorem Policy.Tends.cases {p : Policy} {b : Bench σ} {s : CacheStep} (h : p.Tends b s) :
    s.role = .compile ∨ s = ⟨.tooling, .acquire p.toolingKey p.settings.guest.toolingClasspath⟩ ∨
      (∃ entryPoint payload, s = ⟨.tooling, .invoke entryPoint payload⟩) ∨
      (s = ⟨.tooling, .discard⟩ ∧ ∀ id, b.live .tooling = some id →
        ∃ e ∈ b.world.trace, e.breaks id) := by
  rcases h with hrole | ⟨entryPoint, payload, hrole, hcall⟩
  · exact .inl hrole
  · rcases s with ⟨role, call⟩
    obtain rfl : role = .tooling := hrole
    cases call with
    | acquire key classpath =>
      obtain ⟨rfl, rfl⟩ := hcall
      exact .inr (.inl rfl)
    | invoke => exact .inr (.inr (.inl ⟨_, _, rfl⟩))
    | discard => exact .inr (.inr (.inr ⟨rfl, hcall⟩))

namespace Bench

variable {p : Policy} {b b' : Bench σ} {s : CacheStep} {steps : List CacheStep} {id : EnvironmentId}

theorem fits_step (h : (b.caches.get .tooling).Fits p) (hs : p.Tends b s) :
    ((b.step s).caches.get .tooling).Fits p := by
  rcases hs.cases with hrole | rfl | ⟨entryPoint, payload, rfl⟩ | ⟨rfl, -⟩
  · rwa [b.step_other (by simp [hrole])]
  · rw [b.step_own]
    exact h.acquire b.world
  · rw [b.step_own]
    exact h.invoke entryPoint payload b.world
  · rw [b.step_own]
    exact EnvironmentCache.fits_of_vacant (EnvironmentCache.discard_entry _ _)

theorem fits_through (h : (b.caches.get .tooling).Fits p) (hs : b.Along p.Tends steps) :
    ((b.through steps).caches.get .tooling).Fits p := by
  induction steps generalizing b with
  | nil => exact h
  | cons s steps ih => exact ih (fits_step h hs.1) hs.2

theorem Reaches.fits (hr : b.Reaches p.Tends b') (h : (b.caches.get .tooling).Fits p) :
    (b'.caches.get .tooling).Fits p := by
  obtain ⟨steps, rfl, hs⟩ := hr
  exact fits_through h hs

theorem live_step (h : (b.caches.get .tooling).Fits p) (hs : p.Tends b s)
    (hlive : b.live .tooling = some id) (hwhole : ∀ e ∈ b.world.trace, ¬ e.breaks id) :
    (b.step s).live .tooling = some id := by
  rcases hs.cases with hrole | rfl | ⟨entryPoint, payload, rfl⟩ | ⟨rfl, hbroke⟩
  · rwa [live, b.step_other (by simp [hrole])]
  · rw [live, b.step_own]
    obtain ⟨c', w', hacquired, hid, -⟩ := h.reused hlive b.world
    simp only [EnvironmentCache.call, hacquired]
    exact hid
  · rw [live, b.step_own]
    exact ((b.caches.get .tooling).invoke_environmentId? entryPoint payload b.world).trans hlive
  · obtain ⟨e, he, hbreaks⟩ := hbroke id hlive
    exact absurd hbreaks (hwhole e he)

theorem live_through (h : (b.caches.get .tooling).Fits p) (hs : b.Along p.Tends steps)
    (hlive : b.live .tooling = some id)
    (hwhole : ∀ e ∈ (b.through steps).world.trace, ¬ e.breaks id) :
    (b.through steps).live .tooling = some id := by
  induction steps generalizing b with
  | nil => exact hlive
  | cons s steps ih =>
    have hbefore : ∀ e ∈ b.world.trace, ¬ e.breaks id :=
      fun e he ↦ hwhole e ((b.through_suffix (s :: steps)).mem he)
    exact ih (fits_step h hs.1) hs.2 (live_step h hs.1 hlive hbefore) hwhole

end Bench

omit [Guests σ] in
theorem Attempt.used_of_call (a : Attempt) : ∃ id, ∀ e ∈ a.call?, e.used? = some id := by
  rcases a with ⟨t, e | ⟨id, answer⟩⟩
  · exact ⟨⟨0⟩, by simp [call?]⟩
  · refine ⟨id, ?_⟩
    rintro e ⟨⟩
    rfl

namespace Policy

variable {p : Policy} {request : WorkRequest} {t : GuestTask} {b b' : Bench σ}

theorem tooling_of_restarts {as : List Attempt} (h : b.Restarts t as b') (ht : t.role = .compile) :
    b'.caches.get .tooling = b.caches.get .tooling := by
  induction h with
  | done => rfl
  | @retry b b₁ b' o as hm _ _ ih =>
    have hdiscard : (b₁.perform (.discard .compile)).caches.get .tooling =
        b₁.caches.get .tooling := by
      simp [Bench.perform, Bench.on]
    rw [ih, hdiscard, hm.other (by simp [ht])]

theorem Compiles.tooling_cache {restarts : Nat} {as : List Attempt}
    {r : Option (Except DispatchError Signal)} (h : p.Compiles t restarts b as r b')
    (ht : t.role = .compile) : b'.caches.get .tooling = b.caches.get .tooling := by
  cases h with
  | exhausted h => exact tooling_of_restarts h ht
  | settled h _ hm => rw [hm.other (by simp [ht]), tooling_of_restarts h ht]

theorem Processes.one_tooling {c : Course} {r : Option (Except DispatchError Signal)}
    (h : p.Processes request b c r b') (hfits : (b.caches.get .tooling).Fits p) :
    ∃ id, ∀ a ∈ c.plan.toList ++ c.package.toList, ∀ e ∈ a.call?, e.used? = some id := by
  have hsingle : ∀ a : Attempt, ∃ id, ∀ a' ∈ [a], ∀ e ∈ a'.call?, e.used? = some id := by
    intro a
    obtain ⟨id, hid⟩ := a.used_of_call
    exact ⟨id, List.forall_mem_singleton.mpr hid⟩
  cases h with
  | rejected => exact ⟨⟨0⟩, by simp⟩
  | unplanned => exact hsingle _
  | uncompiled => exact hsingle _
  | @compiled _ _ _ o _ _ _ _ b₁ b₂ _ _ hm hscript hc hp =>
    cases hp with
    | disabled => exact hsingle _
    | @made _ o' _ _ hm' =>
      rcases o with e | ⟨id, e | invocation⟩
      · cases hscript
      · cases hscript
      · -- the plan left its environment in place, and packaging finds it there
        have hlive : (b₁.caches.get .tooling).environmentId? = some id := hm.slot
        have hfits' := (reaches_tooling hm).fits hfits
        rw [← hc.tooling_cache rfl] at hlive hfits'
        refine ⟨id, List.forall_mem_cons.mpr ⟨?_, List.forall_mem_singleton.mpr ?_⟩⟩
        · rintro e ⟨⟩
          rfl
        · rcases o' with e | ⟨id', answer⟩
          · rintro e ⟨⟩
          · rintro e ⟨⟩
            obtain ⟨c', w', hacquired, hid, -⟩ := hfits'.reused hlive b₂.world
            obtain ⟨acquisition, c, w, after, ha, hid', -⟩ := hm'.acquired
            obtain ⟨-, rfl, -⟩ := Prod.mk.inj (ha.symm.trans hacquired) |>.imp_right Prod.mk.inj
            exact hid'.symm.trans hid

end Policy

namespace Dispatcher

variable {d : Dispatcher σ}

theorem Reachable.fits (h : d.Reachable) : (d.bench.caches.get .tooling).Fits d.policy := by
  induction h with
  | start => exact EnvironmentCache.fits_of_vacant rfl
  | @handle d _ request ih =>
    rw [d.handle_policy request]
    exact (d.handle_reaches request).fits ih
  | @shutdown d _ ih =>
    rw [d.shutdown_bench]
    exact EnvironmentCache.fits_of_vacant (d.bench.vacant_after_discards .tooling)

theorem Reachable.handleAll (h : d.Reachable) (requests : List WorkRequest) :
    (d.handleAll requests).Reachable := by
  induction requests generalizing d with
  | nil => exact h
  | cons request requests ih => exact ih (h.handle request)

/-- Whatever was done before, and whatever requests are handled then: once there is a tooling
environment it stays, until it breaks; whenever one is got ready, the one that is there is taken and
nothing is loaded into it, and if there is none it is built, or that fails. All that a request runs
in the tooling role is run in one environment. -/
theorem tooling_stable (hd : d.Reachable) (requests : List WorkRequest) :
    (∃ steps, (d.handleAll requests).bench = d.bench.through steps ∧
      (∀ before middle after id, steps = before ++ (middle ++ after) →
        (d.bench.through before).live .tooling = some id →
        (∀ e ∈ (d.bench.through (before ++ middle)).world.trace, ¬ e.breaks id) →
        (d.bench.through (before ++ middle)).live .tooling = some id) ∧
      ∀ before key classpath after, steps = before ++ ⟨.tooling, .acquire key classpath⟩ :: after →
        let b := d.bench.through before
        let result := ((b.caches.get .tooling).acquire key classpath b.world).1
        (∀ id, b.live .tooling = some id → result = .ok (.reused 0) ∧
          (b.step ⟨.tooling, .acquire key classpath⟩).live .tooling = some id) ∧
        (b.live .tooling = none → result = .ok .built ∨ ∃ e, result = .error e)) ∧
    ∀ request, let d' := d.handleAll requests
      ∃ id, ∀ e ∈ d'.world.calls (d'.handle request).2.world .tooling, e.used? = some id := by
  obtain ⟨steps, hsteps, halong⟩ := d.handleAll_reaches requests
  refine ⟨⟨steps, hsteps, ?_, ?_⟩, fun request ↦ ?_⟩
  · rintro before middle after id rfl hlive hwhole
    obtain ⟨hbefore, hrest⟩ := halong.of_append
    rw [Bench.through_append] at hwhole ⊢
    exact Bench.live_through (Bench.fits_through hd.fits hbefore) hrest.of_append.1 hlive hwhole
  · rintro before key classpath after rfl b result
    obtain ⟨hbefore, htends, -⟩ := halong.of_append
    have hfits : (b.caches.get .tooling).Fits d.policy := Bench.fits_through hd.fits hbefore
    rcases htends.cases with hrole | hacquire | ⟨_, _, hinvoke⟩ | ⟨hdiscard, -⟩
    · cases hrole
    · obtain ⟨rfl, rfl⟩ :
          key = d.policy.toolingKey ∧ classpath = d.policy.settings.guest.toolingClasspath := by
        simpa using hacquire
      refine ⟨fun id hlive ↦ ?_, fun hvacant ↦ (EnvironmentCache.Fits.built hvacant b.world).1⟩
      obtain ⟨c', w', hacquired, hid, -⟩ := hfits.reused hlive b.world
      refine ⟨congrArg Prod.fst hacquired, ?_⟩
      rw [Bench.live, b.step_own]
      simp only [EnvironmentCache.call, hacquired]
      exact hid
    · cases hinvoke
    · cases hdiscard
  · have hd' := hd.handleAll requests
    obtain ⟨c, result, h, -⟩ := (d.handleAll requests).handle_processes request
    obtain ⟨id, hid⟩ := h.one_tooling hd'.fits
    refine ⟨id, fun e he ↦ ?_⟩
    have hcalls :
        (d.handleAll requests).world.calls ((d.handleAll requests).handle request).2.world
          .tooling = _ :=
      h.calls_tooling hd'.orderly
    rw [hcalls] at he
    obtain ⟨a, ha, hcall⟩ := List.mem_filterMap.mp he
    exact hid a ha e hcall

def laterRequest : WorkRequest := { arguments := ["[[],\"c\",[\"b.jar\"],\"o\"]"] }

theorem tooling_kept_by_next : (restartedRequest.2.handleAll [laterRequest]).bench.live .tooling =
    some ⟨1⟩ := by
  have hreachable : restartedRequest.2.Reachable :=
    .handle (.start { settings := {} } restartingGuests) _
  have hlive : restartedRequest.2.bench.live .tooling = some ⟨1⟩ := by decide +kernel
  have hwhole : ∀ e ∈ (restartedRequest.2.handleAll [laterRequest]).bench.world.trace,
      ¬ e.breaks ⟨1⟩ := by
    decide +kernel
  obtain ⟨⟨steps, hsteps, hkept, -⟩, -⟩ := tooling_stable hreachable [laterRequest]
  rw [hsteps] at hwhole ⊢
  exact hkept [] steps [] ⟨1⟩ (by simp) hlive hwhole

end Dispatcher

end CompileWorker
