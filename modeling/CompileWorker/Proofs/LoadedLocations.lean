import CompileWorker.Proofs.FailedAcquire
import CompileWorker.Proofs.RoleIsolation

namespace CompileWorker

namespace Event

def loadedInto? (id : EnvironmentId) : Event → Option String
  | .located i location (.ok true) => if i = id then some location else none
  | _ => none

theorem loadedInto?_of_unused {e : Event} (h : e.used? = none) (id : EnvironmentId) :
    e.loadedInto? id = none := by
  cases e with
  | located => cases h
  | _ => rfl

theorem loadedInto?_own (id : EnvironmentId) (location : String)
    (answer : Except EnvironmentError Bool) :
    (located id location answer).loadedInto? id = (located id location answer).loaded? := by
  rcases answer with e | _ | _
  · rfl
  · rfl
  · exact if_pos rfl

theorem environment?_of_loadedInto? {e : Event} {id : EnvironmentId} (h : e.loadedInto? id ≠ none) :
    e.environment? = some id := by
  cases e with
  | located i location answer =>
    rcases answer with e | _ | _
    · exact absurd rfl h
    · exact absurd rfl h
    · by_cases hi : i = id
      · rw [environment?, hi]
      · exact absurd (if_neg hi) h
  | _ => exact absurd rfl h

end Event

variable {σ : Type}

namespace World

variable {w w' : World σ} {events : List Event} {id : EnvironmentId}

def loaded (w : World σ) (id : EnvironmentId) : List String :=
  w.trace.reverse.filterMap (Event.loadedInto? id)

theorem loaded_append (h : w'.trace = events ++ w.trace) (id : EnvironmentId) :
    w'.loaded id = w.loaded id ++ events.reverse.filterMap (Event.loadedInto? id) := by
  rw [loaded, h, List.reverse_append, List.filterMap_append, loaded]

theorem loaded_prefix (h : w.trace <:+ w'.trace) (id : EnvironmentId) :
    w.loaded id <+: w'.loaded id := by
  obtain ⟨events, htrace⟩ := h
  exact ⟨_, (loaded_append htrace.symm id).symm⟩

theorem loaded_eq (h : w'.trace = events ++ w.trace)
    (hnone : ∀ e ∈ events, e.loadedInto? id = none) : w'.loaded id = w.loaded id := by
  have hevents : events.reverse.filterMap (Event.loadedInto? id) = [] :=
    List.filterMap_eq_nil_iff.mpr fun e he ↦ hnone e (List.mem_reverse.mp he)
  rw [loaded_append h, hevents, List.append_nil]

theorem loaded_unused (h : w'.trace = events ++ w.trace) (hunused : ∀ e ∈ events, e.used? = none)
    (id : EnvironmentId) : w'.loaded id = w.loaded id :=
  loaded_eq h fun e he ↦ Event.loadedInto?_of_unused (hunused e he) id

theorem loaded_cons {e : Event} (h : w'.trace = e :: w.trace)
    (hnone : ∀ id, e.loadedInto? id = none) (id : EnvironmentId) : w'.loaded id = w.loaded id := by
  have htrace : w'.trace = [e] ++ w.trace := h
  exact loaded_eq htrace (List.forall_mem_singleton.mpr (hnone id))

theorem Orderly.loaded_new {live : Live} (h : w.Orderly live) (hnew : w.issued < id.number) :
    w.loaded id = [] := by
  refine List.filterMap_eq_nil_iff.mpr fun e he ↦ ?_
  by_contra hloaded
  have hnumber :=
    h.numbered e (List.mem_reverse.mp he) id (Event.environment?_of_loadedInto? hloaded)
  exact Nat.not_le_of_lt hnew hnumber

end World

namespace Environment

variable {env env' : Environment} {w w' : World σ} {events : List Event}

theorem nodup_grownBy (h : env.locations.Nodup) (classpath : List String) :
    (env.grownBy (env.missing classpath)).locations.Nodup := by
  refine List.nodup_append.mpr ⟨h, Classpath.nodup_eraseDups _, ?_⟩
  intro location hlocation location' hmissing heq
  have hnot := (List.mem_filter.mp (List.mem_eraseDups.mp hmissing)).2
  rw [← heq] at hnot
  simp [hlocation] at hnot

theorem subset_grownBy (env : Environment) (classpath : List String) :
    classpath ⊆ (env.grownBy (env.missing classpath)).locations := by
  intro location hlocation
  by_cases hloaded : location ∈ env.locations
  · exact List.mem_append_left _ hloaded
  · have hmissing : location ∈ env.missing classpath :=
      List.mem_eraseDups.mpr (List.mem_filter.mpr ⟨hlocation, by simpa using hloaded⟩)
    exact List.mem_append_right _ hmissing

theorem missing_of_empty (h : env.locations = []) (classpath : List String) :
    env.missing classpath = classpath.eraseDups := by
  simp [missing, h]

theorem Grows.loaded (h : env.Grows w env' w' events) (hloaded : env.locations = w.loaded env.id) :
    env'.locations = w'.loaded env'.id := by
  have hevents : events.reverse.filterMap (Event.loadedInto? env.id) =
      events.reverse.filterMap Event.loaded? := by
    refine List.filterMap_congr fun e he ↦ ?_
    obtain ⟨location, answer, rfl⟩ := h.located e (List.mem_reverse.mp he)
    exact Event.loadedInto?_own env.id location answer
  rw [h.id, World.loaded_append h.trace, hevents, ← hloaded, h.locations]

theorem Grows.loaded_other (h : env.Grows w env' w' events) {id : EnvironmentId}
    (hne : id ≠ env.id) : w'.loaded id = w.loaded id := by
  refine World.loaded_eq h.trace fun e he ↦ ?_
  obtain ⟨location, answer, rfl⟩ := h.located e he
  by_contra hloaded
  exact hne (Option.some.inj (Event.environment?_of_loadedInto? hloaded)).symm

theorem nodup_loadAll [Guests σ] (h : env.locations.Nodup) (w : World σ) (classpath : List String) :
    (env.loadAll w classpath).2.1.locations.Nodup := by
  rcases hl : env.loadAll w classpath with ⟨⟨location, e⟩ | n, env', w'⟩
  · obtain ⟨-, rfl⟩ := loadAll_error_eq hl
    exact nodup_grownBy h (classpath.takeWhile (· ≠ location))
  · obtain ⟨rfl, -⟩ := loadAll_ok_eq hl
    exact nodup_grownBy h classpath

end Environment

structure EnvironmentCache.Tracks (c : EnvironmentCache) (w : World σ) : Prop where
  nodup : ∀ id, (w.loaded id).Nodup
  entry : ∀ entry, c.entry = some entry →
    entry.environment.locations = w.loaded entry.environment.id

namespace EnvironmentCache.Tracks

variable [Guests σ] {c c₁ : EnvironmentCache} {w w₁ w₂ w₃ : World σ} {live : Live} {role : Role}
  {key : DigestMap} {classpath : List String} {env env' : Environment} {acquisition : Acquisition}
  {events released : List Event}

theorem grown {result : Except (String × EnvironmentError) Nat} (h : ∀ id, (w.loaded id).Nodup)
    (henv : env.locations = w.loaded env.id) (hl : env.loadAll w classpath = (result, env', w₁))
    (hg : env.Grows w env' w₁ events) :
    (∀ id, (w₁.loaded id).Nodup) ∧ env'.locations = w₁.loaded env'.id := by
  have hloaded := hg.loaded henv
  refine ⟨fun id ↦ ?_, hloaded⟩
  -- one environment is loaded; what the others have stays as it is
  by_cases hid : id = env.id
  · have hnodup := Environment.nodup_loadAll (henv ▸ h env.id) w classpath
    rw [hl, hloaded, hg.id, ← hid] at hnodup
    exact hnodup
  · rw [hg.loaded_other hid]
    exact h id

theorem created (h : c.Tracks w) (hk : Kept live role c w)
    (hv : c.Vacates key w acquisition c₁ w₁ released) (hn : w₁.create c₁.role = (.ok env, w₂)) :
    (∀ id, (w₂.loaded id).Nodup) ∧ env.locations = w₂.loaded env.id := by
  obtain ⟨rfl, -, htrace⟩ := hv.create_ok hn
  have hsame : ∀ id, w₂.loaded id = w.loaded id := World.loaded_unused htrace hv.created_unused
  refine ⟨fun id ↦ hsame id ▸ h.nodup id, ?_⟩
  -- its number was not given out before, so nothing was loaded under it
  rw [hsame, hk.orderly.loaded_new (Nat.lt_succ_self _)]

theorem acquire (h : c.Tracks w) (hk : Kept live role c w) (key : DigestMap)
    (classpath : List String) :
    (c.acquire key classpath w).2.1.Tracks (c.acquire key classpath w).2.2 := by
  obtain ⟨events, hacq⟩ := c.acquires key classpath w
  generalize c.acquire key classpath w = out at hacq
  cases hacq with
  | reused hc _ hl hg | stuck hc _ hl hg =>
    obtain ⟨hnodup, hloaded⟩ := grown h.nodup (h.entry _ hc) hl hg
    refine ⟨hnodup, fun entry hentry ↦ ?_⟩
    cases hentry
    exact hloaded
  | built hv hn hl hg =>
    obtain ⟨hfirst, henv⟩ := h.created hk hv hn
    obtain ⟨hnodup, hloaded⟩ := grown hfirst henv hl hg
    refine ⟨hnodup, fun entry hentry ↦ ?_⟩
    cases hentry
    exact hloaded
  | notCreated hv hn =>
    have hsame := World.loaded_unused ((World.create_error hn).2.trans (congrArg _ hv.trace))
      (List.forall_mem_cons.mpr ⟨rfl, hv.unused⟩)
    refine ⟨fun id ↦ hsame id ▸ h.nodup id, fun entry hentry ↦ ?_⟩
    rw [hv.entry] at hentry
    cases hentry
  | @unloadable _ _ _ _ w₃ _ env' _ _ _ _ hv hn hl hg =>
    obtain ⟨hfirst, henv⟩ := h.created hk hv hn
    obtain ⟨hnodup, -⟩ := grown hfirst henv hl hg
    have hsame := World.loaded_cons (env'.discard_trace w₃) fun _ ↦ rfl
    refine ⟨fun id ↦ hsame id ▸ hnodup id, fun entry hentry ↦ ?_⟩
    rw [dispose, hv.entry] at hentry
    cases hentry

theorem invoke (h : c.Tracks w) (entryPoint payload : String) :
    (c.invoke entryPoint payload w).2.1.Tracks (c.invoke entryPoint payload w).2.2 := by
  unfold EnvironmentCache.invoke
  cases hc : c.entry with
  | none => exact h
  | some entry =>
    obtain ⟨hid, hlocations, -, htrace⟩ := entry.environment.invoke_spec entryPoint payload w
    have hsame := World.loaded_cons htrace fun _ ↦ rfl
    refine ⟨fun id ↦ (hsame id).symm ▸ h.nodup id, fun entry' hentry ↦ ?_⟩
    cases hentry
    exact (h.entry entry hc).trans (hsame entry.environment.id).symm

theorem discard (h : c.Tracks w) : (c.discard w).2.1.Tracks (c.discard w).2.2 := by
  unfold EnvironmentCache.discard
  cases hc : c.entry with
  | none => exact h
  | some entry =>
    have hsame := World.loaded_cons (entry.environment.discard_trace w) fun _ ↦ rfl
    refine ⟨fun id ↦ (hsame id).symm ▸ h.nodup id, fun entry' hentry ↦ ?_⟩
    cases hentry

theorem call (h : c.Tracks w) (hk : Kept live role c w) (call : CacheCall) :
    (c.call w call).1.Tracks (c.call w call).2 := by
  cases call with
  | acquire key classpath => exact h.acquire hk key classpath
  | invoke entryPoint payload => exact h.invoke entryPoint payload
  | discard => exact h.discard

end EnvironmentCache.Tracks

def Bench.Tracks (b : Bench σ) : Prop := ∀ role, (b.caches.get role).Tracks b.world

namespace Bench.Tracks

theorem start (guests : σ) : (Bench.start guests).Tracks := by
  intro role
  refine ⟨fun id ↦ List.nodup_nil, fun entry hentry ↦ ?_⟩
  cases role <;> cases hentry

variable [Guests σ] {b : Bench σ}

theorem step (h : b.Tracks) (hb : b.Orderly) (s : CacheStep) : (b.step s).Tracks := by
  have hown := (h s.role).call (hb.kept s.role) s.call
  have hnext := (hb.step s).world.lives
  intro role
  by_cases hrole : role = s.role
  · rw [hrole, b.step_own s]
    exact hown
  · rw [b.step_other hrole]
    refine ⟨hown.nodup, fun entry hentry ↦ ?_⟩
    rw [(h role).entry entry hentry]
    obtain ⟨events, htrace, hisolated⟩ := (hb.step_isolates s).own
    have hcached : (b.step s).live role = some entry.environment.id := by
      rw [live, b.step_other hrole]
      exact congrArg (Option.map _) hentry
    -- what the step does to environments it does to those of its own role
    refine (World.loaded_eq htrace fun e he ↦ ?_).symm
    by_contra hloaded
    have hcreated := hisolated e he _ (Event.environment?_of_loadedInto? hloaded)
    exact hrole (hnext.role_unique (hnext.created_of_live hcached) hcreated)

theorem through (h : b.Tracks) (hb : b.Orderly) (steps : List CacheStep) :
    (b.through steps).Tracks := by
  induction steps generalizing b with
  | nil => exact h
  | cons s steps ih => exact ih (h.step hb s) (hb.step s)

end Bench.Tracks

variable [Guests σ]

/-- What an acquire has loaded into the environment it hands out: the whole classpath if it was
built, and behind what was there what that lacked, if it was there. -/
def Acquisition.Loads (before : Option CacheEntry) (classpath : List String) (env : Environment) :
    Acquisition → Prop
  | .built | .rebuilt _ => env.locations = classpath.eraseDups
  | .reused added => ∃ entry, before = some entry ∧ env.id = entry.environment.id ∧
      env.locations = entry.environment.locations ++ entry.environment.missing classpath ∧
      added = (entry.environment.missing classpath).length

theorem EnvironmentCache.acquire_loads {c c' : EnvironmentCache} {key : DigestMap}
    {classpath : List String} {w w' : World σ} {acquisition : Acquisition}
    (h : c.acquire key classpath w = (.ok acquisition, c', w')) :
    ∃ entry, c'.entry = some entry ∧ classpath ⊆ entry.environment.locations ∧
      acquisition.Loads c.entry classpath entry.environment := by
  obtain ⟨events, hacq⟩ := c.acquires key classpath w
  rw [h] at hacq
  cases hacq with
  | @reused entry added env w' loads hc _ hl =>
    obtain ⟨rfl, rfl⟩ := Environment.loadAll_ok_eq hl
    exact ⟨_, rfl, entry.environment.subset_grownBy classpath, entry, hc, rfl, rfl, rfl⟩
  | @built _ c₁ w₁ w₂ w₃ env env' n released loads hv hn hl =>
    obtain ⟨rfl, -⟩ := Environment.loadAll_ok_eq hl
    have hempty : env.locations = [] := (World.create_ok hn).1 ▸ rfl
    have hlocations : (env.grownBy (env.missing classpath)).locations = classpath.eraseDups := by
      rw [Environment.grownBy, hempty, Environment.missing_of_empty hempty, List.nil_append]
    refine ⟨_, rfl, env.subset_grownBy classpath, ?_⟩
    cases hv <;> exact hlocations

namespace Bench

/-- Whatever was asked of the caches of both roles and whatever failed: no location was loaded twice
into one environment, one in a cache has what was loaded into it, and what it has later begins with
that. An acquire that succeeds hands out an environment with the first occurrences of its classpath,
if that was built for it, or else with those it lacked behind all that it had. -/
theorem locations_appended (guests : σ) (steps : List CacheStep) :
    let b := (Bench.start guests).through steps
    (∀ id, (b.world.loaded id).Nodup) ∧
    (∀ role entry, (b.caches.get role).entry = some entry →
      entry.environment.locations = b.world.loaded entry.environment.id ∧
      ∀ later role' entry', ((b.through later).caches.get role').entry = some entry' →
        entry'.environment.id = entry.environment.id →
        entry.environment.locations <+: entry'.environment.locations) ∧
    ∀ role key classpath acquisition c' w',
      (b.caches.get role).acquire key classpath b.world = (.ok acquisition, c', w') →
      ∃ entry, c'.entry = some entry ∧ classpath ⊆ entry.environment.locations ∧
        acquisition.Loads (b.caches.get role).entry classpath entry.environment := by
  intro b
  have horderly : b.Orderly := (Orderly.start guests).through steps
  have htracks : b.Tracks := (Tracks.start guests).through (.start guests) steps
  refine ⟨(htracks .tooling).nodup, fun role entry hentry ↦ ?_, ?_⟩
  · have hlocations := (htracks role).entry entry hentry
    refine ⟨hlocations, fun later role' entry' hentry' hid ↦ ?_⟩
    have hlater := ((htracks.through horderly later) role').entry entry' hentry'
    rw [hlocations, hlater, hid]
    exact World.loaded_prefix (b.through_suffix later) _
  · intro role key classpath acquisition c' w' hacquire
    exact EnvironmentCache.acquire_loads hacquire

end Bench

def repeatedArchive : Bench Mock :=
  (Bench.start {}).through [⟨.compile, .acquire .empty ["b.jar", "a.jar", "b.jar"]⟩]

theorem extension_counted : ∃ c' w' entry,
    (repeatedArchive.caches.get .compile).acquire .empty ["c.jar", "a.jar", "d.jar", "c.jar"]
      repeatedArchive.world = (.ok (.reused 2), c', w') ∧
    c'.entry = some entry ∧ entry.environment.locations = ["b.jar", "a.jar", "c.jar", "d.jar"] := by
  obtain ⟨entry, hc, hlocations⟩ :
    ∃ entry, (repeatedArchive.caches.get .compile).entry = some entry ∧
      entry.environment.locations = ["b.jar", "a.jar"] := ⟨_, rfl, rfl⟩
  obtain ⟨c', w', hacquire⟩ : ∃ c' w', (repeatedArchive.caches.get .compile).acquire .empty
      ["c.jar", "a.jar", "d.jar", "c.jar"] repeatedArchive.world = (.ok (.reused 2), c', w') :=
        ⟨_, _, rfl⟩
  obtain ⟨-, -, hacquires⟩ := Bench.locations_appended ({} : Mock)
    [⟨.compile, .acquire .empty ["b.jar", "a.jar", "b.jar"]⟩]
  obtain ⟨entry₂, hc₂, -, entry₁, hc₁, -, hadded, -⟩ := hacquires .compile _ _ _ _ _ hacquire
  obtain rfl : entry = entry₁ := Option.some.inj (hc.symm.trans hc₁)
  refine ⟨c', w', entry₂, hacquire, hc₂, hadded.trans ?_⟩
  simp only [Environment.missing, hlocations]
  decide

end CompileWorker
