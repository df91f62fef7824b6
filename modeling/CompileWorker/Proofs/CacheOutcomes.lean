import CompileWorker.Cache.Basic

namespace CompileWorker

namespace Event

def environment? : Event → Option EnvironmentId
  | .created id _ | .located id _ _ | .invoked id _ _ _ | .discarded id _ | .abandoned id => some id
  | .notCreated _ _ => none

def loaded? : Event → Option String
  | .located _ location (.ok true) => some location
  | _ => none

def used? : Event → Option EnvironmentId
  | .located id _ _ | .invoked id _ _ _ => some id
  | _ => none

theorem environment?_of_used? {e : Event} {id : EnvironmentId} (h : e.used? = some id) :
    e.environment? = some id := by
  cases e <;> first | exact h | cases h

def provides : Event → Bool
  | .notCreated _ _ | .located _ _ (.error _) => false
  | _ => true

end Event

variable {σ : Type}

namespace Environment

structure Grows (env : Environment) (w : World σ) (env' : Environment) (w' : World σ)
    (events : List Event) : Prop where
  id : env'.id = env.id
  issued : w'.issued = w.issued
  trace : w'.trace = events ++ w.trace
  located : ∀ e ∈ events, ∃ location answer, e = .located env.id location answer
  locations : env'.locations = env.locations ++ events.reverse.filterMap Event.loaded?

theorem Grows.refl (env : Environment) (w : World σ) : env.Grows w env w [] :=
  ⟨rfl, rfl, rfl, by simp, by simp⟩

theorem Grows.trans {a b c : Environment} {u v w : World σ} {events later : List Event}
    (h : a.Grows u b v events) (h' : b.Grows v c w later) : a.Grows u c w (later ++ events) := by
  refine ⟨h'.id.trans h.id, h'.issued.trans h.issued, ?_, fun e he ↦ ?_, ?_⟩
  · rw [h'.trace, h.trace, List.append_assoc]
  · rcases List.mem_append.mp he with he | he
    · exact h.id ▸ h'.located e he
    · exact h.located e he
  · rw [h'.locations, h.locations, List.reverse_append, List.filterMap_append, List.append_assoc]

theorem Grows.eq_id {a b : Environment} {v w : World σ} {events : List Event}
    (h : a.Grows v b w events) {id : EnvironmentId} {location : String}
    {answer : Except EnvironmentError Bool} (he : .located id location answer ∈ events) :
    id = a.id := by
  obtain ⟨location', answer', heq⟩ := h.located _ he
  cases heq
  rfl

theorem Grows.number_le {a b : Environment} {v w : World σ} {events : List Event}
    (h : a.Grows v b w events) (hnumber : a.id.number ≤ v.issued) {id : EnvironmentId}
    {location : String} {answer : Except EnvironmentError Bool}
    (he : .located id location answer ∈ events) : id.number ≤ w.issued := by
  rw [h.eq_id he, h.issued]
  exact hnumber

theorem Grows.mem_locations {a b : Environment} {v w : World σ} {events : List Event}
    (h : a.Grows v b w events) {id : EnvironmentId} {location : String}
    (he : .located id location (.ok true) ∈ events) : location ∈ b.locations := by
  rw [h.locations]
  exact List.mem_append_right _ (List.mem_filterMap.mpr ⟨_, List.mem_reverse.mpr he, rfl⟩)

theorem Grows.locations_subset {a b : Environment} {v w : World σ} {events : List Event}
    (h : a.Grows v b w events) : a.locations ⊆ b.locations := by
  rw [h.locations]
  exact List.subset_append_left _ _

end Environment

variable [Guests σ]

namespace World

theorem create_ok {w w' : World σ} {role : Role} {env : Environment}
    (h : w.create role = (.ok env, w')) :
    env = { id := ⟨w.issued + 1⟩, role } ∧ w'.issued = w.issued + 1 ∧
      w'.trace = .created ⟨w.issued + 1⟩ role :: w.trace := by
  unfold create at h
  cases hg : Guests.start ⟨w.issued + 1⟩ role w.guests with
  | mk start guests =>
    cases start <;> simp only [hg, Prod.mk.injEq, Except.ok.injEq, reduceCtorEq, false_and] at h
    obtain ⟨rfl, rfl⟩ := h
    exact ⟨rfl, rfl, rfl⟩

theorem create_error {w w' : World σ} {role : Role} {e : EnvironmentError}
    (h : w.create role = (.error e, w')) :
    w.issued ≤ w'.issued ∧ w'.trace = .notCreated role e :: w.trace := by
  unfold create at h
  cases hg : Guests.start ⟨w.issued + 1⟩ role w.guests with
  | mk start guests =>
    cases start <;> simp only [hg, Prod.mk.injEq, Except.error.injEq, reduceCtorEq, false_and] at h
    · obtain ⟨rfl, rfl⟩ := h
      exact ⟨Nat.le_succ _, rfl⟩
    · obtain ⟨rfl, rfl⟩ := h
      exact ⟨Nat.le_refl _, rfl⟩

end World

namespace Environment

@[simp] theorem discard_issued (env : Environment) (w : World σ) :
    (env.discard w).2.issued = w.issued := rfl

theorem discard_trace (env : Environment) (w : World σ) :
    (env.discard w).2.trace = .discarded env.id (env.discard w).1 :: w.trace := rfl

theorem invoke_spec (env : Environment) (entryPoint payload : String) (w : World σ) :
    (env.invoke entryPoint payload w).2.1.id = env.id ∧
      (env.invoke entryPoint payload w).2.1.locations = env.locations ∧
      (env.invoke entryPoint payload w).2.2.issued = w.issued ∧
      (env.invoke entryPoint payload w).2.2.trace =
        .invoked env.id entryPoint payload (env.invoke entryPoint payload w).1 :: w.trace :=
  ⟨rfl, rfl, rfl, rfl⟩

theorem addLocation_grows (env : Environment) (location : String) (w : World σ) :
    env.Grows w (env.addLocation location w).2.1 (env.addLocation location w).2.2
      [.located env.id location (env.addLocation location w).1] := by
  unfold addLocation
  split
  · exact ⟨rfl, rfl, rfl, by simp, by simp [Event.loaded?]⟩
  · split
    · exact ⟨rfl, rfl, rfl, by simp, by simp [Event.loaded?]⟩
    · exact ⟨rfl, rfl, rfl, by simp, by simp [Event.loaded?]⟩

theorem addLocation_loaded {env : Environment} {location : String} (h : location ∈ env.locations)
    (w : World σ) :
    env.addLocation location w =
      (.ok false, env, w.record (.located env.id location (.ok false)) w.guests) := by
  simp [addLocation, hasLocation, h]

theorem addLocation_new {env : Environment} {location : String} (h : location ∉ env.locations)
    (w : World σ) :
    env.addLocation location w =
      match Guests.load env location w.guests with
      | (.ok (), guests) =>
        (.ok true, { env with locations := env.locations ++ [location] },
         w.record (.located env.id location (.ok true)) guests)
      | (.error e, guests) =>
        (.error e, env, w.record (.located env.id location (.error e)) guests) := by
  unfold addLocation
  exact if_neg (by simpa [hasLocation] using h)

theorem addLocation_error {env env' : Environment} {location : String} {w w' : World σ}
    {e : EnvironmentError} (h : env.addLocation location w = (.error e, env', w')) :
    location ∉ env'.locations := by
  unfold addLocation at h
  split at h
  · simp at h
  · rename_i hnot
    split at h
    · simp at h
    · obtain ⟨-, rfl, -⟩ := Prod.mk.inj h |>.imp_right Prod.mk.inj
      simpa [hasLocation] using hnot

/-- Loading a classpath stops at the first failure; what failed is not loaded. -/
theorem loadAll_spec (env : Environment) (w : World σ) (classpath : List String) :
    match env.loadAll w classpath with
    | (.ok _, env', w') => ∃ events, env.Grows w env' w' events ∧ ∀ e ∈ events, e.provides
    | (.error (location, e), env', w') =>
      ∃ events, env.Grows w env' w' (.located env.id location (.error e) :: events) ∧
        (∀ e ∈ events, e.provides) ∧
        location ∉ env'.locations := by
  fun_induction env.loadAll w classpath with
  | case1 env w => exact ⟨[], .refl env w, by simp⟩
  | case2 env w location classpath e env₁ w₁ ha =>
    have hfirst := addLocation_grows env location w
    rw [ha] at hfirst
    exact ⟨[], hfirst, by simp, addLocation_error ha⟩
  | case3 env w location classpath added env₁ w₁ ha failure env₂ w₂ hr ih =>
    have hfirst := addLocation_grows env location w
    rw [ha] at hfirst
    rw [hr] at ih
    obtain ⟨events, hgrows, hall, hnot⟩ := ih
    rw [hfirst.id] at hgrows
    exact ⟨_, hfirst.trans hgrows, List.forall_mem_append.mpr ⟨hall, by simp [Event.provides]⟩,
      hnot⟩
  | case4 env w location classpath added env₁ w₁ ha n env₂ w₂ hr ih =>
    have hfirst := addLocation_grows env location w
    rw [ha] at hfirst
    rw [hr] at ih
    obtain ⟨events, hgrows, hall⟩ := ih
    exact ⟨_, hfirst.trans hgrows, List.forall_mem_append.mpr ⟨hall, by simp [Event.provides]⟩⟩

theorem loadAll_ok {env env' : Environment} {w w' : World σ} {classpath : List String} {n : Nat}
    (h : env.loadAll w classpath = (.ok n, env', w')) :
    ∃ events, env.Grows w env' w' events ∧ ∀ e ∈ events, e.provides := by
  have hspec := loadAll_spec env w classpath
  rwa [h] at hspec

theorem loadAll_error {env env' : Environment} {w w' : World σ} {classpath : List String}
    {location : String} {e : EnvironmentError}
    (h : env.loadAll w classpath = (.error (location, e), env', w')) :
    ∃ events, env.Grows w env' w' (.located env.id location (.error e) :: events) ∧
      (∀ e ∈ events, e.provides) ∧
      location ∉ env'.locations := by
  have hspec := loadAll_spec env w classpath
  rwa [h] at hspec

end Environment

theorem CacheEntry.staleLocation?_eq_none_iff {entry : CacheEntry} {key : DigestMap} :
    entry.staleLocation? key = none ↔
      (∀ location ∈ entry.poisoned, key.get? location = none) ∧ entry.key.compare key = .agree := by
  unfold CacheEntry.staleLocation?
  cases hp : entry.poisoned.find? key.contains with
  | some location =>
    have hmem := List.mem_of_find?_eq_some hp
    have hkey := List.find?_some hp
    simp only [DigestMap.contains, Option.isSome_iff_ne_none] at hkey
    simpa using fun h ↦ absurd (h location hmem) hkey
  | none =>
    have hall : ∀ location ∈ entry.poisoned, key.get? location = none := by
      simpa [DigestMap.contains] using List.find?_eq_none.mp hp
    cases hc : entry.key.compare key with
    | agree => simpa using hall
    | differ location recorded requested => simp

namespace EnvironmentCache

def environmentId? (c : EnvironmentCache) : Option EnvironmentId := c.entry.map (·.environment.id)

/-- How a slot comes to be vacant before a build, what the build is called then, and the events. -/
inductive Vacates (c : EnvironmentCache) (key : DigestMap) (w : World σ) :
    Acquisition → EnvironmentCache → World σ → List Event → Prop
  | vacant (hc : c.entry = none) : Vacates c key w .built c w []
  | stale {entry : CacheEntry} {location : String} (hc : c.entry = some entry)
      (hs : entry.staleLocation? key = some location) :
      Vacates c key w (.rebuilt location)
        { c with entry := none, stats := { c.stats with discards := c.stats.discards + 1 } }
        (entry.environment.discard w).2
          [.discarded entry.environment.id (entry.environment.discard w).1]

/-- What an acquire comes to, with its events, the newest first. -/
inductive Acquires (c : EnvironmentCache) (key : DigestMap) (classpath : List String)
    (w : World σ) :
    Except CacheError Acquisition × EnvironmentCache × World σ → List Event → Prop
  | reused {entry : CacheEntry} {added : Nat} {env : Environment} {w' : World σ}
      {loads : List Event} (hc : c.entry = some entry) (hs : entry.staleLocation? key = none)
      (hl : entry.environment.loadAll w classpath = (.ok added, env, w'))
      (hg : entry.environment.Grows w env w' loads) (hp : ∀ e ∈ loads, e.provides) :
      Acquires c key classpath w
        (.ok (.reused added),
         { c with
           entry := some { entry with environment := env, key := entry.key.merge key }
           stats :=
             { c.stats with
               reuses := c.stats.reuses + 1
               locationsAdded := c.stats.locationsAdded + added } },
         w')
        loads
  | stuck {entry : CacheEntry} {location : String} {e : EnvironmentError} {env : Environment}
      {w' : World σ}
      {loads : List Event} (hc : c.entry = some entry) (hs : entry.staleLocation? key = none)
      (hl : entry.environment.loadAll w classpath = (.error (location, e), env, w'))
      (hg : entry.environment.Grows w env w'
        (.located entry.environment.id location (.error e) :: loads))
      (hp : ∀ e ∈ loads, e.provides) (hnot : location ∉ env.locations) :
      Acquires c key classpath w
        (.error (.load c.role location e),
         { c with
           entry := some
             { entry with
               environment := env
               poisoned := Sorted.insert location entry.poisoned } },
         w')
        (.located entry.environment.id location (.error e) :: loads)
  | built {acquisition : Acquisition} {c₁ : EnvironmentCache} {w₁ w₂ w₃ : World σ}
      {env env' : Environment} {n : Nat}
      {released loads : List Event} (hv : Vacates c key w acquisition c₁ w₁ released)
      (hn : w₁.create c₁.role = (.ok env, w₂)) (hl : env.loadAll w₂ classpath = (.ok n, env', w₃))
      (hg : env.Grows w₂ env' w₃ loads) (hp : ∀ e ∈ loads, e.provides) :
      Acquires c key classpath w
        (.ok acquisition,
         { c₁ with
           entry := some { environment := env', key }
           stats := { c₁.stats with builds := c₁.stats.builds + 1 } },
         w₃)
        (loads ++ .created env.id c₁.role :: released)
  | notCreated {acquisition : Acquisition} {c₁ : EnvironmentCache} {w₁ w₂ : World σ}
      {e : EnvironmentError} {released : List Event}
      (hv : Vacates c key w acquisition c₁ w₁ released) (hn : w₁.create c₁.role = (.error e, w₂)) :
      Acquires c key classpath w (.error (.create c₁.role e), c₁, w₂)
        (.notCreated c₁.role e :: released)
  | unloadable {acquisition : Acquisition} {c₁ : EnvironmentCache} {w₁ w₂ w₃ : World σ}
      {env env' : Environment} {location : String} {e : EnvironmentError}
      {released loads : List Event} (hv : Vacates c key w acquisition c₁ w₁ released)
      (hn : w₁.create c₁.role = (.ok env, w₂))
      (hl : env.loadAll w₂ classpath = (.error (location, e), env', w₃))
      (hg : env.Grows w₂ env' w₃ (.located env.id location (.error e) :: loads))
      (hp : ∀ e ∈ loads, e.provides) :
      Acquires c key classpath w (.error (.load c₁.role location e), c₁.dispose env' w₃)
        (.discarded env.id (env'.discard w₃).1 :: .located env.id location (.error e) ::
          (loads ++ .created env.id c₁.role :: released))

variable {c c₁ : EnvironmentCache} {key : DigestMap} {classpath : List String} {w w₁ : World σ}
  {acquisition : Acquisition} {released : List Event}

theorem Vacates.build (hv : Vacates c key w acquisition c₁ w₁ released) :
    ∃ events, Acquires c key classpath w (c₁.build key classpath acquisition w₁) events := by
  unfold EnvironmentCache.build
  split
  · rename_i e w₂ hn
    exact ⟨_, .notCreated hv hn⟩
  · rename_i env w₂ hn
    split
    · rename_i location e env' w₃ hl
      obtain ⟨loads, hg, hp, -⟩ := Environment.loadAll_error hl
      exact ⟨_, .unloadable hv hn hl hg hp⟩
    · rename_i n env' w₃ hl
      obtain ⟨loads, hg, hp⟩ := Environment.loadAll_ok hl
      exact ⟨_, .built hv hn hl hg hp⟩

theorem acquires (c : EnvironmentCache) (key : DigestMap) (classpath : List String) (w : World σ) :
    ∃ events, Acquires c key classpath w (c.acquire key classpath w) events := by
  unfold acquire
  cases hc : c.entry with
  | none => exact (Vacates.vacant hc).build
  | some entry =>
    simp only
    cases hs : entry.staleLocation? key with
    | none =>
      simp only [extend]
      split
      · rename_i added env w' hl
        obtain ⟨loads, hg, hp⟩ := Environment.loadAll_ok hl
        exact ⟨loads, .reused hc hs hl hg hp⟩
      · rename_i location e env w' hl
        obtain ⟨loads, hg, hp, hnot⟩ := Environment.loadAll_error hl
        exact ⟨_, .stuck hc hs hl hg hp hnot⟩
    | some location =>
      simp only [discard, hc]
      exact (Vacates.stale hc hs).build

theorem discard_entry (c : EnvironmentCache) (w : World σ) : (c.discard w).2.1.entry = none := by
  unfold discard
  cases hc : c.entry with
  | none => exact hc
  | some entry => rfl

namespace Vacates

theorem entry (hv : Vacates c key w acquisition c₁ w₁ released) : c₁.entry = none := by
  cases hv with
  | vacant hc => exact hc
  | stale hc hs => rfl

theorem role (hv : Vacates c key w acquisition c₁ w₁ released) :
    c₁.role = c.role := by cases hv <;> rfl

theorem issued (hv : Vacates c key w acquisition c₁ w₁ released) :
    w₁.issued = w.issued := by cases hv <;> rfl

theorem trace (hv : Vacates c key w acquisition c₁ w₁ released) :
    w₁.trace = released ++ w.trace := by
  cases hv <;> rfl

/-- At most a discard happens before a build. -/
theorem unused (hv : Vacates c key w acquisition c₁ w₁ released) :
    ∀ e ∈ released, e.used? = none := by
  cases hv <;> simp [Event.used?]

theorem created_unused (hv : Vacates c key w acquisition c₁ w₁ released) {id : EnvironmentId}
    {role : Role} : ∀ e ∈ .created id role :: released, e.used? = none :=
  List.forall_mem_cons.mpr ⟨rfl, hv.unused⟩

theorem ne_reused (hv : Vacates c key w acquisition c₁ w₁ released) (n : Nat) :
    acquisition ≠ .reused n := by
  cases hv <;> simp

theorem create_ok {w₂ : World σ} {env : Environment}
    (hv : Vacates c key w acquisition c₁ w₁ released) (hn : w₁.create c₁.role = (.ok env, w₂)) :
    env = { id := ⟨w.issued + 1⟩, role := c.role } ∧ w₂.issued = w.issued + 1 ∧
      w₂.trace = .created env.id c₁.role :: released ++ w.trace := by
  obtain ⟨rfl, hissued, htrace⟩ := World.create_ok hn
  exact ⟨by rw [hv.issued, hv.role], by rw [hissued, hv.issued], by rw [htrace, hv.trace,
    List.cons_append]⟩

end Vacates

namespace Acquires

variable {out : Except CacheError Acquisition × EnvironmentCache × World σ} {events : List Event}

theorem trace (h : Acquires c key classpath w out events) : out.2.2.trace = events ++ w.trace := by
  cases h with
  | reused hc hs hl hg => exact hg.trace
  | stuck hc hs hl hg => exact hg.trace
  | built hv hn hl hg => rw [hg.trace, (hv.create_ok hn).2.2, List.append_assoc]
  | notCreated hv hn => rw [(World.create_error hn).2, hv.trace, List.cons_append]
  | unloadable hv hn hl hg =>
    rw [dispose, Environment.discard_trace, hg.trace, hg.id, (hv.create_ok hn).2.2]
    simp

theorem issued_le (h : Acquires c key classpath w out events) : w.issued ≤ out.2.2.issued := by
  cases h with
  | reused hc hs hl hg => exact Nat.le_of_eq hg.issued.symm
  | stuck hc hs hl hg => exact Nat.le_of_eq hg.issued.symm
  | built hv hn hl hg => exact hg.issued ▸ (hv.create_ok hn).2.1 ▸ Nat.le_succ _
  | notCreated hv hn => exact hv.issued ▸ (World.create_error hn).1
  | unloadable hv hn hl hg => exact hg.issued ▸ (hv.create_ok hn).2.1 ▸ Nat.le_succ _

end Acquires

theorem live_of_acquire {c' : EnvironmentCache} {w' : World σ}
    (h : c.acquire key classpath w = (.ok acquisition, c', w')) :
    ∃ id, c'.environmentId? = some id := by
  obtain ⟨events, hacq⟩ := c.acquires key classpath w
  rw [h] at hacq
  cases hacq with
  | reused | built => exact ⟨_, rfl⟩

theorem invoke_of_live {id : EnvironmentId} (hid : c.environmentId? = some id)
    (entryPoint payload : String) (w : World σ) :
    (c.invoke entryPoint payload w).2.1.environmentId? = some id ∧
      (c.invoke entryPoint payload w).2.2.trace =
        .invoked id entryPoint payload (c.invoke entryPoint payload w).1 :: w.trace := by
  obtain ⟨entry, hc, rfl⟩ := Option.map_eq_some_iff.mp hid
  simp only [invoke, hc]
  exact ⟨rfl, rfl⟩

theorem discard_of_live {id : EnvironmentId} (hid : c.environmentId? = some id) (w : World σ) :
    ∃ answer, (c.discard w).2.2.trace = .discarded id answer :: w.trace := by
  obtain ⟨entry, hc, rfl⟩ := Option.map_eq_some_iff.mp hid
  simp only [discard, hc]
  exact ⟨_, rfl⟩

end EnvironmentCache

end CompileWorker
