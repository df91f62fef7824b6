import CompileWorker.Proofs.FailedAcquire
import Mathlib.Algebra.Ring.Nat

namespace CompileWorker

namespace Event

def creations (events : List Event) : Nat := (events.filterMap created?).length

theorem creations_append (later events : List Event) :
    creations (later ++ events) = creations later + creations events := by
  simp [creations]

theorem creations_created (id : EnvironmentId) (role : Role) (events : List Event) :
    creations (.created id role :: events) = creations events + 1 := rfl

theorem creations_le (events : List Event) : creations events ≤ events.length :=
  List.length_filterMap_le _ _

theorem creations_located {events : List Event} {id : EnvironmentId}
    (h : ∀ e ∈ events, ∃ location answer, e = .located id location answer) :
    creations events = 0 := by
  rw [creations, (located_only h).1, List.length_nil]

theorem creations_build {loads released : List Event} {id : EnvironmentId}
    (hloads : ∀ e ∈ loads, ∃ location answer, e = .located id location answer)
    (hreleased : creations released = 0) (role : Role) :
    creations (loads ++ .created id role :: released) = 1 := by
  rw [creations_append, creations_located hloads, creations_created, hreleased]

end Event

namespace CacheRecord

def failedBuild (a : CacheRecord) : Bool :=
  match a.result with
  | .error (.load ..) => 0 < Event.creations a.events
  | _ => false

def added (a : CacheRecord) : Nat :=
  match a.result with
  | .ok (.reused n) => n
  | _ => 0

end CacheRecord

variable {σ : Type} [Guests σ]

theorem Environment.Grows.added_le {env env' : Environment} {w w' : World σ} {events : List Event}
    {classpath : List String} {n : Nat} (hg : env.Grows w env' w' events)
    (hl : env.loadAll w classpath = (.ok n, env', w')) : n ≤ events.length := by
  obtain ⟨henv, rfl⟩ := loadAll_ok_eq hl
  have hmissing : env.missing classpath = events.reverse.filterMap Event.loaded? := by
    have hlocations := hg.locations
    rw [henv] at hlocations
    exact List.append_cancel_left hlocations
  calc (env.missing classpath).length
      = (events.reverse.filterMap Event.loaded?).length := by rw [hmissing]
    _ ≤ events.reverse.length := List.length_filterMap_le _ _
    _ = events.length := List.length_reverse

namespace EnvironmentCache

def held (c : EnvironmentCache) : Nat := if c.isVacant then 0 else 1

theorem held_none {c : EnvironmentCache} (h : c.entry = none) : c.held = 0 := by
  simp [held, isVacant, h]

theorem held_some {c : EnvironmentCache} {entry : CacheEntry} (h : c.entry = some entry) :
    c.held = 1 := by
  simp [held, isVacant, h]

structure Books (c : EnvironmentCache) (a : CacheRecord) (c' : EnvironmentCache) : Prop where
  owned : c'.stats.discards + c'.held = c.stats.discards + c.held + Event.creations a.events
  served : c'.stats.builds + c'.stats.reuses = c.stats.builds + c.stats.reuses +
    if a.result.isOk then 1 else 0
  spent : c'.stats.builds + (if a.failedBuild then 1 else 0) = c.stats.builds +
    Event.creations a.events
  grown : c'.stats.locationsAdded = c.stats.locationsAdded + a.added
  loaded : a.added ≤ a.events.length

variable {c c₁ : EnvironmentCache} {key : DigestMap} {classpath : List String} {w w₁ : World σ}
  {acquisition : Acquisition} {events released : List Event}

theorem Vacates.creations (hv : c.Vacates key w acquisition c₁ w₁ released) :
    Event.creations released = 0 := by
  cases hv <;> rfl

theorem Vacates.books {a : CacheRecord} {c' : EnvironmentCache}
    (hv : c.Vacates key w acquisition c₁ w₁ released) (h : Books c₁ a c') : Books c a c' := by
  cases hv with
  | vacant hc => exact h
  | stale hc =>
    refine ⟨?_, h.served, h.spent, h.grown, h.loaded⟩
    rw [h.owned, held_some hc]
    rfl

theorem Vacates.added (hv : c.Vacates key w acquisition c₁ w₁ released) (a : CacheRecord)
    (ha : a.result = .ok acquisition) : a.added = 0 := by
  cases hv <;> simp [CacheRecord.added, ha]

theorem Acquires.books {out : Except CacheError Acquisition × EnvironmentCache × World σ}
    (h : Acquires c key classpath w out events) (environment : Option EnvironmentId) :
    Books c { key, classpath, result := out.1, environment, events } out.2.1 := by
  cases h with
  | reused hc _ hl hg =>
    have hcreated := Event.creations_located hg.located
    refine ⟨?_, Nat.add_assoc _ _ _ |>.symm, ?_, rfl, hg.added_le hl⟩
    · rw [hcreated, held_some hc, held_some rfl]
    · rw [hcreated]
      rfl
  | stuck hc _ hl hg =>
    have hcreated := Event.creations_located hg.located
    refine ⟨?_, rfl, ?_, rfl, Nat.zero_le _⟩
    · rw [hcreated, held_some hc, held_some rfl]
    · simp [CacheRecord.failedBuild, hcreated]
  | built hv hn hl hg =>
    have hcreated := Event.creations_build hg.located hv.creations
    have hadded : ∀ a : CacheRecord, a.result = .ok _ → a.added = 0 := hv.added
    refine hv.books ⟨?_, Nat.add_right_comm _ _ _, ?_, ?_, ?_⟩
    · rw [hcreated, held_none hv.entry, held_some rfl]
    · rw [hcreated]
      rfl
    · rw [hadded _ rfl]
      rfl
    · rw [hadded _ rfl]
      exact Nat.zero_le _
  | @notCreated _ c₁ _ _ e released hv hn =>
    have hcreated : Event.creations (.notCreated c₁.role e :: released) = 0 := hv.creations
    refine hv.books ⟨?_, rfl, ?_, rfl, Nat.zero_le _⟩
    · rw [hcreated]
      rfl
    · rw [hcreated]
      rfl
  | @unloadable _ c₁ _ _ w₃ env env' location e released loads hv hn hl hg =>
    have hcreated :
      Event.creations
        (.discarded env.id (env'.discard w₃).1 :: .located env.id location (.error e) ::
        (loads ++ .created env.id c₁.role :: released)) = 1 :=
          Event.creations_build hg.located hv.creations _
    -- what was created is gone again: it counts as discarded, and not as built
    refine hv.books ⟨?_, rfl, ?_, rfl, Nat.zero_le _⟩
    · rw [hcreated]
      exact Nat.add_right_comm _ _ _
    · simp [CacheRecord.failedBuild, hcreated, dispose]

end EnvironmentCache

namespace CacheRun

structure Balanced (r : CacheRun σ) (events : List Event) : Prop where
  owned : Event.creations events = r.cache.stats.discards + r.cache.held
  served : r.log.countP (·.result.isOk) = r.cache.stats.builds + r.cache.stats.reuses
  spent : Event.creations events = r.cache.stats.builds + r.log.countP CacheRecord.failedBuild
  grown : r.cache.stats.locationsAdded = (r.log.map CacheRecord.added).sum
  loaded : r.cache.stats.locationsAdded ≤ events.length

omit [Guests σ] in
theorem Balanced.start (role : Role) (w : World σ) : (CacheRun.start role w).Balanced [] :=
  ⟨rfl, rfl, rfl, rfl, Nat.le_refl _⟩

variable {r : CacheRun σ} {events : List Event}

theorem Balanced.acquire (h : r.Balanced events) (key : DigestMap) (classpath : List String) :
    ∃ later, (r.call (.acquire key classpath)).world.trace = later ++ r.world.trace ∧
      (r.call (.acquire key classpath)).Balanced (later ++ events) := by
  obtain ⟨later, hacq⟩ := r.cache.acquires key classpath r.world
  have hbooks := hacq.books (r.cache.acquire key classpath r.world).2.1.environmentId?
  refine ⟨later, hacq.trace, ?_⟩
  simp only [call, World.since_eq hacq.trace]
  obtain ⟨howned, hserved, hspent, hgrown, hloaded⟩ := h
  constructor
  · rw [Event.creations_append, howned, hbooks.owned, Nat.add_comm]
  · rw [List.countP_cons, hserved, hbooks.served]
  · calc Event.creations (later ++ events) =
          r.cache.stats.builds + Event.creations later + r.log.countP CacheRecord.failedBuild := by
          rw [Event.creations_append, hspent, Nat.add_comm, Nat.add_right_comm]
      _ = _ := by rw [← hbooks.spent, Nat.add_right_comm, Nat.add_assoc, ← List.countP_cons]
  · rw [hbooks.grown, hgrown, List.map_cons, List.sum_cons, Nat.add_comm]
  · rw [hbooks.grown, List.length_append, Nat.add_comm]
    exact Nat.add_le_add hbooks.loaded hloaded

theorem Balanced.invoke (h : r.Balanced events) (entryPoint payload : String) :
    ∃ later, (r.call (.invoke entryPoint payload)).world.trace = later ++ r.world.trace ∧
      (r.call (.invoke entryPoint payload)).Balanced (later ++ events) := by
  simp only [call, EnvironmentCache.invoke]
  cases hc : r.cache.entry with
  | none => exact ⟨[], rfl, h⟩
  | some entry =>
    obtain ⟨-, -, -, htrace⟩ := entry.environment.invoke_spec entryPoint payload r.world
    refine ⟨[_], htrace, ?_, h.served, ?_, h.grown, Nat.le_succ_of_le h.loaded⟩
    · exact (EnvironmentCache.held_some hc ▸ h.owned :)
    · exact h.spent

theorem Balanced.discard (h : r.Balanced events) :
    ∃ later, (r.call .discard).world.trace = later ++ r.world.trace ∧
      (r.call .discard).Balanced (later ++ events) := by
  simp only [call, EnvironmentCache.discard]
  cases hc : r.cache.entry with
  | none => exact ⟨[], rfl, h⟩
  | some entry =>
    have howned := h.owned
    rw [EnvironmentCache.held_some hc] at howned
    have hloaded := Nat.le_succ_of_le h.loaded
    exact ⟨[_], entry.environment.discard_trace r.world, howned, h.served, h.spent, h.grown,
      hloaded⟩

theorem Balanced.call (h : r.Balanced events) (call : CacheCall) :
    ∃ later, (r.call call).world.trace = later ++ r.world.trace ∧
      (r.call call).Balanced (later ++ events) := by
  cases call with
  | acquire key classpath => exact h.acquire key classpath
  | invoke entryPoint payload => exact h.invoke entryPoint payload
  | discard => exact h.discard

theorem Balanced.after (h : r.Balanced events) (calls : List CacheCall) :
    ∃ later, (r.after calls).world.trace = later ++ r.world.trace ∧
      (r.after calls).Balanced (later ++ events) := by
  induction calls generalizing r events with
  | nil => exact ⟨[], rfl, h⟩
  | cons call calls ih =>
    obtain ⟨first, hfirst, hcall⟩ := h.call call
    obtain ⟨rest, hrest, hafter⟩ := ih hcall
    refine ⟨rest ++ first, ?_, ?_⟩
    · rw [List.append_assoc, ← hfirst]
      exact hrest
    · rw [List.append_assoc]
      exact hafter

theorem log_length_le (r : CacheRun σ) (calls : List CacheCall) :
    (r.after calls).log.length ≤ r.log.length + calls.length := by
  induction calls generalizing r with
  | nil => exact Nat.le_refl _
  | cons call calls ih =>
    have hcall : (r.call call).log.length ≤ r.log.length + 1 := by
      cases call with
      | acquire => exact Nat.le_refl _
      | invoke => exact Nat.le_succ _
      | discard => exact Nat.le_succ _
    calc ((r.call call).after calls).log.length ≤ (r.call call).log.length + calls.length := ih _
      _ ≤ r.log.length + 1 + calls.length := Nat.add_le_add_right hcall _
      _ = r.log.length + (call :: calls).length := by
        rw [List.length_cons, Nat.add_assoc, Nat.add_comm 1]

/-- After any calls on a new cache: every environment that was created is discarded or in the slot;
an acquire that succeeded built or reused; what was created for an acquire is built or failed to
load; and the locations added are those the acquires told of. No counter is greater than the number
of calls or of events. -/
theorem accounts_balanced (role : Role) (w : World σ) (calls : List CacheCall) :
    let r := (CacheRun.start role w).after calls
    let stats := r.cache.stats
    let events := w.since r.world
    Event.creations events = stats.discards + (if r.cache.isVacant then 0 else 1) ∧
      r.log.countP (·.result.isOk) = stats.builds + stats.reuses ∧
      Event.creations events = stats.builds + r.log.countP CacheRecord.failedBuild ∧
      stats.locationsAdded = (r.log.map CacheRecord.added).sum ∧
      stats.builds + stats.reuses ≤ calls.length ∧ stats.discards ≤ events.length ∧
      stats.locationsAdded ≤ events.length := by
  intro r stats events
  obtain ⟨later, htrace, hbalanced⟩ := (Balanced.start role w).after calls
  rw [List.append_nil] at hbalanced
  have hevents : events = later := World.since_eq htrace
  rw [hevents]
  have hlog : r.log.length ≤ 0 + calls.length := (CacheRun.start role w).log_length_le calls
  rw [Nat.zero_add] at hlog
  refine ⟨hbalanced.owned, hbalanced.served, hbalanced.spent, hbalanced.grown, ?_, ?_,
    hbalanced.loaded⟩
  · rw [← hbalanced.served]
    exact Nat.le_trans List.countP_le_length hlog
  · calc stats.discards ≤ stats.discards + r.cache.held := Nat.le_add_right _ _
      _ = Event.creations later := hbalanced.owned.symm
      _ ≤ later.length := Event.creations_le later

example : ((start .compile { guests := Mock.failLocation "c.jar" {} }).after
    [.acquire .empty ["a.jar"],
    .acquire .empty ["a.jar", "b.jar"], .discard, .acquire .empty ["c.jar"]]).cache.stats =
      { builds := 1, reuses := 1, discards := 2, locationsAdded := 1 } := rfl

end CacheRun

end CompileWorker
