import CompileWorker.Environment.Mock
import CompileWorker.Proofs.CacheSteps
import CompileWorker.Proofs.ChannelFailure
import CompileWorker.Proofs.ClasspathOrder

namespace CompileWorker

namespace Event

def created? : Event → Option EnvironmentId
  | .created id _ => some id
  | _ => none

def discarded? : Event → Option EnvironmentId
  | .discarded id _ => some id
  | _ => none

theorem of_discarded? {e : Event} {id : EnvironmentId} (h : e.discarded? = some id) :
    ∃ answer, e = .discarded id answer := by
  cases e <;> cases h
  exact ⟨_, rfl⟩

theorem located_only {events : List Event} {id : EnvironmentId}
    (h : ∀ e ∈ events, ∃ location answer, e = .located id location answer) :
    events.filterMap created? = [] ∧ events.filterMap discarded? = [] := by
  constructor <;> refine List.filterMap_eq_nil_iff.mpr fun e he ↦
    ?_ <;> obtain ⟨location, answer, rfl⟩ := h e he <;>
    rfl

end Event

namespace Environment

/-- The locations of a classpath that are not loaded yet, each of them once. -/
def missing (env : Environment) (classpath : List String) : List String :=
  (classpath.filter (· ∉ env.locations)).eraseDups

def missingBefore (env : Environment) (location : String) (classpath : List String) : List String :=
  ((classpath.takeWhile (· ≠ location)).filter (· ∉ env.locations)).eraseDups

def grownBy (env : Environment) (locations : List String) : Environment :=
  { env with locations := env.locations ++ locations }

theorem missing_loaded {env : Environment} {l : String} (hl : l ∈ env.locations)
    (classpath : List String) : env.missing (l :: classpath) = env.missing classpath := by
  simp [missing, hl]

theorem missing_new {env : Environment} {l : String} (hl : l ∉ env.locations)
    (classpath : List String) :
    env.missing (l :: classpath) = l :: (env.grownBy [l]).missing classpath := by
  have hrest : ∀ x, (!x == l && !decide (x ∈ env.locations)) =
      !decide (x ∈ (env.grownBy [l]).locations) := by
    intro x
    by_cases hx : x = l <;> simp [grownBy, hx]
  simp [missing, hl, List.eraseDups_cons, List.filter_filter, hrest]

theorem missingBefore_self (env : Environment) (location : String) (classpath : List String) :
    env.missingBefore location (location :: classpath) = [] := by
  simp [missingBefore]

theorem missingBefore_loaded {env : Environment} {l location : String} (hl : l ∈ env.locations)
    (hne : l ≠ location) (classpath : List String) :
    env.missingBefore location (l :: classpath) = env.missingBefore location classpath := by
  rw [missingBefore, List.takeWhile_cons_of_pos (by simpa using hne)]
  exact missing_loaded hl _

theorem missingBefore_new {env : Environment} {l location : String} (hl : l ∉ env.locations)
    (hne : l ≠ location) (classpath : List String) :
    env.missingBefore location (l :: classpath) = l :: (env.grownBy [l]).missingBefore location
      classpath := by
  rw [missingBefore, List.takeWhile_cons_of_pos (by simpa using hne)]
  exact missing_new hl _

variable {σ : Type} [Guests σ]

theorem addLocation_ok_eq {env env' : Environment} {location : String} {w w' : World σ}
    {added : Bool} (h : env.addLocation location w = (.ok added, env', w')) :
    env' = if location ∈ env.locations then env else env.grownBy [location] := by
  by_cases hloaded : location ∈ env.locations
  · rw [addLocation_loaded hloaded] at h
    cases h
    rw [if_pos hloaded]
  · rw [addLocation_new hloaded] at h
    rcases hload : Guests.load env location w.guests
      with ⟨e | _, guests⟩ <;> rw [hload] at h <;> cases h
    rw [if_neg hloaded]
    rfl

theorem addLocation_added {env env' : Environment} {location : String} {w w' : World σ}
    {added : Bool} (h : env.addLocation location w = (.ok added, env', w')) :
    added = decide (location ∉ env.locations) := by
  by_cases hloaded : location ∈ env.locations
  · rw [addLocation_loaded hloaded] at h
    cases h
    simp [hloaded]
  · rw [addLocation_new hloaded] at h
    rcases hload : Guests.load env location w.guests
      with ⟨e | _, guests⟩ <;> rw [hload] at h <;> cases h
    simp [hloaded]

theorem addLocation_error_eq {env env' : Environment} {location : String} {w w' : World σ}
    {e : EnvironmentError} (h : env.addLocation location w = (.error e, env', w')) :
    env' = env := by
  by_cases hloaded : location ∈ env.locations
  · rw [addLocation_loaded hloaded] at h
    cases h
  · rw [addLocation_new hloaded] at h
    rcases hload : Guests.load env location w.guests
      with ⟨e | _, guests⟩ <;> rw [hload] at h <;> cases h
    rfl

theorem loadAll_ok_eq {env env' : Environment} {w w' : World σ} {classpath : List String} {n : Nat}
    (h : env.loadAll w classpath = (.ok n, env', w')) :
    env' = env.grownBy (env.missing classpath) ∧ n = (env.missing classpath).length := by
  induction classpath generalizing env w n with
  | nil =>
    cases h
    exact ⟨by simp [missing, grownBy], rfl⟩
  | cons l classpath ih =>
    rcases ha : env.addLocation l w with ⟨e | added, env₁, w₁⟩
    · simp [loadAll, ha] at h
    · rcases hr : env₁.loadAll w₁ classpath with ⟨failure | n₁, env₂, w₂⟩ <;>
        simp only [loadAll, ha, hr, Prod.mk.injEq, reduceCtorEq, false_and, Except.ok.injEq] at h
      obtain ⟨rfl, rfl, rfl⟩ := h
      obtain ⟨rfl, rfl⟩ := ih hr
      have henv₁ := addLocation_ok_eq ha
      have hadded := addLocation_added ha
      by_cases hl : l ∈ env.locations
      · rw [if_pos hl] at henv₁
        rw [henv₁, missing_loaded hl, hadded]
        exact ⟨rfl, by simp [hl]⟩
      · rw [if_neg hl] at henv₁
        rw [henv₁, missing_new hl, hadded]
        exact ⟨by simp [grownBy], by simp [hl, Nat.add_comm]⟩

theorem loadAll_error_eq {env env' : Environment} {w w' : World σ} {classpath : List String}
    {location : String} {e : EnvironmentError}
    (h : env.loadAll w classpath = (.error (location, e), env', w')) :
    location ∈ classpath ∧ env' = env.grownBy (env.missingBefore location classpath) := by
  obtain ⟨-, -, -, hnot⟩ := loadAll_error h
  induction classpath generalizing env w with
  | nil => cases h
  | cons l classpath ih =>
    rcases ha : env.addLocation l w with ⟨e' | added, env₁, w₁⟩
    · simp only [loadAll, ha, Prod.mk.injEq, Except.error.injEq] at h
      obtain ⟨⟨rfl, rfl⟩, rfl, rfl⟩ := h
      rw [addLocation_error_eq ha]
      exact ⟨List.mem_cons_self, by simp [missingBefore_self, grownBy]⟩
    · rcases hr : env₁.loadAll w₁ classpath with ⟨failure | n, env₂, w₂⟩ <;>
        simp only [loadAll, ha, hr, Prod.mk.injEq, reduceCtorEq, false_and, Except.error.injEq] at h
      obtain ⟨rfl, rfl, rfl⟩ := h
      obtain ⟨hmem, rfl⟩ := ih hr
      have henv₁ := addLocation_ok_eq ha
      have hne : l ≠ location := by
        rintro rfl
        refine hnot (List.mem_append_left _ ?_)
        rw [henv₁]
        split <;> simp [grownBy, *]
      refine ⟨List.mem_cons_of_mem _ hmem, ?_⟩
      by_cases hl : l ∈ env.locations
      · rw [henv₁, if_pos hl, missingBefore_loaded hl hne]
      · rw [henv₁, if_neg hl, missingBefore_new hl hne]
        simp [grownBy]

end Environment

namespace EnvironmentCache

variable {σ : Type} [Guests σ]

/-- Nothing is left: the environment in place and the one that was created, if there were any, are
discarded, each of them once in all that the trace tells. -/
structure Cleared (c : EnvironmentCache) (error : CacheError) (c' : EnvironmentCache) (w' : World σ)
    (events : List Event) : Prop where
  vacant : c'.isVacant
  created : match error with
    | .create _ _ => events.filterMap Event.created? = []
    | .load _ _ _ => ∃ id, events.filterMap Event.created? = [id]
  discarded : events.filterMap Event.discarded? = events.filterMap Event.created? ++
    c.environmentId?.toList
  once : ∀ id ∈ events.filterMap Event.discarded?, w'.trace.countP (·.discards id) = 1

/-- The environment stays in place under the key that it had, with what could be loaded before the
failure; the location that failed is remembered. -/
structure Stopped (entry : CacheEntry) (classpath : List String) (location : String)
    (c' : EnvironmentCache) (events : List Event) : Prop where
  failing : location ∈ classpath ∧ location ∉ entry.environment.locations
  kept : c'.entry = some
    { entry with
      environment := entry.environment.grownBy (entry.environment.missingBefore location classpath)
      poisoned := Sorted.insert location entry.poisoned }
  untouched : events.filterMap Event.created? = [] ∧ events.filterMap Event.discarded? = []

variable {c c' : EnvironmentCache} {key : DigestMap} {classpath : List String} {w w' w₁ : World σ}
  {error : CacheError}

theorem Vacates.released_eq {acquisition : Acquisition} {c₁ : EnvironmentCache}
    {released : List Event} (hv : c.Vacates key w acquisition c₁ w₁ released) :
    released.filterMap Event.created? = [] ∧
    released.filterMap Event.discarded? = c.environmentId?.toList ∧
      c₁.stats = { c.stats with discards := c.stats.discards +
        c.environmentId?.toList.length } := by
  cases hv with
  | vacant hc => simp [environmentId?, hc]
  | stale hc => simp [environmentId?, hc, Event.created?, Event.discarded?]

theorem failed_acquire {live : Live} {role : Role} (h : Kept live role c w)
    (hfailed : c.acquire key classpath w = (.error error, c', w')) :
    ∃ events, w'.trace = events ++ w.trace ∧
      c'.stats = { c.stats with discards := c.stats.discards +
        (events.filterMap Event.discarded?).length } ∧
      ((∃ entry location e, c.entry = some entry ∧ entry.staleLocation? key = none ∧
          error = .load c.role location e ∧ Stopped entry classpath location c' events) ∨
        c.Lacks key ∧ Cleared c error c' w' events) := by
  obtain ⟨events, hacq⟩ := c.acquires key classpath w
  have hkept := h.acquire key classpath
  have htrace := hacq.trace
  rw [hfailed] at hacq hkept htrace
  have honce : ∀ id ∈ events.filterMap Event.discarded?, w'.trace.countP (·.discards id) = 1 := by
    intro id hid
    obtain ⟨e, he, hdiscarded⟩ := List.mem_filterMap.mp hid
    obtain ⟨answer, rfl⟩ := Event.of_discarded? hdiscarded
    exact hkept.orderly.lives.discarded_once (by rw [htrace]; exact List.mem_append_left _ he)
  refine ⟨events, htrace, ?_⟩
  cases hacq with
  | @stuck entry location e env w' loads hc hs hl hg hp hnot =>
    obtain ⟨hmem, rfl⟩ := Environment.loadAll_error_eq hl
    obtain ⟨hcreated, hdiscarded⟩ := Event.located_only hg.located
    have hnew : location ∉ entry.environment.locations :=
      fun hloaded ↦ hnot (List.mem_append_left _ hloaded)
    exact ⟨by simp [hdiscarded],
      .inl ⟨entry, location, e, hc, hs, rfl, ⟨hmem, hnew⟩, rfl, hcreated, hdiscarded⟩⟩
  | @notCreated _ _ _ _ e released hv hn =>
    obtain ⟨hcreated, hdiscarded, hstats⟩ := hv.released_eq
    have hcreated' : (.notCreated c'.role e :: released).filterMap Event.created? = [] := hcreated
    have hdiscarded' : (.notCreated c'.role e :: released).filterMap Event.discarded? =
        c.environmentId?.toList :=
      hdiscarded
    refine ⟨by rw [hdiscarded', hstats],
      .inr ⟨hv.lacks, by simp [isVacant, hv.entry], hcreated', ?_, honce⟩⟩
    rw [hcreated', hdiscarded', List.nil_append]
  | @unloadable _ c₁ _ _ w₃ env env' location e released loads hv hn hl hg =>
    obtain ⟨hcreated, hdiscarded, hstats⟩ := hv.released_eq
    obtain ⟨hnone, hkeeps⟩ := Event.located_only (List.forall_mem_cons.mp hg.located).2
    have hcreated' :
      (.discarded env.id (env'.discard w₃).1 :: .located env.id location (.error e) ::
        (loads ++ .created env.id c₁.role :: released)).filterMap Event.created? = [env.id] := by
      simp [List.filterMap_cons, List.filterMap_append, Event.created?, hnone, hcreated]
    have hdiscarded' :
      (.discarded env.id (env'.discard w₃).1 :: .located env.id location (.error e) ::
        (loads ++ .created env.id c₁.role :: released)).filterMap Event.discarded? =
          env.id :: c.environmentId?.toList := by
      simp [List.filterMap_cons, List.filterMap_append, Event.discarded?, hkeeps, hdiscarded]
    refine ⟨?_, .inr ⟨hv.lacks, by simp [isVacant, hv.entry], ⟨env.id, hcreated'⟩, ?_, honce⟩⟩
    · rw [hdiscarded', hstats, List.length_cons, Nat.add_assoc]
    · rw [hcreated', hdiscarded', List.singleton_append]

end EnvironmentCache

/-- What a failed acquire leaves behind, whatever was asked of the caches of both roles before. -/
theorem Bench.acquire_failed {σ : Type} [Guests σ] (guests : σ) (steps : List CacheStep)
    (role : Role) (key : DigestMap) (classpath : List String) {error : CacheError}
    {c' : EnvironmentCache} {w' : World σ} :
    let b := (Bench.start guests).through steps
    let c := b.caches.get role
    c.acquire key classpath b.world = (.error error, c', w') →
    ∃ events, w'.trace = events ++ b.world.trace ∧
      c'.stats = { c.stats with discards := c.stats.discards +
        (events.filterMap Event.discarded?).length } ∧
      ((∃ entry location e, c.entry = some entry ∧ entry.staleLocation? key = none ∧
          error = .load c.role location e ∧
          EnvironmentCache.Stopped entry classpath location c' events) ∨
        c.Lacks key ∧ c.Cleared error c' w' events) := by
  intro b c hfailed
  have horderly : b.Orderly := (Bench.Orderly.start guests).through steps
  exact EnvironmentCache.failed_acquire (horderly.kept role) hfailed

def missingArchive : Bench Mock :=
  (Bench.start (Mock.failLocation "c.jar" {})).through [⟨.compile, .acquire .empty ["a.jar"]⟩]

theorem extension_cut_short : ∃ e c' w' entry,
    (missingArchive.caches.get .compile).acquire .empty
        ["b.jar", "a.jar", "b.jar", "c.jar", "d.jar"] missingArchive.world =
      (.error (.load .compile "c.jar" e), c', w') ∧
    c'.entry = some entry ∧ entry.environment.locations = ["a.jar", "b.jar"] := by
  obtain ⟨entry, hc, hs, hlocations⟩ :
    ∃ entry, (missingArchive.caches.get .compile).entry = some entry ∧
      entry.staleLocation? .empty = none ∧ entry.environment.locations = ["a.jar"] :=
        ⟨_, rfl, rfl, rfl⟩
  obtain ⟨e, c', w', hfailed⟩ : ∃ e c' w', (missingArchive.caches.get .compile).acquire .empty
      ["b.jar", "a.jar", "b.jar", "c.jar", "d.jar"] missingArchive.world =
        (.error (.load .compile "c.jar" e), c', w') :=
    ⟨_, _, _, rfl⟩
  obtain ⟨events, -, -, ⟨entry', location, e', hc', -, hload, hstopped⟩ | ⟨hlacks, -⟩⟩ :=
    Bench.acquire_failed _ _ .compile .empty _ hfailed
  · obtain rfl : entry = entry' := Option.some.inj (hc.symm.trans hc')
    obtain ⟨-, rfl, -⟩ := CacheError.load.inj hload
    refine ⟨e, c', w', _, hfailed, hstopped.kept, ?_⟩
    simp only [Environment.grownBy, Environment.missingBefore, hlocations]
    decide
  · exact absurd hs (hlacks entry hc)

end CompileWorker
