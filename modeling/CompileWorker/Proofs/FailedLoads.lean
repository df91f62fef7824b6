import CompileWorker.Environment.Faults
import CompileWorker.Proofs.ReuseDecision
import Mathlib.Data.List.Forall2

namespace CompileWorker

variable {σ : Type}

def FailedIn (log : List CacheRecord) (id : EnvironmentId) (l : String) : Prop :=
  ∃ a ∈ log, ∃ e, .located id l (.error e) ∈ a.events

theorem failedIn_cons {log : List CacheRecord} {a : CacheRecord} {id : EnvironmentId} {l : String} :
    FailedIn (a :: log) id l ↔ (∃ e, .located id l (.error e) ∈ a.events) ∨ FailedIn log id l := by
  simp [FailedIn]

theorem Event.not_failed_of_provides {events : List Event} (h : ∀ e ∈ events, e.provides)
    (id : EnvironmentId) (l : String) : ¬ ∃ e, .located id l (.error e) ∈ events := by
  rintro ⟨e, he⟩
  exact absurd (h _ he) Bool.false_ne_true

namespace CacheRecord

/-- The environment was discarded, then a fresh one was asked for; whatever came of that, the old
one is not in use. -/
structure Replaced (id : EnvironmentId) (a : CacheRecord) : Prop where
  begins : ∃ later creation answer, a.events = later ++ [creation, .discarded id answer] ∧
    ((∃ id' role, creation = .created id' role) ∨ ∃ role e, creation = .notCreated role e)
  renewed : ∀ acquisition, a.result = .ok acquisition →
    ∃ l id', acquisition = .rebuilt l ∧ a.environment = some id' ∧ id' ≠ id
  vacant : ¬ a.result.isOk → a.environment = none

/-- The environment was kept, and asked for one location of the classpath after the other up to the
first failure. -/
structure Retained (id : EnvironmentId) (a : CacheRecord) : Prop where
  kept : a.environment = some id
  asks : ∃ asked rest, a.classpath = asked ++ rest ∧
    asked.Forall₂ (fun l e ↦ ∃ answer, e = .located id l answer) a.events.reverse ∧
    (rest ≠ [] → ∃ l e, a.events.head? = some (.located id l (.error e)))

theorem Replaced.not_retained {id : EnvironmentId} {a : CacheRecord} (h : a.Replaced id) :
    ¬ a.Retained id := by
  intro hr
  cases hres : a.result with
  | error e =>
    have hnone := h.vacant (by simp [hres, Except.isOk, Except.toBool])
    rw [hr.kept] at hnone
    cases hnone
  | ok acquisition =>
    obtain ⟨l, id', -, henv, hne⟩ := h.renewed acquisition hres
    rw [hr.kept] at henv
    exact hne (Option.some.inj henv).symm

end CacheRecord

variable [Guests σ]

/-- A classpath is loaded in its order, up to the first location that fails. -/
theorem Environment.loadAll_asks (env : Environment) (w : World σ) (classpath : List String) :
    ∃ asked rest loads, classpath = asked ++ rest ∧
      (env.loadAll w classpath).2.2.trace = loads ++ w.trace ∧
      asked.Forall₂ (fun l e ↦ ∃ answer, e = .located env.id l answer) loads.reverse ∧
      (rest ≠ [] → ∃ l e, loads.head? = some (.located env.id l (.error e))) := by
  fun_induction env.loadAll w classpath with
  | case1 env w => exact ⟨[], [], [], rfl, rfl, .nil, fun h ↦ absurd rfl h⟩
  | case2 env w location classpath e env₁ w₁ ha =>
    have hfirst := addLocation_grows env location w
    rw [ha] at hfirst
    exact ⟨[location], classpath, _, rfl, hfirst.trace, .cons ⟨_, rfl⟩ .nil, fun _ ↦ ⟨_, _, rfl⟩⟩
  | case3 env w location classpath added env₁ w₁ ha _ env₂ w₂ hr ih
  | case4 env w location classpath added env₁ w₁ ha _ env₂ w₂ hr ih =>
    have hfirst := addLocation_grows env location w
    rw [ha] at hfirst
    rw [hr, hfirst.id] at ih
    obtain ⟨asked, rest, loads, rfl, htrace, hasked, hrest⟩ := ih
    refine ⟨location :: asked, rest, loads ++ [.located env.id location (.ok added)], rfl, ?_, ?_,
      fun hne ↦ ?_⟩
    · rw [htrace, hfirst.trace, List.append_assoc]
    · rw [List.reverse_append]
      exact .cons ⟨_, rfl⟩ hasked
    · obtain ⟨l, e, hhead⟩ := hrest hne
      exact ⟨l, e, by rw [List.head?_append, hhead, Option.some_or]⟩

namespace CacheRun

def recordOf (r : CacheRun σ) (key : DigestMap) (classpath : List String) : CacheRecord where
  key := key
  classpath := classpath
  result := (r.cache.acquire key classpath r.world).1
  environment := (r.cache.acquire key classpath r.world).2.1.environmentId?
  events := r.world.since (r.cache.acquire key classpath r.world).2.2

theorem log_acquire (r : CacheRun σ) (key : DigestMap) (classpath : List String) :
    (r.call (.acquire key classpath)).log = r.recordOf key classpath :: r.log := rfl

omit [Guests σ] in
def Remembers (r : CacheRun σ) : Prop :=
  ∀ entry, r.cache.entry = some entry → ∀ l, l ∈ entry.poisoned ↔
    FailedIn r.log entry.environment.id l

theorem Remembers.acquire {r : CacheRun σ} (h : r.Remembers) (hf : Faithful r) (key : DigestMap)
    (classpath : List String) : (r.call (.acquire key classpath)).Remembers := by
  obtain ⟨events, hacq⟩ := r.cache.acquires key classpath r.world
  intro entry' hc' l
  rw [log_acquire, failedIn_cons, recordOf, World.since_eq hacq.trace]
  simp only [call] at hc'
  generalize r.cache.acquire key classpath r.world = out at hacq hc'
  cases hacq with
  | reused hc hs hl hg hp =>
    cases hc'
    rw [hg.id, or_iff_right (Event.not_failed_of_provides hp _ l)]
    exact h _ hc l
  | @stuck entry location e env w' loads hc hs hl hg hp hnot =>
    cases hc'
    have hnew : (∃ e', Event.located entry.environment.id l (.error e') ∈
        .located entry.environment.id location (.error e) :: loads) ↔ l = location := by
      constructor
      · rintro ⟨e', he'⟩
        rcases List.mem_cons.mp he' with heq | hold
        · cases heq
          rfl
        · exact absurd ⟨e', hold⟩ (Event.not_failed_of_provides hp _ l)
      · rintro rfl
        exact ⟨e, List.mem_cons_self⟩
    rw [hg.id, hnew, Sorted.mem_insert, h _ hc l]
  | @built acquisition c₁ w₁ w₂ w₃ env env' n released loads hv hn hl hg hp =>
    cases hc'
    obtain ⟨rfl, -, -⟩ := hv.create_ok hn
    rw [hg.id]
    -- nothing was ever asked of an environment with the new number
    have hold : ¬ FailedIn r.log ⟨r.world.issued + 1⟩ l := by
      rintro ⟨b, hb, e, he⟩
      exact absurd (hf.numbered b hb _ l _ he) (Nat.not_succ_le_self _)
    have hnew : ¬ ∃ e, Event.located ⟨r.world.issued + 1⟩ l (.error e) ∈
        loads ++ .created ⟨r.world.issued + 1⟩ c₁.role :: released := by
      rintro ⟨e, he⟩
      exact Event.not_failed_of_provides hp _ l ⟨e, mem_of_append_unused hv.created_unused rfl he⟩
    exact (iff_false_right (not_or.mpr ⟨hnew, hold⟩)).mpr List.not_mem_nil
  | notCreated hv hn =>
    rw [hv.entry] at hc'
    cases hc'
  | unloadable hv hn hl hg =>
    rw [EnvironmentCache.dispose, hv.entry] at hc'
    cases hc'

theorem Remembers.call {r : CacheRun σ} (h : r.Remembers) (hf : Faithful r) :
    ∀ call, (r.call call).Remembers
  | .acquire key classpath => h.acquire hf key classpath
  | .invoke entryPoint payload => by
    intro entry' hc' l
    simp only [CacheRun.call, EnvironmentCache.invoke] at hc' ⊢
    cases hc : r.cache.entry with
    | none => simp [hc] at hc'
    | some entry =>
      simp only [hc, Option.some.injEq] at hc' ⊢
      obtain rfl := hc'
      obtain ⟨hid, -⟩ := entry.environment.invoke_spec entryPoint payload r.world
      rw [hid]
      exact h entry hc l
  | .discard => by
    intro entry' hc'
    have hvacant : (r.call .discard).cache.entry = none := r.cache.discard_entry r.world
    rw [hvacant] at hc'
    cases hc'

theorem Reachable.remembers {r : CacheRun σ} (h : r.Reachable) : r.Remembers := by
  obtain ⟨role, w, calls, rfl⟩ := h
  have hrun : ∀ (calls : List CacheCall) (r : CacheRun σ), r.Remembers → Faithful r →
      (r.after calls).Remembers := by
    intro calls
    induction calls with
    | nil => exact fun _ h _ ↦ h
    | cons call calls ih => exact fun r h hf ↦ ih (r.call call) (h.call hf call) (hf.call call)
  exact hrun calls _ (by simp [Remembers, start]) (Faithful.start role w)

variable {r : CacheRun σ} {id : EnvironmentId} {entry : CacheEntry}

/-- Why an acquire with this key would not be served by the live environment: it tracks a location
that failed to load there, or it disagrees with a request that the environment was built for or
reused for. -/
def Due (r : CacheRun σ) (id : EnvironmentId) (key : DigestMap) : Prop :=
  (∃ l, FailedIn r.log id l ∧ key.contains l) ∨ ∃ b ∈ sinceBuild r.log, ¬ b.key.Agrees key

theorem Reachable.due_iff (hr : r.Reachable) (hc : r.cache.entry = some entry) (key : DigestMap) :
    r.Due entry.environment.id key ↔ entry.staleLocation? key ≠ none := by
  have hfailed : (∃ l, FailedIn r.log entry.environment.id l ∧ key.contains l) ↔
      ¬ ∀ l ∈ entry.poisoned, key.get? l = none := by
    simp [hr.remembers entry hc, DigestMap.contains, Option.isSome_iff_ne_none]
  have hagrees : (∃ b ∈ sinceBuild r.log, ¬ b.key.Agrees key) ↔
      ¬ entry.key.compare key = .agree := by
    rw [DigestMap.compare_eq_agree_iff, ← served_of_some hc]
    simp only [DigestMap.Agrees, hr.faithful.differsAt_iff hc, not_forall, not_not]
    constructor
    · rintro ⟨b, hb, l, hl⟩
      exact ⟨l, b, hb, hl⟩
    · rintro ⟨l, b, hb, hl⟩
      exact ⟨b, hb, l, hl⟩
  rw [Due, hfailed, hagrees, ne_eq, CacheEntry.staleLocation?_eq_none_iff, not_and_or]

theorem Reachable.replaced_of_stale (hr : r.Reachable) (hc : r.cache.entry = some entry)
    {key : DigestMap} (hs : entry.staleLocation? key ≠ none) (classpath : List String) :
    (r.recordOf key classpath).Replaced entry.environment.id := by
  have hnumber := (hr.faithful.backed entry hc).number
  obtain ⟨events, hacq⟩ := r.cache.acquires key classpath r.world
  simp only [recordOf, World.since_eq hacq.trace]
  generalize r.cache.acquire key classpath r.world = out at hacq
  cases hacq with
  | reused hc' hs' | stuck hc' hs' =>
    obtain rfl := Option.some.inj (hc.symm.trans hc')
    exact absurd hs' hs
  | built hv hn hl hg =>
    cases hv with
    | vacant hc' => simp [hc] at hc'
    | @stale _ location hc' =>
      obtain rfl := Option.some.inj (hc.symm.trans hc')
      obtain ⟨rfl, -, -⟩ := World.create_ok hn
      refine ⟨⟨_, _, _, rfl, .inl ⟨_, _, rfl⟩⟩, fun acquisition hres ↦ ?_,
        fun hres ↦ absurd rfl hres⟩
      cases hres
      refine ⟨location, _, rfl, congrArg some hg.id, ?_⟩
      rintro heq
      rw [← heq] at hnumber
      exact Nat.not_succ_le_self _ hnumber
  | notCreated hv hn =>
    cases hv with
    | vacant hc' => simp [hc] at hc'
    | stale hc' =>
      obtain rfl := Option.some.inj (hc.symm.trans hc')
      exact ⟨⟨[], _, _, rfl, .inr ⟨_, _, rfl⟩⟩, nofun, fun _ ↦ rfl⟩
  | @unloadable _ _ _ _ _ _ _ location e released loads hv hn hl hg =>
    cases hv with
    | vacant hc' => simp [hc] at hc'
    | stale hc' =>
      obtain rfl := Option.some.inj (hc.symm.trans hc')
      exact ⟨⟨_ :: _ :: loads, _, _, rfl, .inl ⟨_, _, rfl⟩⟩, nofun, fun _ ↦ rfl⟩

theorem retained_of_not_stale (hc : r.cache.entry = some entry) {key : DigestMap}
    (hs : entry.staleLocation? key = none) (classpath : List String) :
    (r.recordOf key classpath).Retained entry.environment.id := by
  obtain ⟨asked, rest, asks, hclasspath, htrace, hasked, hrest⟩ :=
    entry.environment.loadAll_asks r.world classpath
  obtain ⟨events, hacq⟩ := r.cache.acquires key classpath r.world
  simp only [recordOf, World.since_eq hacq.trace]
  generalize r.cache.acquire key classpath r.world = out at hacq
  cases hacq with
  | reused hc' hs' hl hg | stuck hc' hs' hl hg =>
    obtain rfl := Option.some.inj (hc.symm.trans hc')
    rw [hl] at htrace
    obtain rfl := List.append_cancel_right (hg.trace.symm.trans htrace)
    exact ⟨congrArg some hg.id, asked, rest, hclasspath, hasked, hrest⟩
  | built hv | notCreated hv | unloadable hv =>
    cases hv with
    | vacant hc' => simp [hc] at hc'
    | stale hc' hs' =>
      obtain rfl := Option.some.inj (hc.symm.trans hc')
      simp [hs] at hs'

/-- What a live environment is replaced for: once a location failed to load into it, it is
discarded, and a fresh one is asked for, as soon as an acquire has a digest for that location. An
acquire that has none for any such location is served by it, or asks it again for what failed,
unless it disagrees with one that was served before. -/
theorem acquire_after_failures (hr : r.Reachable) (hid : r.cache.environmentId? = some id)
    (key : DigestMap) (classpath : List String) :
    (r.call (.acquire key classpath)).log = r.recordOf key classpath :: r.log ∧
      ((r.recordOf key classpath).Replaced id ↔ r.Due id key) ∧
      ((r.recordOf key classpath).Retained id ↔ ¬ r.Due id key) := by
  obtain ⟨entry, hc, rfl⟩ := Option.map_eq_some_iff.mp hid
  refine ⟨log_acquire r key classpath, ?_⟩
  rw [hr.due_iff hc, not_not]
  by_cases hs : entry.staleLocation? key = none
  · have hretained := retained_of_not_stale hc hs classpath
    exact ⟨iff_of_false (fun h ↦ h.not_retained hretained) (not_not.mpr hs),
      iff_of_true hretained hs⟩
  · have hreplaced := hr.replaced_of_stale hc hs classpath
    exact ⟨iff_of_true hreplaced hs, iff_of_false hreplaced.not_retained hs⟩

def failingOnce : Faulty Mock :=
  { guests := {}, faults := [⟨.load, "b.jar", .resolution "b.jar" "No such file"⟩] }

def unguarded : CacheRun (Faulty Mock) :=
  (start .compile { guests := failingOnce }).after [.acquire .empty ["a.jar"],
    .acquire .empty ["a.jar", "b.jar"]]

theorem replaced_for_failed_digest :
    (unguarded.recordOf (DigestMap.empty.insert "b.jar" "d") ["b.jar"]).Replaced ⟨1⟩ := by
  have hfailed : FailedIn unguarded.log ⟨1⟩ "b.jar" :=
    ⟨_, List.mem_cons_self, _, List.mem_cons_self⟩
  exact (acquire_after_failures ⟨_, _, _, rfl⟩ rfl _ _).2.1.mpr (.inl ⟨"b.jar", hfailed, by decide⟩)

theorem not_always_replaced : ¬ ∀ (r : CacheRun (Faulty Mock)) (id : EnvironmentId)
    (l : String), r.Reachable →
    r.cache.environmentId? = some id → FailedIn r.log id l →
      ∀ key classpath, l ∈ classpath → (r.recordOf key classpath).Replaced id := by
  intro h
  have hreplaced :=
    h unguarded ⟨1⟩ "b.jar" ⟨_, _, _, rfl⟩ rfl ⟨_, List.mem_cons_self, _, List.mem_cons_self⟩
    .empty ["b.jar"] List.mem_cons_self
  obtain ⟨l, id, hrebuilt, -⟩ := hreplaced.renewed (.reused 1) rfl
  cases hrebuilt

end CacheRun

end CompileWorker
