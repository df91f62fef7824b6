import CompileWorker.Proofs.CacheOutcomes
import CompileWorker.Proofs.DigestLaws

namespace CompileWorker

variable {σ : Type}

def World.since (w w' : World σ) : List Event := w'.trace.take (w'.trace.length - w.trace.length)

theorem World.since_eq {w w' : World σ} {events : List Event} (h : w'.trace = events ++ w.trace) :
    w.since w' = events := by
  simp [since, h]

inductive CacheCall
  | acquire (key : DigestMap) (classpath : List String)
  | invoke (entryPoint payload : String)
  | discard

structure CacheRecord where
  key : DigestMap
  classpath : List String
  result : Except CacheError Acquisition
  environment : Option EnvironmentId
  events : List Event

/-- The acquires that succeeded since the last build, that one included. A log has the newest record
first. -/
def sinceBuild : List CacheRecord → List CacheRecord
  | [] => []
  | a :: log =>
    match a.result with
    | .ok (.reused _) => a :: sinceBuild log
    | .ok _ => [a]
    | .error _ => sinceBuild log

structure CacheRun (σ : Type) where
  cache : EnvironmentCache
  world : World σ
  log : List CacheRecord := []

namespace CacheRun

def start (role : Role) (w : World σ) : CacheRun σ := { cache := { role }, world := w }

/-- What a live environment and its entry owe to the log. -/
structure Backed (log : List CacheRecord) (issued : Nat) (entry : CacheEntry) : Prop where
  number : entry.environment.id.number ≤ issued
  key : ∀ l d, entry.key.get? l = some d ↔ ∃ a ∈ sinceBuild log, a.key.get? l = some d
  served : ∀ a ∈ log, a.result.isOk →
    ∀ l answer, .located entry.environment.id l answer ∈ a.events →
    a ∈ sinceBuild log
  loaded : ∀ a ∈ log, ∀ l, .located entry.environment.id l (.ok true) ∈ a.events →
    l ∈ entry.environment.locations
  sound : ∀ a ∈ log, ∀ l, .located entry.environment.id l (.ok true) ∈ a.events →
    ∀ d, a.key.get? l = some d →
    l ∉ entry.poisoned

theorem Backed.reused {log : List CacheRecord} {entry : CacheEntry} {key : DigestMap}
    {env : Environment} {w w' : World σ} {a : CacheRecord} {n : Nat} (h : Backed log w.issued entry)
    (hs : entry.staleLocation? key = none) (hg : entry.environment.Grows w env w' a.events)
    (hkey : a.key = key) (hres : a.result = .ok (.reused n)) :
    Backed (a :: log) w'.issued { entry with environment := env, key := entry.key.merge key } := by
  obtain ⟨hpoisoned, hagree⟩ := CacheEntry.staleLocation?_eq_none_iff.mp hs
  have hagree := DigestMap.compare_eq_agree_iff.mp hagree
  have hsince : sinceBuild (a :: log) = a :: sinceBuild log := by simp [sinceBuild, hres]
  subst hkey
  constructor
  · rw [hg.id, hg.issued]
    exact h.number
  · intro l d
    rw [hsince, DigestMap.get?_merge]
    simp only [List.mem_cons, exists_eq_or_imp, ← h.key l d]
    cases hd : a.key.get? l with
    | none => simp
    | some d' =>
      simp only [Option.some_or, Option.some.injEq]
      exact ⟨Or.inl, fun hor ↦ hor.elim id fun hd' ↦ (hagree.eq hd' hd).symm⟩
  · rw [hg.id, hsince]
    intro b hb hok l answer he
    rcases List.mem_cons.mp hb with rfl | hb
    · exact List.mem_cons_self
    · exact List.mem_cons_of_mem _ (h.served b hb hok l answer he)
  · rw [hg.id]
    intro b hb l he
    rcases List.mem_cons.mp hb with rfl | hb
    · exact hg.mem_locations he
    · exact hg.locations_subset (h.loaded b hb l he)
  · rw [hg.id]
    intro b hb l he d hd
    rcases List.mem_cons.mp hb with rfl | hb
    · intro hl
      rw [hpoisoned l hl] at hd
      cases hd
    · exact h.sound b hb l he d hd

theorem Backed.stuck {log : List CacheRecord} {entry : CacheEntry} {env : Environment}
    {w w' : World σ} {a : CacheRecord} {location : String} {e : CacheError}
    (h : Backed log w.issued entry) (hs : entry.staleLocation? a.key = none)
    (hg : entry.environment.Grows w env w' a.events) (hnot : location ∉ env.locations)
    (hres : a.result = .error e) :
    Backed (a :: log) w'.issued
      { entry with environment := env, poisoned := Sorted.insert location entry.poisoned } := by
  obtain ⟨hpoisoned, -⟩ := CacheEntry.staleLocation?_eq_none_iff.mp hs
  have hsince : sinceBuild (a :: log) = sinceBuild log := by simp [sinceBuild, hres]
  have hloaded : ∀ b ∈ a :: log, ∀ l, .located entry.environment.id l (.ok true) ∈ b.events →
      l ∈ env.locations := by
    intro b hb l he
    rcases List.mem_cons.mp hb with rfl | hb
    · exact hg.mem_locations he
    · exact hg.locations_subset (h.loaded b hb l he)
  constructor
  · rw [hg.id, hg.issued]
    exact h.number
  · rw [hsince]
    exact h.key
  · rw [hg.id, hsince]
    intro b hb hok l answer he
    rcases List.mem_cons.mp hb with rfl | hb
    · rw [hres] at hok
      cases hok
    · exact h.served b hb hok l answer he
  · rw [hg.id]
    exact hloaded
  · rw [hg.id]
    intro b hb l he d hd hl
    rcases Sorted.mem_insert.mp hl with rfl | hl
    · exact hnot (hloaded b hb l he)
    · rcases List.mem_cons.mp hb with rfl | hb
      · rw [hpoisoned l hl] at hd
        cases hd
      · exact h.sound b hb l he d hd hl

/-- What was used was so in the part of a history where anything was. -/
theorem mem_of_append_unused {loads rest : List Event} (hrest : ∀ e ∈ rest, e.used? = none)
    {e : Event} {id : EnvironmentId} (hused : e.used? = some id) (he : e ∈ loads ++ rest) :
    e ∈ loads := by
  refine (List.mem_append.mp he).resolve_right fun he ↦ ?_
  rw [hrest e he] at hused
  cases hused

theorem Backed.built {log : List CacheRecord} {env env' : Environment} {w w' : World σ}
    {a : CacheRecord} {loads rest : List Event}
    (hold : ∀ b ∈ log, ∀ l answer, .located env.id l answer ∉ b.events)
    (hnumber : env.id.number ≤ w.issued) (hg : env.Grows w env' w' loads)
    (hevents : a.events = loads ++ rest) (hrest : ∀ e ∈ rest, e.used? = none)
    (hsince : sinceBuild (a :: log) = [a]) :
    Backed (a :: log) w'.issued { environment := env', key := a.key } := by
  -- a fresh environment has a number of its own, so no earlier record is about it
  have honly : ∀ b ∈ a :: log, ∀ l answer, .located env.id l answer ∈ b.events →
      b = a ∧ .located env.id l answer ∈ loads := by
    intro b hb l answer he
    rcases List.mem_cons.mp hb with rfl | hb
    · rw [hevents] at he
      exact ⟨rfl, mem_of_append_unused hrest rfl he⟩
    · exact absurd he (hold b hb l answer)
  constructor
  · rw [hg.id, hg.issued]
    exact hnumber
  · simp [hsince]
  · rw [hg.id, hsince]
    intro b hb _ l answer he
    exact List.mem_singleton.mpr (honly b hb l answer he).1
  · rw [hg.id]
    exact fun b hb l he ↦ hg.mem_locations (honly b hb l _ he).2
  · simp

def Numbered (log : List CacheRecord) (issued : Nat) : Prop :=
  ∀ a ∈ log, ∀ id l answer, .located id l answer ∈ a.events → id.number ≤ issued

theorem Numbered.cons {log : List CacheRecord} {n m : Nat} {a : CacheRecord} (h : Numbered log n)
    (hle : n ≤ m) (hnew : ∀ id l answer, .located id l answer ∈ a.events → id.number ≤ m) :
    Numbered (a :: log) m := by
  intro b hb id l answer he
  rcases List.mem_cons.mp hb with rfl | hb
  · exact hnew id l answer he
  · exact Nat.le_trans (h b hb id l answer he) hle

structure Faithful (r : CacheRun σ) : Prop where
  numbered : Numbered r.log r.world.issued
  backed : ∀ entry, r.cache.entry = some entry → Backed r.log r.world.issued entry

theorem Faithful.start (role : Role) (w : World σ) : Faithful (CacheRun.start role w) :=
  ⟨by simp [Numbered, CacheRun.start], by simp [CacheRun.start]⟩

variable [Guests σ]

def call (r : CacheRun σ) : CacheCall → CacheRun σ
  | .acquire key classpath =>
    let (result, cache, world) := r.cache.acquire key classpath r.world
    let events := r.world.since world
    { cache, world,
      log := { key, classpath, result, environment := cache.environmentId?, events } :: r.log }
  | .invoke entryPoint payload =>
    let (_, cache, world) := r.cache.invoke entryPoint payload r.world
    { r with cache, world }
  | .discard =>
    let (_, cache, world) := r.cache.discard r.world
    { r with cache, world }

def after (r : CacheRun σ) (calls : List CacheCall) : CacheRun σ := calls.foldl call r

def Reachable (r : CacheRun σ) : Prop := ∃ role w calls, r = (start role w).after calls

theorem sinceBuild_built {a : CacheRecord} {acquisition : Acquisition}
    (hres : a.result = .ok acquisition) (hne : ∀ n, acquisition ≠ .reused n)
    (log : List CacheRecord) : sinceBuild (a :: log) = [a] := by
  cases acquisition <;> simp_all [sinceBuild]

theorem Faithful.acquire {r : CacheRun σ} (h : Faithful r) (key : DigestMap)
    (classpath : List String) : Faithful (r.call (.acquire key classpath)) := by
  obtain ⟨events, hacq⟩ := r.cache.acquires key classpath r.world
  have hle := hacq.issued_le
  simp only [call, World.since_eq hacq.trace]
  generalize r.cache.acquire key classpath r.world = out at hacq hle ⊢
  cases hacq with
  | reused hc hs hl hg =>
    have hb := h.backed _ hc
    refine ⟨h.numbered.cons hle fun id l answer he ↦ hg.number_le hb.number he, fun entry he ↦ ?_⟩
    cases he
    exact hb.reused hs hg rfl rfl
  | stuck hc hs hl hg hp hnot =>
    have hb := h.backed _ hc
    refine ⟨h.numbered.cons hle fun id l answer he ↦ hg.number_le hb.number he, fun entry he ↦ ?_⟩
    cases he
    exact hb.stuck hs hg hnot rfl
  | built hv hn hl hg =>
    obtain ⟨rfl, hissued, -⟩ := hv.create_ok hn
    have hnumber := Nat.le_of_eq hissued.symm
    refine ⟨h.numbered.cons hle fun id l answer he ↦ ?_, fun entry he ↦ ?_⟩
    · exact hg.number_le hnumber (mem_of_append_unused hv.created_unused rfl he)
    · cases he
      refine Backed.built (fun b hb l answer he ↦ ?_) hnumber hg rfl
        hv.created_unused (sinceBuild_built rfl hv.ne_reused _)
      exact absurd (h.numbered b hb _ l answer he) (Nat.not_succ_le_self _)
  | notCreated hv hn =>
    refine ⟨h.numbered.cons hle fun id l answer he ↦ ?_, fun entry he ↦ ?_⟩
    · rcases List.mem_cons.mp he with he | he
      · cases he
      · cases hv.unused _ he
    · rw [hv.entry] at he
      cases he
  | unloadable hv hn hl hg =>
    obtain ⟨rfl, hissued, -⟩ := hv.create_ok hn
    refine ⟨h.numbered.cons hle fun id l answer he ↦ ?_, fun entry he ↦ ?_⟩
    · have he := (List.mem_cons.mp he).resolve_left (by simp)
      rw [← List.cons_append] at he
      exact hg.number_le (Nat.le_of_eq hissued.symm) (mem_of_append_unused hv.created_unused rfl he)
    · rw [EnvironmentCache.dispose, hv.entry] at he
      cases he

theorem Backed.invoked {log : List CacheRecord} {issued : Nat} {entry : CacheEntry}
    {env : Environment} (h : Backed log issued entry) (hid : env.id = entry.environment.id)
    (hlocations : env.locations = entry.environment.locations) :
    Backed log issued { entry with environment := env } := by
  constructor
  · rw [hid]
    exact h.number
  · exact h.key
  · rw [hid]
    exact h.served
  · rw [hid, hlocations]
    exact h.loaded
  · rw [hid]
    exact h.sound

theorem Faithful.invoke {r : CacheRun σ} (h : Faithful r) (entryPoint payload : String) :
    Faithful (r.call (.invoke entryPoint payload)) := by
  simp only [call, EnvironmentCache.invoke]
  cases hc : r.cache.entry with
  | none => exact ⟨h.numbered, fun entry he ↦ by simp [hc] at he⟩
  | some entry =>
    obtain ⟨hid, hlocations, hissued, -⟩ := entry.environment.invoke_spec entryPoint payload r.world
    refine ⟨?_, fun entry' he ↦ ?_⟩
    · simp only [hissued]
      exact h.numbered
    · cases he
      simp only [hissued]
      exact (h.backed _ hc).invoked hid hlocations

theorem Faithful.discard {r : CacheRun σ} (h : Faithful r) : Faithful (r.call .discard) := by
  simp only [call, EnvironmentCache.discard]
  cases hc : r.cache.entry with
  | none => exact ⟨h.numbered, fun entry he ↦ by simp [hc] at he⟩
  | some entry => exact ⟨h.numbered, fun entry' he ↦ by cases he⟩

theorem Faithful.call {r : CacheRun σ} (h : Faithful r) : ∀ call, Faithful (r.call call)
  | .acquire key classpath => h.acquire key classpath
  | .invoke entryPoint payload => h.invoke entryPoint payload
  | .discard => h.discard

theorem Faithful.after {r : CacheRun σ} (h : Faithful r) (calls : List CacheCall) :
    Faithful (r.after calls) := by
  induction calls generalizing r with
  | nil => exact h
  | cons call calls ih => exact ih (h.call call)

theorem Reachable.faithful {r : CacheRun σ} (h : r.Reachable) : Faithful r := by
  obtain ⟨role, w, calls, rfl⟩ := h
  exact (Faithful.start role w).after calls

end CacheRun

end CompileWorker
