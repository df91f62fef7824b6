import CompileWorker.Environment.Mock
import CompileWorker.Proofs.CacheHistory

namespace CompileWorker

variable {σ : Type}

namespace CacheRun

/-- Every create and every load of the past succeeded. -/
def Untroubled (r : CacheRun σ) : Prop := ∀ a ∈ r.log, ∀ e ∈ a.events, e.provides

/-- The acquires that the live environment was built for or was reused for, the newest first. -/
def served (r : CacheRun σ) : List CacheRecord := if r.cache.isVacant then [] else sinceBuild r.log

def Agreeing (log : List CacheRecord) : Prop := log.Pairwise fun a b ↦ a.key.Agrees b.key

/-- The recorded key is the union of the keys that the live environment has served, and these
agree. -/
def Recorded (r : CacheRun σ) : Prop :=
  ∀ entry, r.cache.entry = some entry →
    Agreeing r.served ∧ ∀ l d, entry.key.get? l = some d ↔ ∃ a ∈ r.served, a.key.get? l = some d

/-- An acquisition as the requests served so far decide it. -/
structure Decision (r : CacheRun σ) (key : DigestMap) (acquisition : Acquisition) : Prop where
  built : acquisition = .built ↔ r.cache.isVacant
  rebuilt : (∃ l, acquisition = .rebuilt l) ↔ ∃ a ∈ r.served, ∃ l, a.key.DiffersAt key l
  least : ∀ l, acquisition = .rebuilt l →
    (∃ a ∈ r.served, a.key.DiffersAt key l) ∧ ∀ a ∈ r.served, ∀ l', l' < l →
    ¬ a.key.DiffersAt key l'
  reused : (∃ n, acquisition = .reused n) ↔ ¬ r.cache.isVacant ∧ ∀ a ∈ r.served, a.key.Agrees key

structure Clean (r : CacheRun σ) : Prop where
  faithful : Faithful r
  poisoned : ∀ entry, r.cache.entry = some entry → entry.poisoned = []
  environment : ∀ a ∈ r.served, a.environment = r.cache.environmentId?

variable {r : CacheRun σ} {entry : CacheEntry} {key : DigestMap}

theorem served_of_none (hc : r.cache.entry = none) : r.served = [] := by
  simp [served, EnvironmentCache.isVacant, hc]

theorem served_of_some (hc : r.cache.entry = some entry) : r.served = sinceBuild r.log := by
  simp [served, EnvironmentCache.isVacant, hc]

theorem Faithful.key_iff (h : Faithful r) (hc : r.cache.entry = some entry) (l d : String) :
    entry.key.get? l = some d ↔ ∃ a ∈ r.served, a.key.get? l = some d := by
  rw [served_of_some hc]
  exact (h.backed entry hc).key l d

theorem Faithful.differsAt_iff (h : Faithful r) (hc : r.cache.entry = some entry) (l : String) :
    entry.key.DiffersAt key l ↔ ∃ a ∈ r.served, a.key.DiffersAt key l := by
  constructor
  · rintro ⟨x, y, hx, hy, hne⟩
    obtain ⟨a, ha, hax⟩ := (h.key_iff hc l x).mp hx
    exact ⟨a, ha, x, y, hax, hy, hne⟩
  · rintro ⟨a, ha, x, y, hax, hy, hne⟩
    exact ⟨x, y, (h.key_iff hc l x).mpr ⟨a, ha, hax⟩, hy, hne⟩

theorem Faithful.recorded (h : Faithful r) : Recorded r := by
  intro entry hc
  refine ⟨List.pairwise_of_forall_mem_list fun a ha b hb ↦ ?_, h.key_iff hc⟩
  rintro l ⟨x, y, hx, hy, hne⟩
  have hax := (h.key_iff hc l x).mpr ⟨a, ha, hx⟩
  have hby := (h.key_iff hc l y).mpr ⟨b, hb, hy⟩
  exact hne (Option.some.inj (hax.symm.trans hby))

theorem Decision.of_vacant (hc : r.cache.entry = none) : Decision r key .built := by
  constructor <;> simp [served_of_none hc, EnvironmentCache.isVacant, hc]

theorem Decision.of_stale (h : Clean r) (hc : r.cache.entry = some entry) {location : String}
    (hs : entry.staleLocation? key = some location) : Decision r key (.rebuilt location) := by
  have hcompare : ∃ x y, entry.key.compare key = .differ location x y := by
    rw [CacheEntry.staleLocation?, h.poisoned entry hc] at hs
    cases hcmp : entry.key.compare key with
    | agree => simp [hcmp] at hs
    | differ l x y =>
      simp only [List.find?_nil, hcmp, Option.some.injEq] at hs
      exact ⟨x, y, hs ▸ rfl⟩
  obtain ⟨x, y, hcmp⟩ := hcompare
  obtain ⟨hx, hy, hne, hleast⟩ := DigestMap.compare_eq_differ_iff.mp hcmp
  obtain ⟨a, ha, hdiffers⟩ := (h.faithful.differsAt_iff hc location).mp ⟨x, y, hx, hy, hne⟩
  constructor
  · simp [EnvironmentCache.isVacant, hc]
  · exact ⟨fun _ ↦ ⟨a, ha, location, hdiffers⟩, fun _ ↦ ⟨location, rfl⟩⟩
  · intro l hl
    cases hl
    exact ⟨⟨a, ha, hdiffers⟩, fun b hb l' hlt hb' ↦
      hleast l' hlt ((h.faithful.differsAt_iff hc l').mpr ⟨b, hb, hb'⟩)⟩
  · simp only [reduceCtorEq, exists_false, false_iff, not_and]
    exact fun _ hall ↦ hall a ha location hdiffers

theorem Decision.of_agreeing (h : Faithful r) (hc : r.cache.entry = some entry)
    (hs : entry.staleLocation? key = none) (n : Nat) : Decision r key (.reused n) := by
  obtain ⟨-, hagree⟩ := CacheEntry.staleLocation?_eq_none_iff.mp hs
  have hall : ∀ a ∈ r.served, a.key.Agrees key := fun a ha l hdiffers ↦
    DigestMap.compare_eq_agree_iff.mp hagree l ((h.differsAt_iff hc l).mpr ⟨a, ha, hdiffers⟩)
  constructor
  · simp [EnvironmentCache.isVacant, hc]
  · simp only [reduceCtorEq, exists_false, false_iff]
    rintro ⟨a, ha, l, hdiffers⟩
    exact hall a ha l hdiffers
  · simp
  · exact ⟨fun _ ↦ ⟨by simp [EnvironmentCache.isVacant, hc], hall⟩, fun _ ↦ ⟨n, rfl⟩⟩

variable [Guests σ]

inductive Provides (r : CacheRun σ) (key : DigestMap) : Acquisition → CacheEntry → Prop
  | reused {entry entry' : CacheEntry} {n : Nat} (hc : r.cache.entry = some entry)
      (hs : entry.staleLocation? key = none) (hid : entry'.environment.id = entry.environment.id)
      (hp : entry'.poisoned = entry.poisoned) : Provides r key (.reused n) entry'
  | built {acquisition : Acquisition} {entry' : CacheEntry} {c : EnvironmentCache} {w : World σ}
      {released : List Event} (hv : r.cache.Vacates key r.world acquisition c w released)
      (hp : entry'.poisoned = []) : Provides r key acquisition entry'

theorem provides_of_untroubled {classpath : List String}
    (h : (r.call (.acquire key classpath)).Untroubled) :
    ∃ acquisition entry', (r.cache.acquire key classpath r.world).1 = .ok acquisition ∧
      (r.call (.acquire key classpath)).cache.entry = some entry' ∧
      Provides r key acquisition entry' := by
  obtain ⟨events, hacq⟩ := r.cache.acquires key classpath r.world
  have hevents : ∀ e ∈ r.world.since (r.cache.acquire key classpath r.world).2.2, e.provides :=
    h _ List.mem_cons_self
  rw [World.since_eq hacq.trace] at hevents
  simp only [call]
  generalize r.cache.acquire key classpath r.world = out at hacq
  cases hacq with
  | reused hc hs hl hg => exact ⟨_, _, rfl, rfl, .reused hc hs hg.id rfl⟩
  | built hv => exact ⟨_, _, rfl, rfl, .built hv rfl⟩
  | stuck | notCreated => exact absurd (hevents _ List.mem_cons_self) (by simp [Event.provides])
  | unloadable =>
    exact absurd (hevents _ (List.mem_cons_of_mem _ List.mem_cons_self)) (by simp [Event.provides])

theorem Provides.decision {acquisition : Acquisition} {entry' : CacheEntry} (h : Clean r)
    (hp : Provides r key acquisition entry') : Decision r key acquisition := by
  cases hp with
  | reused hc hs => exact .of_agreeing h.faithful hc hs _
  | built hv =>
    cases hv with
    | vacant hc => exact .of_vacant hc
    | stale hc hs => exact .of_stale h hc hs

theorem call_acquire_log (r : CacheRun σ) (key : DigestMap) (classpath : List String) :
    (r.call (.acquire key classpath)).log =
      { key, classpath, result := (r.cache.acquire key classpath r.world).1
        environment := (r.call (.acquire key classpath)).cache.environmentId?
        events := r.world.since (r.call (.acquire key classpath)).world } :: r.log := rfl

theorem served_of_provides {classpath : List String} {acquisition : Acquisition}
    {entry' : CacheEntry} (hres : (r.cache.acquire key classpath r.world).1 = .ok acquisition)
    (hc' : (r.call (.acquire key classpath)).cache.entry = some entry')
    (hp : Provides r key acquisition entry') :
    ∃ a, (r.call (.acquire key classpath)).log = a :: r.log ∧ a.key = key ∧
      a.environment = (r.call (.acquire key classpath)).cache.environmentId? ∧
      ((∃ n, acquisition = .reused n ∧ r.cache.environmentId? = some entry'.environment.id ∧
          (r.call (.acquire key classpath)).served = a :: r.served) ∨
        ((∀ n, acquisition ≠ .reused n) ∧ (r.call (.acquire key classpath)).served = [a])) := by
  refine ⟨_, call_acquire_log r key classpath, rfl, rfl, ?_⟩
  rw [served_of_some hc', call_acquire_log, hres]
  cases hp with
  | reused hc hs hid => exact .inl ⟨_, rfl, by simp [EnvironmentCache.environmentId?, hc, hid], by
      rw [served_of_some hc, sinceBuild]⟩
  | built hv => exact .inr ⟨hv.ne_reused, sinceBuild_built rfl hv.ne_reused _⟩

theorem Clean.acquire {classpath : List String} (h : Clean r)
    (hu : (r.call (.acquire key classpath)).Untroubled) :
    Clean (r.call (.acquire key classpath)) := by
  obtain ⟨acquisition, entry', hres, hc', hp⟩ := provides_of_untroubled hu
  obtain ⟨a, -, -, hid, hserved⟩ := served_of_provides hres hc' hp
  refine ⟨h.faithful.acquire key classpath, fun entry hc ↦ ?_, fun b hb ↦ ?_⟩
  · obtain rfl : entry' = entry := Option.some.inj (hc'.symm.trans hc)
    cases hp with
    | reused hc _ _ hpoisoned => rw [hpoisoned, h.poisoned _ hc]
    | built _ hpoisoned => exact hpoisoned
  · rcases hserved with ⟨n, -, hbefore, hserved⟩ | ⟨-, hserved⟩
    · rw [hserved] at hb
      rcases List.mem_cons.mp hb with rfl | hb
      · exact hid
      · rw [h.environment b hb, hbefore, EnvironmentCache.environmentId?, hc', Option.map_some]
    · rw [hserved] at hb
      rw [List.mem_singleton.mp hb, hid]

theorem call_invoke_entry (r : CacheRun σ) (entryPoint payload : String) :
    (r.call (.invoke entryPoint payload)).cache.entry = r.cache.entry.map fun entry ↦
      { entry with environment := (entry.environment.invoke entryPoint payload r.world).2.1 } := by
  simp only [call, EnvironmentCache.invoke]
  cases hc : r.cache.entry <;> simp [hc]

theorem environmentId?_invoke (r : CacheRun σ) (entryPoint payload : String) :
    (r.call (.invoke entryPoint payload)).cache.environmentId? = r.cache.environmentId? := by
  rw [EnvironmentCache.environmentId?, call_invoke_entry, Option.map_map]
  rfl

theorem served_invoke (r : CacheRun σ) (entryPoint payload : String) :
    (r.call (.invoke entryPoint payload)).served = r.served := by
  rw [served, served, EnvironmentCache.isVacant, call_invoke_entry, Option.isNone_map]
  rfl

theorem Clean.invoke (h : Clean r) (entryPoint payload : String) :
    Clean (r.call (.invoke entryPoint payload)) := by
  refine ⟨h.faithful.invoke entryPoint payload, fun entry hc ↦ ?_, ?_⟩
  · rw [call_invoke_entry] at hc
    obtain ⟨entry₀, hc₀, rfl⟩ := Option.map_eq_some_iff.mp hc
    exact h.poisoned entry₀ hc₀
  · rw [served_invoke, environmentId?_invoke]
    exact h.environment

theorem Clean.discard (h : Clean r) : Clean (r.call .discard) := by
  have hvacant : (r.call .discard).cache.entry = none := r.cache.discard_entry r.world
  refine ⟨h.faithful.discard, ?_, ?_⟩
  · simp [hvacant]
  · simp [served_of_none hvacant]

theorem Clean.call (h : Clean r) :
    ∀ {call : CacheCall}, (r.call call).Untroubled → Clean (r.call call)
  | .acquire _ _, hu => h.acquire hu
  | .invoke entryPoint payload, _ => h.invoke entryPoint payload
  | .discard, _ => h.discard

theorem exists_log_call (r : CacheRun σ) (call : CacheCall) :
    ∃ news, (r.call call).log = news ++ r.log := by
  cases call with
  | acquire key classpath => exact ⟨[_], rfl⟩
  | invoke | discard => exact ⟨[], rfl⟩

theorem exists_log_after (r : CacheRun σ) (calls : List CacheCall) :
    ∃ news, (r.after calls).log = news ++ r.log := by
  induction calls generalizing r with
  | nil => exact ⟨[], rfl⟩
  | cons call calls ih =>
    obtain ⟨news, hnews⟩ := ih (r.call call)
    obtain ⟨first, hfirst⟩ := exists_log_call r call
    exact ⟨news ++ first, by rw [after, List.foldl_cons, ← after, hnews, hfirst, List.append_assoc]⟩

theorem Untroubled.of_after (calls : List CacheCall) (hu : (r.after calls).Untroubled) :
    r.Untroubled := by
  obtain ⟨news, hnews⟩ := exists_log_after r calls
  exact fun a ha ↦ hu a (hnews ▸ List.mem_append_right _ ha)

theorem Clean.after {calls : List CacheCall} (h : Clean r) (hu : (r.after calls).Untroubled) :
    Clean (r.after calls) := by
  induction calls generalizing r with
  | nil => exact h
  | cons call calls ih => exact ih (h.call (Untroubled.of_after calls hu)) hu

omit [Guests σ] in
theorem Clean.start (role : Role) (w : World σ) : Clean (CacheRun.start role w) :=
  ⟨.start role w, by simp [CacheRun.start], by simp [served, EnvironmentCache.isVacant,
    CacheRun.start]⟩

theorem Clean.served_acquire {classpath : List String} {a : CacheRecord} (h : Clean r)
    (hu : (r.call (.acquire key classpath)).Untroubled)
    (hlog : (r.call (.acquire key classpath)).log = a :: r.log)
    (hagree : ∀ b ∈ r.served, b.key.Agrees key) :
    (r.call (.acquire key classpath)).served = a :: r.served := by
  obtain ⟨acquisition, entry', hres, hc', hp⟩ := provides_of_untroubled hu
  obtain ⟨a', hlog', -, -, hserved⟩ := served_of_provides hres hc' hp
  obtain rfl := (List.cons.inj (hlog'.symm.trans hlog)).1
  rcases hserved with ⟨n, -, -, hserved⟩ | ⟨hne, hserved⟩
  · exact hserved
  · have hdecision := hp.decision h
    have hvacant : r.cache.isVacant := by
      cases acquisition with
      | built => exact hdecision.built.mp rfl
      | rebuilt l =>
        obtain ⟨b, hb, l', hdiffers⟩ := hdecision.rebuilt.mp ⟨l, rfl⟩
        exact absurd hdiffers (hagree b hb l')
      | reused n => exact absurd rfl (hne n)
    rw [hserved, served, if_pos hvacant]

theorem Clean.served_after {during : List CacheCall} {news : List CacheRecord} (h : Clean r)
    (hdiscard : .discard ∉ during) (hu : (r.after during).Untroubled)
    (hlog : (r.after during).log = news ++ r.log) (hagree : Agreeing (news ++ r.served)) :
    (r.after during).served = news ++ r.served := by
  -- call by call: the first acquire left the oldest of the new records, so it agrees with all
  -- served so far
  induction during generalizing r news with
  | nil =>
    obtain rfl : news = [] := List.append_cancel_right (hlog.symm.trans (List.nil_append _).symm)
    rfl
  | cons call during ih =>
    have hrest : .discard ∉ during := fun hm ↦ hdiscard (List.mem_cons_of_mem _ hm)
    have hstep : (r.call call).Untroubled := Untroubled.of_after during hu
    have hclean := h.call hstep
    cases call with
    | acquire key classpath =>
      obtain ⟨a, hkey, ha⟩ :
          ∃ a, a.key = key ∧ (r.call (.acquire key classpath)).log = a :: r.log :=
        ⟨_, rfl, call_acquire_log r key classpath⟩
      obtain ⟨later, hlater⟩ := exists_log_after (r.call (.acquire key classpath)) during
      obtain rfl : news = later ++ [a] :=
        List.append_cancel_right
          (hlog.symm.trans (hlater.trans (by rw [ha, List.append_assoc]; rfl)))
      rw [List.append_assoc, List.singleton_append] at hagree ⊢
      have hserved := h.served_acquire hstep ha fun b hb ↦
        hkey ▸ ((List.pairwise_cons.mp (List.pairwise_append.mp hagree).2.1).1 b hb).symm
      rw [← hserved] at hagree ⊢
      exact ih hclean hrest hu hlater hagree
    | invoke entryPoint payload =>
      rw [← served_invoke r entryPoint payload] at hagree ⊢
      exact ih hclean hrest hu hlog hagree
    | discard => exact absurd List.mem_cons_self hdiscard

theorem Reachable.clean (h : r.Reachable) (hu : r.Untroubled) : Clean r := by
  obtain ⟨role, w, calls, rfl⟩ := h
  exact (Clean.start role w).after hu

/-- As long as nothing fails, an acquire builds if nothing is live, rebuilds if it disagrees with a
request that the live environment has served, and otherwise reuses that environment. The recorded
key is the union of the keys served. Requests that agree in pairs, and with those served before
them, are all served by one environment. -/
theorem acquire_decided_by_history (hr : r.Reachable) (key : DigestMap) (classpath : List String)
    (hu : (r.call (.acquire key classpath)).Untroubled) :
    (∃ acquisition, (r.cache.acquire key classpath r.world).1 = .ok acquisition ∧
      Decision r key acquisition ∧
        ∀ n, acquisition = .reused n →
          (r.call (.acquire key classpath)).cache.environmentId? = r.cache.environmentId?) ∧
      Recorded r ∧ Recorded (r.call (.acquire key classpath)) ∧
      ∀ during news, .discard ∉ during → (r.after during).Untroubled →
        (r.after during).log = news ++ r.log →
        Agreeing (news ++ r.served) →
          ∀ a ∈ news ++ r.served, a.environment = (r.after during).cache.environmentId? := by
  have hclean := hr.clean (Untroubled.of_after [.acquire key classpath] hu)
  obtain ⟨acquisition, entry', hres, hc', hp⟩ := provides_of_untroubled hu
  refine ⟨⟨acquisition, hres, hp.decision hclean, fun n hn ↦ ?_⟩, hclean.faithful.recorded,
    (hclean.faithful.acquire key classpath).recorded, fun during news hdiscard hduring hlog hagree ↦
      ?_⟩
  · obtain ⟨a, -, -, -, ⟨n, -, hbefore, -⟩ | ⟨hne, -⟩⟩ := served_of_provides hres hc' hp
    · rw [hbefore, EnvironmentCache.environmentId?, hc', Option.map_some]
    · exact absurd hn (hne n)
  · rw [← hclean.served_after hdiscard hduring hlog hagree]
    exact (hclean.after hduring).environment

def omittingRun : CacheRun Mock :=
  (start .compile { guests := {} }).after [.acquire (.ofPairs [("a.jar", "d1")]) ["a.jar"],
    .acquire .empty ["b.jar"]]

theorem omitted_location_decides :
    ∃ l, (omittingRun.cache.acquire (.ofPairs [("a.jar", "d2")]) ["a.jar"] omittingRun.world).1 =
      .ok (.rebuilt l) := by
  have huntroubled :
      (omittingRun.call (.acquire (.ofPairs [("a.jar", "d2")]) ["a.jar"])).Untroubled := by
    unfold Untroubled
    decide +kernel
  obtain ⟨⟨acquisition, hres, hdecision, -⟩, -⟩ :=
    acquire_decided_by_history ⟨_, _, _, rfl⟩ _ _ huntroubled
  have hdiffers : ∃ l, acquisition = .rebuilt l := hdecision.rebuilt.mpr
    ⟨_, List.mem_cons_of_mem _ List.mem_cons_self, "a.jar", "d1", "d2", rfl, rfl, by decide⟩
  obtain ⟨l, rfl⟩ := hdiffers
  exact ⟨l, hres⟩

end CacheRun

end CompileWorker
