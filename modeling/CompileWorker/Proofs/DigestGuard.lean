import CompileWorker.Environment.Mock
import CompileWorker.Proofs.CacheHistory

namespace CompileWorker

variable {σ : Type} [Guests σ]

namespace EnvironmentCache

variable {c : EnvironmentCache} {entry : CacheEntry} {key : DigestMap} {w : World σ}

theorem entry_of_reused {classpath : List String} {n : Nat}
    (h : (c.acquire key classpath w).1 = .ok (.reused n)) :
    ∃ entry, c.entry = some entry ∧ entry.staleLocation? key = none := by
  obtain ⟨events, hacq⟩ := c.acquires key classpath w
  generalize c.acquire key classpath w = out at hacq h
  cases hacq with
  | reused hc hs => exact ⟨_, hc, hs⟩
  | built hv => exact absurd (Except.ok.inj h) (hv.ne_reused n)
  | stuck | notCreated | unloadable => simp at h

theorem acquire_nil_reused (hc : c.entry = some entry) (hs : entry.staleLocation? key = none) :
    (c.acquire key [] w).1 = .ok (.reused 0) := by
  simp [acquire, hc, hs, extend, Environment.loadAll]

theorem acquire_singleton_reused (hc : c.entry = some entry) {l d : String}
    (hpoisoned : l ∉ entry.poisoned) (hkey : ∀ d', entry.key.get? l = some d' → d' = d) :
    (c.acquire (DigestMap.empty.insert l d) [] w).1 = .ok (.reused 0) := by
  refine acquire_nil_reused hc (CacheEntry.staleLocation?_eq_none_iff.mpr ⟨fun l' hl' ↦ ?_, ?_⟩)
  · have hne : l' ≠ l := by
      rintro rfl
      exact hpoisoned hl'
    simp [hne]
  · refine DigestMap.compare_eq_agree_iff.mpr ?_
    rintro l' ⟨x, y, hx, hy, hne⟩
    rw [DigestMap.get?_insert] at hy
    split at hy
    · subst l'
      exact hne ((hkey x hx).trans (Option.some.inj hy))
    · simp at hy

end EnvironmentCache

namespace CacheRun

/-- Whatever request the environment is reused for next, if it tracks the location, it has this
digest of it. -/
def Keeps (r : CacheRun σ) (l d : String) : Prop :=
  ∀ key classpath n d', (r.cache.acquire key classpath r.world).1 = .ok (.reused n) →
    key.get? l = some d' → d' = d

theorem keeps_iff {r : CacheRun σ} {entry : CacheEntry} (hc : r.cache.entry = some entry)
    {l d : String} (hpoisoned : l ∉ entry.poisoned) : r.Keeps l d ↔ entry.key.get? l = some d := by
  constructor
  · intro h
    cases hrec : entry.key.get? l with
    | some d' =>
      have hreused :=
        EnvironmentCache.acquire_singleton_reused (w := r.world)
          (d := d') hc hpoisoned (by simp [hrec])
      rw [h _ _ _ d' hreused (by simp)]
    | none =>
      have hother : ∃ d', d' ≠ d := by
        by_cases hd : d = ""
        · exact ⟨"other", by simp [hd]⟩
        · exact ⟨"", fun he ↦ hd he.symm⟩
      obtain ⟨d', hne⟩ := hother
      have hreused :=
        EnvironmentCache.acquire_singleton_reused (w := r.world)
          (d := d') hc hpoisoned (by simp [hrec])
      exact absurd (h _ _ _ d' hreused (by simp)) hne
  · intro hrec key classpath n d' hreused hd'
    obtain ⟨entry', hc', hs⟩ := EnvironmentCache.entry_of_reused hreused
    obtain rfl : entry = entry' := Option.some.inj (hc.symm.trans hc')
    obtain ⟨-, hagree⟩ := CacheEntry.staleLocation?_eq_none_iff.mp hs
    exact ((DigestMap.compare_eq_agree_iff.mp hagree).eq hrec hd').symm

/-- A location was loaded into the live environment by an acquire that tracked it. Then its digest
is kept exactly if an acquire had it that succeeded since the build; that acquire itself did, if it
succeeded. -/
theorem keeps_loaded_iff {r : CacheRun σ} (hr : r.Reachable) {a : CacheRecord} (ha : a ∈ r.log)
    {id : EnvironmentId} (hid : r.cache.environmentId? = some id) {l d : String}
    (hloaded : .located id l (.ok true) ∈ a.events) (hd : a.key.get? l = some d) :
    (r.Keeps l d ↔ ∃ b ∈ sinceBuild r.log, b.key.get? l = some d) ∧
    (a.result.isOk → r.Keeps l d) := by
  obtain ⟨entry, hc, rfl⟩ := Option.map_eq_some_iff.mp hid
  have hbacked := hr.faithful.backed entry hc
  rw [keeps_iff hc (hbacked.sound a ha l hloaded d hd), hbacked.key]
  exact ⟨Iff.rfl, fun hok ↦ ⟨a, hbacked.served a ha hok l _ hloaded, hd⟩⟩

def hidingCalls : List CacheCall :=
  [.acquire .empty [], .acquire (.ofPairs [("a.jar", "d1"), ("b.jar", "d2")]) ["a.jar", "b.jar"]]

theorem digest_of_failed_acquire_not_kept :
    ¬ ((start .compile { guests := Mock.failLocation "b.jar" {} }).after hidingCalls).Keeps "a.jar"
      "d1" := by
  intro h
  obtain ⟨b, hb, hd⟩ := (keeps_loaded_iff ⟨_, _, _, rfl⟩ List.mem_cons_self rfl
    (List.mem_cons_of_mem _ List.mem_cons_self) rfl).1.mp h
  obtain rfl := List.mem_singleton.mp hb
  exact absurd hd (by decide)

def NeverStale (log : List CacheRecord) : Prop :=
  log.Pairwise fun later a ↦ ∀ n id l d d',
    later.result = .ok (.reused n) → later.environment = some id →
    .located id l (.ok true) ∈ a.events → a.key.get? l = some d → later.key.get? l = some d' →
    d = d'

/-- The digest of a location that an acquire loaded before it failed does not force a discard
later. -/
theorem not_neverStale : ¬ ∀ calls : List CacheCall,
    NeverStale ((start .compile { guests := Mock.failLocation "b.jar" {} }).after calls).log := by
  intro h
  have hlog := h (hidingCalls ++ [.acquire (.ofPairs [("a.jar", "d3")]) ["a.jar"]])
  have hdigest :=
    (List.pairwise_cons.mp hlog).1 _ List.mem_cons_self 0 ⟨1⟩ "a.jar" "d1" "d3" rfl rfl
    (List.mem_cons_of_mem _ List.mem_cons_self) rfl rfl
  exact absurd hdigest (by decide)

end CacheRun

end CompileWorker
