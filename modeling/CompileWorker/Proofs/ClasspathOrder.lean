import CompileWorker.Proofs.FailedLoads
import Mathlib.Data.List.Induction
import Mathlib.Data.List.Pairwise

namespace CompileWorker

namespace Classpath

variable {earlier classpath : List String} {x y : String}

theorem eraseDups_snoc (classpath : List String) (x : String) :
    (classpath ++ [x]).eraseDups =
      if x ∈ classpath then classpath.eraseDups else classpath.eraseDups ++ [x] := by
  rw [List.eraseDups_append]
  by_cases hx : x ∈ classpath
  · simp [hx, List.removeAll]
  · simp [hx, List.removeAll, List.eraseDups_cons]

theorem pairwise_eraseDups (classpath : List String) :
    classpath.eraseDups.Pairwise fun x y ↦ classpath.idxOf x < classpath.idxOf y := by
  -- location by location from the end, as the last one stands after all that came before it
  induction classpath using List.reverseRecOn with
  | nil => simp
  | append_singleton classpath z ih =>
    have hold : classpath.eraseDups.Pairwise fun x y ↦
        (classpath ++ [z]).idxOf x < (classpath ++ [z]).idxOf y := by
      refine ih.imp_of_mem fun {x y} hx hy hlt ↦ ?_
      rw [List.idxOf_append_of_mem (List.mem_eraseDups.mp hx),
        List.idxOf_append_of_mem (List.mem_eraseDups.mp hy)]
      exact hlt
    rw [eraseDups_snoc]
    split
    · exact hold
    · rename_i hz
      refine List.pairwise_append.mpr ⟨hold, by simp, fun x hx y hy ↦ ?_⟩
      obtain rfl := List.mem_singleton.mp hy
      have hx' := List.mem_eraseDups.mp hx
      rw [List.idxOf_append_of_mem hx', List.idxOf_append_of_notMem hz]
      exact Nat.lt_add_right _ (List.idxOf_lt_length_iff.mpr hx')

theorem nodup_eraseDups (classpath : List String) : classpath.eraseDups.Nodup := by
  apply (pairwise_eraseDups classpath).imp
  intro x y hlt heq
  subst heq
  exact Nat.lt_irrefl _ hlt

theorem lt_iff_of_pairwise {f g : String → Nat} {l : List String}
    (hf : l.Pairwise fun x y ↦ f x < f y) (hg : l.Pairwise fun x y ↦ g x < g y) (hx : x ∈ l)
    (hy : y ∈ l) : f x < f y ↔ g x < g y := by
  let R : String → String → Prop := fun x y ↦ (f x < f y ↔ g x < g y) ∧ (f y < f x ↔ g y < g x)
  have hsymm : Std.Symm R := ⟨fun _ _ h ↦ h.symm⟩
  have hboth : l.Pairwise R := by
    refine (hf.and hg).imp fun {x y} ⟨hfx, hgx⟩ ↦ ⟨iff_of_true hfx hgx, ?_⟩
    exact iff_of_false (Nat.lt_asymm hfx) (Nat.lt_asymm hgx)
  have hself : ∀ x ∈ l, R x x := fun x _ ↦ by simp [R]
  exact (hboth.forall_of_forall hself hx hy).1

theorem idxOf_append_lt (h : earlier.idxOf x < earlier.idxOf y) :
    (earlier ++ classpath).idxOf x < (earlier ++ classpath).idxOf y := by
  have hx : x ∈ earlier := List.idxOf_lt_length_iff.mp (Nat.lt_of_lt_of_le h List.idxOf_le_length)
  rw [List.idxOf_append_of_mem hx]
  by_cases hy : y ∈ earlier
  · rwa [List.idxOf_append_of_mem hy]
  · rw [List.idxOf_append_of_notMem hy]
    exact Nat.lt_add_right _ (List.idxOf_lt_length_iff.mpr hx)

/-- The rest of a list decides about those that the front of it does not have the other way
round. -/
theorem idxOf_append_lt_of_le (h : earlier.idxOf x ≤ earlier.idxOf y)
    (hrest : classpath.idxOf x < classpath.idxOf y) :
    (earlier ++ classpath).idxOf x < (earlier ++ classpath).idxOf y := by
  rcases Nat.lt_or_eq_of_le h with hlt | heq
  · exact idxOf_append_lt hlt
  · have hx : x ∉ earlier := by
      intro hx
      obtain rfl := (List.idxOf_inj hx).mp heq
      exact Nat.lt_irrefl _ hrest
    have hy : y ∉ earlier := by
      rwa [← List.idxOf_eq_length_iff, ← heq, List.idxOf_eq_length_iff]
    rw [List.idxOf_append_of_notMem hx, List.idxOf_append_of_notMem hy]
    exact Nat.add_lt_add_left hrest _

/-- Among what a list names after another, the order is its own exactly if the other does not have
two of them the other way round. -/
theorem filter_eraseDups_append_eq_iff (earlier classpath : List String) :
    (earlier ++ classpath).eraseDups.filter (· ∈ classpath) = classpath.eraseDups ↔
      ∀ x y, classpath.idxOf x < classpath.idxOf y → y ∈ classpath →
        ¬ earlier.idxOf y < earlier.idxOf x := by
  have hsorted : ((earlier ++ classpath).eraseDups.filter (· ∈ classpath)).Pairwise fun x y ↦
      (earlier ++ classpath).idxOf x < (earlier ++ classpath).idxOf y :=
    (pairwise_eraseDups _).sublist List.filter_sublist
  constructor
  · intro heq x y hlt hy hback
    have hx : x ∈ classpath :=
      List.idxOf_lt_length_iff.mp (Nat.lt_of_lt_of_le hlt List.idxOf_le_length)
    rw [heq] at hsorted
    have hagree := lt_iff_of_pairwise hsorted (pairwise_eraseDups classpath)
      (List.mem_eraseDups.mpr hx) (List.mem_eraseDups.mpr hy)
    exact Nat.lt_asymm (hagree.mpr hlt) (idxOf_append_lt hback)
  · intro hkept
    have hsorted' : ((earlier ++ classpath).eraseDups.filter (· ∈ classpath)).Pairwise fun x y ↦
        classpath.idxOf x < classpath.idxOf y := by
      refine hsorted.imp_of_mem fun {x y} hx hy hlt ↦ ?_
      have hx' : x ∈ classpath := by simpa using (List.mem_filter.mp hx).2
      by_contra hnot
      rcases Nat.lt_or_eq_of_le (Nat.le_of_not_lt hnot) with hback | heq
      · have hle := Nat.le_of_not_lt (hkept y x hback hx')
        exact Nat.lt_asymm hlt (idxOf_append_lt_of_le hle hback)
      · obtain rfl := (List.idxOf_inj hx').mp heq.symm
        exact Nat.lt_irrefl _ hlt
    refine List.Perm.eq_of_pairwise (fun x y _ _ h h' ↦ absurd h' (Nat.lt_asymm h)) hsorted'
      (pairwise_eraseDups classpath) ?_
    rw [List.perm_ext_iff_of_nodup ((nodup_eraseDups _).filter _) (nodup_eraseDups _)]
    intro x
    simp only [List.mem_filter, List.mem_eraseDups, List.mem_append, decide_eq_true_eq]
    exact ⟨And.right, fun hx ↦ ⟨.inr hx, hx⟩⟩

end Classpath

namespace Environment

/-- Of the locations of a classpath, earlier ones shadow later ones, as in an environment built for
it. -/
def InOrder (env : Environment) (classpath : List String) : Prop :=
  env.locations.filter (· ∈ classpath) = classpath.eraseDups

variable {σ : Type} [Guests σ]

theorem addLocation_ok {env env' : Environment} {location : String} {w w' : World σ} {added : Bool}
    (h : env.addLocation location w = (.ok added, env', w')) :
    env'.locations =
      if location ∈ env.locations then env.locations else env.locations ++ [location] := by
  by_cases hloaded : location ∈ env.locations
  · rw [addLocation_loaded hloaded] at h
    cases h
    rw [if_pos hloaded]
  · rw [addLocation_new hloaded] at h
    rcases hload : Guests.load env location w.guests
      with ⟨e | _, guests⟩ <;> rw [hload] at h <;> cases h
    rw [if_neg hloaded]

theorem loadAll_eraseDups {env env' : Environment} {w w' : World σ} {classpath : List String}
    {n : Nat} (h : env.loadAll w classpath = (.ok n, env', w')) {named : List String}
    (hnamed : env.locations = named.eraseDups) :
    env'.locations = (named ++ classpath).eraseDups := by
  induction classpath generalizing env w n named with
  | nil =>
    obtain ⟨-, rfl, -⟩ := Prod.mk.inj h |>.imp_right Prod.mk.inj
    rw [hnamed, List.append_nil]
  | cons location classpath ih =>
    rcases ha : env.addLocation location w with ⟨e | added, env₁, w₁⟩
    · simp [loadAll, ha] at h
    · rcases hr : env₁.loadAll w₁ classpath with ⟨e | n₁, env₂, w₂⟩
      · simp [loadAll, ha, hr] at h
      · simp only [loadAll, ha, hr, Prod.mk.injEq] at h
        obtain ⟨-, rfl, rfl⟩ := h
        have hfirst : env₁.locations = (named ++ [location]).eraseDups := by
          rw [addLocation_ok ha, hnamed, Classpath.eraseDups_snoc]
          simp only [List.mem_eraseDups]
        rw [ih hr hfirst, List.append_assoc, List.singleton_append]

end Environment

variable {σ : Type}

/-- What the classpaths of some acquires name, the oldest first. -/
def named (log : List CacheRecord) : List String := log.reverse.flatMap (·.classpath)

theorem named_cons (a : CacheRecord) (log : List CacheRecord) :
    named (a :: log) = named log ++ a.classpath := by
  simp [named]

namespace CacheRun

variable {r : CacheRun σ}

def Ordered (r : CacheRun σ) : Prop :=
  ∀ entry, r.cache.entry = some entry → entry.environment.locations = (named r.served).eraseDups

variable [Guests σ]

theorem Ordered.provided (h : r.Ordered) {key : DigestMap} {classpath : List String}
    (hu : (r.call (.acquire key classpath)).Untroubled) :
    ∃ acquisition entry before, (r.cache.acquire key classpath r.world).1 = .ok acquisition ∧
      (r.call (.acquire key classpath)).cache.entry = some entry ∧
      (r.call (.acquire key classpath)).served = r.recordOf key classpath :: before ∧
      ((∃ n, acquisition = .reused n) ∧ before = r.served ∨ (∀ n, acquisition ≠ .reused n) ∧
        before = []) ∧
      entry.environment.locations = (named before ++ classpath).eraseDups := by
  obtain ⟨events, hacq⟩ := r.cache.acquires key classpath r.world
  have hevents : ∀ e ∈ r.world.since (r.cache.acquire key classpath r.world).2.2, e.provides :=
    hu _ List.mem_cons_self
  rw [World.since_eq hacq.trace] at hevents
  have hserved : ∀ {entry}, (r.call (.acquire key classpath)).cache.entry = some entry →
      (r.call (.acquire key classpath)).served = sinceBuild (r.recordOf key classpath :: r.log) :=
    fun hc ↦ by rw [served_of_some hc, log_acquire]
  have hresult : (r.recordOf key classpath).result = (r.cache.acquire key classpath r.world).1 :=
    rfl
  simp only [call] at hserved ⊢
  generalize hrecord : r.recordOf key classpath = a at hserved hresult ⊢
  generalize r.cache.acquire key classpath r.world = out at hacq hserved hresult ⊢
  cases hacq with
  | @reused entry added env w' loads hc hs hl hg =>
    refine ⟨_, _, r.served, rfl, rfl, ?_, .inl ⟨⟨added, rfl⟩, rfl⟩, ?_⟩
    · rw [hserved rfl, sinceBuild, hresult, served_of_some hc]
    · exact Environment.loadAll_eraseDups hl (h _ hc)
  | @built acquisition c₁ w₁ w₂ w₃ env env' n released loads hv hn hl hg =>
    obtain ⟨rfl, -, -⟩ := hv.create_ok hn
    refine ⟨_, _, [], rfl, rfl, ?_, .inr ⟨hv.ne_reused, rfl⟩, ?_⟩
    · rw [hserved rfl, sinceBuild_built hresult hv.ne_reused]
    · exact Environment.loadAll_eraseDups hl rfl
  | stuck | notCreated => exact absurd (hevents _ List.mem_cons_self) (by simp [Event.provides])
  | unloadable =>
    exact absurd (hevents _ (List.mem_cons_of_mem _ List.mem_cons_self)) (by simp [Event.provides])

theorem Ordered.call (h : r.Ordered) :
    ∀ {call : CacheCall}, (r.call call).Untroubled → (r.call call).Ordered
  | .acquire key classpath, hu => by
    obtain ⟨acquisition, entry, before, -, hc, hserved, -, hlocations⟩ := h.provided hu
    intro entry' hc'
    obtain rfl := Option.some.inj (hc.symm.trans hc')
    rw [hlocations, hserved, named_cons]
    rfl
  | .invoke entryPoint payload, _ => by
    intro entry' hc'
    rw [call_invoke_entry] at hc'
    obtain ⟨entry, hc, rfl⟩ := Option.map_eq_some_iff.mp hc'
    obtain ⟨-, hlocations, -⟩ := entry.environment.invoke_spec entryPoint payload r.world
    rw [served_invoke, hlocations]
    exact h entry hc
  | .discard, _ => by
    intro entry' hc'
    have hvacant : (r.call .discard).cache.entry = none := r.cache.discard_entry r.world
    rw [hvacant] at hc'
    cases hc'

theorem Ordered.after {calls : List CacheCall} (h : r.Ordered) (hu : (r.after calls).Untroubled) :
    (r.after calls).Ordered := by
  induction calls generalizing r with
  | nil => exact h
  | cons call calls ih => exact ih (h.call (Untroubled.of_after calls hu)) hu

theorem Reachable.ordered (h : r.Reachable) (hu : r.Untroubled) : r.Ordered := by
  obtain ⟨role, w, calls, rfl⟩ := h
  exact Ordered.after (by simp [Ordered, start]) hu

/-- As long as nothing fails, an acquire hands out an environment that has its locations in the
order in which the requests served since the build named them, this one last. It is searched in the
order of this classpath exactly if no request before named two of its locations the other way round;
so it always is if it was built for this one. -/
theorem order_kept_iff (hr : r.Reachable) (key : DigestMap) (classpath : List String)
    (hu : (r.call (.acquire key classpath)).Untroubled) :
    ∃ acquisition entry before, (r.cache.acquire key classpath r.world).1 = .ok acquisition ∧
      (r.call (.acquire key classpath)).cache.entry = some entry ∧
      (r.call (.acquire key classpath)).served = r.recordOf key classpath :: before ∧
      ((∃ n, acquisition = .reused n) ∧ before = r.served ∨ (∀ n, acquisition ≠ .reused n) ∧
        before = []) ∧
      entry.environment.locations = (named before ++ classpath).eraseDups ∧
      (entry.environment.InOrder classpath ↔ ∀ x y, classpath.idxOf x < classpath.idxOf y →
        y ∈ classpath →
        ¬ (named before).idxOf y < (named before).idxOf x) := by
  have hordered := hr.ordered (Untroubled.of_after [.acquire key classpath] hu)
  obtain ⟨acquisition, entry, before, hres, hc, hserved, hbefore, hlocations⟩ :=
    hordered.provided hu
  refine ⟨acquisition, entry, before, hres, hc, hserved, hbefore, hlocations, ?_⟩
  rw [Environment.InOrder, hlocations]
  exact Classpath.filter_eraseDups_append_eq_iff (named before) classpath

def growingRun : CacheRun Mock :=
  (start .compile { guests := {} }).after [.acquire .empty ["a.jar"],
    .acquire .empty ["b.jar", "c.jar"]]

theorem omitted_between_in_order : ∃ entry,
    (growingRun.call (.acquire .empty ["a.jar", "c.jar", "d.jar"])).cache.entry = some entry ∧
      entry.environment.InOrder ["a.jar", "c.jar", "d.jar"] := by
  have huntroubled :
      (growingRun.call (.acquire .empty ["a.jar", "c.jar", "d.jar"])).Untroubled := by
    unfold Untroubled
    decide +kernel
  obtain ⟨acquisition, entry, before, -, hc, hserved, -, -, hiff⟩ :=
    order_kept_iff ⟨_, _, _, rfl⟩ .empty ["a.jar", "c.jar", "d.jar"] huntroubled
  have hbefore : growingRun.served = before := (List.cons.inj hserved).2
  have hnamed : named before = ["a.jar", "b.jar", "c.jar"] := by
    rw [← hbefore]
    rfl
  refine ⟨entry, hc, hiff.mpr fun x y hlt hy ↦ ?_⟩
  have hx : x ∈ ["a.jar", "c.jar", "d.jar"] :=
    List.idxOf_lt_length_iff.mp (Nat.lt_of_lt_of_le hlt List.idxOf_le_length)
  have hall : ∀ x ∈ ["a.jar", "c.jar", "d.jar"], ∀ y ∈ ["a.jar", "c.jar", "d.jar"],
      ["a.jar", "c.jar", "d.jar"].idxOf x < ["a.jar", "c.jar", "d.jar"].idxOf y →
        ¬ ["a.jar", "b.jar", "c.jar"].idxOf y < ["a.jar", "b.jar", "c.jar"].idxOf x := by
    decide
  rw [hnamed]
  exact hall x hx y hy hlt

theorem not_always_in_order : ¬ ∀ (calls : List CacheCall) (key : DigestMap)
    (classpath : List String) (entry : CacheEntry),
      (((start .compile { guests := ({} : Mock) }).after calls).call
      (.acquire key classpath)).Untroubled →
    (((start .compile { guests := ({} : Mock) }).after calls).call
      (.acquire key classpath)).cache.entry =
      some entry → entry.environment.InOrder classpath := by
  intro h
  have huntroubled :
    (((start .compile { guests := ({} : Mock) }).after [.acquire .empty ["b.jar"]]).call
      (.acquire .empty ["a.jar", "b.jar"])).Untroubled := by
    unfold Untroubled
    decide +kernel
  have horder := h [.acquire .empty ["b.jar"]] .empty ["a.jar", "b.jar"] _ huntroubled rfl
  revert horder
  unfold Environment.InOrder
  decide +kernel

end CacheRun

end CompileWorker
