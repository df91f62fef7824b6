import CompileWorker.Environment.Faults
import CompileWorker.Environment.Mock
import CompileWorker.Proofs.DigestLaws
import CompileWorker.Proofs.Lifecycle
import Mathlib.Data.List.Induction

namespace CompileWorker

def EnvironmentError.isChannel : EnvironmentError → Bool
  | .frame _ | .io _ | .closed => true
  | _ => false

namespace Event

def channelFailure? : Event → Option EnvironmentId
  | .located id _ (.error e) | .invoked id _ _ (.error e) => if e.isChannel then some id else none
  | _ => none

/-- A location is loaded into an environment that has run something before. -/
def LoadsReused (f : Event) (older : List Event) (id : EnvironmentId) : Prop :=
  (∃ location answer, f = .located id location answer) ∧
    ∃ entryPoint payload answer, .invoked id entryPoint payload answer ∈ older

/-- Among all environments only one is used, and no channel fails. -/
def Calm (id : EnvironmentId) (events : List Event) : Prop :=
  ∀ e ∈ events, e.channelFailure? = none ∧ ∀ id', e.used? = some id' → id' = id

theorem environment?_of_channelFailure? {e : Event} {id : EnvironmentId}
    (h : e.channelFailure? = some id) : e.environment? = some id := by
  unfold channelFailure? at h
  split at h
  · exact (Option.ite_none_right_eq_some.mp h).2
  · exact (Option.ite_none_right_eq_some.mp h).2
  · cases h

theorem channelFailure?_of_unused {e : Event} (h : e.used? = none) : e.channelFailure? = none := by
  cases e <;> first | rfl | cases h

theorem channelFailure?_of_provides {e : Event} {id : EnvironmentId} {location : String}
    {answer : Except EnvironmentError Bool} (he : e = .located id location answer)
    (hp : e.provides) : e.channelFailure? = none := by
  subst he
  cases answer with
  | ok => rfl
  | error => cases hp

theorem Calm.append_unused {id : EnvironmentId} {events before : List Event} (h : Calm id events)
    (hbefore : ∀ e ∈ before, e.used? = none) : Calm id (events ++ before) := by
  intro e he
  rcases List.mem_append.mp he with he | he
  · exact h e he
  · exact ⟨channelFailure?_of_unused (hbefore e he), by simp [hbefore e he]⟩

theorem calm_of_located {id : EnvironmentId} {loads : List Event}
    (hlocated : ∀ e ∈ loads, ∃ location answer, e = .located id location answer)
    (hprovides : ∀ e ∈ loads, e.provides) : Calm id loads := by
  intro e he
  obtain ⟨location, answer, heq⟩ := hlocated e he
  exact ⟨channelFailure?_of_provides heq (hprovides e he), fun id' hid' ↦ by
    rw [heq] at hid'
    exact (Option.some.inj hid').symm⟩

theorem eq_of_split {id : EnvironmentId} (front : List Event) {tail newer older : List Event}
    {x f : Event} (h : front ++ x :: tail = newer ++ f :: older)
    (hfront : ∀ e ∈ front, e.channelFailure? = none) (htail : ∀ e ∈ tail, e.channelFailure? = none)
    (hf : f.channelFailure? = some id) : newer = front ∧ f = x ∧ older = tail := by
  rcases List.append_eq_append_iff.mp h with ⟨between, hnewer, hx⟩ | ⟨between, hfront', hf'⟩
  · cases between with
    | nil =>
      obtain ⟨rfl, rfl⟩ := List.cons.inj hx
      exact ⟨by rw [hnewer, List.append_nil], rfl, rfl⟩
    | cons y between =>
      have hmem : f ∈ tail := by simp [(List.cons.inj hx).2]
      simp [htail f hmem] at hf
  · cases between with
    | nil =>
      obtain ⟨rfl, rfl⟩ := List.cons.inj hf'
      exact ⟨by rw [hfront', List.append_nil], rfl, rfl⟩
    | cons y between =>
      have hmem : f ∈ front := by simp [hfront', (List.cons.inj hf').1]
      simp [hfront f hmem] at hf

theorem split_cases {newer older events trace : List Event} {f : Event}
    (h : newer ++ f :: older = events ++ trace) :
    (∃ mid, older = mid ++ trace ∧ events = newer ++ f :: mid) ∨
      ∃ mid, newer = events ++ mid ∧ trace = mid ++ f :: older := by
  rcases List.append_eq_append_iff.mp h with ⟨between, hevents, hf⟩ | ⟨mid, hnewer, htrace⟩
  · cases between with
    | nil => exact .inr ⟨[], by simpa using hevents.symm, hf.symm⟩
    | cons e mid =>
      obtain ⟨rfl, rfl⟩ := List.cons.inj hf
      exact .inl ⟨mid, rfl, hevents⟩
  · exact .inr ⟨mid, hnewer, htrace⟩

end Event

variable {σ : Type}

namespace EnvironmentCache

def Lacks (c : EnvironmentCache) (key : DigestMap) : Prop :=
  ∀ entry, c.entry = some entry → entry.staleLocation? key ≠ none

inductive Gets (c : EnvironmentCache) (key : DigestMap) (w : World σ) : EnvironmentId → Prop
  | inPlace {entry : CacheEntry} (hc : c.entry = some entry)
      (hs : entry.staleLocation? key = none) :
      Gets c key w entry.environment.id
  | new (hlacks : c.Lacks key) : Gets c key w ⟨w.issued + 1⟩

inductive Leaves (c : EnvironmentCache) (key : DigestMap) (w : World σ) :
    EnvironmentCache → List Event → Prop
  | unused {c' : EnvironmentCache} {events : List Event} (hlacks : c.Lacks key)
      (hc' : c'.entry = none) (hevents : ∀ e ∈ events, e.used? = none) : Leaves c key w c' events
  | stuck {c' : EnvironmentCache} {entry : CacheEntry} {env : Environment} {location : String}
      {error : EnvironmentError} {loads : List Event} (hc : c.entry = some entry)
      (hs : entry.staleLocation? key = none) (hid : env.id = entry.environment.id)
      (hcalm : Event.Calm entry.environment.id loads)
      (hc' : c'.entry =
        some { entry with environment := env, poisoned := Sorted.insert location entry.poisoned }) :
      Leaves c key w c' (.located entry.environment.id location (.error error) :: loads)
  | unloadable {c' : EnvironmentCache} {location : String} {error : EnvironmentError}
      {answer : Except EnvironmentError Unit} {before : List Event} (hlacks : c.Lacks key)
      (hc' : c'.entry = none) (hcalm : Event.Calm ⟨w.issued + 1⟩ before)
      (hunrun : ∀ id entryPoint payload answer, .invoked id entryPoint payload answer ∉ before) :
      Leaves c key w c'
        (.discarded ⟨w.issued + 1⟩ answer :: .located ⟨w.issued + 1⟩ location (.error error) ::
          before)
  | invoked {c' : EnvironmentCache} {id : EnvironmentId} {entryPoint payload : String}
      {answer : Except EnvironmentError Invocation} {before : List Event} (hgets : c.Gets key w id)
      (hc' : c'.environmentId? = some id) (hcalm : Event.Calm id before)
      (hanswer : (Event.invoked id entryPoint payload answer).channelFailure? = none) :
      Leaves c key w c' (.invoked id entryPoint payload answer :: before)
  | broken {c' : EnvironmentCache} {id : EnvironmentId} {entryPoint payload : String}
      {error : EnvironmentError} {answer : Except EnvironmentError Unit} {before : List Event}
      (hgets : c.Gets key w id) (hc' : c'.entry = none) (hcalm : Event.Calm id before) :
      Leaves c key w c'
        (.discarded id answer :: .invoked id entryPoint payload (.error error) :: before)

variable {c : EnvironmentCache} {key : DigestMap} {w : World σ}

theorem Gets.entry {id : EnvironmentId} (h : c.Gets key w id) (hid : id.number ≤ w.issued) :
    ∃ entry, c.entry = some entry ∧ entry.environment.id = id ∧
      entry.staleLocation? key = none := by
  cases h with
  | inPlace hc hs => exact ⟨_, hc, rfl, hs⟩
  | new => exact absurd hid (Nat.not_succ_le_self _)

/-- An attempt gets one environment. -/
theorem Gets.eq {id id' : EnvironmentId} (h : c.Gets key w id) (h' : c.Gets key w id') :
    id = id' := by
  cases h with
  | inPlace hc hs =>
    cases h' with
    | inPlace hc' hs' =>
      obtain rfl := Option.some.inj (hc.symm.trans hc')
      rfl
    | new hlacks => exact absurd hs (hlacks _ hc)
  | new hlacks =>
    cases h' with
    | inPlace hc' hs' => exact absurd hs' (hlacks _ hc')
    | new => rfl

namespace Leaves

variable {c' : EnvironmentCache} {events : List Event} {id : EnvironmentId}

theorem gets_of_used (h : Leaves c key w c' events) {e : Event} (he : e ∈ events)
    (hused : e.used? = some id) : c.Gets key w id := by
  cases h with
  | unused _ _ hevents => simp [hevents e he] at hused
  | stuck hc hs _ hcalm =>
    rcases List.mem_cons.mp he with rfl | he
    · cases hused
      exact .inPlace hc hs
    · exact (hcalm e he).2 id hused ▸ .inPlace hc hs
  | unloadable hlacks _ hcalm =>
    rcases List.mem_cons.mp he with rfl | he
    · cases hused
    · rcases List.mem_cons.mp he with rfl | he
      · cases hused
        exact .new hlacks
      · exact (hcalm e he).2 id hused ▸ .new hlacks
  | invoked hgets _ hcalm =>
    rcases List.mem_cons.mp he with rfl | he
    · cases hused
      exact hgets
    · exact (hcalm e he).2 id hused ▸ hgets
  | broken hgets _ hcalm =>
    rcases List.mem_cons.mp he with rfl | he
    · cases hused
    · rcases List.mem_cons.mp he with rfl | he
      · cases hused
        exact hgets
      · exact (hcalm e he).2 id hused ▸ hgets

theorem used_of_gets (h : Leaves c key w c' events) {entry : CacheEntry} (hc : c.entry = some entry)
    (hs : entry.staleLocation? key = none) : ∃ e ∈ events, e.used? = some entry.environment.id := by
  cases h with
  | unused hlacks | unloadable hlacks => exact absurd hs (hlacks entry hc)
  | stuck hc' =>
    obtain rfl := Option.some.inj (hc.symm.trans hc')
    exact ⟨_, List.mem_cons_self, rfl⟩
  | invoked hgets => exact ⟨_, List.mem_cons_self, congrArg some (hgets.eq (.inPlace hc hs))⟩
  | broken hgets =>
    exact ⟨_, List.mem_cons_of_mem _ List.mem_cons_self, congrArg some (hgets.eq (.inPlace hc hs))⟩

/-- A channel that fails either ends the attempt, while the environment is grown in its place, or
has the environment discarded next. -/
theorem failure (h : Leaves c key w c' events) {newer older : List Event} {f : Event}
    (hevents : events = newer ++ f :: older) (hf : f.channelFailure? = some id) :
    (newer = [] ∧ ∃ location answer entry', f = .located id location answer ∧
      c.environmentId? = some id ∧
        c'.entry = some entry' ∧ entry'.environment.id = id ∧ location ∈ entry'.poisoned) ∨
      (∃ answer, newer = [.discarded id answer]) ∧
        ((∃ entryPoint payload answer, f = .invoked id entryPoint payload answer) ∨
          id.number = w.issued + 1 ∧
            ∀ entryPoint payload answer, .invoked id entryPoint payload answer ∉ older) := by
  cases h with
  | unused _ _ hquiet =>
    have hmem : f ∈ events := by simp [hevents]
    simp [Event.channelFailure?_of_unused (hquiet f hmem)] at hf
  | stuck hc hs hid hcalm hc' =>
    obtain ⟨rfl, rfl, rfl⟩ := Event.eq_of_split [] hevents (by simp) (fun e he ↦ (hcalm e he).1) hf
    cases Event.environment?_of_channelFailure? hf
    exact .inl ⟨rfl, _, _, _, rfl, by simp [environmentId?, hc], hc', hid,
      Sorted.mem_insert.mpr (.inl rfl)⟩
  | unloadable hlacks _ hcalm hunrun =>
    obtain ⟨rfl, rfl, rfl⟩ := Event.eq_of_split [_] hevents (by simp [Event.channelFailure?])
      (fun e he ↦ (hcalm e he).1) hf
    cases Event.environment?_of_channelFailure? hf
    exact .inr ⟨⟨_, rfl⟩, .inr ⟨rfl, hunrun _⟩⟩
  | invoked hgets _ hcalm hanswer =>
    obtain ⟨rfl, rfl, rfl⟩ := Event.eq_of_split [] hevents (by simp) (fun e he ↦ (hcalm e he).1) hf
    simp [hanswer] at hf
  | broken hgets _ hcalm =>
    obtain ⟨rfl, rfl, rfl⟩ := Event.eq_of_split [_] hevents (by simp [Event.channelFailure?])
      (fun e he ↦ (hcalm e he).1) hf
    cases Event.environment?_of_channelFailure? hf
    exact .inr ⟨⟨_, rfl⟩, .inl ⟨_, _, _, rfl⟩⟩

end Leaves

variable [Guests σ] {c₁ : EnvironmentCache} {classpath : List String} {w₁ : World σ}
  {acquisition : Acquisition} {released : List Event}

theorem Vacates.lacks (hv : Vacates c key w acquisition c₁ w₁ released) : c.Lacks key := by
  intro entry hc hs
  cases hv with
  | vacant hnone => simp [hnone] at hc
  | stale hc' hs' =>
    obtain rfl := Option.some.inj (hc'.symm.trans hc)
    simp [hs] at hs'

theorem gets_of_acquire (h : c.acquire key classpath w = (.ok acquisition, c₁, w₁)) :
    ∃ id events, c.Gets key w id ∧ c₁.environmentId? = some id ∧ w₁.trace = events ++ w.trace ∧
      Event.Calm id events := by
  obtain ⟨events, hacq⟩ := c.acquires key classpath w
  have htrace := hacq.trace
  rw [h] at hacq htrace
  cases hacq with
  | reused hc hs hl hg hp =>
    exact ⟨_, events, .inPlace hc hs, by simp [environmentId?, hg.id], htrace,
      Event.calm_of_located hg.located hp⟩
  | built hv hn hl hg hp =>
    obtain ⟨rfl, -, -⟩ := hv.create_ok hn
    exact ⟨_, _, .new hv.lacks, by simp [environmentId?, hg.id], htrace,
      (Event.calm_of_located hg.located hp).append_unused hv.created_unused⟩

theorem leaves_of_acquire_error {e : CacheError}
    (h : c.acquire key classpath w = (.error e, c₁, w₁)) :
    ∃ events, w₁.trace = events ++ w.trace ∧ Leaves c key w c₁ events := by
  obtain ⟨events, hacq⟩ := c.acquires key classpath w
  have htrace := hacq.trace
  rw [h] at hacq htrace
  refine ⟨events, htrace, ?_⟩
  cases hacq with
  | stuck hc hs hl hg hp =>
    have hcalm := Event.calm_of_located (fun e he ↦ hg.located e (List.mem_cons_of_mem _ he)) hp
    exact .stuck hc hs hg.id hcalm rfl
  | notCreated hv hn =>
    exact .unused hv.lacks hv.entry (List.forall_mem_cons.mpr ⟨rfl, hv.unused⟩)
  | unloadable hv hn hl hg hp =>
    obtain ⟨rfl, -, -⟩ := hv.create_ok hn
    have hlocated := fun e he ↦ hg.located e (List.mem_cons_of_mem _ he)
    have hcalm := Event.calm_of_located hlocated hp
    refine .unloadable hv.lacks hv.entry (hcalm.append_unused hv.created_unused)
      fun id entryPoint payload answer he ↦ ?_
    rcases List.mem_append.mp he with he | he
    · obtain ⟨location, answer, he⟩ := hlocated _ he
      cases he
    · cases hv.created_unused _ he

theorem leaves_of_attempt (c : EnvironmentCache) (key : DigestMap) (classpath : List String)
    (entryPoint payload : String) (w : World σ) :
    ∃ events, (c.attempt key classpath entryPoint payload w).2.trace = events ++ w.trace ∧
      Leaves c key w (c.attempt key classpath entryPoint payload w).1 events := by
  have hattempts := c.attempts key classpath entryPoint payload w
  generalize c.attempt key classpath entryPoint payload w = out at hattempts
  cases hattempts with
  | notAcquired ha => exact leaves_of_acquire_error ha
  | @invoked acquisition c₁ c₂ w₁ w₂ answer ha hi hanswer =>
    obtain ⟨id, events, hgets, hid, htrace, hcalm⟩ := gets_of_acquire ha
    obtain ⟨hid₂, htrace₂⟩ := invoke_of_live hid entryPoint payload w₁
    rw [hi] at hid₂ htrace₂
    refine ⟨_ :: events, by rw [htrace₂, htrace, List.cons_append], .invoked hgets hid₂ hcalm ?_⟩
    cases answer with
    | ok => rfl
    | error e =>
      obtain ⟨a, m, o, rfl⟩ := hanswer e rfl
      rfl
  | @broken acquisition c₁ c₂ w₁ w₂ e ha hi he =>
    obtain ⟨id, events, hgets, hid, htrace, hcalm⟩ := gets_of_acquire ha
    obtain ⟨hid₂, htrace₂⟩ := invoke_of_live hid entryPoint payload w₁
    rw [hi] at hid₂ htrace₂
    obtain ⟨answer, htrace₃⟩ := discard_of_live hid₂ w₂
    refine ⟨.discarded id answer :: .invoked id entryPoint payload (.error e) :: events, ?_,
      .broken hgets (c₂.discard_entry w₂) hcalm⟩
    rw [htrace₃, htrace₂, htrace, List.cons_append, List.cons_append]

end EnvironmentCache

namespace Bench

def Tried (b : Bench σ) : Prop :=
  ∀ role id, b.live role = some id →
    ∃ entryPoint payload answer, .invoked id entryPoint payload answer ∈ b.world.trace

/-- The action is an attempt that finds the environment in its place and nothing stale about it. -/
def Meets (b : Bench σ) (action : Action) (id : EnvironmentId) : Prop :=
  ∃ role key classpath entryPoint payload entry,
    action = .attempt role key classpath entryPoint payload ∧
    (b.caches.get role).entry = some entry ∧ entry.environment.id = id ∧
    entry.staleLocation? key = none

def Remembers (b : Bench σ) (f : Event) (id : EnvironmentId) : Prop :=
  ∃ role entry location answer, f = .located id location answer ∧
    (b.caches.get role).entry = some entry ∧
    entry.environment.id = id ∧ location ∈ entry.poisoned

variable [Guests σ]

theorem perform_trace (b : Bench σ) (action : Action) :
    ∃ events, (b.perform action).world.trace = events ++ b.world.trace ∧
      match action with
      | .attempt role key _ _ _ =>
        (b.caches.get role).Leaves key b.world ((b.perform action).caches.get role) events
      | .discard _ => ∀ e ∈ events, e.used? = none := by
  cases action with
  | attempt role key classpath entryPoint payload =>
    obtain ⟨events, htrace, hleaves⟩ :=
      (b.caches.get role).leaves_of_attempt key classpath entryPoint payload b.world
    refine ⟨events, htrace, ?_⟩
    simpa [perform, on] using hleaves
  | discard role =>
    simp only [perform, on]
    cases hc : (b.caches.get role).entry with
    | none => exact ⟨[], by simp [EnvironmentCache.discard, hc], by simp⟩
    | some entry =>
      have hid : (b.caches.get role).environmentId? = some entry.environment.id := by
        rw [EnvironmentCache.environmentId?, hc, Option.map_some]
      obtain ⟨answer, htrace⟩ := EnvironmentCache.discard_of_live hid b.world
      exact ⟨[_], htrace, by simp [Event.used?]⟩

theorem perform_uses_iff {b : Bench σ} {action : Action} {events : List Event} {id : EnvironmentId}
    (htrace : (b.perform action).world.trace = events ++ b.world.trace)
    (hid : id.number ≤ b.world.issued) : (∃ e ∈ events, e.used? = some id) ↔ b.Meets action id := by
  obtain ⟨events', htrace', hleaves⟩ := b.perform_trace action
  obtain rfl := List.append_cancel_right (htrace.symm.trans htrace')
  constructor
  · rintro ⟨e, he, hused⟩
    cases action with
    | attempt role key classpath entryPoint payload =>
      obtain ⟨entry, hc, hentry, hs⟩ := (hleaves.gets_of_used he hused).entry hid
      exact ⟨role, key, classpath, entryPoint, payload, entry, rfl, hc, hentry, hs⟩
    | discard role => simp [hleaves e he] at hused
  · rintro ⟨role, key, classpath, entryPoint, payload, entry, rfl, hc, rfl, hs⟩
    exact hleaves.used_of_gets hc hs

theorem perform_failure {b : Bench σ} (hnumbered : b.Orderly) (htried : b.Tried) {action : Action}
    {newer older : List Event} {f : Event} {id : EnvironmentId}
    (htrace : (b.perform action).world.trace = newer ++ f :: (older ++ b.world.trace))
    (hf : f.channelFailure? = some id) :
    (newer = [] ∧ f.LoadsReused (older ++ b.world.trace) id ∧ (b.perform action).Remembers f id) ∨
      (∃ answer, newer = [.discarded id answer]) ∧ ¬ f.LoadsReused (older ++ b.world.trace) id := by
  obtain ⟨events, htrace', hleaves⟩ := b.perform_trace action
  have hevents : events = newer ++ f :: older := by
    refine List.append_cancel_right (htrace'.symm.trans (htrace.trans ?_))
    rw [List.append_assoc, List.cons_append]
  cases action with
  | discard role =>
    have hmem : f ∈ events := by simp [hevents]
    simp [Event.channelFailure?_of_unused (hleaves f hmem)] at hf
  | attempt role key classpath entryPoint payload =>
    rcases hleaves.failure hevents hf
      with ⟨hnewer, location, answer, entry', hf', hid, hc', hid', hpoisoned⟩ |
      ⟨hnewer, ⟨ep, pl, answer, hf'⟩ | ⟨hnumber, hunrun⟩⟩
    · obtain ⟨ep, pl, answer', hmem⟩ := htried role id hid
      exact .inl ⟨hnewer, ⟨⟨location, answer, hf'⟩, ep, pl, answer', List.mem_append_right _ hmem⟩,
        role, entry', location, answer, hf', hc', hid', hpoisoned⟩
    · refine .inr ⟨hnewer, ?_⟩
      rintro ⟨⟨location, answer', heq⟩, -⟩
      rw [hf'] at heq
      cases heq
    · -- the number is new, so nothing was run in this environment before the attempt
      refine .inr ⟨hnewer, ?_⟩
      rintro ⟨-, ep, pl, answer', hmem⟩
      rcases List.mem_append.mp hmem with hmem | hmem
      · exact hunrun ep pl answer' hmem
      · have hle := hnumbered.world.numbered _ hmem id rfl
        omega

theorem Tried.perform {b : Bench σ} (h : b.Tried) (action : Action) : (b.perform action).Tried := by
  obtain ⟨events, htrace, hleaves⟩ := b.perform_trace action
  have hold : ∀ role id, b.live role = some id →
      ∃ ep pl answer, .invoked id ep pl answer ∈ (b.perform action).world.trace :=
        fun role id hlive ↦ by
    obtain ⟨ep, pl, answer, hmem⟩ := h role id hlive
    exact ⟨ep, pl, answer, htrace ▸ List.mem_append_right _ hmem⟩
  intro r id hlive
  cases action with
  | attempt role key classpath entryPoint payload =>
    by_cases hr : r = role
    · subst hr
      cases hleaves with
      | unused _ hc' | unloadable _ hc' | broken _ hc' =>
        simp [live, EnvironmentCache.environmentId?, hc'] at hlive
      | stuck hc _ hid _ hc' =>
        refine hold r id ?_
        simpa [live, EnvironmentCache.environmentId?, hc, hc', hid] using hlive
      | @invoked id' ep pl answer before hgets hc' =>
        -- the only way for another environment to come into place, and it has just run something
        obtain rfl : id' = id := Option.some.inj (hc'.symm.trans hlive)
        exact ⟨ep, pl, answer, by simp [htrace]⟩
    · refine hold r id ?_
      rwa [Bench.perform, live_on, Live.set_of_ne hr] at hlive
  | discard role =>
    refine hold r id ?_
    rw [Bench.perform, live_on] at hlive
    by_cases hr : r = role
    · subst hr
      simp [EnvironmentCache.environmentId?, EnvironmentCache.discard_entry] at hlive
    · rwa [Live.set_of_ne hr] at hlive

theorem Tried.after {b : Bench σ} (h : b.Tried) (actions : List Action) :
    (b.after actions).Tried := by
  induction actions generalizing b with
  | nil => exact h
  | cons action actions ih => exact ih (h.perform action)

omit [Guests σ] in
theorem Tried.start (guests : σ) : (Bench.start guests).Tried := by
  intro role id hlive
  cases role <;> cases hlive

end Bench

section Runs

variable [Guests σ]

/-- What becomes of an environment whose channel failed in a run of actions. Unless it failed while
the environment was grown for reuse, the environment is discarded next. If so, it stays in its
place; and it is used again exactly if a later attempt finds it there with nothing stale about
it. -/
structure Aftermath (guests : σ) (actions : List Action) (newer : List Event) (f : Event)
    (older : List Event) (id : EnvironmentId) : Prop where
  released : ¬ f.LoadsReused older id →
    ∃ later answer, newer = later ++ [.discarded id answer] ∧ ∀ e ∈ later, e.environment? ≠ some id
  remembered : f.LoadsReused older id → ∃ before, before <+: actions ∧
    ((Bench.start guests).after before).world.trace = f :: older ∧
    ((Bench.start guests).after before).Remembers f id
  used_iff : (∃ e ∈ newer, e.used? = some id) ↔
    ∃ before action later, actions = before ++ action :: later ∧
    f :: older <:+ ((Bench.start guests).after before).world.trace ∧
    ((Bench.start guests).after before).Meets action id

theorem Bench.trace_suffix (b : Bench σ) (actions : List Action) :
    b.world.trace <:+ (b.after actions).world.trace := by
  induction actions generalizing b with
  | nil => exact List.suffix_refl _
  | cons action actions ih =>
    obtain ⟨events, htrace, -⟩ := b.perform_trace action
    exact (List.suffix_append events b.world.trace).trans (htrace ▸ ih (b.perform action))

theorem Bench.after_snoc (b : Bench σ) (actions : List Action) (action : Action) :
    b.after (actions ++ [action]) = (b.after actions).perform action :=
  b.after_append actions [action]

theorem Bench.not_suffix_before (b : Bench σ) {actions before later : List Action}
    {action a : Action} (hsplit : actions ++ [action] = before ++ a :: later) {f : Event}
    {mid : List Event} :
    ¬ f :: (mid ++ (b.after actions).world.trace) <:+ (b.after before).world.trace := by
  intro hsuffix
  have hprefix : before <+: actions := by
    refine List.prefix_of_prefix_length_le ⟨a :: later, hsplit.symm⟩
      (List.prefix_append actions [action]) ?_
    have hlength := congrArg List.length hsplit
    simp at hlength
    omega
  obtain ⟨rest, rfl⟩ := hprefix
  have hle := ((b.after before).trace_suffix rest).length_le
  have hlt := hsuffix.length_le
  rw [← Bench.after_append] at hle
  simp at hlt
  omega

theorem Aftermath.of_last {guests : σ} {actions : List Action} {action : Action}
    {newer mid : List Event} {f : Event} {id : EnvironmentId}
    (htrace : ((Bench.start guests).after (actions ++ [action])).world.trace =
      newer ++ f :: (mid ++ ((Bench.start guests).after actions).world.trace))
    (hf : f.channelFailure? = some id) :
    Aftermath guests (actions ++ [action]) newer f
      (mid ++ ((Bench.start guests).after actions).world.trace) id := by
  have hnever : ¬ ∃ before a later, actions ++ [action] = before ++ a :: later ∧
      f :: (mid ++ ((Bench.start guests).after actions).world.trace) <:+
        ((Bench.start guests).after before).world.trace ∧
        ((Bench.start guests).after before).Meets a id := by
    rintro ⟨before, a, later, hsplit, hsuffix, -⟩
    exact Bench.not_suffix_before _ hsplit hsuffix
  have hperform := htrace
  rw [Bench.after_snoc] at hperform
  have horderly := (Bench.Orderly.start guests).after actions
  have htried := (Bench.Tried.start guests).after actions
  rcases Bench.perform_failure horderly htried hperform hf
    with ⟨rfl, hreused, hremembers⟩ | ⟨⟨answer, rfl⟩, hnot⟩
  · refine ⟨fun hnot ↦ absurd hreused hnot, fun _ ↦ ⟨_, List.prefix_refl _, htrace, ?_⟩,
      iff_of_false (by simp) hnever⟩
    rwa [Bench.after_snoc]
  · exact ⟨fun _ ↦ ⟨[], answer, rfl, by simp⟩, fun hreused ↦ absurd hreused hnot,
      iff_of_false (by simp [Event.used?]) hnever⟩

theorem Aftermath.of_earlier {guests : σ} {actions : List Action} {action : Action}
    {events mid older : List Event} {f : Event} {id : EnvironmentId}
    (h : Aftermath guests actions mid f older id)
    (hbefore : ((Bench.start guests).after actions).world.trace = mid ++ f :: older)
    (htrace : ((Bench.start guests).after (actions ++ [action])).world.trace = events ++ mid ++
      f :: older)
    (hf : f.channelFailure? = some id) :
    Aftermath guests (actions ++ [action]) (events ++ mid) f older id := by
  have horderly := (Bench.Orderly.start guests).after actions
  have hid : id.number ≤ ((Bench.start guests).after actions).world.issued :=
    horderly.world.numbered f (by simp [hbefore]) id (Event.environment?_of_channelFailure? hf)
  have huses : (∃ e ∈ events, e.used? = some id) ↔
      ((Bench.start guests).after actions).Meets action id :=
    Bench.perform_uses_iff (by rw [← Bench.after_snoc, htrace, hbefore, List.append_assoc]) hid
  refine ⟨fun hnot ↦ ?_, fun hreused ↦ ?_, ?_⟩
  · obtain ⟨later, answer, rfl, -⟩ := h.released hnot
    have hlives := ((Bench.Orderly.start guests).after (actions ++ [action])).world.lives
    rw [htrace, ← List.append_assoc, List.append_assoc _ _ (f :: older),
      List.singleton_append] at hlives
    exact ⟨events ++ later, answer, by rw [List.append_assoc], hlives.after_discarded.2⟩
  · obtain ⟨before, hprefix, hremembered⟩ := h.remembered hreused
    exact ⟨before, hprefix.trans (List.prefix_append actions [action]), hremembered⟩
  · simp only [List.mem_append, or_and_right, exists_or, huses, h.used_iff]
    constructor
    · rintro (hmeets | ⟨before, a, later, rfl, hsuffix, hmeets⟩)
      · exact ⟨actions, action, [], rfl, hbefore ▸ List.suffix_append mid (f :: older), hmeets⟩
      · exact ⟨before, a, later ++ [action], by simp, hsuffix, hmeets⟩
    · rintro ⟨before, a, later, hsplit, hsuffix, hmeets⟩
      rcases List.eq_nil_or_concat later with rfl | ⟨later, b, rfl⟩
      · obtain ⟨rfl, heq⟩ := List.append_inj' hsplit rfl
        obtain rfl := (List.cons.inj heq).1
        exact .inl hmeets
      · rw [List.concat_eq_append, ← List.cons_append, ← List.append_assoc] at hsplit
        obtain ⟨rfl, -⟩ := List.append_inj' hsplit rfl
        exact .inr ⟨before, a, later, rfl, hsuffix, hmeets⟩

theorem aftermath (guests : σ) (actions : List Action) {newer older : List Event} {f : Event}
    {id : EnvironmentId}
    (htrace : ((Bench.start guests).after actions).world.trace = newer ++ f :: older)
    (hf : f.channelFailure? = some id) : Aftermath guests actions newer f older id := by
  -- the last action split off: either the channel failed in it, or the failure lies before it
  induction actions using List.reverseRecOn generalizing newer with
  | nil => simp [Bench.after, Bench.start] at htrace
  | append_singleton actions action ih =>
    obtain ⟨events, hevents, -⟩ := ((Bench.start guests).after actions).perform_trace action
    rw [← Bench.after_snoc, htrace] at hevents
    rcases Event.split_cases hevents with ⟨mid, rfl, rfl⟩ | ⟨mid, rfl, hbefore⟩
    · exact .of_last htrace hf
    · exact (ih hbefore).of_earlier hbefore htrace hf

/-- In every run of a dispatcher over requests, so it goes with an environment whose channel
failed. -/
theorem Dispatcher.channel_aftermath (policy : Policy) (guests : σ) (requests : List WorkRequest) :
    ∃ actions, ((Dispatcher.start policy guests).handleAll requests).bench =
      (Bench.start guests).after actions ∧
      ∀ newer f older id, ((Dispatcher.start policy guests).handleAll requests).world.trace =
        newer ++ f :: older →
        f.channelFailure? = some id → Aftermath guests actions newer f older id := by
  obtain ⟨actions, hactions⟩ := (Dispatcher.start policy guests).handleAll_acts requests
  have hbench : ((Dispatcher.start policy guests).handleAll requests).bench =
      (Bench.start guests).after actions :=
    hactions
  refine ⟨actions, hbench, fun newer f older id htrace hf ↦ aftermath guests actions ?_ hf⟩
  rw [← hbench]
  exact htrace

end Runs

def closingGuests : Faulty Mock :=
  { guests := Mock.respond "rules-clojure.jar/get-compilation-script-json" (.string "s") {}
    faults := [⟨.load, "b.jar", .closed⟩] }

def requestFor (classpath : String) : WorkRequest :=
  { arguments := ["[[],\"c\"," ++ classpath ++ ",\"o\"]"] }

def closingRequests : List WorkRequest :=
  [requestFor "[\"a.jar\"]", requestFor "[\"a.jar\",\"b.jar\"]", requestFor "[\"a.jar\"]"]

def closingRun : Dispatcher (Faulty Mock) :=
  (Dispatcher.start { settings := {} } closingGuests).handleAll closingRequests

theorem closed_channel_met_again :
    ∃ before action later, closingRun.bench =
      (Bench.start closingGuests).after (before ++ action :: later) ∧
      ((Bench.start closingGuests).after before).Meets action ⟨2⟩ := by
  have hfailure : ∃ f ∈ closingRun.world.trace[4]?, f.channelFailure? = some ⟨2⟩ ∧
      ∃ e ∈ closingRun.world.trace.take 4, e.used? = some ⟨2⟩ := by
    decide +kernel
  obtain ⟨actions, hbench, haftermath⟩ :=
    Dispatcher.channel_aftermath { settings := {} } closingGuests closingRequests
  unfold closingRun at hfailure ⊢
  generalize (Dispatcher.start { settings := {} } closingGuests).handleAll closingRequests = d
    at hbench haftermath hfailure ⊢
  obtain ⟨f, hat, hf, hused⟩ := hfailure
  obtain ⟨hlt, rfl⟩ := List.getElem?_eq_some_iff.mp hat
  have hsplit :
      d.world.trace = d.world.trace.take 4 ++ d.world.trace[4] :: d.world.trace.drop 5 := by
    rw [← List.drop_eq_getElem_cons hlt, List.take_append_drop]
  obtain ⟨before, action, later, rfl, -, hmeets⟩ :=
    (haftermath _ _ _ ⟨2⟩ hsplit hf).used_iff.mp hused
  exact ⟨before, action, later, hbench, hmeets⟩

def NeverUsedAgain (trace : List Event) : Prop :=
  trace.Pairwise fun later f ↦ ∀ id, f.channelFailure? = some id → later.used? ≠ some id

instance (trace : List Event) : Decidable (NeverUsedAgain trace) :=
  decidable_of_iff (trace.Pairwise fun later f ↦ f.channelFailure? = none ∨
    later.used? ≠ f.channelFailure?) <|
    List.Pairwise.iff fun {later f} ↦ by cases f.channelFailure? <;> simp

theorem not_neverUsedAgain : ¬ ∀ requests,
    NeverUsedAgain
      ((Dispatcher.start { settings := {} } closingGuests).handleAll requests).world.trace := by
  intro h
  have hrun := h closingRequests
  revert hrun
  decide +kernel

end CompileWorker
