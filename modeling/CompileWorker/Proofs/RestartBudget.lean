import CompileWorker.Environment.Mock
import CompileWorker.Proofs.Lifecycle
import CompileWorker.Proofs.RequestOrder
import Mathlib.Data.List.Forall2

namespace CompileWorker

namespace Event

def creates (id : EnvironmentId) (role : Role) : Event → Bool
  | .created i r => i = id ∧ r = role
  | _ => false

def discards (id : EnvironmentId) : Event → Bool
  | .discarded i _ => i = id
  | _ => false

def isCallIn (trace : List Event) (role : Role) : Event → Bool
  | .invoked id _ _ _ => trace.any (·.creates id role)
  | _ => false

def script? : Event → Option String
  | .invoked _ _ _ (.ok invocation) => invocation.value.asString?
  | _ => none

def signal? : Event → Option Signal
  | .invoked _ _ _ (.ok invocation) => (Signal.ofValue invocation.value).toOption
  | _ => none

def failure? : Event → Option EnvironmentError
  | .invoked _ _ _ (.error e) => some e
  | _ => none

/-- One call is made again as another: the environment of the one is discarded, then one that never
was before is created for the other and has a classpath loaded. -/
inductive Retried (classpath : List String) (trace : List Event) : Event → Event → Prop
  | again {id id' : EnvironmentId} {entryPoint payload : String}
      {answer answer' : Except EnvironmentError Invocation}
      {gone : Except EnvironmentError Unit} {newer loads older : List Event}
      (htrace : trace = newer ++ .invoked id' entryPoint payload answer' ::
        (loads ++ .created id' .compile :: .discarded id gone :: .invoked id entryPoint payload
          answer :: older))
      (hloads : classpath.Forall₂ (fun location e ↦ ∃ isNew, e = .located id' location (.ok isNew))
        loads.reverse)
      (hnew : ∀ e ∈ .invoked id entryPoint payload answer :: older, e.environment? ≠ some id')
      (honce : trace.countP (·.discards id) = 1) :
      Retried classpath trace (.invoked id entryPoint payload answer)
        (.invoked id' entryPoint payload answer')

end Event

/-- So many answers in a row ask for a restart, and the next one does not. -/
def RestartsFor (k : Nat) (signals : List (Option Signal)) : Prop :=
  (∀ s ∈ signals.take k, s = some .retry) ∧ signals[k]? ≠ some (some .retry)

instance (k : Nat) (signals : List (Option Signal)) : Decidable (RestartsFor k signals) :=
  inferInstanceAs (Decidable (_ ∧ _))

variable {σ : Type}

def World.calls (w w' : World σ) (role : Role) : List Event :=
  (w.since w').reverse.filter (·.isCallIn w'.trace role)

theorem Lives.discarded_once {trace : List Event} {live : Live} {id : EnvironmentId}
    {gone : Except EnvironmentError Unit} (h : Lives trace live)
    (hgone : .discarded id gone ∈ trace) : trace.countP (·.discards id) = 1 := by
  obtain ⟨newer, older, rfl⟩ := List.append_of_mem hgone
  have hnewer := h.after_discarded.2
  have hcount : ∀ events : List Event, (∀ answer, .discarded id answer ∉ events) →
      events.countP (·.discards id) = 0 := by
    intro events hnone
    refine List.countP_eq_zero.mpr fun e he hdiscards ↦ ?_
    cases e with
    | discarded i answer =>
      obtain rfl : i = id := by simpa [Event.discards] using hdiscards
      exact hnone answer he
    | _ => cases hdiscards
  have holder : ∀ answer, .discarded id answer ∉ older := by
    intro answer hm
    obtain ⟨between, oldest, rfl⟩ := List.append_of_mem hm
    rw [← List.cons_append, ← List.append_assoc] at h
    exact h.after_discarded.2 (.discarded id gone) (by simp) rfl
  rw [List.countP_append, List.countP_cons_of_pos (by simp [Event.discards]), hcount older holder,
    hcount newer fun answer hm ↦ hnewer _ hm rfl]

theorem Event.isCallIn_iff {trace : List Event} {live : Live} {id : EnvironmentId}
    {role role' : Role} {entryPoint payload : String} {answer : Except EnvironmentError Invocation}
    (h : Lives trace live) (hcreated : .created id role ∈ trace) :
    (Event.invoked id entryPoint payload answer).isCallIn trace role' ↔ role = role' := by
  have hcreates : ∀ e : Event, e.creates id role' ↔ e = .created id role' := by
    intro e
    cases e <;> simp [creates]
  simp only [isCallIn, List.any_eq_true, hcreates]
  constructor
  · rintro ⟨e, he, rfl⟩
    exact h.role_unique hcreated he
  · rintro rfl
    exact ⟨_, hcreated, rfl⟩

variable [Guests σ]

theorem Environment.loadAll_located {env env' : Environment} {w w' : World σ}
    {classpath : List String} {n : Nat} (h : env.loadAll w classpath = (.ok n, env', w')) :
    ∃ loads, w'.trace = loads ++ w.trace ∧
      classpath.Forall₂ (fun location e ↦ ∃ isNew, e = .located env.id location (.ok isNew))
        loads.reverse := by
  induction classpath generalizing env w n with
  | nil =>
    obtain ⟨-, -, rfl⟩ := Prod.mk.inj h |>.imp_right Prod.mk.inj
    exact ⟨[], rfl, .nil⟩
  | cons location classpath ih =>
    have hfirst := addLocation_grows env location w
    rcases ha : env.addLocation location w with ⟨e | added, env₁, w₁⟩
    · simp [loadAll, ha] at h
    · rw [ha] at hfirst
      rcases hr : env₁.loadAll w₁ classpath with ⟨e | n, env₂, w₂⟩
      · simp [loadAll, ha, hr] at h
      · simp only [loadAll, ha, hr, Prod.mk.injEq] at h
        obtain ⟨-, rfl, rfl⟩ := h
        obtain ⟨loads, htrace, hloads⟩ := ih hr
        rw [hfirst.id] at hloads
        refine ⟨loads ++ [.located env.id location (.ok added)], by rw [htrace, hfirst.trace,
          List.append_assoc], ?_⟩
        rw [List.reverse_append]
        exact .cons ⟨added, rfl⟩ hloads

theorem EnvironmentCache.Acquires.not_provides {c c' : EnvironmentCache} {key : DigestMap}
    {classpath : List String} {w w' : World σ} {e : CacheError} {events : List Event}
    (h : c.Acquires key classpath w (.error e, c', w') events) : ∃ e ∈ events, ¬ e.provides := by
  cases h with
  | stuck | notCreated => exact ⟨_, List.mem_cons_self, Bool.false_ne_true⟩
  | unloadable => exact ⟨_, List.mem_cons_of_mem _ List.mem_cons_self, Bool.false_ne_true⟩

namespace Bench

variable {b b₁ b₂ b' : Bench σ} {t : GuestTask} {o o' : TaskOutcome} {as : List Attempt}
  {trace : List Event}

omit [Guests σ] in
def Serves (b : Bench σ) (trace : List Event) : Prop :=
  ∃ events, trace = events ++ b.world.trace ∧ ∀ e ∈ events, e.provides

omit [Guests σ] in
theorem Serves.after (h : b.Serves trace) (hb : b.world.trace <:+ b'.world.trace)
    (htrace : b'.world.trace <:+ trace) : b'.Serves trace := by
  obtain ⟨events, rfl, hprovides⟩ := h
  obtain ⟨newer, hnewer⟩ := htrace
  obtain ⟨between, hbetween⟩ := hb
  rw [← hbetween, ← List.append_assoc] at hnewer
  obtain rfl := List.append_cancel_right hnewer
  refine ⟨newer, ?_, fun e he ↦ hprovides e (List.mem_append_left _ he)⟩
  rw [← hbetween, List.append_assoc]

omit [Guests σ] in
theorem Serves.provides (h : b.Serves trace) {events : List Event}
    (hb : b'.world.trace = events ++ b.world.trace) (htrace : b'.world.trace <:+ trace) :
    ∀ e ∈ events, e.provides := by
  obtain ⟨all, rfl, hprovides⟩ := h
  obtain ⟨newer, hnewer⟩ := htrace
  rw [hb, ← List.append_assoc] at hnewer
  obtain rfl := List.append_cancel_right hnewer
  exact fun e he ↦ hprovides e (List.mem_append_right _ he)

theorem Follows.suffix (h : b.Follows as b') : b.world.trace <:+ b'.world.trace := by
  obtain ⟨events, htrace, -⟩ := h.calls
  exact ⟨events, htrace.symm⟩

theorem Follows.serves (h : b.Follows as b')
    (hprovides : ∀ e ∈ b.world.since b'.world, e.provides) : b.Serves b'.world.trace := by
  obtain ⟨events, htrace⟩ := h.suffix
  rw [World.since_eq htrace.symm] at hprovides
  exact ⟨events, htrace.symm, hprovides⟩

theorem Makes.perform (h : b.Makes t o b') :
    b' = b.perform (.attempt t.role t.key t.classpath t.entryPoint t.payload) := by
  cases h with
  | notReady ha => simp [Bench.perform, on, EnvironmentCache.attempt, ha]
  | @heard _ _ _ _ _ _ answer ha _ hi hheard =>
    rcases answer with e | invocation
    · cases e with
      | guest => simp [Bench.perform, on, EnvironmentCache.attempt, ha, hi]
      | _ => cases hheard
    · simp [Bench.perform, on, EnvironmentCache.attempt, ha, hi]
  | @broken _ _ _ _ _ _ answer ha _ hi hheard =>
    rcases answer with e | invocation
    · cases e with
      | guest => exact absurd rfl hheard
      | _ => simp [Bench.perform, on, EnvironmentCache.attempt, ha, hi]
    · exact absurd rfl hheard

theorem Follows.orderly (h : b.Follows as b') (hb : b.Orderly) : b'.Orderly := by
  induction h with
  | done => exact hb
  | attempt hm _ ih => exact ih (hm.perform ▸ hb.perform _)
  | discard role _ ih => exact ih (hb.perform _)

theorem Makes.orderly (h : b.Makes t o b') (hb : b.Orderly) : b'.Orderly := h.follows.orderly hb

theorem Makes.isReady (h : b.Makes t o b') (hs : b.Serves trace)
    (htrace : b'.world.trace <:+ trace) : o.isReady := by
  cases h with
  | notReady ha =>
    obtain ⟨events, hacq⟩ := (b.caches.get t.role).acquires t.key t.classpath b.world
    rw [ha] at hacq
    obtain ⟨e, he, hfails⟩ := hacq.not_provides
    exact absurd (hs.provides hacq.trace htrace e he) hfails
  | heard | broken => rfl

theorem Follows.isReady (h : b.Follows as b') (hs : b.Serves trace)
    (htrace : b'.world.trace <:+ trace) : ∀ a ∈ as, a.outcome.isReady := by
  induction h with
  | done => simp
  | attempt hm hrest ih =>
    have hrest' := hrest.suffix.trans htrace
    exact List.forall_mem_cons.mpr ⟨hm.isReady hs hrest',
      ih (hs.after hm.follows.suffix hrest') htrace⟩
  | discard role hrest ih =>
    exact ih (hs.after (Follows.discard role (.done _)).suffix (hrest.suffix.trans htrace)) htrace

theorem Makes.created {id : EnvironmentId} {answer : Except EnvironmentError Invocation}
    (h : b.Makes t (.ran id answer) b') (hb : b.Orderly) : .created id t.role ∈ b'.world.trace := by
  obtain ⟨acquisition, c, w, after, ha, hid, htrace, -⟩ := h.acquired
  have hkept := (hb.kept t.role).acquire t.key t.classpath
  rw [ha] at hkept
  have hlive : .created id t.role ∈ w.trace :=
    hkept.orderly.lives.created_of_live (Live.set_same.trans hid)
  rw [htrace]
  exact List.mem_append_right _ (List.mem_cons_of_mem _ hlive)

theorem Follows.isCallIn_iff {live : Live} (h : b.Follows as b') (hb : b.Orderly)
    (hlives : Lives trace live) (htrace : b'.world.trace <:+ trace) (role : Role) :
    ∀ a ∈ as, ∀ e ∈ a.call?, e.isCallIn trace role ↔ a.task.role = role := by
  induction h with
  | done => simp
  | @attempt b b₁ b₂ a as hm hrest ih =>
    refine List.forall_mem_cons.mpr ⟨fun e he ↦ ?_, ih (hm.orderly hb) htrace⟩
    rcases a with ⟨t, o⟩
    cases o with
    | notReady => cases he
    | ran id answer =>
      cases he
      exact Event.isCallIn_iff hlives ((hrest.suffix.trans htrace).mem (hm.created hb))
  | discard role _ ih => exact ih (hb.perform _) htrace

theorem Follows.calls_eq (h : b.Follows as b') (hb : b.Orderly) (role : Role) :
    b.world.calls b'.world role = (as.filter (·.task.role = role)).filterMap Attempt.call? := by
  obtain ⟨events, htrace, hcalls⟩ := h.calls
  have hcallIn : ∀ e : Event, (e.isCall && e.isCallIn b'.world.trace role) =
      e.isCallIn b'.world.trace role := by
    intro e
    cases e <;> simp [Event.isCall, Event.isCallIn]
  have hfilter : events.reverse.filter (·.isCallIn b'.world.trace role) =
      (as.filterMap Attempt.call?).filter (·.isCallIn b'.world.trace role) := by
    rw [← hcalls, List.filter_filter]
    exact List.filter_congr fun e _ ↦ by rw [Bool.and_comm, hcallIn]
  rw [World.calls, World.since_eq htrace, hfilter, List.filter_filterMap, List.filterMap_filter]
  refine List.filterMap_congr fun a ha ↦ ?_
  have hiff := h.isCallIn_iff hb (h.orderly hb).world.lives (List.suffix_refl _) role a ha
  cases hcall : a.call? with
  | none => simp
  | some e =>
    have hrole := hiff e hcall
    by_cases hr : a.task.role = role
    · simp [hr, hrole.mpr hr]
    · simp [hr, mt hrole.mp hr]

theorem Makes.fresh {id : EnvironmentId} {answer : Except EnvironmentError Invocation}
    (h : b.Makes t (.ran id answer) b') (hb : b.Orderly)
    (hvacant : (b.caches.get t.role).entry = none) :
    ∃ after loads, b'.world.trace = after ++ .invoked id t.entryPoint t.payload answer ::
        (loads ++ .created id t.role :: b.world.trace) ∧
      t.classpath.Forall₂ (fun location e ↦ ∃ isNew, e = .located id location (.ok isNew))
        loads.reverse := by
  obtain ⟨acquisition, c, w, after, ha, hid, htrace, -⟩ := h.acquired
  obtain ⟨events, hacq⟩ := (b.caches.get t.role).acquires t.key t.classpath b.world
  rw [ha] at hacq
  cases hacq with
  | reused hc => simp [hvacant] at hc
  | @built _ c₁ w₁ w₂ _ env env' _ _ loads hv hn hl hg =>
    cases hv with
    | stale hc => simp [hvacant] at hc
    | vacant =>
      obtain ⟨loads, hloaded, hloads⟩ := Environment.loadAll_located hl
      obtain ⟨rfl, -, hcreated⟩ := World.create_ok hn
      obtain rfl := Option.some.inj (hid.symm.trans (congrArg some hg.id))
      refine ⟨after, loads, ?_, hloads⟩
      rw [htrace, hloaded, hcreated, hb.role_eq]

theorem Makes.heard_of_signal {signal : Signal} (h : b.Makes t o b')
    (ho : o.signal? = some signal) :
    ∃ id answer older, o = .ran id answer ∧
      b'.world.trace = .invoked id t.entryPoint t.payload answer :: older ∧
      (b'.caches.get t.role).environmentId? = some id := by
  rcases o with e | ⟨id, e | invocation⟩
  · cases ho
  · cases ho
  · obtain ⟨acquisition, c, w, after, ha, hid, htrace, -, hafter⟩ := h.acquired
    rw [hafter rfl] at htrace
    exact ⟨id, .ok invocation, w.trace, rfl, htrace, h.slot⟩

theorem Makes.retried {live : Live} (hm : b.Makes t o b₁) (ho : o.signal? = some .retry)
    (hm' : (b₁.perform (.discard .compile)).Makes t o' b₂) (ht : t.role = .compile) (hb : b.Orderly)
    (hs : b.Serves trace) (htrace : b₂.world.trace <:+ trace) (hlives : Lives trace live) :
    ∃ e e', Attempt.call? ⟨t, o⟩ = some e ∧ Attempt.call? ⟨t, o'⟩ = some e' ∧
      Event.Retried t.classpath trace e e' := by
  obtain ⟨id, answer, older, rfl, hcalled, hid⟩ := hm.heard_of_signal ho
  rw [ht] at hid
  obtain ⟨gone, hgone⟩ := EnvironmentCache.discard_of_live hid b₁.world
  have hdiscarded : (b₁.perform (.discard .compile)).world.trace =
      .discarded id gone :: .invoked id t.entryPoint t.payload answer :: older := by
    rw [← hcalled]
    exact hgone
  have hb' : (b₁.perform (.discard .compile)).Orderly := (hm.orderly hb).perform _
  have hsuffix : b.world.trace <:+ (b₁.perform (.discard .compile)).world.trace :=
    (hm.follows.append (.discard .compile (.done _))).suffix
  have hready := hm'.isReady (hs.after hsuffix (hm'.follows.suffix.trans htrace)) htrace
  rcases o' with e | ⟨id', answer'⟩
  · cases hready
  have hvacant : ((b₁.perform (.discard .compile)).caches.get t.role).entry = none := by
    simp [ht, Bench.perform, on, EnvironmentCache.discard_entry]
  obtain ⟨after, loads, hfresh, hloads⟩ := hm'.fresh hb' hvacant
  rw [hdiscarded, ht] at hfresh
  obtain ⟨newer, rfl⟩ := htrace
  rw [hfresh, ← List.append_assoc] at hlives ⊢
  have honce := hlives.discarded_once (List.mem_append_right _ (List.mem_cons_of_mem _
    (List.mem_append_right _ (List.mem_cons_of_mem _ List.mem_cons_self))))
  refine ⟨_, _, rfl, rfl, .again rfl hloads (fun e he ↦ ?_) honce⟩
  rw [← List.cons_append, ← List.append_assoc] at hlives
  obtain ⟨live', hlives'⟩ := hlives.of_append
  cases hlives' with
  | created _ _ hnew => exact hnew e (List.mem_cons_of_mem _ he)
  | used _ _ hused => cases hused

inductive Tries (t : GuestTask) : Bench σ → List Attempt → Bench σ → Prop
  | none (b : Bench σ) : Tries t b [] b
  | one {b b' : Bench σ} {o : TaskOutcome} (hm : b.Makes t o b') : Tries t b [⟨t, o⟩] b'
  | retry {b b₁ b' : Bench σ} {o : TaskOutcome} {as : List Attempt} (hm : b.Makes t o b₁)
      (ho : o.signal? = some .retry) (hrest : Tries t (b₁.perform (.discard .compile)) as b') :
      Tries t b (⟨t, o⟩ :: as) b'

theorem Restarts.tries {as' : List Attempt} (h : b.Restarts t as b₁) (h' : b₁.Tries t as' b') :
    b.Tries t (as ++ as') b' := by
  induction h with
  | done => exact h'
  | retry hm ho _ ih => exact .retry hm ho (ih h')

theorem Tries.follows (h : b.Tries t as b') : b.Follows as b' := by
  induction h with
  | none b => exact .done b
  | one hm => exact hm.follows
  | retry hm _ _ ih => exact .attempt hm (.discard .compile ih)

theorem Tries.isChain {live : Live} (h : b.Tries t as b') (ht : t.role = .compile) (hb : b.Orderly)
    (hs : b.Serves trace) (htrace : b'.world.trace <:+ trace) (hlives : Lives trace live) :
    (as.filterMap Attempt.call?).IsChain (Event.Retried t.classpath trace) := by
  have hsingle : ∀ a :
      Attempt, (List.filterMap Attempt.call? [a]).IsChain (Event.Retried t.classpath trace) := by
    intro a
    cases hcall : a.call? <;> simp [hcall]
  induction h with
  | none => exact .nil
  | one => exact hsingle _
  | @retry b b₁ b' o as hm ho hrest ih =>
    have hb₁ := (hm.orderly hb).perform (.discard .compile)
    have hsuffix : b.world.trace <:+ (b₁.perform (.discard .compile)).world.trace :=
      (hm.follows.append (.discard .compile (.done _))).suffix
    have hchain := ih hb₁ (hs.after hsuffix (hrest.follows.suffix.trans htrace)) htrace
    cases hrest with
    | none => exact hsingle _
    | one hm' =>
      obtain ⟨e, e', he, he', hretried⟩ := hm.retried ho hm' ht hb hs htrace hlives
      rw [List.filterMap_cons_some he]
      rw [List.filterMap_cons_some he'] at hchain ⊢
      exact .cons_cons hretried hchain
    | retry hm' _ hrest' =>
      have htrace' := (Follows.discard .compile hrest'.follows).suffix.trans htrace
      obtain ⟨e, e', he, he', hretried⟩ := hm.retried ho hm' ht hb hs htrace' hlives
      rw [List.filterMap_cons_some he]
      rw [List.filterMap_cons_some he'] at hchain ⊢
      exact .cons_cons hretried hchain

end Bench

omit [Guests σ] in
theorem Event.signal?_invoked (id : EnvironmentId) (entryPoint payload : String)
    (answer : Except EnvironmentError Invocation) :
    (invoked id entryPoint payload answer).signal? = (TaskOutcome.ran id answer).signal? := by
  cases answer with
  | error => rfl
  | ok invocation =>
    simp only [signal?, TaskOutcome.signal?, TaskOutcome.verdict]
    cases Signal.ofValue invocation.value <;> rfl

namespace Attempt

omit [Guests σ] in
theorem call?_of_ready {a : Attempt} (h : a.outcome.isReady) :
    ∃ id answer, a.outcome = .ran id answer ∧
      a.call? = some (.invoked id a.task.entryPoint a.task.payload answer) := by
  rcases a with ⟨t, e | ⟨id, answer⟩⟩
  · cases h
  · exact ⟨id, answer, rfl, rfl⟩

omit [Guests σ] in
theorem signals_eq {as : List Attempt} (h : ∀ a ∈ as, a.outcome.isReady) :
    (as.filterMap call?).map Event.signal? = as.map (·.outcome.signal?) := by
  induction as with
  | nil => rfl
  | cons a as ih =>
    obtain ⟨ha, has⟩ := List.forall_mem_cons.mp h
    obtain ⟨id, answer, houtcome, hcall⟩ := call?_of_ready ha
    rw [List.filterMap_cons_some hcall, List.map_cons, List.map_cons, ih has, Event.signal?_invoked,
      houtcome]

omit [Guests σ] in
theorem length_calls {as : List Attempt} (h : ∀ a ∈ as, a.outcome.isReady) :
    (as.filterMap call?).length = as.length := by
  have hlength := congrArg List.length (signals_eq h)
  rwa [List.length_map, List.length_map] at hlength

variable {t : GuestTask} {as : List Attempt}

omit [Guests σ] in
theorem invoked_of_mem_calls (hready : ∀ a ∈ as, a.outcome.isReady) (htask : ∀ a ∈ as, a.task = t) :
    ∀ e ∈ as.filterMap call?, ∃ id answer, e = .invoked id t.entryPoint t.payload answer := by
  intro e he
  obtain ⟨a, ha, hcall⟩ := List.mem_filterMap.mp he
  obtain ⟨id, answer, -, hcall'⟩ := call?_of_ready (hready a ha)
  rw [htask a ha] at hcall'
  exact ⟨id, answer, Option.some.inj (hcall.symm.trans hcall')⟩

omit [Guests σ] in
theorem getLast?_calls {a : Attempt} (h : a ∈ as.getLast?) (hready : ∀ a ∈ as, a.outcome.isReady)
    (htask : ∀ a ∈ as, a.task = t) : ∃ id answer, a.outcome = .ran id answer ∧
      (as.filterMap call?).getLast? = some (.invoked id t.entryPoint t.payload answer) := by
  have hmem := List.mem_of_getLast? h
  obtain ⟨id, answer, houtcome, hcall⟩ := call?_of_ready (hready a hmem)
  rw [htask a hmem] at hcall
  obtain ⟨before, rfl⟩ := List.getLast?_eq_some_iff.mp h
  refine ⟨id, answer, houtcome, ?_⟩
  rw [List.filterMap_append, List.filterMap_cons_some hcall]
  exact List.getLast?_concat

end Attempt

namespace Policy

variable {p : Policy} {request : WorkRequest} {t : GuestTask} {restarts : Nat} {b b' : Bench σ}
  {as : List Attempt} {r : Option (Except DispatchError Signal)}

omit [Guests σ] in
theorem limit_le_grants (p : Policy) : p.settings.maxRestarts.toNat ≤ p.grants := by
  unfold grants
  split
  · exact Nat.le_add_right _ _
  · exact Nat.le_refl _

omit [Guests σ] in
theorem grants_of_lt (p : Policy) (h : p.settings.maxRestarts.toNat + 1 < UInt32.size) :
    p.grants = p.settings.maxRestarts.toNat ∧
      p.exhausted = some (.error (.restartLoop (p.settings.maxRestarts + 1))) := by
  have hlimit : p.settings.maxRestarts ≠ 0xFFFFFFFF := by
    intro hlargest
    rw [hlargest] at h
    exact absurd h (Nat.lt_irrefl _)
  exact ⟨if_neg hlimit, if_neg hlimit⟩

theorem Compiles.tries (h : p.Compiles t restarts b as r b') : b.Tries t as b' := by
  cases h with
  | exhausted h =>
    have htries := h.tries (.none b')
    rwa [List.append_nil] at htries
  | settled h _ hm => exact h.tries (.one hm)

theorem Compiles.count {k : Nat} (h : p.Compiles t restarts b as r b')
    (hk : RestartsFor k (as.map (·.outcome.signal?))) :
    (k ≤ restarts ∧ as.length = k + 1 ∧ ∃ a ∈ as.getLast?, r = some a.outcome.verdict) ∨
      (restarts < k ∧ as.length = restarts + 1 ∧ (∀ a ∈ as, a.outcome.signal? = some .retry) ∧
        r = p.exhausted) := by
  obtain ⟨hfirst, hnext⟩ := hk
  cases h with
  | exhausted h hlen =>
    refine .inr ⟨Nat.lt_of_not_le fun hle ↦ hnext ?_, hlen, fun a ha ↦ (h.attempt_of_mem a ha).2,
      rfl⟩
    have hlt : k < as.length := by omega
    simp [hlt, (h.attempt_of_mem as[k] (List.getElem_mem hlt)).2]
  | @settled as o b₁ _ h hlen _ ho =>
    have hle : as.length ≤ k := by
      refine Nat.le_of_not_lt fun hlt ↦ hnext ?_
      simp [List.getElem?_append_left, hlt, (h.attempt_of_mem as[k] (List.getElem_mem hlt)).2]
    have hge : k ≤ as.length := by
      refine Nat.le_of_not_lt fun hlt ↦ ho (hfirst o.signal? ?_)
      have hlength : as.length + 1 ≤ k := hlt
      rw [List.take_of_length_le (by simpa using hlength)]
      simp
    refine .inl ⟨Nat.le_trans hge hlen, by simp [Nat.le_antisymm hge hle], ?_⟩
    simp

theorem Processes.compiles_of_script {c : Course} {script : String}
    (h : p.Processes request b c r b') (hscript : c.script? = some script) :
    ∃ payload compileRequest b₁ compiled b₂, request.accepted? = some (payload, compileRequest) ∧
      b.Follows c.plan.toList b₁ ∧
      p.Compiles (p.compileTask request compileRequest script) p.grants b₁ c.compiles compiled b₂ ∧
      b₂.Follows c.package.toList b' ∧
      r = compiled.map fun verdict ↦ verdict.bind fun signal ↦
        (c.package.elim (.ok signal) fun a ↦ (a.outcome.result .tooling).map fun _ ↦ signal) := by
  cases h with
  | rejected => cases hscript
  | unplanned _ _ hnone =>
    have hnone' : none = some script := hnone.symm.trans hscript
    cases hnone'
  | @uncompiled _ _ _ o _ _ _ _ h hm ho hc =>
    obtain rfl := Option.some.inj (ho.symm.trans hscript)
    refine ⟨_, _, _, r, _, h, hm.follows, hc, .done b', ?_⟩
    rcases r with _ | e | signal <;> rfl
  | @compiled _ _ _ o _ signal package packaged _ _ b₃ h hm ho hc hp =>
    obtain rfl := Option.some.inj (ho.symm.trans hscript)
    refine ⟨_, _, _, _, _, h, hm.follows, hc, ?_, ?_⟩
    · split
      · have hdiscarded := hp.follows.append (.discard .compile (.done _))
        rwa [List.append_nil] at hdiscarded
      · exact hp.follows
    · cases hp with
      | disabled => rfl
      | @made _ o =>
        change some _ = some ((o.result .tooling).map _)
        cases o.result .tooling <;> rfl

end Policy

namespace Course.Lawful

variable {c : Course} {p : Policy} {request : WorkRequest}

omit [Guests σ] in
theorem role_of_plan (h : c.Lawful p request) : ∀ a ∈ c.plan, a.task.role = .tooling := by
  intro a ha
  have hplan := h.plan
  rw [Option.mem_def.mp ha, Option.map_some] at hplan
  obtain ⟨_, _, htask⟩ := Option.map_eq_some_iff.mp hplan.symm
  rw [← htask]
  rfl

theorem role_of_compiles (h : c.Lawful p request) : ∀ a ∈ c.compiles, a.task.role = .compile := by
  intro a ha
  obtain ⟨_, _, _, _, _, htask⟩ := h.compiles a ha
  rw [htask]
  rfl

theorem role_of_package (h : c.Lawful p request) : ∀ a ∈ c.package, a.task.role = .tooling := by
  intro a ha
  obtain ⟨_, _, _, htask⟩ := h.package a ha
  rw [htask]
  rfl

theorem filter_compile (h : c.Lawful p request) :
    c.steps.filter (·.task.role = .compile) = c.compiles := by
  have hplan : c.plan.toList.filter (·.task.role = .compile) = [] :=
    List.filter_eq_nil_iff.mpr fun a ha ↦ by simp [h.role_of_plan a (Option.mem_toList.mp ha)]
  have hpackage : c.package.toList.filter (·.task.role = .compile) = [] :=
    List.filter_eq_nil_iff.mpr fun a ha ↦ by simp [h.role_of_package a (Option.mem_toList.mp ha)]
  rw [steps, List.filter_append, List.filter_append, hplan, hpackage, List.nil_append,
    List.append_nil]
  exact List.filter_eq_self.mpr fun a ha ↦ by simp [h.role_of_compiles a ha]

theorem filter_tooling (h : c.Lawful p request) :
    c.steps.filter (·.task.role = .tooling) = c.plan.toList ++ c.package.toList := by
  have hcompiles : c.compiles.filter (·.task.role = .tooling) = [] :=
    List.filter_eq_nil_iff.mpr fun a ha ↦ by simp [h.role_of_compiles a ha]
  rw [steps, List.filter_append, List.filter_append, hcompiles, List.append_nil]
  refine congrArg₂ _ ?_ ?_
  · exact List.filter_eq_self.mpr fun a ha ↦ by simp [h.role_of_plan a (Option.mem_toList.mp ha)]
  · exact List.filter_eq_self.mpr fun a ha ↦ by simp [h.role_of_package a (Option.mem_toList.mp ha)]

theorem package_of_script (h : c.Lawful p request) (hscript : c.script? = none) :
    c.package = none := by
  have hcompiles : c.compiles = [] := by
    by_contra hne
    have hsome := h.compiles_iff.mp hne
    rw [hscript] at hsome
    cases hsome
  rw [← Option.not_isSome_iff_eq_none, h.package_iff]
  simp [signal?, hcompiles]

theorem script_of_tooling (h : c.Lawful p request) {script : String} (hhead :
    ((c.plan.toList ++ c.package.toList).filterMap Attempt.call?).head?.bind Event.script? =
      some script) :
    c.script? = some script ∧ ((c.plan.toList ++ c.package.toList).filterMap Attempt.call?).tail =
      c.package.toList.filterMap Attempt.call? := by
  have hready : ∀ t id answer, c.plan = some ⟨t, .ran id answer⟩ → c.script? =
      (Event.invoked id t.entryPoint t.payload answer).script? := by
    intro t id answer hplan
    rw [Course.script?, hplan]
    cases answer <;> rfl
  rcases hplan : c.plan with _ | ⟨t, e | ⟨id, answer⟩⟩
  · rw [hplan, h.package_of_script (by rw [Course.script?, hplan]; rfl)] at hhead
    cases hhead
  · rw [hplan, h.package_of_script (by rw [Course.script?, hplan]; rfl)] at hhead
    cases hhead
  · rw [hplan] at hhead
    exact ⟨(hready t id answer hplan).trans hhead, rfl⟩

end Course.Lawful

omit [Guests σ] in
theorem Course.packaged_eq (package : Option Attempt) (hready : ∀ a ∈ package, a.outcome.isReady)
    (signal : Signal) :
    package.elim (.ok signal) (fun a ↦ (a.outcome.result .tooling).map fun _ ↦ signal) =
      ((package.toList.filterMap Attempt.call?).findSome? Event.failure?).elim (.ok signal)
        fun e ↦ .error (.invoke .tooling e) := by
  cases package with
  | none => rfl
  | some a =>
    obtain ⟨id, answer, houtcome, hcall⟩ := Attempt.call?_of_ready (hready a rfl)
    rw [Option.toList_some, List.filterMap_cons_some hcall, Option.elim_some, houtcome]
    cases answer <;> rfl

namespace Policy.Processes

variable {p : Policy} {request : WorkRequest} {b b' : Bench σ} {c : Course}
  {r : Option (Except DispatchError Signal)}

theorem calls_compile (h : p.Processes request b c r b') (hb : b.Orderly) :
    b.world.calls b'.world .compile = c.compiles.filterMap Attempt.call? := by
  rw [h.follows.calls_eq hb, h.lawful.filter_compile]

theorem calls_tooling (h : p.Processes request b c r b') (hb : b.Orderly) :
    b.world.calls b'.world .tooling = (c.plan.toList ++ c.package.toList).filterMap
      Attempt.call? := by
  rw [h.follows.calls_eq hb, h.lawful.filter_tooling]

end Policy.Processes

namespace Dispatcher

/-- A dispatcher that was started and has handled requests and been shut down, in any order. -/
inductive Reachable : Dispatcher σ → Prop
  | start (policy : Policy) (guests : σ) : Reachable (start policy guests)
  | handle {d : Dispatcher σ} (h : Reachable d) (request : WorkRequest) :
      Reachable (d.handle request).2
  | shutdown {d : Dispatcher σ} (h : Reachable d) : Reachable d.shutdown.2

theorem Reachable.orderly {d : Dispatcher σ} (h : d.Reachable) : d.bench.Orderly := by
  induction h with
  | start policy guests => exact .start guests
  | @handle d _ request ih =>
    obtain ⟨actions, hactions⟩ := d.handle_acts request
    rw [hactions]
    exact ih.after actions
  | @shutdown d _ ih =>
    rw [d.shutdown_bench]
    exact ih.after _

/-- Creations and loads succeed while a request is handled, and the compiler asks for so many
restarts in a row. Within the limit there is one attempt more than that, and its answer decides;
beyond the limit there is one attempt more than the limit, and the request fails with none of its
environments left. -/
theorem restarts_within_limit {d d' : Dispatcher σ} (hd : d.Reachable) {request : WorkRequest}
    {response : Option WorkResponse} (hhandle : d.handle request = (response, d')) (script : String)
    (k : Nat) :
    let tooling := d.world.calls d'.world .tooling
    let compiles := d.world.calls d'.world .compile
    let limit := d.policy.settings.maxRestarts.toNat
    tooling.head?.bind Event.script? = some script → (∀ e ∈ d.world.since d'.world, e.provides) →
    RestartsFor k (compiles.map Event.signal?) → k < UInt32.size →
    ∃ payload r t, request.accepted? = some (payload, r) ∧
      (∀ e ∈ compiles, ∃ id answer, e = .invoked id d.policy.settings.entryPoints.compile script
        answer) ∧
      compiles.IsChain (Event.Retried r.classpath d'.world.trace) ∧
      (k ≤ limit → compiles.length = k + 1 ∧ ∃ id answer,
        compiles.getLast? = some (.invoked id d.policy.settings.entryPoints.compile script answer) ∧
        response = some (request.conclude t ((TaskOutcome.ran id answer).verdict.bind fun signal ↦
          (tooling.tail.findSome? Event.failure?).elim (.ok signal) fun e ↦
            .error (.invoke .tooling e))) ∧
        (d'.caches.get .compile).environmentId? = (TaskOutcome.ran id answer).kept?) ∧
      (limit < k → compiles.length = limit + 1 ∧ (d'.caches.get .compile).isVacant ∧ ∃ attempts,
        attempts.toNat = limit + 1 ∧
        response = some (request.conclude t (.error (.restartLoop attempts)))) := by
  intro tooling compiles limit hplanned hprovides hrestarts hk
  obtain ⟨c, result, h, t, hresponse⟩ := d.handle_processes request
  simp only [hhandle] at h hresponse
  have hcompiles : compiles = c.compiles.filterMap Attempt.call? := h.calls_compile hd.orderly
  have htooling : tooling = (c.plan.toList ++ c.package.toList).filterMap Attempt.call? :=
    h.calls_tooling hd.orderly
  rw [htooling] at hplanned ⊢
  rw [hcompiles] at hrestarts ⊢
  obtain ⟨hscript, htail⟩ := h.lawful.script_of_tooling hplanned
  obtain ⟨payload, r, b₁, compiled, b₂, haccepted, hplan, hc, hpackage, hresult⟩ :=
    h.compiles_of_script hscript
  -- no attempt lacks an environment, so that each of them is a call
  have hserves := h.follows.serves hprovides
  have hready := h.follows.isReady hserves (List.suffix_refl _)
  have hcompiled : ∀ a ∈ c.compiles, a.outcome.isReady := fun a ha ↦
    hready a (List.mem_append_left _ (List.mem_append_right _ ha))
  have hpackaged : ∀ a ∈ c.package, a.outcome.isReady := fun a ha ↦
    hready a (List.mem_append_right _ (Option.mem_toList.mpr ha))
  have hchain := hc.tries.isChain rfl (hplan.orderly hd.orderly)
    (hserves.after hplan.suffix (hc.follows.suffix.trans hpackage.suffix)) hpackage.suffix
    (h.follows.orderly hd.orderly).world.lives
  rw [Attempt.signals_eq hcompiled] at hrestarts
  rw [Attempt.length_calls hcompiled, htail]
  simp only [Course.packaged_eq c.package hpackaged] at hresult
  refine ⟨payload, r, t, haccepted, Attempt.invoked_of_mem_calls hcompiled hc.task_of_mem, hchain,
    ?_, ?_⟩
  · intro hle
    have hgranted : k ≤ d.policy.grants := Nat.le_trans hle d.policy.limit_le_grants
    rcases hc.count hrestarts with ⟨-, hlength, a, ha, rfl⟩ | ⟨hlt, -⟩
    · obtain ⟨id, answer, houtcome, hlast⟩ := Attempt.getLast?_calls ha hcompiled hc.task_of_mem
      have hslot := h.slot ha (hcompiled a (List.mem_of_getLast? ha))
      rw [houtcome] at hresult hslot
      exact ⟨hlength, id, answer, hlast, by rw [hresponse, hresult]; rfl, hslot⟩
    · exact absurd hgranted (Nat.not_le_of_lt hlt)
  · intro hlt
    have hroom : limit + 1 < UInt32.size := Nat.lt_of_le_of_lt hlt hk
    obtain ⟨hgrants, hexhausted⟩ := d.policy.grants_of_lt hroom
    rw [hgrants] at hc
    rcases hc.count hrestarts with ⟨hle, -⟩ | ⟨-, hlength, hretry, rfl⟩
    · exact absurd hle (Nat.not_le_of_lt hlt)
    · have hlast := List.getLast_mem hc.ne_nil
      have hslot := h.slot (List.getLast?_eq_some_getLast hc.ne_nil) (hcompiled _ hlast)
      rw [TaskOutcome.kept?_eq_none (hretry _ hlast) (by rintro ⟨⟩)] at hslot
      have hvacant : (d'.caches.get .compile).isVacant :=
        Option.isNone_iff_eq_none.mpr (Option.map_eq_none_iff.mp hslot)
      refine ⟨hlength, hvacant, d.policy.settings.maxRestarts + 1,
        ?_, by rw [hresponse, hresult, hexhausted]; rfl⟩
      rw [UInt32.toNat_add]
      exact Nat.mod_eq_of_lt hroom

end Dispatcher

def restartingGuests : Mock :=
  Mock.queue "rules-clojure.compile/eval-script" (.value (.string "restart") "")
    (Mock.respond "rules-clojure.jar/get-compilation-script-json" (.string "s") {})

def restartingStart : Dispatcher Mock := .start { settings := {} } restartingGuests

def restartedRequest : Option WorkResponse × Dispatcher Mock :=
  restartingStart.handle { arguments := ["[[],\"c\",[\"a.jar\"],\"o\"]"] }

theorem compiled_again :
    (restartingStart.world.calls restartedRequest.2.world .compile).length = 2 := by
  have hscript :
    (restartingStart.world.calls restartedRequest.2.world .tooling).head?.bind Event.script? =
      some "s" := by decide +kernel
  have hprovides : ∀ e ∈ restartingStart.world.since restartedRequest.2.world, e.provides := by
    decide +kernel
  have hrestarts : RestartsFor 1
      ((restartingStart.world.calls restartedRequest.2.world .compile).map Event.signal?) := by
        decide +kernel
  have hreachable : restartingStart.Reachable := .start _ restartingGuests
  have hhandle : restartingStart.handle { arguments := ["[[],\"c\",[\"a.jar\"],\"o\"]"] } =
      (restartedRequest.1, restartedRequest.2) := restartedRequest.eta.symm
  obtain ⟨payload, r, t, -, -, -, hwithin, -⟩ :=
    Dispatcher.restarts_within_limit hreachable hhandle "s" 1 hscript hprovides hrestarts
      (by decide)
  exact (hwithin (by decide)).1

end CompileWorker
