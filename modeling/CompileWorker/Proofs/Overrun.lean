import CompileWorker.Proofs.RestartBudget

namespace CompileWorker

variable {σ : Type}

def World.callsUntil (w w' : World σ) : List Event := (w.since w').reverse.filter Event.isCall

variable [Guests σ]

/-- The limit is the largest there is, and whenever the script of the request is run it asks for a
restart, once for each word there is to count them by, and in overtime. -/
def Dispatcher.Overruns (d : Dispatcher σ) (request : WorkRequest) : Prop :=
  let compiles := (d.world.callsUntil (d.handle request).2.world).tail
  d.policy.settings.maxRestarts = 0xFFFFFFFF ∧ compiles.length = UInt32.size + d.policy.overtime ∧
    ∀ e ∈ compiles, e.signal? = some .retry

theorem TaskOutcome.isReady_of_signal {o : TaskOutcome} {signal : Signal}
    (h : o.signal? = some signal) : o.isReady := by
  cases o with
  | notReady => cases h
  | ran => rfl

theorem TaskOutcome.ran_of_script {o : TaskOutcome} {script : String}
    (h : o.script? = some script) : ∃ id answer, o = .ran id answer := by
  cases o with
  | notReady => cases h
  | ran id answer => exact ⟨id, answer, rfl⟩

namespace Bench

variable {b b' : Bench σ} {t : GuestTask} {as : List Attempt}

theorem Follows.callsUntil (h : b.Follows as b') :
    b.world.callsUntil b'.world = as.filterMap Attempt.call? := by
  obtain ⟨events, htrace, hcalls⟩ := h.calls
  rw [World.callsUntil, World.since_eq htrace, hcalls]

theorem Restarts.calls (h : b.Restarts t as b') :
    (as.filterMap Attempt.call?).length = as.length ∧
      ∀ e ∈ as.filterMap Attempt.call?, e.signal? = some .retry := by
  have hready : ∀ a ∈ as, a.outcome.isReady := by
    intro a ha
    exact TaskOutcome.isReady_of_signal (h.attempt_of_mem a ha).2
  constructor
  · exact Attempt.length_calls hready
  · intro e he
    have hsignal := List.mem_map_of_mem (f := Event.signal?) he
    rw [Attempt.signals_eq hready] at hsignal
    obtain ⟨a, ha, hretry⟩ := List.mem_map.mp hsignal
    rw [← hretry]
    exact (h.attempt_of_mem a ha).2

end Bench

omit [Guests σ] in
theorem Attempt.length_calls_le {as : List Attempt} {a : Attempt}
    (ha : a.outcome.signal? ≠ some .retry)
    (h : ∀ e ∈ (as ++ [a]).filterMap call?, e.signal? = some .retry) :
    ((as ++ [a]).filterMap call?).length ≤ as.length := by
  have hbefore := List.length_filterMap_le call? as
  rcases a with ⟨t, e | ⟨id, answer⟩⟩
  · rw [List.filterMap_append, List.length_append]
    exact hbefore
  · have hlast :=
      h _ (List.mem_filterMap.mpr ⟨_, List.mem_append_right _ (List.mem_singleton_self _), rfl⟩)
    rw [Event.signal?_invoked] at hlast
    exact absurd hlast ha

namespace Policy

variable {p : Policy} {request : WorkRequest} {t : GuestTask} {b b' : Bench σ}
  {r : Option (Except DispatchError Signal)}

omit [Guests σ] in
theorem exhausted_eq_none_iff : p.exhausted = none ↔ p.settings.maxRestarts = 0xFFFFFFFF := by
  unfold exhausted
  split
  · exact iff_of_true rfl ‹_›
  · exact iff_of_false (Option.some_ne_none _) ‹_›

omit [Guests σ] in
theorem grants_of_largest (h : p.settings.maxRestarts = 0xFFFFFFFF) :
    p.grants + 1 = UInt32.size + p.overtime := by
  have hsize : (0xFFFFFFFF : UInt32).toNat + 1 = UInt32.size := rfl
  rw [grants, if_pos h, h]
  omega

theorem Compiles.eq_none_iff {as : List Attempt} (h : p.Compiles t p.grants b as r b') :
    r = none ↔ p.settings.maxRestarts = 0xFFFFFFFF ∧
      (as.filterMap Attempt.call?).length = UInt32.size + p.overtime ∧
        ∀ e ∈ as.filterMap Attempt.call?, e.signal? = some .retry := by
  cases h with
  | exhausted h hlen =>
    obtain ⟨hlength, hretry⟩ := h.calls
    rw [exhausted_eq_none_iff, hlength, hlen]
    constructor
    · intro hlargest
      exact ⟨hlargest, grants_of_largest hlargest, hretry⟩
    · exact And.left
  | settled _ hlen _ ho =>
    refine iff_of_false (Option.some_ne_none _) ?_
    rintro ⟨hlargest, hlength, hretry⟩
    have hle := Attempt.length_calls_le ho hretry
    have hgrants := grants_of_largest hlargest
    omega

theorem Processes.eq_none_iff {c : Course} (h : p.Processes request b c r b') :
    r = none ↔ p.settings.maxRestarts = 0xFFFFFFFF ∧
      (c.steps.filterMap Attempt.call?).tail.length = UInt32.size + p.overtime ∧
        ∀ e ∈ (c.steps.filterMap Attempt.call?).tail, e.signal? = some .retry := by
  have hpositive : 0 < UInt32.size + p.overtime := Nat.add_pos_left (by decide) _
  cases h with
  | rejected =>
    refine iff_of_false (Option.some_ne_none _) ?_
    rintro ⟨-, hlength, -⟩
    exact absurd hlength (Nat.ne_of_lt hpositive)
  | @unplanned payload _ o _ _ =>
    refine iff_of_false (Option.some_ne_none _) ?_
    rintro ⟨-, hlength, -⟩
    have hle := List.length_filterMap_le Attempt.call?
      [⟨p.toolingTask p.settings.entryPoints.plan payload, o⟩]
    rw [List.length_tail] at hlength
    change _ ≤ 1 at hle
    change List.length (List.filterMap Attempt.call? [_]) - 1 = _ at hlength
    omega
  | @uncompiled payload script _ o as _ _ _ _ _ ho hc =>
    have htail : ((⟨p.toolingTask p.settings.entryPoints.plan payload, o⟩ :: as).filterMap
        Attempt.call?).tail = as.filterMap Attempt.call? := by
      obtain ⟨id, answer, rfl⟩ := TaskOutcome.ran_of_script ho
      rfl
    rw [hc.eq_none_iff, ← htail]
    simp [Course.steps]
  | @compiled payload script _ o as signal package _ _ _ _ _ _ ho hc =>
    refine iff_of_false (Option.some_ne_none _) ?_
    rintro ⟨-, -, hretry⟩
    -- the last compilation did not ask for a restart
    obtain ⟨hlast, hne⟩ := (hc.eq_ok_iff signal).mp rfl
    obtain ⟨a, ha, hsignal⟩ := Option.bind_eq_some_iff.mp hlast
    obtain ⟨id, answer, houtcome, hcall⟩ :=
      Attempt.call?_of_ready (TaskOutcome.isReady_of_signal hsignal)
    obtain ⟨id', answer', rfl⟩ := TaskOutcome.ran_of_script ho
    have hmem : Event.invoked id a.task.entryPoint a.task.payload answer ∈
        as.filterMap Attempt.call? :=
      List.mem_filterMap.mpr ⟨a, List.mem_of_getLast? ha, hcall⟩
    have hagain := hretry (.invoked id a.task.entryPoint a.task.payload answer) (by
      change _ ∈ List.filterMap Attempt.call? (as ++ package.toList)
      rw [List.filterMap_append]
      exact List.mem_append_left _ hmem)
    rw [Event.signal?_invoked, ← houtcome, hsignal] at hagain
    exact hne (Option.some.inj hagain)

end Policy

/-- A request is left without a response exactly if compiling it overruns. -/
theorem Dispatcher.handle_eq_none_iff (d : Dispatcher σ) (request : WorkRequest) :
    (d.handle request).1 = none ↔ d.Overruns request := by
  obtain ⟨c, result, h, t, hresponse⟩ := d.handle_processes request
  rw [hresponse, Option.map_eq_none_iff, h.eq_none_iff, Overruns]
  rw [show d.world.callsUntil (d.handle request).2.world = _ from h.follows.callsUntil]

end CompileWorker
