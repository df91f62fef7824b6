import CompileWorker.Proofs.ResponseOutput
import CompileWorker.Proofs.RestlessGuests

namespace CompileWorker

namespace EnvironmentError

def refusal? : EnvironmentError → Option String
  | .resolution _ reason => some reason
  | .guest _ message _ => some message
  | _ => none

def isRaised : EnvironmentError → Bool
  | .guest .. => true
  | _ => false

def loadCode (e : EnvironmentError) : ErrorCode :=
  if e.refusal?.isSome then .resolutionFailed else .environmentFailed

def invokeCode (e : EnvironmentError) : ErrorCode :=
  if e.isRaised then .compilerFailed else .environmentFailed

end EnvironmentError

def CacheError.code : CacheError → ErrorCode
  | .create _ _ => .environmentFailed
  | .load _ _ e => e.loadCode

namespace DispatchError

theorem code_cache (e : CacheError) : (cache e).toWorkError.code = e.code := by
  rcases e with ⟨role, e⟩ | ⟨role, location, e⟩
  · rfl
  · cases e <;> rfl

theorem code_invoke (role : Role) (e : EnvironmentError) :
    (invoke role e).toWorkError.code = e.invokeCode := by
  cases e <;> rfl

theorem message_refusal {role : Role} {location reason : String} {e : EnvironmentError}
    (h : e.refusal? = some reason) :
    (cache (.load role location e)).toWorkError.message =
      "cannot load classpath location '" ++ location ++ "': " ++ reason := by
  cases e <;> cases h <;> rfl

end DispatchError

def Event.code? : Event → Option ErrorCode
  | .notCreated _ _ => some .environmentFailed
  | .located _ _ (.error e) => some e.loadCode
  | .invoked _ _ _ (.error e) => some e.invokeCode
  | _ => none

def TaskOutcome.code? : TaskOutcome → Option ErrorCode
  | .notReady e => some e.code
  | .ran _ (.error e) => some e.invokeCode
  | .ran _ (.ok _) => none

theorem TaskOutcome.code?_eq_some_iff (o : TaskOutcome) (role : Role) (code : ErrorCode) :
    o.code? = some code ↔ ∃ e, o.result role = .error e ∧ e.toWorkError.code = code := by
  rcases o with e | ⟨id, e | invocation⟩
  · simp [code?, result, DispatchError.code_cache]
  · simp [code?, result, DispatchError.code_invoke]
  · simp [code?, result]

variable {σ : Type} [Guests σ]

namespace EnvironmentCache

variable {c : EnvironmentCache} {key : DigestMap} {classpath : List String} {w : World σ}
  {events : List Event}

omit [Guests σ] in
theorem codes_of_provides (h : ∀ e ∈ events, e.provides) (hquiet : ∀ e ∈ events, ¬ e.isCall) :
    events.filterMap Event.code? = [] := by
  refine List.filterMap_eq_nil_iff.mpr fun e he ↦ ?_
  have hprovides := h e he
  have hcall := hquiet e he
  cases e with
  | located id location answer =>
    cases answer with
    | error => cases hprovides
    | ok => rfl
  | notCreated => cases hprovides
  | invoked => exact absurd rfl hcall
  | _ => rfl

theorem Vacates.codes {acquisition : Acquisition} {c₁ : EnvironmentCache} {w₁ : World σ}
    (hv : c.Vacates key w acquisition c₁ w₁ events) : events.filterMap Event.code? = [] := by
  cases hv <;> rfl

theorem Acquires.codes {out : Except CacheError Acquisition × EnvironmentCache × World σ}
    (h : c.Acquires key classpath w out events) :
    events.filterMap Event.code? = match out.1 with
      | .ok _ => []
      | .error e => [e.code] := by
  cases h with
  | reused _ _ _ hg hp => exact codes_of_provides hp hg.not_call
  | stuck _ _ _ hg hp =>
    have hloads := codes_of_provides hp (List.forall_mem_cons.mp hg.not_call).2
    exact congrArg (_ :: ·) hloads
  | built hv _ _ hg hp =>
    rw [List.filterMap_append, codes_of_provides hp hg.not_call]
    exact hv.codes
  | notCreated hv => exact congrArg (_ :: ·) hv.codes
  | unloadable hv _ _ hg hp =>
    have hloads := codes_of_provides hp (List.forall_mem_cons.mp hg.not_call).2
    refine congrArg (_ :: ·) ?_
    rw [List.filterMap_append, hloads]
    exact hv.codes

end EnvironmentCache

namespace Bench

variable {b b' : Bench σ} {t : GuestTask} {o : TaskOutcome} {as : List Attempt}

theorem discard_codes (b : Bench σ) (role : Role) :
    ∃ events, (b.perform (.discard role)).world.trace = events ++ b.world.trace ∧
      events.reverse.filterMap Event.code? = [] := by
  change ∃ events, ((b.caches.get role).discard b.world).2.2.trace = events ++ b.world.trace ∧ _
  unfold EnvironmentCache.discard
  cases (b.caches.get role).entry with
  | none => exact ⟨[], rfl, rfl⟩
  | some entry => exact ⟨[_], entry.environment.discard_trace b.world, rfl⟩

theorem Makes.codes (h : b.Makes t o b') :
    ∃ events, b'.world.trace = events ++ b.world.trace ∧
      events.reverse.filterMap Event.code? = o.code?.toList := by
  obtain ⟨events, hacq⟩ := (b.caches.get t.role).acquires t.key t.classpath b.world
  have hcodes := hacq.codes
  have htrace := hacq.trace
  cases h with
  | notReady ha =>
    rw [ha] at hcodes htrace
    refine ⟨events, htrace, ?_⟩
    rw [List.filterMap_reverse, hcodes]
    rfl
  | @heard acquisition c c' w w' id answer ha hid hi =>
    -- the acquire succeeded, so only the call can have failed
    rw [ha] at hcodes htrace
    have hinvoked := (EnvironmentCache.invoke_of_live hid t.entryPoint t.payload w).2
    rw [hi] at hinvoked
    refine ⟨_ :: events, hinvoked.trans (congrArg _ htrace), ?_⟩
    rw [List.filterMap_reverse, List.filterMap_cons, hcodes]
    cases answer <;> rfl
  | @broken acquisition c c' w w' id answer ha hid hi =>
    rw [ha] at hcodes htrace
    obtain ⟨hid', hinvoked⟩ := EnvironmentCache.invoke_of_live hid t.entryPoint t.payload w
    rw [hi] at hid' hinvoked
    obtain ⟨gone, hdiscarded⟩ := EnvironmentCache.discard_of_live hid' w'
    rw [hinvoked, htrace] at hdiscarded
    refine ⟨_ :: _ :: events, hdiscarded, ?_⟩
    rw [List.filterMap_reverse, List.filterMap_cons, List.filterMap_cons, hcodes]
    cases answer <;> rfl

theorem Follows.codes (h : b.Follows as b') :
    ∃ events, b'.world.trace = events ++ b.world.trace ∧
      events.reverse.filterMap Event.code? = as.filterMap (·.outcome.code?) :=
  h.gather (fun _ _ _ hm ↦ hm.codes) discard_codes

end Bench

theorem Policy.Processes.codes_iff {p : Policy} {request : WorkRequest} {b b' : Bench σ}
    {c : Course} {result : Option (Except DispatchError Signal)}
    (h : p.Processes request b c result b') (code : ErrorCode) :
    (∃ e ∈ b.world.since b'.world, e.code? = some code) ↔
    ∃ a ∈ c.steps, a.outcome.code? = some code := by
  obtain ⟨events, htrace, hcodes⟩ := h.follows.codes
  have hmem : code ∈ events.reverse.filterMap Event.code? ↔
      code ∈ c.steps.filterMap (·.outcome.code?) := by
    rw [hcodes]
  rw [World.since_eq htrace]
  simpa using hmem

/-- A classpath was loaded into an environment up to a location that failed; those before it did
not. -/
def Event.StopsAt (events : List Event) (classpath : List String) (location : String)
    (e : EnvironmentError) : Prop :=
  ∃ id before after, classpath = before ++ location :: after ∧
    .located id location (.error e) ∈ events ∧
    ∀ l ∈ before, ∃ isNew, .located id l (.ok isNew) ∈ events

theorem Event.StopsAt.mono {events events' : List Event} {classpath : List String}
    {location : String} {e : EnvironmentError} (h : StopsAt events classpath location e)
    (hsub : events ⊆ events') : StopsAt events' classpath location e := by
  obtain ⟨id, before, after, hsplit, hfailed, hbefore⟩ := h
  refine ⟨id, before, after, hsplit, hsub hfailed, fun l hl ↦ ?_⟩
  obtain ⟨isNew, hloaded⟩ := hbefore l hl
  exact ⟨isNew, hsub hloaded⟩

theorem Environment.loadAll_stops {env env' : Environment} {w w' : World σ}
    {classpath : List String} {location : String} {e : EnvironmentError}
    (h : env.loadAll w classpath = (.error (location, e), env', w')) :
    ∃ before after loads, classpath = before ++ location :: after ∧ w'.trace = loads ++ w.trace ∧
      .located env.id location (.error e) ∈ loads ∧
      ∀ l ∈ before, ∃ isNew, .located env.id l (.ok isNew) ∈ loads := by
  induction classpath generalizing env w with
  | nil => cases h
  | cons l classpath ih =>
    have hfirst := env.addLocation_grows l w
    rcases ha : env.addLocation l w with ⟨e' | added, env₁, w₁⟩ <;> rw [ha] at hfirst
    · simp only [loadAll, ha, Prod.mk.injEq, Except.error.injEq] at h
      obtain ⟨⟨rfl, rfl⟩, -, rfl⟩ := h
      exact ⟨[], classpath, _, rfl, hfirst.trace, List.mem_singleton_self _, List.forall_mem_nil _⟩
    · rcases hr : env₁.loadAll w₁ classpath with ⟨failure | n, env₂, w₂⟩ <;>
        simp only [loadAll, ha, hr, Prod.mk.injEq, reduceCtorEq, false_and, Except.error.injEq] at h
      obtain ⟨rfl, rfl, rfl⟩ := h
      obtain ⟨before, after, loads, rfl, htrace, hfailed, hbefore⟩ := ih hr
      rw [hfirst.id] at hfailed hbefore
      refine ⟨l :: before, after, loads ++ [.located env.id l (.ok added)], rfl, ?_, ?_, ?_⟩
      · rw [htrace, hfirst.trace, List.append_assoc]
      · exact List.mem_append_left _ hfailed
      · refine List.forall_mem_cons.mpr
          ⟨⟨added, List.mem_append_right _ (List.mem_singleton_self _)⟩, fun x hx ↦ ?_⟩
        obtain ⟨isNew, hloaded⟩ := hbefore x hx
        exact ⟨isNew, List.mem_append_left _ hloaded⟩

theorem Environment.Grows.stops {env env' : Environment} {w w' : World σ} {classpath : List String}
    {location : String} {e : EnvironmentError} {events : List Event}
    (hg : env.Grows w env' w' events)
    (hl : env.loadAll w classpath = (.error (location, e), env', w')) :
    Event.StopsAt events classpath location e := by
  obtain ⟨before, after, loads, hsplit, htrace, hfailed, hbefore⟩ := loadAll_stops hl
  obtain rfl : events = loads := List.append_cancel_right (hg.trace.symm.trans htrace)
  exact ⟨env.id, before, after, hsplit, hfailed, hbefore⟩

theorem EnvironmentCache.acquire_stops {c c' : EnvironmentCache} {key : DigestMap}
    {classpath : List String} {w w' : World σ} {role : Role} {location : String}
    {e : EnvironmentError}
    (h : c.acquire key classpath w = (.error (.load role location e), c', w')) :
    ∃ events, w'.trace = events ++ w.trace ∧ Event.StopsAt events classpath location e := by
  obtain ⟨events, hacq⟩ := c.acquires key classpath w
  have htrace := hacq.trace
  rw [h] at hacq htrace
  refine ⟨events, htrace, ?_⟩
  cases hacq with
  | stuck _ _ hl hg => exact hg.stops hl
  | unloadable _ _ hl hg =>
    refine (hg.stops hl).mono (List.Subset.trans ?_ (List.subset_cons_self _ _))
    rw [← List.cons_append]
    exact List.subset_append_left _ _

theorem Bench.Follows.stops {b b' : Bench σ} {as : List Attempt} (h : b.Follows as b') {a : Attempt}
    (ha : a ∈ as) {role : Role} {location : String} {e : EnvironmentError}
    (ho : a.outcome = .notReady (.load role location e)) :
    ∃ events, b'.world.trace = events ++ b.world.trace ∧
      Event.StopsAt events a.task.classpath location e := by
  induction h with
  | done => cases ha
  | @attempt b b₁ b₂ a' as hm hrest ih =>
    rcases List.mem_cons.mp ha with rfl | ha
    · rw [ho] at hm
      cases hm with
      | notReady hacquire =>
        obtain ⟨events, htrace, hstops⟩ := EnvironmentCache.acquire_stops hacquire
        obtain ⟨later, hlater⟩ := hrest.suffix
        refine ⟨later ++ events, ?_, hstops.mono (List.subset_append_right _ _)⟩
        rw [← hlater, List.append_assoc]
        exact congrArg _ htrace
    · obtain ⟨rest, htrace, hstops⟩ := ih ha
      obtain ⟨first, hfirst⟩ := hm.follows.suffix
      refine ⟨rest ++ first, ?_, hstops.mono (List.subset_append_left _ _)⟩
      rw [htrace, ← hfirst, List.append_assoc]
  | @discard b b₂ as role' hrest ih =>
    obtain ⟨rest, htrace, hstops⟩ := ih ha
    obtain ⟨first, hfirst, -⟩ := b.discard_trace role'
    refine ⟨rest ++ first, ?_, hstops.mono (List.subset_append_left _ _)⟩
    rw [htrace, hfirst, List.append_assoc]

def Signal.spellings : List Json :=
  [.null, .string "reload", .string "restart", .string ":rules-clojure.compile/reload",
    .string ":rules-clojure.compile/restart"]

namespace Signal

theorem ofToken?_eq_none_iff {token : String} :
    ofToken? token = none ↔ Json.string token ∉ spellings := by
  have hreload : keyword ++ "reload" = ":rules-clojure.compile/reload" := rfl
  have hrestart : keyword ++ "restart" = ":rules-clojure.compile/restart" := rfl
  simp only [ofToken?, hreload, hrestart, spellings, List.mem_cons, Json.string.injEq, reduceCtorEq,
    List.not_mem_nil]
  split_ifs with hfirst hsecond
  · exact iff_of_false nofun (by tauto)
  · exact iff_of_false nofun (by tauto)
  · exact iff_of_true rfl (by tauto)

theorem ofValue_cases (value : Json) :
    (∃ signal, ofValue value = .ok signal) ∧ value ∈ spellings ∨
      (∃ e, ofValue value = .error e ∧ e.code = .guestProtocol) ∧ value ∉ spellings := by
  cases value with
  | null => exact .inl ⟨⟨.ok, rfl⟩, List.mem_cons_self⟩
  | string token =>
    cases ht : ofToken? token with
    | none =>
      refine .inr ⟨⟨.guestProtocol ("unknown compile signal " ++ Text.quoted token), ?_, rfl⟩,
        ofToken?_eq_none_iff.mp ht⟩
      simp only [ofValue, ht]
    | some signal =>
      have hspelled : ¬ Json.string token ∉ spellings := fun hnot ↦ by
        rw [ofToken?_eq_none_iff.mpr hnot] at ht
        cases ht
      refine .inl ⟨⟨signal, ?_⟩, not_not.mp hspelled⟩
      simp only [ofValue, ht]
  | _ => exact .inr ⟨⟨_, rfl, rfl⟩, by simp [spellings]⟩

theorem error_iff {value : Json} : (∃ e, ofValue value = .error e) ↔ value ∉ spellings := by
  rcases ofValue_cases value with ⟨⟨signal, hv⟩, hspelled⟩ | ⟨⟨e, hv, -⟩, hnot⟩
  · simp [hv, hspelled]
  · exact iff_of_true ⟨e, hv⟩ hnot

theorem code_of_error {value : Json} {e : WorkError} (h : ofValue value = .error e) :
    e.code = .guestProtocol := by
  rcases ofValue_cases value
    with ⟨⟨signal, hv⟩, -⟩ | ⟨⟨e', hv, hcode⟩, -⟩ <;> rw [hv] at h <;> cases h
  exact hcode

end Signal

theorem CompileRequest.code_of_problem {r : CompileRequest} {e : WorkError}
    (h : r.problem? = some e) : e.code = .invalidRequest := by
  rw [problem?] at h
  split_ifs at h
  · cases h
    rfl
  · cases h
    rfl
  · split at h
    · cases h
      rfl
    · obtain ⟨index, -, rfl⟩ := Option.map_eq_some_iff.mp h
      rfl

theorem CompileRequest.code_of_error {text : String} {e : WorkError}
    (h : ofString text = .error e) : e.code = .invalidRequest := by
  rw [ofString, ofText] at h
  cases hdecode : decoder.decode (Utf8.encode text) with
  | error failure =>
    rw [hdecode] at h
    cases h
    rfl
  | ok r =>
    simp only [hdecode, validate] at h
    cases hproblem : r.problem? with
    | none =>
      rw [hproblem] at h
      cases h
    | some e' =>
      rw [hproblem] at h
      cases h
      exact code_of_problem hproblem

theorem WorkRequest.code_of_error {request : WorkRequest} {e : WorkError}
    (h : request.accept = .error e) : e.code = .invalidRequest := by
  rw [accept] at h
  cases hpayload : request.payload? with
  | none =>
    rw [hpayload] at h
    cases h
    rfl
  | some payload =>
    simp only [hpayload] at h
    cases hr : CompileRequest.ofString payload with
    | ok r =>
      rw [hr] at h
      cases h
    | error e' =>
      rw [hr] at h
      cases h
      exact CompileRequest.code_of_error hr

namespace TaskOutcome

theorem planned_eq_error_iff {o : TaskOutcome} {entryPoint : String} {e : DispatchError} :
    o.planned entryPoint = .error e ↔ o.result .tooling = .error e ∨
      ∃ i, o.invocation? = some i ∧ i.value.asString? = none ∧
        e = .unexpectedPlan entryPoint i.value := by
  rcases o with e' | ⟨id, e' | ⟨value, output⟩⟩
  · simp [planned, result, invocation?]
  · simp [planned, result, invocation?]
  · cases value <;> simp [planned, result, invocation?, Json.asString?, eq_comm]

theorem verdict_eq_error_iff {o : TaskOutcome} {e : DispatchError} :
    o.verdict = .error e ↔ o.result .compile = .error e ∨
      ∃ i e', o.invocation? = some i ∧ Signal.ofValue i.value = .error e' ∧ e = .work e' := by
  rcases o with e' | ⟨id, e' | invocation⟩
  · simp [verdict, result, invocation?]
  · simp [verdict, result, invocation?]
  · cases hv : Signal.ofValue invocation.value <;> simp [verdict, result, invocation?, hv,
      Except.mapError, eq_comm]

theorem refused_location {o : TaskOutcome} {role : Role} {e : DispatchError}
    (h : o.result role = .error e) (hcode : e.toWorkError.code = .resolutionFailed) :
    ∃ role location error reason, o = .notReady (.load role location error) ∧
      error.refusal? = some reason ∧
      e.toWorkError.message = "cannot load classpath location '" ++ location ++ "': " ++
        reason := by
  rcases o with (⟨role', error⟩ | ⟨role', location, error⟩) | ⟨id, error | invocation⟩
  · cases h
    cases hcode
  · cases h
    rw [DispatchError.code_cache, CacheError.code, EnvironmentError.loadCode] at hcode
    split_ifs at hcode with hrefused
    obtain ⟨reason, hreason⟩ := Option.isSome_iff_exists.mp hrefused
    exact ⟨role', location, error, reason, rfl, hreason, DispatchError.message_refusal hreason⟩
  · cases h
    rw [DispatchError.code_invoke, EnvironmentError.invokeCode] at hcode
    split_ifs at hcode
  · cases h

end TaskOutcome

namespace Course

theorem mem_steps {c : Course} {a : Attempt} :
    a ∈ c.steps ↔ a ∈ c.plan ∨ a ∈ c.compiles ∨ a ∈ c.package := by
  simp [steps]

/-- Why a failure is reported under a code, in terms of the steps of the request and of what
happened meanwhile. -/
def Causes (c : Course) (p : Policy) (request : WorkRequest) (events : List Event) :
    ErrorCode → Prop
  | .invalidRequest => request.accepted? = none
  | .resolutionFailed =>
    ∃ id location e, .located id location (.error e) ∈ events ∧ e.refusal?.isSome
  | .compilerFailed =>
    ∃ id entryPoint payload e, .invoked id entryPoint payload (.error e) ∈ events ∧ e.isRaised
  | .guestProtocol =>
    (∃ a ∈ c.plan, ∃ i, a.outcome.invocation? = some i ∧ i.value.asString? = none) ∨
      ∃ a ∈ c.compiles, ∃ i, a.outcome.invocation? = some i ∧ i.value ∉ Signal.spellings
  | .restartLoop => c.Exceeds p
  | .environmentFailed =>
    (∃ role e, .notCreated role e ∈ events) ∨
      (∃ id location e, .located id location (.error e) ∈ events ∧ ¬ e.refusal?.isSome) ∨
      ∃ id entryPoint payload e, .invoked id entryPoint payload (.error e) ∈ events ∧ ¬ e.isRaised

variable {c : Course} {p : Policy} {request : WorkRequest} {events : List Event} {code : ErrorCode}

theorem causes_of_event (h : ∃ e ∈ events, e.code? = some code) :
    c.Causes p request events code := by
  obtain ⟨event, hevent, hcode⟩ := h
  cases event with
  | notCreated role e =>
    cases hcode
    exact .inl ⟨role, e, hevent⟩
  | located id location answer =>
    cases answer with
    | ok => cases hcode
    | error e =>
      rw [Event.code?, EnvironmentError.loadCode] at hcode
      split_ifs at hcode with hrefused
      · cases hcode
        exact ⟨id, location, e, hevent, hrefused⟩
      · cases hcode
        exact .inr (.inl ⟨id, location, e, hevent, hrefused⟩)
  | invoked id entryPoint payload answer =>
    cases answer with
    | ok => cases hcode
    | error e =>
      rw [Event.code?, EnvironmentError.invokeCode] at hcode
      split_ifs at hcode with hraised
      · cases hcode
        exact ⟨id, entryPoint, payload, e, hevent, hraised⟩
      · cases hcode
        exact .inr (.inr ⟨id, entryPoint, payload, e, hevent, hraised⟩)
  | _ => cases hcode

/-- A step that had no environment or no answer failed, or there is a cause that is no failure of
environments. -/
theorem Fails.step_or_cause {e : DispatchError} (h : c.Fails p request e) (events : List Event) :
    (∃ a ∈ c.steps, ∃ role, a.outcome.result role = .error e) ∨
      e.toWorkError.code ∈ [.invalidRequest, .guestProtocol, .restartLoop] ∧
        c.Causes p request events e.toWorkError.code := by
  cases h with
  | refused he =>
    rw [show (DispatchError.work _).toWorkError.code =
      .invalidRequest from WorkRequest.code_of_error he]
    exact .inr ⟨by simp, request.accepted?_eq.trans (congrArg Except.toOption he)⟩
  | plan ha he =>
    rcases TaskOutcome.planned_eq_error_iff.mp he with hresult | ⟨i, hi, hvalue, rfl⟩
    · exact .inl ⟨_, mem_steps.mpr (.inl ha), _, hresult⟩
    · rw [show (DispatchError.unexpectedPlan _ _).toWorkError.code = .guestProtocol from rfl]
      exact .inr ⟨by simp, .inl ⟨_, ha, i, hi, hvalue⟩⟩
  | compile ha he =>
    rcases TaskOutcome.verdict_eq_error_iff.mp he with hresult | ⟨i, e', hi, hvalue, rfl⟩
    · exact .inl ⟨_, mem_steps.mpr (.inr (.inl ha)), _, hresult⟩
    · rw [show (DispatchError.work e').toWorkError.code =
        .guestProtocol from Signal.code_of_error hvalue]
      exact .inr ⟨by simp, .inr ⟨_, ha, i, hi, Signal.error_iff.mp ⟨e', hvalue⟩⟩⟩
  | restarts hover =>
    rw [show (DispatchError.restartLoop _).toWorkError.code = .restartLoop from rfl]
    exact .inr ⟨by simp, hover⟩
  | package ha he => exact .inl ⟨_, mem_steps.mpr (.inr (.inr ha)), _, he⟩

theorem Fails.causes {e : DispatchError} (h : c.Fails p request e)
    (hcodes : ∀ code, (∃ e ∈ events, e.code? = some code) ↔
      ∃ a ∈ c.steps, a.outcome.code? = some code) :
    c.Causes p request events e.toWorkError.code := by
  rcases h.step_or_cause events with ⟨a, ha, role, hresult⟩ | ⟨-, hcauses⟩
  · exact causes_of_event
      ((hcodes _).mpr ⟨a, ha, (a.outcome.code?_eq_some_iff role _).mpr ⟨e, hresult, rfl⟩⟩)
  · exact hcauses

theorem fails_of_step {a : Attempt} (ha : a ∈ c.steps) (h : a.outcome.code? = some code) :
    ∃ e, c.Fails p request e ∧ e.toWorkError.code = code := by
  rcases mem_steps.mp ha with ha | ha | ha
  · obtain ⟨e, hresult, hcode⟩ := (a.outcome.code?_eq_some_iff .tooling code).mp h
    exact ⟨e, .plan ha (TaskOutcome.planned_eq_error_iff.mpr (.inl hresult)), hcode⟩
  · obtain ⟨e, hresult, hcode⟩ := (a.outcome.code?_eq_some_iff .compile code).mp h
    exact ⟨e, .compile ha (TaskOutcome.verdict_eq_error_iff.mpr (.inl hresult)), hcode⟩
  · obtain ⟨e, hresult, hcode⟩ := (a.outcome.code?_eq_some_iff .tooling code).mp h
    exact ⟨e, .package ha hresult, hcode⟩

theorem Causes.fails (h : c.Causes p request events code)
    (hcodes : ∀ code, (∃ e ∈ events, e.code? = some code) ↔
      ∃ a ∈ c.steps, a.outcome.code? = some code) :
    ∃ e, c.Fails p request e ∧ e.toWorkError.code = code := by
  have hevent : ∀ {e code}, e ∈ events → e.code? = some code →
      ∃ e, c.Fails p request e ∧ e.toWorkError.code = code := fun {e code} he hcode ↦ by
    obtain ⟨a, ha, hstep⟩ := (hcodes code).mp ⟨e, he, hcode⟩
    exact fails_of_step ha hstep
  cases code with
  | invalidRequest =>
    have haccept := request.accepted?_eq.symm.trans h
    cases he : request.accept with
    | ok accepted =>
      rw [he] at haccept
      cases haccept
    | error e => exact ⟨_, .refused he, WorkRequest.code_of_error he⟩
  | resolutionFailed =>
    obtain ⟨id, location, e, he, hrefused⟩ := h
    exact hevent he (congrArg some (if_pos hrefused))
  | compilerFailed =>
    obtain ⟨id, entryPoint, payload, e, he, hraised⟩ := h
    exact hevent he (congrArg some (if_pos hraised))
  | guestProtocol =>
    rcases h with ⟨a, ha, i, hi, hvalue⟩ | ⟨a, ha, i, hi, hvalue⟩
    · exact ⟨_, .plan ha (TaskOutcome.planned_eq_error_iff.mpr (.inr ⟨i, hi, hvalue, rfl⟩)), rfl⟩
    · obtain ⟨e, he⟩ := Signal.error_iff.mpr hvalue
      exact ⟨_, .compile ha (TaskOutcome.verdict_eq_error_iff.mpr (.inr ⟨i, e, hi, he, rfl⟩)),
        Signal.code_of_error he⟩
  | restartLoop => exact ⟨_, .restarts h, rfl⟩
  | environmentFailed =>
    rcases h with ⟨role, e, he⟩ | ⟨id, location, e, he, hbroken⟩
      | ⟨id, entryPoint, payload, e, he, hbroken⟩
    · exact hevent he rfl
    · exact hevent he (congrArg some (if_neg hbroken))
    · exact hevent he (congrArg some (if_neg hbroken))

theorem Fails.refused_location {e : DispatchError} (h : c.Fails p request e)
    (hcode : e.toWorkError.code = .resolutionFailed) :
    ∃ a ∈ c.steps, ∃ role location error reason, a.outcome = .notReady (.load role location error) ∧
      error.refusal? = some reason ∧
      e.toWorkError.message = "cannot load classpath location '" ++ location ++ "': " ++
        reason := by
  -- the other causes have codes of their own, so the step that failed is one of an environment
  rcases h.step_or_cause [] with ⟨a, ha, role, hresult⟩ | ⟨hother, -⟩
  · exact ⟨a, ha, TaskOutcome.refused_location hresult hcode⟩
  · rw [hcode] at hother
    simp at hother

end Course

namespace Dispatcher

/-- Whatever state a dispatcher is in, a failure is reported under the one code that has a cause in
what happened while the request was handled. If that is a location that was refused, the message
names it; the locations before it on its classpath were loaded. That more restarts were asked for
than the limit is no cause if the limit is the largest: then the failure is reported under the code
of the step that failed later. -/
theorem failure_coded (d : Dispatcher σ) (request : WorkRequest) {response : WorkResponse}
    (hhandle : (d.handle request).1 = some response) (hfailed : response.exitCode ≠ 0) :
    let events := d.world.since (d.handle request).2.world
    ∃ (c : Course) (e : DispatchError) (t : Transcript), c.Lawful d.policy request ∧
      d.bench.Follows c.steps (d.handle request).2.bench ∧ c.Fails d.policy request e ∧
      response = .failure request.requestId (t.fail e.toWorkError).output ∧
      t.told = (events.reverse.filterMap Event.printed?).map .guest ∧
      (∀ code, e.toWorkError.code = code ↔ c.Causes d.policy request events code) ∧
      (e.toWorkError.code = .resolutionFailed → ∃ a ∈ c.steps, ∃ location error reason,
        error.refusal? = some reason ∧ Event.StopsAt events a.task.classpath location error ∧
        e.toWorkError.message = "cannot load classpath location '" ++ location ++ "': " ++
          reason) := by
  intro events
  obtain ⟨c, result, t, hc, hresponse, -, htold, -⟩ := d.handle_tells request
  rw [hhandle] at hresponse
  obtain ⟨e, rfl⟩ : ∃ e, result = some (.error e) := by
    rcases result with _ | e | signal
    · cases hresponse
    · exact ⟨e, rfl⟩
    · cases hresponse
      exact absurd rfl hfailed
  have hfails : c.Fails d.policy request e := hc.fails_iff.mpr rfl
  refine ⟨c, e, t, hc.lawful, hc.follows, hfails, Option.some.inj hresponse, htold,
    fun code ↦ ⟨?_, fun hcauses ↦ ?_⟩, fun hcode ↦ ?_⟩
  · rintro rfl
    exact hfails.causes hc.codes_iff
  · obtain ⟨e', hfails', rfl⟩ := hcauses.fails hc.codes_iff
    -- no other step failed
    obtain rfl : e = e' := Except.error.inj (Option.some.inj (hc.fails_iff.mp hfails'))
    rfl
  · obtain ⟨a, ha, role, location, error, reason, ho, hreason, hmessage⟩ :=
      hfails.refused_location hcode
    obtain ⟨stopped, htrace, hstops⟩ := hc.follows.stops ha ho
    have hsince : events = stopped := World.since_eq htrace
    exact ⟨a, ha, location, error, reason, hreason, hsince ▸ hstops, hmessage⟩

end Dispatcher

def refusingGuests : Mock :=
  Mock.failLocation "b.jar"
    (Mock.respond "rules-clojure.jar/get-compilation-script-json" (.string "s") {})

def refusingStart : Dispatcher Mock := .start { settings := {} } refusingGuests

def refusedRequest : WorkRequest :=
  { arguments := ["[[],\"c\",[\"a.jar\",\"b.jar\",\"d.jar\"],\"o\"]"] }

theorem refused_archive_coded : ∃ (e : DispatchError) (t : Transcript), e.toWorkError.code =
    .resolutionFailed ∧
    (refusingStart.handle refusedRequest).1 = some (.failure 0 (t.fail e.toWorkError).output) := by
  have hexit : (refusingStart.handle refusedRequest).1.map (·.exitCode) = some 1 := by
    decide +kernel
  obtain ⟨response, hhandle, hone⟩ := Option.map_eq_some_iff.mp hexit
  have hfailed : response.exitCode ≠ 0 := by
    rw [hone]
    decide
  have hrefused : ∃ e ∈ refusingStart.world.since (refusingStart.handle refusedRequest).2.world,
      e.code? = some .resolutionFailed := by decide +kernel
  obtain ⟨c, e, t, -, -, -, hresponse, -, hcode, -⟩ :=
    refusingStart.failure_coded refusedRequest hhandle hfailed
  exact ⟨e, t, (hcode .resolutionFailed).mpr (Course.causes_of_event hrefused),
    hhandle.trans (congrArg some hresponse)⟩

example : (refusingStart.handle refusedRequest).1.map (·.output) = some
    ("RESOLUTION_FAILED: cannot load classpath location 'b.jar': No such file or directory\n" ++
      "request: [[],\"c\",[\"a.jar\",\"b.jar\",\"d.jar\"],\"o\"]\nscript: s\n") := by decide +kernel

def overrunStart : Dispatcher PatientGuests :=
  .start { unlimitedPolicy with overtime := 1 } ⟨UInt32.size⟩

theorem overrun_not_coded : unlimitedPolicy.settings.problems = [] ∧
    unlimitedPolicy.settings.maxRestarts.toNat <
      (overrunStart.handle restlessRequest).2.world.restarts ∧
    ∃ (e : DispatchError) (t : Transcript), e.toWorkError.code = .compilerFailed ∧
      (overrunStart.handle restlessRequest).1 =
        some (.failure 0 (t.fail e.toWorkError).output) := by
  have hsize : UInt32.size < UInt32.size + 1 := Nat.lt_succ_self _
  obtain ⟨hrestarts, t, hresponse⟩ := Dispatcher.handle_patient (d := overrunStart) rfl hsize
  refine ⟨by decide +kernel, ?_, _, t, rfl, hresponse⟩
  rw [hrestarts]
  exact UInt32.toNat_lt_size _

end CompileWorker
