import CompileWorker.Proofs.Simulation

namespace CompileWorker

namespace Course

def restarts (c : Course) : Nat := c.compiles.countP (·.outcome.signal? = some .retry)

/-- More restarts were asked for than the limit, and it was not the largest, which no count is
above. -/
def Exceeds (p : Policy) (c : Course) : Prop :=
  p.settings.maxRestarts ≠ 0xFFFFFFFF ∧ p.settings.maxRestarts.toNat < c.restarts

inductive Fails (p : Policy) (request : WorkRequest) (c : Course) : DispatchError → Prop
  | refused {e : WorkError} (h : request.accept = .error e) : Fails p request c (.work e)
  | plan {a : Attempt} {e : DispatchError} (ha : a ∈ c.plan)
      (h : a.outcome.planned p.settings.entryPoints.plan = .error e) : Fails p request c e
  | compile {a : Attempt} {e : DispatchError} (ha : a ∈ c.compiles)
      (h : a.outcome.verdict = .error e) :
      Fails p request c e
  | restarts (h : c.Exceeds p) : Fails p request c (.restartLoop (p.settings.maxRestarts + 1))
  | package {a : Attempt} {e : DispatchError} (ha : a ∈ c.package)
      (h : a.outcome.result .tooling = .error e) :
      Fails p request c e

theorem fails_of_accepted {p : Policy} {request : WorkRequest} {c : Course} {e : DispatchError}
    {accepted : String × CompileRequest} (h : request.accepted? = some accepted) :
    c.Fails p request e ↔
      (∃ a ∈ c.plan, a.outcome.planned p.settings.entryPoints.plan = .error e) ∨
      ((∃ a ∈ c.compiles, a.outcome.verdict = .error e) ∨
        c.Exceeds p ∧ e = .restartLoop (p.settings.maxRestarts + 1)) ∨
      ∃ a ∈ c.package, a.outcome.result .tooling = .error e := by
  constructor
  · intro hf
    cases hf with
    | refused he =>
      rw [request.accepted?_eq, he] at h
      cases h
    | plan ha he => exact .inl ⟨_, ha, he⟩
    | compile ha he => exact .inr (.inl (.inl ⟨_, ha, he⟩))
    | restarts hover => exact .inr (.inl (.inr ⟨hover, rfl⟩))
    | package ha he => exact .inr (.inr ⟨_, ha, he⟩)
  · rintro (⟨a, ha, he⟩ | (⟨a, ha, he⟩ | ⟨hover, rfl⟩) | ⟨a, ha, he⟩)
    · exact .plan ha he
    · exact .compile ha he
    · exact .restarts hover
    · exact .package ha he

end Course

theorem TaskOutcome.planned_of_script {o : TaskOutcome} {script : String}
    (h : o.script? = some script) (entryPoint : String) : o.planned entryPoint = .ok script := by
  rw [o.script?_eq entryPoint] at h
  cases hplanned : o.planned entryPoint with
  | error e =>
    rw [hplanned] at h
    cases h
  | ok script' =>
    rw [hplanned] at h
    cases h
    rfl

variable {σ : Type} [Guests σ]

theorem Bench.Restarts.no_error {b b' : Bench σ} {t : GuestTask} {as : List Attempt}
    (h : b.Restarts t as b') : ∀ a ∈ as, ∀ e, a.outcome.verdict ≠ .error e := by
  intro a ha e he
  have hretry := TaskOutcome.verdict_eq_ok_iff.mpr (h.attempt_of_mem a ha).2
  rw [he] at hretry
  cases hretry

theorem Bench.Restarts.count {b b' : Bench σ} {t : GuestTask} {as : List Attempt}
    (h : b.Restarts t as b') : as.countP (·.outcome.signal? = some .retry) = as.length :=
  List.countP_eq_length.mpr fun a ha ↦ decide_eq_true (h.attempt_of_mem a ha).2

namespace Policy

variable {p : Policy} {request : WorkRequest} {b b' : Bench σ} {e : DispatchError}

theorem Compiles.error_iff {t : GuestTask} {as : List Attempt}
    {r : Option (Except DispatchError Signal)} (h : p.Compiles t p.grants b as r b') :
    r = some (.error e) ↔ (∃ a ∈ as, a.outcome.verdict = .error e) ∨
      (p.settings.maxRestarts ≠ 0xFFFFFFFF ∧
        p.settings.maxRestarts.toNat < as.countP (·.outcome.signal? = some .retry)) ∧
      e = .restartLoop (p.settings.maxRestarts + 1) := by
  cases h with
  | exhausted h hlen =>
    constructor
    · intro he
      unfold Policy.exhausted at he
      split at he
      · cases he
      · rename_i hlimit
        cases he
        refine .inr ⟨⟨hlimit, ?_⟩, rfl⟩
        rw [h.count, hlen]
        exact Nat.lt_succ_of_le p.limit_le_grants
    · rintro (⟨a, ha, he⟩ | ⟨⟨hlimit, -⟩, rfl⟩)
      · exact absurd he (h.no_error a ha e)
      · exact if_neg hlimit
  | @settled as o b₁ _ h hlen hm ho =>
    -- what settles a compilation is no restart, so the restarts are those before it
    have hwithin : (as ++ [(⟨t, o⟩ : Attempt)]).countP (·.outcome.signal? = some .retry) ≤
        p.grants := by
      rw [List.countP_append, h.count, List.countP_singleton, if_neg (by simpa using ho)]
      exact hlen
    constructor
    · intro he
      exact .inl ⟨⟨t, o⟩, List.mem_append_right _ (List.mem_singleton_self _), Option.some.inj he⟩
    · rintro (⟨a, ha, he⟩ | ⟨⟨hlimit, hover⟩, -⟩)
      · rcases List.mem_append.mp ha with ha | ha
        · exact absurd he (h.no_error a ha e)
        · obtain rfl := List.mem_singleton.mp ha
          exact congrArg some he
      · rw [grants, if_neg hlimit] at hwithin
        exact absurd hover (Nat.not_lt_of_le hwithin)

theorem Packages.error_iff {payload : String} {package : Option Attempt}
    {r : Except DispatchError Unit} (h : p.Packages payload b package r b') :
    r = .error e ↔ ∃ a ∈ package, a.outcome.result .tooling = .error e := by
  cases h with
  | disabled => simp
  | @made entryPoint o _ h hm =>
    simp only [Option.mem_some_iff, exists_eq_left']
    cases o.result .tooling <;> simp [Except.map]

theorem Processes.calls {c : Course} {result : Option (Except DispatchError Signal)}
    (h : p.Processes request b c result b') :
    (b.world.since b'.world).reverse.filter Event.isCall = c.steps.filterMap Attempt.call? := by
  obtain ⟨events, htrace, hcalls⟩ := h.follows.calls
  rw [World.since_eq htrace, hcalls]

/-- A request fails with the error of the step that failed, and no other step did. -/
theorem Processes.fails_iff {c : Course} {result : Option (Except DispatchError Signal)}
    (h : p.Processes request b c result b') : c.Fails p request e ↔ result = some (.error e) := by
  cases h with
  | rejected _ he =>
    constructor
    · intro hf
      cases hf with
      | refused he' => rw [Except.error.inj (he.symm.trans he')]
      | plan ha | compile ha | package ha => cases ha
      | restarts hover => cases hover.2
    · rintro ⟨⟩
      exact .refused he
  | unplanned h _ _ he =>
    rw [Course.fails_of_accepted h]
    simp [Course.Exceeds, Course.restarts, he]
  | uncompiled h _ hscript hc =>
    rw [Course.fails_of_accepted h, hc.error_iff]
    simp [Course.Exceeds, Course.restarts, TaskOutcome.planned_of_script hscript]
  | @compiled _ _ _ _ _ signal package packaged _ _ _ h _ hscript hc hp =>
    have hcompiled : ¬ _ := fun hfailed ↦ nomatch (hc.error_iff (e := e)).mpr hfailed
    have hpackaged : packaged = .error e ↔
        some (packaged.map fun _ ↦ signal) = some (.error e) := by
      cases packaged <;> simp [Except.map]
    rw [Course.fails_of_accepted h, ← hpackaged, hp.error_iff]
    simp only [Option.mem_some_iff, exists_eq_left', TaskOutcome.planned_of_script hscript,
      reduceCtorEq, false_or]
    exact or_iff_right hcompiled

end Policy

namespace Event

def printed? : Event → Option String
  | .invoked _ _ _ answer => Invocation.printed? answer
  | _ => none

theorem printed?_of_not_call {e : Event} (h : ¬ e.isCall) : e.printed? = none := by
  cases e with
  | invoked => exact absurd rfl h
  | _ => rfl

theorem printed_eq_nil {events : List Event} (h : ∀ e ∈ events, ¬ e.isCall) :
    events.reverse.filterMap printed? = [] :=
  List.filterMap_eq_nil_iff.mpr fun e he ↦ printed?_of_not_call (h e (List.mem_reverse.mp he))

theorem printed_calls (events : List Event) :
    (events.filter isCall).filterMap printed? = events.filterMap printed? := by
  rw [List.filterMap_filter]
  refine List.filterMap_congr fun e _ ↦ ?_
  split
  · rfl
  · rename_i hcall
    exact (printed?_of_not_call hcall).symm

end Event

theorem EnvironmentCache.invoke_prints (c : EnvironmentCache) (entryPoint payload : String)
    (w : World σ) :
    ∃ events, (c.invoke entryPoint payload w).2.2.trace = events ++ w.trace ∧
      events.reverse.filterMap Event.printed? =
        (Invocation.printed? (c.invoke entryPoint payload w).1).toList := by
  cases hc : c.entry with
  | none =>
    simp only [EnvironmentCache.invoke, hc]
    exact ⟨[], rfl, rfl⟩
  | some entry =>
    have hid : c.environmentId? = some entry.environment.id := congrArg (Option.map _) hc
    obtain ⟨-, htrace⟩ := invoke_of_live hid entryPoint payload w
    refine ⟨[_], htrace, ?_⟩
    simp only [List.reverse_singleton, List.filterMap_cons, List.filterMap_nil, Event.printed?]
    cases Invocation.printed? (c.invoke entryPoint payload w).1 <;> rfl

def Transcript.told (t : Transcript) : List Passage := t.passages.filter (!·.isNote)

theorem Transcript.told_guest (t : Transcript) (text : String) :
    (t.guest text).told = t.told ++ [.guest text] := by
  simp [told, guest, add, Passage.isNote]

/-- From one session to a later one what guests printed is written down, in its order, and but for
notes nothing else. -/
structure Session.Tells (s s' : Session σ) : Prop where
  told : ∃ events, s'.world.trace = events ++ s.world.trace ∧
    s'.transcript.told = s.transcript.told ++ (events.reverse.filterMap Event.printed?).map .guest
  isVerbose : s'.transcript.isVerbose = s.transcript.isVerbose

namespace Session.Tells

variable {s s' s'' : Session σ}

omit [Guests σ] in
theorem refl (s : Session σ) : s.Tells s := ⟨⟨[], rfl, (List.append_nil _).symm⟩, rfl⟩

omit [Guests σ] in
theorem trans (h : s.Tells s') (h' : s'.Tells s'') : s.Tells s'' := by
  obtain ⟨events, htrace, htold⟩ := h.told
  obtain ⟨later, htrace', htold'⟩ := h'.told
  refine ⟨⟨later ++ events, ?_, ?_⟩, h'.isVerbose.trans h.isVerbose⟩
  · rw [htrace', htrace, List.append_assoc]
  · rw [htold', htold, List.reverse_append, List.filterMap_append, List.map_append,
      List.append_assoc]

omit [Guests σ] in
theorem note (s : Session σ) (line : String) :
    s.Tells { s with transcript := s.transcript.note line } := by
  refine ⟨⟨[], rfl, ?_⟩, rfl⟩
  simp [Transcript.told, Transcript.note, Transcript.add, Passage.isNote]

omit [Guests σ] in
theorem quiet {events : List Event} (htrace : s'.world.trace = events ++ s.world.trace)
    (hquiet : ∀ e ∈ events, ¬ e.isCall) (ht : s'.transcript = s.transcript) : s.Tells s' := by
  refine ⟨⟨events, htrace, ?_⟩, ht ▸ rfl⟩
  rw [ht, Event.printed_eq_nil hquiet, List.map_nil, List.append_nil]

omit [Guests σ] in
theorem heard {caches : RoleCaches} {w : World σ} {events : List Event} {output : String}
    (htrace : w.trace = events ++ s.world.trace)
    (hprinted : events.reverse.filterMap Event.printed? = [output]) :
    s.Tells { caches, world := w, transcript := s.transcript.guest output } := by
  refine ⟨⟨events, htrace, ?_⟩, rfl⟩
  rw [hprinted]
  exact s.transcript.told_guest output

theorem discard (s : Session σ) (role : Role) : s.Tells ((Step.discard role).run.run s).2 := by
  obtain ⟨events, htrace, hquiet⟩ := (s.caches.get role).discard_trace s.world
  exact quiet htrace hquiet rfl

theorem acquire (s : Session σ) (role : Role) (key : DigestMap) (classpath : List String) :
    s.Tells ((Step.acquire role key classpath).run.run s).2 := by
  obtain ⟨events, hacq⟩ := (s.caches.get role).acquires key classpath s.world
  rw [Step.run_acquire_eq]
  have hleft : s.Tells { s with
      caches := (s.caches.acquire role key classpath s.world).2.1
      world := (s.caches.acquire role key classpath s.world).2.2 } :=
        quiet hacq.trace hacq.not_call rfl
  rcases hacquire : s.caches.acquire role key classpath s.world
    with ⟨_ | _, caches, w⟩ <;> rw [hacquire] at hleft
  · exact hleft
  · exact hleft.trans (note _ _)

theorem invoke (s : Session σ) (role : Role) (entryPoint payload : String) :
    s.Tells ((Step.invoke role entryPoint payload).run.run s).2 := by
  obtain ⟨events, htrace, hprinted⟩ : ∃ events,
      (s.caches.invoke role entryPoint payload s.world).2.2.trace = events ++ s.world.trace ∧
      events.reverse.filterMap Event.printed? =
        (Invocation.printed? (s.caches.invoke role entryPoint payload s.world).1).toList :=
    (s.caches.get role).invoke_prints entryPoint payload s.world
  rw [Step.run_invoke_eq]
  rcases hinvoke : s.caches.invoke role entryPoint payload s.world
    with ⟨e | invocation, caches, w⟩ <;>
    rw [hinvoke] at htrace hprinted
  · cases e with
    | guest raising message output => exact heard htrace hprinted
    | spawn | resolution | frame | io | closed | invalidCommand =>
      have hleft : s.Tells { s with caches, world := w } := by
        refine ⟨⟨events, htrace, ?_⟩, rfl⟩
        rw [hprinted]
        exact (List.append_nil _).symm
      exact hleft.trans (discard { s with caches, world := w } role)
  · exact heard htrace hprinted

end Session.Tells

theorem Step.simulates_tells (start : Session σ) :
    Step.Simulates fun s t ↦ s = t ∧ start.Tells s where
  note line := .of_keeps fun s h ↦ h.trans (.note s line)
  remember _ _ := .of_keeps fun _ h ↦ ⟨h.told, h.isVerbose⟩
  discard role := .of_keeps fun s h ↦ h.trans (.discard s role)
  acquire role key classpath := .of_keeps fun s h ↦ h.trans (.acquire s role key classpath)
  invoke role entryPoint payload := .of_keeps fun s h ↦ h.trans (.invoke s role entryPoint payload)

/-- What a failure is reported with. -/
def Transcript.known (payload? script? : Option String) : List (String × String) :=
  payload?.toList.map (Prod.mk "request") ++ script?.toList.map (Prod.mk "script")

theorem Step.carries_context (context : List (String × String)) :
    Step.Carries fun s t : Session σ ↦ s = t ∧ s.transcript.context = context where
  note _ := .of_keeps fun _ h ↦ h
  discard _ := .of_keeps fun _ h ↦ h
  acquire role key classpath := .of_keeps fun s h ↦ by
    rw [run_acquire_eq]
    rcases s.caches.acquire role key classpath s.world with ⟨_ | _, caches, w⟩ <;> exact h
  invoke role entryPoint payload := .of_keeps fun s h ↦ by
    rw [run_invoke_eq]
    rcases s.caches.invoke role entryPoint payload s.world with ⟨e | _, caches, w⟩
    · cases e <;> exact h
    · exact h

theorem Bench.Makes.outcome_eq {b b₁ b₂ : Bench σ} {t : GuestTask} {o₁ o₂ : TaskOutcome}
    (h₁ : b.Makes t o₁ b₁) (h₂ : b.Makes t o₂ b₂) : o₁ = o₂ := by
  cases h₁ with
  | notReady ha =>
    cases h₂ with
    | notReady ha' =>
      cases ha.symm.trans ha'
      rfl
    | heard ha' | broken ha' => cases ha.symm.trans ha'
  | heard ha hid hi | broken ha hid hi =>
    cases h₂ with
    | notReady ha' => cases ha.symm.trans ha'
    | heard ha' hid' hi' | broken ha' hid' hi' =>
      cases ha.symm.trans ha'
      cases hid.symm.trans hid'
      cases hi.symm.trans hi'
      rfl

namespace Policy

variable (p : Policy) {request : WorkRequest} {s s' : Session σ} {c : Course}
  {result : Except DispatchError (Option Signal)} {final : Option (Except DispatchError Signal)}

omit s s' in
theorem Processes.plan_made {b b' : Bench σ} {payload : String} {r : CompileRequest}
    (h : p.Processes request b c final b') (haccepted : request.accepted? = some (payload, r)) :
    ∃ o b₁, b.Makes (p.toolingTask p.settings.entryPoints.plan payload) o b₁ ∧
      c.script? = o.script? := by
  cases h with
  | rejected h => cases h.symm.trans haccepted
  | unplanned h hm | uncompiled h hm | compiled h hm =>
    cases h.symm.trans haccepted
    exact ⟨_, _, hm, rfl⟩

omit s s' in
theorem Processes.script_of_refused {b b' : Bench σ} (h : p.Processes request b c final b')
    (hrefused : request.accepted? = none) : c.script? = none := by
  have hplan := h.lawful.plan
  rw [hrefused, Option.map_none, Option.map_eq_none_iff] at hplan
  rw [Course.script?, hplan, Option.bind_none]

theorem process_context (hc : p.Processes request s.bench c (ending result) s'.bench)
    (hs : s.transcript.context = []) (hrun : (p.process request).run.run s = (result, s')) :
    s'.transcript.context = Transcript.known request.payload? c.script? := by
  unfold process at hrun
  cases hpayload : request.payload? with
  | none =>
    have hrefused : request.accepted? = none := by
      rw [WorkRequest.accepted?, hpayload, Option.bind_none]
    rw [hc.script_of_refused p hrefused]
    simp only [hpayload] at hrun
    cases hrun
    exact hs
  | some payload =>
    let s₁ : Session σ := { s with transcript := s.transcript.remember "request" payload }
    have hknown : s₁.transcript.context = Transcript.known (some payload) none :=
      congrArg (Transcript.relabel "request" payload) hs
    simp only [hpayload] at hrun
    cases hr : CompileRequest.ofString payload with
    | error e =>
      have hrefused : request.accepted? = none := by
        simp [WorkRequest.accepted?, hpayload, hr, Except.toOption]
      rw [hc.script_of_refused p hrefused]
      simp only [hr] at hrun
      cases hrun
      exact hknown
    | ok r =>
      have haccepted : request.accepted? = some (payload, r) := by
        simp [WorkRequest.accepted?, hpayload, hr, Except.toOption]
      obtain ⟨o, b₁, hm, hscript⟩ := hc.plan_made p haccepted
      simp only [hr, pure_bind] at hrun
      rw [Step.run_transcribe_bind, Step.run_bind] at hrun
      rcases hplan : (p.plan payload).run.run s₁ with ⟨planned, s₂⟩
      rw [hplan] at hrun
      have hplanned := (p.mirrors_plan (Step.carries_context _) payload).keeps hknown hplan
      -- the run made the attempt that the course tells of
      obtain ⟨o', hm', rfl⟩ := p.runs_plan ⟨s₁, s₂, rfl, hplan, rfl⟩
      obtain rfl : o = o' := hm.outcome_eq hm'
      rw [hscript, o.script?_eq]
      cases ho : o.planned p.settings.entryPoints.plan with
      | error e =>
        rw [ho] at hrun
        cases hrun
        exact hplanned
      | ok script =>
        rw [ho] at hrun
        simp only [Step.run_transcribe_bind] at hrun
        have hscripted : (s₂.transcript.remember "script" script).context =
            Transcript.known (some payload) script :=
          congrArg (Transcript.relabel "script" script) hplanned
        refine Step.Mirrors.keeps (P := fun s ↦ s.transcript.context = _) ?_ hscripted hrun
        have hcarries : Step.Carries fun s t : Session σ ↦
            s = t ∧ s.transcript.context = Transcript.known payload script := Step.carries_context _
        refine (p.mirrors_compile hcarries _ _ _).bind fun signal ↦ ?_
        cases signal with
        | none => exact .pure none
        | some signal =>
          exact (p.mirrors_package hcarries _).lift.bind fun packaged ↦
            mirrors_release hcarries packaged signal

end Policy

namespace Transcript

def lines (texts : List String) : List String :=
  (texts.filter (· ≠ "")).map fun text ↦ if text.endsWith "\n" then text else text ++ "\n"

def labelled (label : String) : Option String → String
  | none => ""
  | some value => label ++ ": " ++ value ++ "\n"

theorem join_guest (texts : List String) :
    String.join ((texts.map Passage.guest).map Passage.text) = String.join (lines texts) := by
  induction texts with
  | nil => rfl
  | cons text texts ih =>
    rw [List.map_cons, List.map_cons, String.join_cons, ih, lines, lines, Passage.text]
    by_cases hempty : text = ""
    · simp [hempty]
    · simp [hempty, String.join_cons]

theorem output_told {t : Transcript} (h : t.isVerbose = false) :
    t.output = String.join (t.told.map Passage.text) := by
  simp [output, shown, told, h]

theorem output_fail (t : Transcript) (e : WorkError) :
    (t.fail e).output = t.output ++ (Passage.failure e t.context).text := by
  simp [output, shown, fail, add, Passage.isNote, String.join_append, String.join_cons]

theorem join_labelled (label : String) (value? : Option String) :
    String.join ((value?.toList.map (Prod.mk label)).map fun (label, value) ↦
      label ++ ": " ++ value ++ "\n") =
      labelled label value? := by
  cases value? with
  | none => rfl
  | some value => simp [labelled, String.join_cons]

theorem text_failure (e : WorkError) (payload? script? : Option String) :
    (Passage.failure e (known payload? script?)).text =
      e.code.name ++ ": " ++ e.message ++ "\n" ++
        (labelled "request" payload? ++ labelled "script" script?) := by
  rw [Passage.text, known, List.map_append, String.join_append, join_labelled, join_labelled,
    WorkError.display]

end Transcript

namespace Dispatcher

theorem handle_tells (d : Dispatcher σ) (request : WorkRequest) :
    ∃ c result t, d.policy.Processes request d.bench c result (d.handle request).2.bench ∧
      (d.handle request).1 = result.map (request.conclude t) ∧ t.isVerbose = request.isVerbose ∧
      t.told =
        ((d.world.since (d.handle request).2.world).reverse.filterMap Event.printed?).map .guest ∧
      t.context = Transcript.known request.payload? c.script? := by
  rcases hrun : (d.policy.process request).run.run (d.session request) with ⟨result, s⟩
  obtain ⟨c, hc⟩ := d.policy.runs_process ⟨_, s, rfl, hrun, rfl⟩
  have htells :=
    (d.policy.mirrors_process (Step.simulates_tells (d.session request)) request).keeps (.refl _)
      hrun
  obtain ⟨⟨events, htrace, htold⟩, hverbose⟩ := htells
  have hsince : d.world.since s.world = events := World.since_eq htrace
  rw [handle_of_run hrun]
  refine ⟨c, ending result, s.transcript, hc, rfl, hverbose, ?_,
    d.policy.process_context hc rfl hrun⟩
  rw [hsince]
  exact htold

/-- Whatever state a dispatcher is in, a response to a request that asked for no notes has its
number and, as its output, what was printed at the calls of its steps, in their order; if a step
failed, with the code and the message of its error after that, the first argument if there is one,
and the script if there is one. -/
theorem output_complete (d : Dispatcher σ) (request : WorkRequest)
    (hquiet : request.isVerbose = false) :
    let calls := (d.world.since (d.handle request).2.world).reverse.filter Event.isCall
    let printed := String.join (Transcript.lines (calls.filterMap Event.printed?))
    ∃ c : Course, c.Lawful d.policy request ∧ d.bench.Follows c.steps (d.handle request).2.bench ∧
      calls = c.steps.filterMap Attempt.call? ∧
      ∀ response ∈ (d.handle request).1, response.requestId = request.requestId ∧
        (c.Succeeds ∧ response.exitCode = 0 ∧ response.output = printed ∨
          ∃ e, c.Fails d.policy request e ∧ response.exitCode = 1 ∧
            response.output =
              printed ++ (e.toWorkError.code.name ++ ": " ++ e.toWorkError.message ++ "\n" ++
              (Transcript.labelled "request" request.payload? ++
                Transcript.labelled "script" c.script?))) := by
  intro calls printed
  obtain ⟨c, result, t, hc, hresponse, hverbose, htold, hcontext⟩ := d.handle_tells request
  have hcalls : calls = c.steps.filterMap Attempt.call? := hc.calls
  have houtput : t.output = printed := by
    rw [Transcript.output_told (hverbose.trans hquiet), htold, Transcript.join_guest,
      ← Event.printed_calls]
  refine ⟨c, hc.lawful, hc.follows, hcalls, ?_⟩
  rw [hresponse]
  rcases result with _ | e | signal
  · nofun
  · rintro _ ⟨⟩
    refine ⟨rfl, .inr ⟨e, hc.fails_iff.mpr rfl, rfl, ?_⟩⟩
    rw [← houtput, ← Transcript.text_failure, ← hcontext]
    exact t.output_fail e.toWorkError
  · rintro _ ⟨⟩
    exact ⟨rfl, .inl ⟨hc.succeeds_iff.mp ⟨signal, rfl⟩, rfl, houtput⟩⟩

end Dispatcher

def printingGuests : Mock :=
  (({} : Mock).queue "rules-clojure.jar/get-compilation-script-json"
    (.value (.string "s") "planned"))
    |>.queue "rules-clojure.compile/eval-script" (.value (.string "restart") "first\n")
    |>.queue "rules-clojure.compile/eval-script" (.fail "no such var" "second")

def printingStart : Dispatcher Mock := .start { settings := {} } printingGuests

def printingRequest : WorkRequest :=
  { arguments := ["[[],\"c\",[\"a.jar\"],\"o\"]"], requestId := 7 }

theorem printed_before_failure : ∃ (c : Course) (e : DispatchError) (response : WorkResponse),
    c.Fails printingStart.policy printingRequest e ∧
    (printingStart.handle printingRequest).1 = some response ∧
      response.output = "planned\nfirst\nsecond\n" ++
        (e.toWorkError.code.name ++ ": " ++ e.toWorkError.message ++ "\n" ++
          (Transcript.labelled "request" printingRequest.payload? ++
            Transcript.labelled "script" c.script?)) := by
  have hexit : (printingStart.handle printingRequest).1.map (·.exitCode) = some 1 := by
    decide +kernel
  have hprinted : String.join (Transcript.lines ((((printingStart.world.since
      (printingStart.handle printingRequest).2.world).reverse.filter Event.isCall)).filterMap
        Event.printed?)) =
        "planned\nfirst\nsecond\n" := by decide +kernel
  obtain ⟨response, hresponse, hone⟩ := Option.map_eq_some_iff.mp hexit
  obtain ⟨c, -, -, -, htells⟩ := printingStart.output_complete printingRequest rfl
  obtain ⟨-, ⟨-, hsuccess, -⟩ | ⟨e, hfails, -, houtput⟩⟩ := htells response hresponse
  · rw [hone] at hsuccess
    cases hsuccess
  · rw [hprinted] at houtput
    exact ⟨c, e, response, hfails, hresponse, houtput⟩

example : (printingStart.handle printingRequest).1.map (·.output) = some
    ("planned\nfirst\nsecond\n" ++
      "COMPILER_FAILED: rules-clojure.compile/eval-script failed: no such var\n" ++
      "request: [[],\"c\",[\"a.jar\"],\"o\"]\nscript: s\n") := by decide +kernel

end CompileWorker
