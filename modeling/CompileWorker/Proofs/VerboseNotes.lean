import CompileWorker.Proofs.ResponseOutput
import CompileWorker.Proofs.RestartBudget

namespace CompileWorker

inductive Occurrence
  | acquired (role : Role) (id : EnvironmentId) (acquisition : Acquisition)
  | restarted
  /-- the compile environment is gone, its result stands -/
  | reloaded
  deriving DecidableEq, Repr

def Occurrence.line : Occurrence → String
  | .acquired role id acquisition =>
    role.name ++ " environment " ++ id.display ++ ": " ++ acquisition.display
  | .restarted => "compile environment discarded (restart)"
  | .reloaded => "compile environment discarded (reload)"

inductive Move
  | attempt (task : GuestTask)
  | restart
  /-- the script asked for one restart too many, or for one beyond the rounds at hand -/
  | giveUp
  | reload

namespace Move

def action : Move → Action
  | .attempt t => .attempt t.role t.key t.classpath t.entryPoint t.payload
  | .restart | .giveUp | .reload => .discard .compile

/-- Attempts at a compilation. Each but the last was granted a restart. -/
def compiling : List Attempt → List Move
  | [] => []
  | [a] => .attempt a.task :: if a.outcome.signal? = some .retry then [.giveUp] else []
  | a :: as => .attempt a.task :: .restart :: compiling as

theorem compiling_cons {as : List Attempt} (h : as ≠ []) (a : Attempt) :
    compiling (a :: as) = .attempt a.task :: .restart :: compiling as := by
  obtain ⟨a', as, rfl⟩ := List.exists_cons_of_ne_nil h
  rfl

theorem compiling_settled {a : Attempt} (h : a.outcome.signal? ≠ some .retry) :
    compiling [a] = [.attempt a.task] := by
  rw [compiling, if_neg h]

theorem compiling_exhausted {a : Attempt} (h : a.outcome.signal? = some .retry) :
    compiling [a] = [.attempt a.task, .giveUp] := by
  rw [compiling, if_pos h]

end Move

/-- All that is done for a request. A reload waits for the packaging. -/
def Course.moves (c : Course) : List Move :=
  c.plan.toList.map (.attempt ·.task) ++ Move.compiling c.compiles ++
    c.package.toList.map (.attempt ·.task) ++
    if c.signal? = some .okThenInvalidate then [.reload] else []

variable {σ : Type} [Guests σ]

namespace Bench

/-- What there is to note of a move. An attempt is noted if an environment could be had for it. -/
def occurrence? (b : Bench σ) : Move → Option Occurrence
  | .attempt t =>
    match (b.caches.get t.role).acquire t.key t.classpath b.world with
    | (.ok acquisition, c, _) => c.environmentId?.map (.acquired t.role · acquisition)
    | (.error _, _, _) => none
  | .restart => some .restarted
  | .giveUp => none
  | .reload => some .reloaded

def occurrences (b : Bench σ) : List Move → List Occurrence
  | [] => []
  | m :: moves => (b.occurrence? m).toList ++ (b.perform m.action).occurrences moves

theorem occurrences_append (b : Bench σ) (moves more : List Move) :
    b.occurrences (moves ++ more) = b.occurrences moves ++
      (b.after (moves.map Move.action)).occurrences more := by
  induction moves generalizing b with
  | nil => rfl
  | cons m moves ih =>
    rw [List.cons_append, occurrences, ih, occurrences, List.append_assoc]
    rfl

end Bench

def Passage.note? : Passage → Option String
  | .note line => some line
  | _ => none

def Transcript.notes (t : Transcript) : List String := t.passages.filterMap Passage.note?

theorem Transcript.notes_note (t : Transcript) (line : String) :
    (t.note line).notes = t.notes ++ [line] := by
  simp [notes, note, add, Passage.note?]

theorem Transcript.notes_guest (t : Transcript) (text : String) :
    (t.guest text).notes = t.notes := by
  simp [notes, guest, add, Passage.note?]

/-- From one session to the other nothing was done but these moves, and all that there is to note of
them was. -/
structure Session.Notes (s : Session σ) (moves : List Move) (s' : Session σ) : Prop where
  bench : s'.bench = s.bench.after (moves.map Move.action)
  notes : s'.transcript.notes = s.transcript.notes ++ (s.bench.occurrences moves).map
    Occurrence.line

namespace Session.Notes

variable {s s₁ s' : Session σ} {moves more : List Move}

theorem trans (h : s.Notes moves s₁) (h' : s₁.Notes more s') : s.Notes (moves ++ more) s' where
  bench := by rw [h'.bench, h.bench, List.map_append, Bench.after_append]
  notes := by rw [h'.notes, h.notes, h.bench, Bench.occurrences_append, List.map_append,
    List.append_assoc]

theorem refl (s : Session σ) : s.Notes [] s := ⟨rfl, (List.append_nil _).symm⟩

theorem remember (s : Session σ) (label value : String) :
    s.Notes [] { s with transcript := s.transcript.remember label value } :=
      ⟨rfl, (List.append_nil _).symm⟩

theorem giveUp (hbench : s'.bench = s.bench.perform (.discard .compile))
    (htranscript : s'.transcript = s.transcript) : s.Notes [.giveUp] s' := by
  refine ⟨hbench, ?_⟩
  rw [htranscript]
  exact (List.append_nil _).symm

theorem restart (hbench : s'.bench = s.bench.perform (.discard .compile))
    (htranscript : s'.transcript = s.transcript.note "compile environment discarded (restart)") :
    s.Notes [.restart] s' := by
  refine ⟨hbench, ?_⟩
  rw [htranscript]
  exact Transcript.notes_note _ _

end Session.Notes

namespace Step

variable {α β : Type} {s s' : Session σ}

theorem notes_invoke (role : Role) (entryPoint payload : String) (s : Session σ) :
    ((invoke role entryPoint payload).run.run s).2.transcript.notes = s.transcript.notes := by
  rw [run_invoke_eq]
  rcases s.caches.invoke role entryPoint payload s.world with ⟨e | invocation, caches, w⟩
  · cases e with
    | guest => exact s.transcript.notes_guest _
    | _ => rfl
  · exact s.transcript.notes_guest _

theorem notes_acquire (t : GuestTask) (s : Session σ) :
    ((acquire t.role t.key t.classpath).run.run s).2.transcript.notes =
      s.transcript.notes ++ (s.bench.occurrence? (.attempt t)).toList.map Occurrence.line := by
  rw [run_acquire_eq, RoleCaches.acquire, Bench.occurrence?]
  change _ = _ ++ (match (s.caches.get t.role).acquire t.key t.classpath s.world with
    | (.ok acquisition, c, _) => c.environmentId?.map (Occurrence.acquired t.role · acquisition)
    | (.error _, _, _) => none).toList.map _
  rcases ha : (s.caches.get t.role).acquire t.key t.classpath s.world with ⟨e | acquisition, c, w⟩
  · exact (List.append_nil _).symm
  · obtain ⟨id, hid⟩ := EnvironmentCache.live_of_acquire ha
    simp only [RoleCaches.get_set, if_true, Transcript.notes_note]
    obtain ⟨entry, hentry, rfl⟩ := Option.map_eq_some_iff.mp hid
    rw [hid, hentry]
    rfl

theorem notes_attempt {t : GuestTask} {r : Except DispatchError Invocation}
    (h : (do
      acquire t.role t.key t.classpath
      invoke t.role t.entryPoint t.payload : Step σ Invocation).run.run s = (r, s')) :
    ∃ o, s.bench.Makes t o s'.bench ∧ r = o.result t.role ∧ s.Notes [.attempt t] s' := by
  obtain ⟨o, hm, hr⟩ := Runs.attempt ⟨s, s', rfl, h, rfl⟩
  have hacquired := notes_acquire t s
  refine ⟨o, hm, hr, hm.perform, ?_⟩
  rw [Bench.occurrences, Bench.occurrences, List.append_nil, ← hacquired]
  obtain ⟨_, s₁, hacquire, ⟨e, -, -, rfl⟩ | ⟨_, -, hinvoke⟩⟩ := of_run_bind h
  · rw [hacquire]
  · have hinvoked := notes_invoke t.role t.entryPoint t.payload s₁
    rw [hinvoke] at hinvoked
    rw [hacquire, hinvoked]

end Step

namespace Policy

open Step

variable (p : Policy) {s s' : Session σ}

theorem notes_plan {payload : String} {r : Except DispatchError String}
    (h : (p.plan payload).run.run s = (r, s')) :
    ∃ o, s.bench.Makes (p.toolingTask p.settings.entryPoints.plan payload) o s'.bench ∧
      r = o.planned p.settings.entryPoints.plan ∧
      s.Notes [.attempt (p.toolingTask p.settings.entryPoints.plan payload)] s' := by
  obtain ⟨o, hm, hr⟩ := p.runs_plan ⟨s, s', rfl, h, rfl⟩
  refine ⟨o, hm, hr, ?_⟩
  obtain ⟨_, s₁, hinvoke, hrest⟩ := of_run_bind h
  obtain ⟨-, -, -, hnotes⟩ :=
    notes_attempt (t := p.toolingTask p.settings.entryPoints.plan payload) hinvoke
  obtain ⟨-, -, -, rfl⟩ | ⟨invocation, -, hscript⟩ := hrest
  · exact hnotes
  · obtain rfl : s₁ = s' := by
      split at hscript <;> exact congrArg Prod.snd hscript
    exact hnotes

theorem notes_package {payload : String} {r : Except DispatchError Unit}
    (h : (p.package payload).run.run s = (r, s')) :
    ∃ package, p.Packages payload s.bench package r s'.bench ∧
      s.Notes (package.toList.map (.attempt ·.task)) s' := by
  unfold package at h
  cases hp : p.settings.entryPoints.package? with
  | none =>
    simp only [hp] at h
    cases h
    exact ⟨none, .disabled hp, .refl s⟩
  | some entryPoint =>
    simp only [hp] at h
    obtain ⟨r₁, s₁, hinvoke, hrest⟩ := of_run_bind h
    obtain ⟨o, hm, rfl, hnotes⟩ := notes_attempt (t := p.toolingTask entryPoint payload) hinvoke
    -- what the packaging gives is dropped
    obtain ⟨rfl, rfl⟩ : s' = s₁ ∧ r = (o.result .tooling).map fun _ ↦ () := by
      obtain ⟨e, ho, rfl, rfl⟩ | ⟨invocation, ho, hdone⟩ := hrest
      · exact ⟨rfl, (congrArg (Except.map fun _ ↦ ()) ho).symm⟩
      · cases hdone
        exact ⟨rfl, (congrArg (Except.map fun _ ↦ ()) ho).symm⟩
    exact ⟨some ⟨_, o⟩, .made hp hm, hnotes⟩

theorem notes_rounds {key : DigestMap} {classpath : List String} {script : String} (made : Nat)
    {more : Nat} {r : Except DispatchError Round}
    (h : (p.rounds key classpath script more (UInt32.ofNat made)).run.run s = (r, s')) :
    ∃ as, p.Repeats ⟨.compile, key, classpath, p.settings.entryPoints.compile, script⟩ made more
      s.bench as r s'.bench ∧ s.Notes (Move.compiling as) s' := by
  induction more using Nat.strongRecOn generalizing made s with
  | ind more ih =>
    obtain ⟨o, s₁, hinvoke, hm, hproceeds⟩ := p.run_rounds h
    obtain ⟨-, -, -, hnotes⟩ :=
      notes_attempt (t := ⟨.compile, key, classpath, p.settings.entryPoints.compile, script⟩)
        hinvoke
    cases hproceeds with
    | settled ho =>
      refine ⟨_, .settled (.done _) (Nat.zero_le _) hm ho fun _ hi hle ↦
        absurd hi (Nat.not_lt_of_le hle), ?_⟩
      rw [List.nil_append, Move.compiling_settled ho]
      exact hnotes
    | exceeded ho hover hbench htranscript =>
      have hnoted := hnotes.trans (.giveUp hbench htranscript)
      rw [List.singleton_append, ← Move.compiling_exhausted (a := ⟨_, o⟩) ho] at hnoted
      rw [hbench]
      exact ⟨_, .exceeded hm ho hover, hnoted⟩
    | last ho hgranted hbench htranscript =>
      have hnoted := hnotes.trans (.giveUp hbench htranscript)
      rw [List.singleton_append, ← Move.compiling_exhausted (a := ⟨_, o⟩) ho] at hnoted
      rw [hbench]
      exact ⟨_, .last hm ho hgranted, hnoted⟩
    | again ho hgranted hbench htranscript hrest =>
      obtain ⟨as, hrepeats, hmore⟩ := ih _ (Nat.lt_succ_self _) _ hrest
      rw [hbench] at hrepeats
      refine ⟨_, .retry hm ho hgranted hrepeats, ?_⟩
      rw [Move.compiling_cons hrepeats.ne_nil]
      exact (hnotes.trans (.restart hbench htranscript)).trans hmore

theorem notes_compile {key : DigestMap} {classpath : List String} {script : String}
    {r : Except DispatchError (Option Signal)}
    (h : (p.compile key classpath script).run.run s = (r, s')) :
    ∃ as, p.Compiles ⟨.compile, key, classpath, p.settings.entryPoints.compile, script⟩ p.grants
      s.bench as (ending r) s'.bench ∧ s.Notes (Move.compiling as) s' := by
  rw [run_compile] at h
  rcases hrounds :
    (p.rounds key classpath script (p.settings.maxRestarts.toNat + p.overtime) 0).run.run s
    with ⟨r₁, s₁⟩
  rw [hrounds] at h
  obtain ⟨rfl, rfl⟩ := Prod.mk.inj h
  obtain ⟨as, hrepeats, hnotes⟩ := p.notes_rounds 0 hrounds
  exact ⟨as, hrepeats.compiles, hnotes⟩

theorem notes_release {packaged : Except DispatchError Unit} {signal : Signal}
    {r : Except DispatchError (Option Signal)} (h : (release packaged signal).run.run s = (r, s')) :
    r = packaged.map (fun _ ↦ some signal) ∧
      s.Notes (if signal = .okThenInvalidate then [.reload] else []) s' := by
  unfold release at h
  by_cases hreload : signal = .okThenInvalidate
  · simp only [if_pos hreload] at h ⊢
    cases packaged <;> cases h <;> exact ⟨rfl, rfl, Transcript.notes_note _ _⟩
  · simp only [if_neg hreload] at h ⊢
    cases packaged <;> cases h <;> exact ⟨rfl, .refl s⟩

theorem notes_process {request : WorkRequest} {result : Except DispatchError (Option Signal)}
    (h : (p.process request).run.run s = (result, s')) :
    ∃ c, p.Processes request s.bench c (ending result) s'.bench ∧ s.Notes c.moves s' := by
  unfold process at h
  cases hpayload : request.payload? with
  | none =>
    simp only [hpayload] at h
    cases h
    refine ⟨{}, .rejected (by simp [WorkRequest.accepted?, hpayload])
      (by simp [WorkRequest.accept, hpayload]), ?_⟩
    exact .refl s
  | some payload =>
    simp only [hpayload] at h
    rw [run_transcribe_bind] at h
    cases hr : CompileRequest.ofString payload with
    | error e =>
      simp only [hr] at h
      cases h
      refine ⟨{}, .rejected (by simp [WorkRequest.accepted?, hpayload, hr, Except.toOption]) ?_,
        .remember s _ _⟩
      simp [WorkRequest.accept, hpayload, hr, Except.map]
    | ok r =>
      have haccepted : request.accepted? = some (payload, r) := by
        simp [WorkRequest.accepted?, hpayload, hr, Except.toOption]
      have hasked := Session.Notes.remember s "request" payload
      simp only [hr, pure_bind] at h
      obtain ⟨_, s₁, hplan, h⟩ := of_run_bind h
      obtain ⟨o, hm, hoplan, hplanned⟩ := p.notes_plan hplan
      obtain ⟨e, he, rfl, rfl⟩ | ⟨script, hscript, h⟩ := h
      · have ho : o.script? = none :=
          (o.script?_eq _).trans (congrArg Except.toOption (hoplan.symm.trans he))
        exact ⟨_, .unplanned haccepted hm ho (hoplan.symm.trans he), hasked.trans hplanned⟩
      · have ho : o.script? = some script :=
          (o.script?_eq _).trans (congrArg Except.toOption (hoplan.symm.trans hscript))
        rw [run_transcribe_bind] at h
        have hready := (hasked.trans hplanned).trans (.remember s₁ "script" script)
        obtain ⟨compiled, s₂, hcompile, h⟩ := of_run_bind h
        obtain ⟨as, hc, hcompiled⟩ := p.notes_compile hcompile
        have hstops : (∀ signal, ending compiled ≠ some (.ok signal)) →
            ∃ c, p.Processes request s.bench c (ending compiled) s₂.bench ∧ s.Notes c.moves s₂ := by
          intro hfailed
          have hreload : as.getLast?.bind (·.outcome.signal?) ≠ some .okThenInvalidate := by
            intro hlast
            exact hfailed _ ((hc.eq_ok_iff .okThenInvalidate).mpr ⟨hlast, by decide⟩)
          refine ⟨_, .uncompiled haccepted hm ho hc hfailed, ?_⟩
          simpa [Course.moves, Course.signal?, hreload] using hready.trans hcompiled
        obtain ⟨e, rfl, rfl, rfl⟩ | ⟨_ | signal, rfl, h⟩ := h
        · exact hstops fun _ h ↦ by cases h
        · cases h
          exact hstops fun _ h ↦ by cases h
        · obtain ⟨packaged, s₃, hpackage, hrelease⟩ :
            ∃ packaged s₃, (p.package payload).run.run s₂ = (packaged, s₃) ∧
              (release packaged signal).run.run s₃ = (result, s') := ⟨_, _, rfl, h⟩
          obtain ⟨package, hp, hpackaged⟩ := p.notes_package hpackage
          obtain ⟨rfl, hreleased⟩ := notes_release hrelease
          have hlast := ((hc.eq_ok_iff signal).mp rfl).1
          have hbench : s'.bench =
              if signal = .okThenInvalidate then s₃.bench.perform (.discard .compile)
              else s₃.bench := by
            rw [hreleased.bench]
            split <;> rfl
          rw [hbench, ending_map]
          refine ⟨_, .compiled haccepted hm ho hc hp, ?_⟩
          have hmoves := ((hready.trans hcompiled).trans hpackaged).trans hreleased
          simpa [Course.moves, Course.signal?, hlast] using hmoves

end Policy

def Session.showing (s : Session σ) (isVerbose : Bool) : Session σ :=
  { s with transcript := { s.transcript with isVerbose } }

theorem Step.simulates_showing (isVerbose : Bool) :
    Step.Simulates fun s t : Session σ ↦ t = s.showing isVerbose where
  note _ := by
    rintro s _ rfl
    exact ⟨rfl, rfl⟩
  remember _ _ := by
    rintro s _ rfl
    exact ⟨rfl, rfl⟩
  discard _ := by
    rintro s _ rfl
    exact ⟨rfl, rfl⟩
  acquire role key classpath := by
    rintro s _ rfl
    rw [run_acquire_eq, run_acquire_eq, Session.showing]
    rcases s.caches.acquire role key classpath s.world with ⟨_ | _, caches, w⟩ <;> exact ⟨rfl, rfl⟩
  invoke role entryPoint payload := by
    rintro s _ rfl
    rw [run_invoke_eq, run_invoke_eq, Session.showing]
    rcases s.caches.invoke role entryPoint payload s.world with ⟨e | _, caches, w⟩
    · cases e <;> exact ⟨rfl, rfl⟩
    · exact ⟨rfl, rfl⟩

namespace Transcript

def concluded (t : Transcript) : Option (Except DispatchError Signal) → List Passage
  | some (.error e) => (t.fail e.toWorkError).passages
  | _ => t.passages

theorem notes_concluded (t : Transcript) (result : Option (Except DispatchError Signal)) :
    (t.concluded result).filterMap Passage.note? = t.notes := by
  rcases result with _ | e | signal
  · rfl
  · simp [concluded, notes, fail, add, Passage.note?]
  · rfl

end Transcript

theorem Passage.text_notes (passages : List Passage) :
    (passages.filter Passage.isNote).map Passage.text =
      (passages.filterMap Passage.note?).map fun line ↦ "[cljw] " ++ line ++ "\n" := by
  induction passages with
  | nil => rfl
  | cons p passages ih =>
    cases p with
    | note line => exact congrArg (("[cljw] " ++ line ++ "\n") :: ·) ih
    | _ => exact ih

theorem WorkRequest.output_conclude (request : WorkRequest) (t : Transcript)
    (result : Except DispatchError Signal) :
    (request.conclude t result).output =
      String.join (((t.concluded (some result)).filter fun p ↦ t.isVerbose || !p.isNote).map
        Passage.text) := by
  cases result <;> rfl

namespace Dispatcher

theorem handle_showing (d : Dispatcher σ) (request : WorkRequest) (verbosity : Int32)
    {result : Except DispatchError (Option Signal)} {s : Session σ}
    (hrun : (d.policy.process request).run.run (d.session request) = (result, s)) :
    d.handle { request with verbosity } =
      ((ending result).map
        ({ request with verbosity }.conclude (s.showing (0 < verbosity)).transcript),
        { d with caches := s.caches, world := s.world }) := by
  have hmirrors :=
    d.policy.mirrors_process (Step.simulates_showing (0 < verbosity)) request (d.session request) _
      rfl
  rw [hrun] at hmirrors
  have hrun' : (d.policy.process { request with verbosity }).run.run
    (d.session { request with verbosity }) =
      (result, s.showing (0 < verbosity)) := Prod.ext hmirrors.1.symm hmirrors.2
  exact handle_of_run hrun'

theorem handle_moves (d : Dispatcher σ) (request : WorkRequest) :
    ∃ c : Course, c.Lawful d.policy request ∧ d.bench.Follows c.steps (d.handle request).2.bench ∧
      (d.handle request).2.bench = d.bench.after (c.moves.map Move.action) := by
  rcases hrun : (d.policy.process request).run.run (d.session request) with ⟨result, s⟩
  obtain ⟨c, hc, hnotes⟩ := d.policy.notes_process hrun
  rw [handle_of_run hrun]
  exact ⟨c, hc.lawful, hc.follows, hnotes.bench⟩

/-- The verbosity of a request decides only whether notes are shown. Whatever it is, the same is
done and left, with the same exit code; and the output is made of the same passages, from which the
notes are left out unless they are asked for. There is one for every environment that was acquired,
every restart that was granted and a reload, in the order in which these came. -/
theorem verbosity_shows_notes (d : Dispatcher σ) (request : WorkRequest) :
    ∃ (c : Course) (passages : List Passage),
      c.Lawful d.policy request ∧ d.bench.Follows c.steps (d.handle request).2.bench ∧
      (d.handle request).2.bench = d.bench.after (c.moves.map Move.action) ∧
      (passages.filter Passage.isNote).map Passage.text =
        (d.bench.occurrences c.moves).map (fun o ↦ "[cljw] " ++ o.line ++ "\n") ∧
      ∀ verbosity : Int32,
        (d.handle { request with verbosity }).2 = (d.handle request).2 ∧
          (d.handle { request with verbosity }).1.map (·.exitCode) =
            (d.handle request).1.map (·.exitCode) ∧
          ∀ response ∈ (d.handle { request with verbosity }).1,
            response.requestId = request.requestId ∧
            (0 < verbosity → response.output = String.join (passages.map Passage.text)) ∧
            (verbosity ≤ 0 →
              response.output = String.join ((passages.filter (!·.isNote)).map Passage.text)) := by
  rcases hrun : (d.policy.process request).run.run (d.session request) with ⟨result, s⟩
  obtain ⟨c, hc, hnotes⟩ := d.policy.notes_process hrun
  rw [handle_of_run hrun]
  refine ⟨c, s.transcript.concluded (ending result), hc.lawful, hc.follows, hnotes.bench, ?_,
    fun verbosity ↦ ?_⟩
  · rw [Passage.text_notes, Transcript.notes_concluded, hnotes.notes, List.map_append, List.map_map]
    rfl
  · rw [d.handle_showing request verbosity hrun]
    generalize ending result = result at hc ⊢
    have hsame : (s.showing (0 < verbosity)).transcript.concluded result =
        s.transcript.concluded result := by
      rcases result with _ | e | signal <;> rfl
    refine ⟨rfl, by rcases result with _ | e | signal <;> rfl, fun response hresponse ↦ ?_⟩
    obtain ⟨result, rfl, rfl⟩ := Option.map_eq_some_iff.mp hresponse
    have houtput := WorkRequest.output_conclude { request with verbosity }
      (s.showing (0 < verbosity)).transcript result
    rw [hsame] at houtput
    refine ⟨?_, fun hverbose ↦ ?_, fun hquiet ↦ ?_⟩
    · cases result <;> rfl
    · have hshown : (s.showing (0 < verbosity)).transcript.isVerbose = true :=
        decide_eq_true hverbose
      rw [houtput, hshown]
      simp only [Bool.true_or, List.filter_true]
    · have hshown : (s.showing (0 < verbosity)).transcript.isVerbose = false :=
        decide_eq_false (Int32.not_lt.mpr hquiet)
      rw [houtput, hshown]
      simp only [Bool.false_or]

end Dispatcher

theorem restarting_request_shows_notes :
    ∃ (request : WorkRequest) (passages : List Passage), request.arguments =
      ["[[],\"c\",[\"a.jar\"],\"o\"]"] ∧
      (restartingStart.handle { request with verbosity := 1 }).1.map (·.output) =
        some (String.join (passages.map Passage.text)) ∧
      (restartingStart.handle { request with verbosity := 0 }).1.map (·.output) =
        some (String.join ((passages.filter (!·.isNote)).map Passage.text)) := by
  let request : WorkRequest := { arguments := ["[[],\"c\",[\"a.jar\"],\"o\"]"] }
  obtain ⟨_, passages, -, -, -, -, hshown⟩ := restartingStart.verbosity_shows_notes request
  have hloud : (restartingStart.handle { request with verbosity := 1 }).1.isSome := by
    decide +kernel
  have hquiet : (restartingStart.handle { request with verbosity := 0 }).1.isSome := by
    decide +kernel
  obtain ⟨loud, hloud⟩ := Option.isSome_iff_exists.mp hloud
  obtain ⟨quiet, hquiet⟩ := Option.isSome_iff_exists.mp hquiet
  refine ⟨request, passages, rfl, ?_, ?_⟩
  · rw [hloud, Option.map_some, ((hshown 1).2.2 loud hloud).2.1 (by decide)]
  · rw [hquiet, Option.map_some, ((hshown 0).2.2 quiet hquiet).2.2 (by decide)]

example : (restartingStart.handle
    { arguments := ["[[],\"c\",[\"a.jar\"],\"o\"]"], verbosity := 1 }).1.map (·.output) = some
    ("[cljw] tooling environment env-1: built\n[cljw] compile environment env-2: built\n" ++
    "[cljw] compile environment discarded (restart)\n[cljw] compile environment env-3: built\n" ++
    "[cljw] tooling environment env-1: reused\n") := by decide +kernel

end CompileWorker
