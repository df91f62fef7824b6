import CompileWorker.Proofs.AttendedGuests

namespace CompileWorker

variable {η : Type}

def WorkResponse.Reports (response : WorkResponse) (counts : Turn → Bool) (turns : List Turn) :
    Prop :=
  ∀ t ∈ turns, counts t → t.output ≠ "" →
    ∃ before after, response.output = before ++ t.output ++ after

variable [Hosts η]

/-- Of the counted replies nothing is lost: at every turn the environment had the units that were
defined before, the cached ones have them now, and whatever request comes next is answered with what
is printed meanwhile. -/
structure Dispatcher.Keeps (d : Dispatcher (Attended η)) (counts : Turn → Bool) : Prop where
  told : ∀ t older, t :: older <:+ d.world.turns → t.environment.Holds counts older
  cached : ∀ role entry, (d.caches.get role).entry = some entry →
    entry.environment.Holds counts d.world.turns
  reported : ∀ request, ∃ turns, (d.handle request).2.world.turns = turns ++ d.world.turns ∧
    ∀ response ∈ (d.handle request).1, response.Reports counts turns

def Session.Reports (old : List Turn) (s : Session (Attended η)) : Prop :=
  ∃ turns, s.world.turns = turns ++ old ∧
    ∀ t ∈ turns, t.isInvocation → t.output ≠ "" → .guest t.output ∈ s.transcript.passages

namespace Session.Reports

variable {old : List Turn} {s s' : Session (Attended η)}

omit [Hosts η] in
theorem extend (h : s.Reports old) {new : List Turn} (hnew : s'.world.turns = new ++ s.world.turns)
    (hpassages : s.transcript.passages ⊆ s'.transcript.passages)
    (hprinted : ∀ t ∈ new, t.isInvocation → t.output ≠ "" →
      .guest t.output ∈ s'.transcript.passages) :
    s'.Reports old := by
  obtain ⟨turns, hturns, hbefore⟩ := h
  refine ⟨new ++ turns, by rw [hnew, hturns, List.append_assoc],
    List.forall_mem_append.mpr ⟨hprinted, ?_⟩⟩
  exact fun t ht hinvocation hne ↦ hpassages (hbefore t ht hinvocation hne)

omit [Hosts η] in
theorem quiet (h : s.Reports old) (hquiet : s.world.Quiet s'.world)
    (hpassages : s.transcript.passages ⊆ s'.transcript.passages) : s'.Reports old := by
  obtain ⟨new, hnew, hquiet⟩ := hquiet
  exact h.extend hnew hpassages fun t ht hinvocation ↦ absurd hinvocation (hquiet t ht)

theorem discard (h : s.Reports old) (role : Role) : ((Step.discard role).run.run s).2.Reports old :=
  h.quiet ((s.caches.get role).discard_quiet s.world) (List.Subset.refl _)

theorem acquire (h : s.Reports old) (role : Role) (key : DigestMap) (classpath : List String) :
    ((Step.acquire role key classpath).run.run s).2.Reports old := by
  have hquiet : s.world.Quiet (s.caches.acquire role key classpath s.world).2.2 :=
    (s.caches.get role).acquire_quiet key classpath s.world
  rw [Step.run_acquire_eq]
  rcases hacquire : s.caches.acquire role key classpath s.world
    with ⟨_ | _, caches, w⟩ <;> rw [hacquire] at hquiet
  · exact h.quiet hquiet (List.Subset.refl _)
  · exact h.quiet hquiet (List.subset_append_left _ _)

theorem invoke (h : s.Reports old) (role : Role) (entryPoint payload : String) :
    ((Step.invoke role entryPoint payload).run.run s).2.Reports old := by
  obtain ⟨new, hnew, hprinted⟩ : ∃ new,
      (s.caches.invoke role entryPoint payload s.world).2.2.turns = new ++ s.world.turns ∧
      ∀ t ∈ new, t.output ≠ "" →
        Invocation.printed? (s.caches.invoke role entryPoint payload s.world).1 =
          some t.output := by
    obtain ⟨new, hnew, hprinted⟩ := (s.caches.get role).invoke_turns entryPoint payload s.world
    exact ⟨new, hnew, fun t ht ↦ (hprinted t ht).2⟩
  rw [Step.run_invoke_eq]
  rcases hinvoke : s.caches.invoke role entryPoint payload s.world
    with ⟨e | invocation, caches, w⟩ <;>
    rw [hinvoke] at hnew hprinted
  · cases e with
    | guest raising message output =>
      refine h.extend hnew (List.subset_append_left _ _) fun t ht _ hne ↦ List.mem_append_right _ ?_
      rw [← Option.some.inj (hprinted t ht hne)]
      exact List.mem_singleton_self _
    | spawn | resolution | frame | io | closed | invalidCommand =>
      -- no reply was read, so nothing is lost with the environment
      have hleft : Session.Reports old { s with caches, world := w } :=
        h.extend hnew (List.Subset.refl _) fun t ht _ hne ↦ by cases hprinted t ht hne
      exact hleft.quiet ((caches.get role).discard_quiet w) (List.Subset.refl _)
  · refine h.extend hnew (List.subset_append_left _ _) fun t ht _ hne ↦ List.mem_append_right _ ?_
    rw [← Option.some.inj (hprinted t ht hne)]
    exact List.mem_singleton_self _

end Session.Reports

theorem Step.simulates_reports (old : List Turn) :
    Step.Simulates fun (s t : Session (Attended η)) ↦ s = t ∧ s.Reports old where
  note _ := .of_keeps fun _ h ↦ h.quiet (.of_eq rfl) (List.subset_append_left _ _)
  remember _ _ := .of_keeps fun _ h ↦ h.quiet (.of_eq rfl) (List.Subset.refl _)
  discard role := .of_keeps fun _ h ↦ h.discard role
  acquire role key classpath := .of_keeps fun _ h ↦ h.acquire role key classpath
  invoke role entryPoint payload := .of_keeps fun _ h ↦ h.invoke role entryPoint payload

theorem Transcript.output_of_guest {t : Transcript} {text : String} (h : .guest text ∈ t.passages) :
    ∃ before after, t.output = before ++ text ++ after := by
  have hshown : .guest text ∈ t.shown := List.mem_filter.mpr ⟨h, by simp [Passage.isNote]⟩
  obtain ⟨earlier, later, hsplit⟩ := List.append_of_mem hshown
  have htext : ∃ ending, (Passage.guest text).text = text ++ ending := by
    rw [Passage.text]
    split
    · exact ⟨"", String.append_empty.symm⟩
    · exact ⟨"\n", rfl⟩
  obtain ⟨ending, hending⟩ := htext
  refine ⟨String.join (earlier.map Passage.text), ending ++ String.join (later.map Passage.text),
    ?_⟩
  rw [output, hsplit, List.map_append, List.map_cons, String.join_append, String.join_cons, hending]
  simp only [String.append_assoc]

theorem Dispatcher.handle_reports (d : Dispatcher (Attended η)) (request : WorkRequest) :
    ∃ turns, (d.handle request).2.world.turns = turns ++ d.world.turns ∧
      ∀ response ∈ (d.handle request).1, response.Reports Turn.isInvocation turns := by
  have hstart : (d.session request).Reports d.world.turns := ⟨[], rfl, List.forall_mem_nil _⟩
  obtain ⟨result, s, _, ⟨rfl, turns, hturns, hshown⟩, hd, -⟩ :=
    handle_mirrors (Step.simulates_reports d.world.turns) d d rfl request ⟨rfl, hstart⟩
  rw [hd]
  refine ⟨turns, hturns, fun response hresponse t ht hinvocation hne ↦ ?_⟩
  have hpassage := hshown t ht hinvocation hne
  obtain ⟨result, -, rfl⟩ := Option.map_eq_some_iff.mp hresponse
  cases result with
  | ok signal => exact Transcript.output_of_guest hpassage
  | error e =>
    exact Transcript.output_of_guest (t := s.transcript.fail e.toWorkError)
      (List.mem_append_left _ hpassage)

/-- Nothing of what guests reply to invocations is lost: whatever a dispatcher was called for, and
whatever it is called for next, the units of environments are those defined so far, and the output
of the response has all that was printed. That guests are attended makes no difference to the
dispatcher. -/
theorem Dispatcher.invocation_replies_kept (policy : Policy) (hosted : Hosted η)
    (calls : List DispatcherCall) :
    let attended := (Dispatcher.start policy ({ hosted } : Attended η)).after calls
    let d := (Dispatcher.start policy hosted).after calls
    attended.map Attended.hosted = d ∧
      (∀ request, d.handle request =
        ((attended.handle request).1, (attended.handle request).2.map Attended.hosted)) ∧
      attended.Keeps Turn.isInvocation := by
  intro attended d
  have hmap : attended.map Attended.hosted = d :=
    (after_map Attended.maps (Dispatcher.start policy ({ hosted } : Attended η)) calls).symm
  have haccounted : attended.bench.Accounted := (after_accounted policy hosted calls).1
  refine ⟨hmap, fun request ↦ ?_, (haccounted .tooling).world.told, fun role entry hentry ↦ ?_, ?_⟩
  · rw [← hmap]
    exact attended.handle_map Attended.maps request
  · exact ((haccounted role).entry entry hentry).holds
  · exact attended.handle_reports

structure Announcing where
  files : Files

namespace Announcing

def answer : Framing.Piece :=
  .bytes (Utf8.encode
    "\x7b\"status\":\"ok\",\"output\":\"loading!\",\"defined\":[\"lib.core\"]\x7d\n")

instance : Hosts Announcing where
  files a := a.files
  start _ _ a := (.ok [], a)
  send _ _ a := (.ok [answer], a)
  stop _ _ a := a
  diagnostics _ := ""

theorem reads : ∃ value left, Framing.readMessage GuestReply.decoder 80 { pieces := [answer] } =
    (.ok (some (.ok value "loading!" ["lib.core"])), left) := by
  have hmessages : (Framing.Source.messages { pieces := [answer] } GuestReply.decoder 80).map
      (·.toOption.map fun reply ↦ (reply.output, reply.defined)) =
        [some ("loading!", ["lib.core"])] := by
    decide +kernel
  obtain ⟨m, rest, hm, hreply, -⟩ := List.map_eq_cons_iff.mp hmessages
  obtain ⟨left, hread⟩ := Framing.readMessage_of_messages hm
  rcases m with e | ⟨value, output, defined⟩ | ⟨message, output⟩ <;> cases hreply
  exact ⟨value, left, hread⟩

def fresh : Dispatcher (Attended Announcing) :=
  .start { settings := { guest := { toolingClasspath := ["a", ""] } } }
    { hosted :=
        { hosts := { files := Acknowledging.oneArchive }
          command := ["guest"]
          limit := 80
          grace := 0 } }

def payload : String := "[[],\"c\",[\"a.jar\"],\"o\"]"

def request : WorkRequest := { arguments := [payload] }

def env : Environment := { id := ⟨1⟩, role := .tooling }

def loaded : Environment := { env with locations := ["a"] }

def loading (value : Json) : Turn :=
  ⟨env, .addLocation "a", some (.ok value "loading!" ["lib.core"])⟩

def missing : CacheError := .load .tooling "" (.resolution "" SystemError.noSuchFile.text)

def created : World (Attended Announcing) := (fresh.world.create .tooling).2

theorem addLocation_archive : ∃ value w, env.addLocation "a" created = (.ok true, loaded, w) ∧
    w.turns = [loading value] := by
  obtain ⟨value, left, hread⟩ := reads
  have hrequest : created.guests.hosted.request env.id (.addLocation "a") = _ :=
    Hosted.request_of_send rfl rfl hread
  have hfind : (Hosts.files created.guests.hosted.hosts).find "a" = .ok (.file []) :=
    Acknowledging.find_oneArchive
  rw [Environment.addLocation_new List.not_mem_nil]
  simp only [Guests.load, Hosted.load_found hfind, hfind, Attended.write, hrequest]
  exact ⟨value, _, rfl, rfl⟩

theorem addLocation_missing (w : World (Attended Announcing)) :
    ∃ w', loaded.addLocation "" w = (.error (.resolution "" SystemError.noSuchFile.text), loaded,
      w') ∧
      w'.turns = w.turns := by
  have hfind (fs : Files) : fs.find "" = .error .noSuchFile := rfl
  have hload : Guests.load loaded "" w.guests =
      (.error (.resolution "" SystemError.noSuchFile.text), w.guests) := by
    simp only [Guests.load, Hosted.load_missing (hfind _), hfind]
  rw [Environment.addLocation_new (by decide), hload]
  exact ⟨_, rfl, rfl⟩

theorem acquire_fails : ∃ caches w value,
    fresh.caches.acquire .tooling fresh.policy.toolingKey
      fresh.policy.settings.guest.toolingClasspath fresh.world =
      (.error missing, caches, w) ∧
    w.turns = [{ environment := loaded, command := .shutdown }, loading value] := by
  obtain ⟨value, w₂, hfirst, hturns⟩ := addLocation_archive
  obtain ⟨w₃, hsecond, hturns'⟩ := addLocation_missing w₂
  have hcreate : fresh.world.create .tooling = (.ok env, created) := rfl
  have hloads : env.loadAll created ["a", ""] =
      (.error ("", .resolution "" SystemError.noSuchFile.text), loaded, w₃) := by
    simp only [Environment.loadAll, hfirst, hsecond]
  have hbuild : fresh.caches.tooling.build .empty ["a", ""] .built fresh.world =
      (.error missing, fresh.caches.tooling.dispose loaded w₃) := by
    simp only [EnvironmentCache.build, show fresh.caches.tooling.role = .tooling from rfl, hcreate,
      hloads, missing]
  refine ⟨fresh.caches.set .tooling (fresh.caches.tooling.dispose loaded w₃).1,
    (loaded.discard w₃).2, value, ?_, congrArg (_ :: ·) (hturns'.trans hturns)⟩
  exact congrArg (fun out ↦ (out.1, fresh.caches.set .tooling out.2.1, out.2.2)) hbuild

theorem handled : ∃ value response,
    (fresh.handle request).2.world.turns =
      [{ environment := loaded, command := .shutdown }, loading value] ∧
    (fresh.handle request).1 = some response ∧ '!' ∉ response.output.toList := by
  obtain ⟨caches, w, value, hacquire, hturns⟩ := acquire_fails
  obtain ⟨r, hr⟩ : ∃ r, CompileRequest.ofString payload = .ok r := by
    have haccepted : (CompileRequest.ofString payload).isOk := by decide +kernel
    cases hr : CompileRequest.ofString payload with
    | ok r => exact ⟨r, rfl⟩
    | error e =>
      rw [hr] at haccepted
      cases haccepted
  have hpayload : request.payload? = some payload := rfl
  have hsilent :
    '!' ∉ (request.conclude
      (({ isVerbose := request.isVerbose } : Transcript).remember "request" payload)
      (.error (.cache missing))).output.toList := by decide +kernel
  rw [fresh.handle_of_not_acquired hpayload hr hacquire]
  exact ⟨value, _, hturns, rfl, hsilent⟩

theorem reply_to_location_dropped :
    (¬ ∀ t older, t :: older <:+ (fresh.after [.handle request]).world.turns →
      t.environment.Holds (fun _ ↦ true) older) ∧
    ¬ ∃ turns, (fresh.handle request).2.world.turns = turns ++ fresh.world.turns ∧
      ∀ response ∈ (fresh.handle request).1, response.Reports (fun _ ↦ true) turns := by
  obtain ⟨value, response, hturns, hresponse, hsilent⟩ := handled
  constructor
  · intro htold
    rw [show fresh.after [.handle request] = (fresh.handle request).2 from rfl, hturns] at htold
    have hunit := (htold _ _ (List.suffix_refl _) ⟨env.id, "lib.core"⟩).mpr
      ⟨rfl, loading value, List.mem_singleton_self _, rfl, rfl, List.mem_singleton_self _⟩
    exact absurd hunit List.not_mem_nil
  · rintro ⟨turns, heq, hreports⟩
    have hall : turns = [{ environment := loaded, command := .shutdown }, loading value] :=
      (List.append_nil turns).symm.trans (heq.symm.trans hturns)
    have hloading : loading value ∈ turns :=
      hall ▸ List.mem_cons_of_mem _ (List.mem_singleton_self _)
    obtain ⟨before, after, houtput⟩ :=
      hreports response hresponse _ hloading rfl (show "loading!" ≠ "" by decide)
    rw [houtput, String.toList_append, String.toList_append] at hsilent
    exact hsilent
      (List.mem_append_left _ (List.mem_append_right _ (show '!' ∈ "loading!".toList by decide)))

end Announcing

end CompileWorker
