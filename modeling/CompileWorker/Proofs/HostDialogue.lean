import CompileWorker.Proofs.CacheOutcomes
import CompileWorker.Proofs.FileNames
import CompileWorker.Proofs.HostChannel

namespace CompileWorker

open Framing

inductive GuestCall
  | addLocation (location : String)
  | invoke (entryPoint payload : String)

structure Exchange where
  files : Files
  command : GuestCommand
  answer : Except SystemError (List Piece)
  reply : Except EnvironmentError GuestReply

namespace Exchange

def acknowledged? (x : Exchange) : Option String :=
  match x.command, x.reply with
  | .addLocation location, .ok (.ok ..) => some location
  | _, _ => none

theorem of_acknowledged? {x : Exchange} {location : String} (h : x.acknowledged? = some location) :
    x.command = .addLocation location := by
  unfold acknowledged? at h
  split at h
  · cases h
    assumption
  · cases h

def utterance (id : EnvironmentId) (x : Exchange) : Utterance :=
  ⟨id, x.command.toJson.text, x.answer⟩

end Exchange

def acknowledged (exchanges : List Exchange) : List String :=
  exchanges.reverse.filterMap Exchange.acknowledged?

theorem acknowledged_cons (x : Exchange) (exchanges : List Exchange) :
    acknowledged (x :: exchanges) = acknowledged exchanges ++ x.acknowledged?.toList := by
  rw [acknowledged, List.reverse_cons, List.filterMap_append]
  cases hx : x.acknowledged? <;> simp [acknowledged, hx]

/-- The command that a call takes: none for a location that is known, or that does not exist. -/
def GuestCall.command? (files : Files) (known : List String) : GuestCall → Option GuestCommand
  | .addLocation location =>
    if location ∈ known then none
    else match files.find location with
      | .ok _ => some (.addLocation location)
      | .error _ => none
  | .invoke entryPoint payload => some (.invoke entryPoint payload)

theorem GuestCall.of_command? {call : GuestCall} {files : Files} {known : List String}
    {command : GuestCommand} (h : call.command? files known = some command) :
    (∃ location node, command = .addLocation location ∧ location ∉ known ∧
      files.find location = .ok node) ∨
      ∃ entryPoint payload, command = .invoke entryPoint payload := by
  cases call with
  | invoke entryPoint payload => exact .inr ⟨entryPoint, payload, (Option.some.inj h).symm⟩
  | addLocation location =>
    simp only [command?] at h
    split at h
    · cases h
    · rename_i hnew
      split at h
      · rename_i node hnode
        exact .inl ⟨location, node, (Option.some.inj h).symm, hnew, hnode⟩
      · cases h

/-- The exchanges that some calls lead to, each call with what there was on disk then, and what is
left unread; the newest come first. -/
inductive Dialogue (limit : Nat) : List (GuestCall × Files) → List Exchange → List UInt8 → Prop
  | begun (unread : List UInt8) : Dialogue limit [] [] unread
  | unsaid {calls : List (GuestCall × Files)} {exchanges : List Exchange} {unread : List UInt8}
      {call : GuestCall} {files : Files} (h : Dialogue limit calls exchanges unread)
      (hcommand : call.command? files (acknowledged exchanges) = none) :
      Dialogue limit ((call, files) :: calls) exchanges unread
  | said {calls : List (GuestCall × Files)} {exchanges : List Exchange} {unread left : List UInt8}
      {call : GuestCall} {x : Exchange} (h : Dialogue limit calls exchanges unread)
      (hcommand : call.command? x.files (acknowledged exchanges) = some x.command)
      (hread : Reads limit unread x.answer x.reply left) :
      Dialogue limit ((call, x.files) :: calls) (x :: exchanges) left

namespace Dialogue

variable {limit : Nat} {calls : List (GuestCall × Files)} {exchanges : List Exchange}
  {unread : List UInt8}

/-- A command is the one that some call took, after what was said before. -/
theorem command_of_append (h : Dialogue limit calls exchanges unread) {newer older : List Exchange}
    {x : Exchange} (hsplit : exchanges = newer ++ x :: older) :
    ∃ call : GuestCall, call.command? x.files (acknowledged older) = some x.command := by
  induction h generalizing newer with
  | begun => simp at hsplit
  | unsaid _ _ ih => exact ih hsplit
  | @said _ _ _ _ call _ _ hcommand _ ih =>
    cases newer with
    | nil =>
      obtain ⟨rfl, rfl⟩ := List.cons.inj hsplit
      exact ⟨call, hcommand⟩
    | cons y newer => exact ih (List.cons.inj hsplit).2

theorem of_addLocation (h : Dialogue limit calls exchanges unread) {newer older : List Exchange}
    {x : Exchange} {location : String} (hsplit : exchanges = newer ++ x :: older)
    (hx : x.command = .addLocation location) :
    location ∉ acknowledged older ∧ ∃ node, x.files.find location = .ok node := by
  obtain ⟨call, hcall⟩ := h.command_of_append hsplit
  rcases GuestCall.of_command? hcall
    with ⟨location', node, hcommand, hnew, hnode⟩ | ⟨_, _, hcommand⟩
  · cases hx.symm.trans hcommand
    exact ⟨hnew, node, hnode⟩
  · cases hx.symm.trans hcommand

theorem ne_shutdown (h : Dialogue limit calls exchanges unread) :
    ∀ x ∈ exchanges, x.command ≠ .shutdown := by
  intro x hx
  obtain ⟨newer, older, hsplit⟩ := List.append_of_mem hx
  obtain ⟨call, hcall⟩ := h.command_of_append hsplit
  rcases GuestCall.of_command? hcall with ⟨_, _, hcommand, -⟩ | ⟨_, _, hcommand⟩ <;> simp [hcommand]

theorem nodup (h : Dialogue limit calls exchanges unread) : (acknowledged exchanges).Nodup := by
  induction h with
  | begun => exact .nil
  | unsaid _ _ ih => exact ih
  | @said _ exchanges _ _ _ x h hcommand hread ih =>
    rw [acknowledged_cons]
    cases hx : x.acknowledged? with
    | none => simpa using ih
    | some location =>
      have hnew := ((h.said hcommand hread).of_addLocation (List.nil_append _).symm
        (Exchange.of_acknowledged? hx)).1
      refine List.nodup_append.mpr ⟨ih, by simp, fun known hknown l hl ↦ ?_⟩
      obtain rfl := List.mem_singleton.mp hl
      rintro rfl
      exact hnew hknown

end Dialogue

variable {η : Type} [Hosts η]

def GuestCall.make {σ : Type} [Guests σ] (env : Environment) (w : World σ) :
    GuestCall → Environment × World σ
  | .addLocation location => (env.addLocation location w).2
  | .invoke entryPoint payload => (env.invoke entryPoint payload w).2

def World.unheard (w : World (Hosted (Overheard η))) : World (Hosted η) :=
  { w with guests := w.guests.unheard }

theorem World.create_unheard (role : Role) (w : World (Hosted (Overheard η))) :
    w.unheard.create role = ((w.create role).1, (w.create role).2.unheard) := by
  have hstart : Guests.start ⟨w.unheard.issued + 1⟩ role w.unheard.guests = _ :=
    Hosted.start_unheard ⟨w.issued + 1⟩ role w.guests
  unfold create
  simp only [hstart]
  rcases hg : Guests.start ⟨w.issued + 1⟩ role w.guests with ⟨_ | _ | _, guests⟩ <;>
    rw [show w.guests.start ⟨w.issued + 1⟩ role = _ from hg] <;> rfl

theorem GuestCall.make_unheard (call : GuestCall) (env : Environment)
    (w : World (Hosted (Overheard η))) :
    call.make env w.unheard = ((call.make env w).1, (call.make env w).2.unheard) := by
  cases call with
  | invoke entryPoint payload =>
    have hinvoke : Guests.invoke env entryPoint payload w.unheard.guests = _ :=
      w.guests.invoke_unheard env entryPoint payload
    simp only [make, Environment.invoke, hinvoke]
    rfl
  | addLocation location =>
    by_cases hloaded : location ∈ env.locations
    · simp only [make, Environment.addLocation_loaded hloaded]
      rfl
    · have hload : Guests.load env location w.unheard.guests = _ :=
        w.guests.load_unheard env location
      rw [make, make, Environment.addLocation_new hloaded, Environment.addLocation_new hloaded,
        hload]
      rcases hg : Guests.load env location w.guests with ⟨e | _, guests⟩ <;>
        rw [show w.guests.load env location = _ from hg] <;> rfl

theorem Environment.discard_unheard (env : Environment) (w : World (Hosted (Overheard η))) :
    env.discard w.unheard = ((env.discard w).1, (env.discard w).2.unheard) := by
  have hrelease : w.unheard.guests.release env.id = _ := w.guests.release_unheard env.id
  exact congrArg (fun guests ↦ (Except.ok (), w.unheard.record (.discarded env.id (.ok ())) guests))
    hrelease

/-- An environment is created, and calls are made on it, the last one first; other things happen in
between. -/
inductive Talk (role : Role) (w : World (Hosted (Overheard η))) :
    List (GuestCall × Files) → Environment → World (Hosted (Overheard η)) → Prop
  | created {env : Environment} {w₁ : World (Hosted (Overheard η))}
      (h : w.create role = (.ok env, w₁)) :
      Talk role w [] env w₁
  | call {calls : List (GuestCall × Files)} {env : Environment} {w₁ : World (Hosted (Overheard η))}
      (h : Talk role w calls env w₁) (call : GuestCall) :
      Talk role w ((call, Hosts.files w₁.guests.hosts) :: calls)
        (call.make env w₁).1 (call.make env w₁).2
  | meanwhile {calls : List (GuestCall × Files)} {env : Environment}
      {w₁ w₂ : World (Hosted (Overheard η))}
      (h : Talk role w calls env w₁) (he : w₁.guests.Apart env.id w₂.guests) :
      Talk role w calls env w₂

inductive Ended (env : Environment) (w : World (Hosted (Overheard η))) :
    World (Hosted (Overheard η)) → Prop
  | discard : Ended env w (env.discard w).2
  | drop : Ended env w (env.abandon w)
  | dropAgain {w₁ : World (Hosted (Overheard η))} (h : Ended env w w₁) :
      Ended env w (env.abandon w₁)
  | meanwhile {w₁ w₂ : World (Hosted (Overheard η))} (h : Ended env w w₁)
      (he : w₁.guests.Apart env.id w₂.guests) : Ended env w w₂

/-- An environment in the middle of a dialogue: what was said is on record, what was acknowledged is
loaded. -/
structure Conforms (limit : Nat) (calls : List (GuestCall × Files)) (earlier : List Utterance)
    (env : Environment) (h : Hosted (Overheard η)) (exchanges : List Exchange)
    (unread : List UInt8) : Prop where
  dialogue : Dialogue limit calls exchanges unread
  heard : h.heardBy env.id = exchanges.map (·.utterance env.id) ++ earlier
  locations : env.locations = acknowledged exchanges
  unread : h.Unread env.id unread
  limit : h.limit = limit

namespace Conforms

variable {limit : Nat} {calls : List (GuestCall × Files)} {earlier : List Utterance}
  {env env' : Environment} {h : Hosted (Overheard η)} {exchanges : List Exchange}
  {unread : List UInt8}

omit [Hosts η] in
theorem unsaid (hc : Conforms limit calls earlier env h exchanges unread) {call : GuestCall}
    {files : Files} (hcommand : call.command? files env.locations = none) :
    Conforms limit ((call, files) :: calls) earlier env h exchanges unread :=
  { hc with dialogue := .unsaid hc.dialogue (hc.locations ▸ hcommand) }

theorem said (hc : Conforms limit calls earlier env h exchanges unread) {call : GuestCall}
    {files : Files} {command : GuestCommand}
    (hcommand : call.command? files env.locations = some command) :
    ∃ x left, x.reply = (h.request env.id command).1 ∧ x.command = command ∧
      ∀ env', env'.id = env.id → env'.locations = env.locations ++ x.acknowledged?.toList →
        Conforms limit ((call, files) :: calls) earlier env' (h.request env.id command).2
          (x :: exchanges) left := by
  obtain ⟨answer, left, hunread, hlimit, hheard, hreads⟩ := Hosted.request_reads hc.unread command
  rw [hc.limit] at hreads
  let x : Exchange := ⟨files, command, answer, (h.request env.id command).1⟩
  refine ⟨x, left, rfl, rfl, fun env' hid hlocations ↦ ⟨?_, ?_, ?_, ?_, ?_⟩⟩
  · exact .said (x := x) hc.dialogue (hc.locations ▸ hcommand) hreads
  · rw [hid, hheard, hc.heard]
    rfl
  · rw [hlocations, hc.locations, acknowledged_cons]
  · rw [hid]
    exact hunread
  · rw [hlimit, hc.limit]

theorem addLocation {w : World (Hosted (Overheard η))}
    (hc : Conforms limit calls earlier env w.guests exchanges unread) (location : String) :
    ∃ exchanges unread,
      Conforms limit ((.addLocation location, Hosts.files w.guests.hosts) :: calls) earlier
        (env.addLocation location w).2.1 (env.addLocation location w).2.2.guests
        exchanges unread := by
  by_cases hloaded : location ∈ env.locations
  · rw [Environment.addLocation_loaded hloaded]
    exact ⟨exchanges, unread, hc.unsaid (by simp [GuestCall.command?, hloaded])⟩
  · cases hfind : (Hosts.files w.guests.hosts).find location with
    | error e =>
      have hload : Guests.load env location w.guests = _ := Hosted.load_missing hfind env
      rw [Environment.addLocation_new hloaded, hload]
      exact ⟨exchanges, unread, hc.unsaid (by simp [GuestCall.command?, hloaded, hfind])⟩
    | ok node =>
      have hcommand :
        GuestCall.command? (Hosts.files w.guests.hosts) env.locations (.addLocation location) =
          some (.addLocation location) := by
        simp [GuestCall.command?, hloaded, hfind]
      obtain ⟨x, left, hreply, hx, hsaid⟩ := hc.said hcommand
      refine ⟨x :: exchanges, left, ?_⟩
      have hload : Guests.load env location w.guests = _ := Hosted.load_found hfind env
      rw [Environment.addLocation_new hloaded, hload]
      rcases hrequest : w.guests.request env.id (.addLocation location) with ⟨e | reply, guests⟩
      · rw [hrequest] at hreply hsaid
        exact hsaid env rfl (by simp [Exchange.acknowledged?, hx, hreply])
      · rw [hrequest] at hreply hsaid
        cases reply with
        | ok =>
          exact hsaid { env with locations := _ } rfl (by simp [Exchange.acknowledged?, hx, hreply])
        | error => exact hsaid env rfl (by simp [Exchange.acknowledged?, hx, hreply])

theorem invoke {w : World (Hosted (Overheard η))}
    (hc : Conforms limit calls earlier env w.guests exchanges unread)
    (entryPoint payload : String) :
    ∃ exchanges unread,
      Conforms limit ((.invoke entryPoint payload, Hosts.files w.guests.hosts) :: calls) earlier
        (env.invoke entryPoint payload w).2.1 (env.invoke entryPoint payload w).2.2.guests
        exchanges unread := by
  have hcommand :
    GuestCall.command? (Hosts.files w.guests.hosts) env.locations (.invoke entryPoint payload) =
      some (.invoke entryPoint payload) := rfl
  obtain ⟨x, left, -, hx, hsaid⟩ := hc.said hcommand
  have hguests : (env.invoke entryPoint payload w).2.2.guests =
      (w.guests.request env.id (.invoke entryPoint payload)).2 :=
        w.guests.invoke_state env entryPoint payload
  refine ⟨x :: exchanges, left, ?_⟩
  rw [hguests]
  exact hsaid _ rfl (by simp [Exchange.acknowledged?, hx, Environment.invoke])

omit [Hosts η] in
theorem meanwhile {w w' : World (Hosted (Overheard η))}
    (hc : Conforms limit calls earlier env w.guests exchanges unread)
    (he : w.guests.Apart env.id w'.guests) :
    Conforms limit calls earlier env w'.guests exchanges unread := by
  obtain ⟨s, hs, hrest⟩ := hc.unread
  exact { hc with
    heard := he.heard.trans hc.heard
    unread := ⟨s, he.channel.trans hs, hrest⟩
    limit := he.limit.trans hc.limit }

theorem created {role : Role} {w w₁ : World (Hosted (Overheard η))}
    (hn : w.create role = (.ok env, w₁)) :
    ∃ unread, Conforms w.guests.limit [] (w.guests.heardBy env.id) env w₁.guests [] unread := by
  unfold World.create at hn
  cases hg : Guests.start ⟨w.issued + 1⟩ role w.guests with
  | mk start guests =>
    cases start <;> simp only [hg, Prod.mk.injEq, Except.ok.injEq, reduceCtorEq, false_and] at hn
    obtain ⟨rfl, rfl⟩ := hn
    obtain ⟨unread, hunread, hlimit, hheard⟩ := Hosted.start_reads hg
    exact ⟨unread, .begun unread, hheard, rfl, hunread, hlimit⟩

end Conforms

theorem GuestCall.make_apart {id : EnvironmentId} {env : Environment} (hne : env.id ≠ id)
    (call : GuestCall) (w : World (Hosted (Overheard η))) :
    w.guests.Apart id (call.make env w).2.guests := by
  cases call with
  | invoke entryPoint payload => exact .invoke w.guests hne entryPoint payload
  | addLocation location =>
    by_cases hloaded : location ∈ env.locations
    · rw [make, Environment.addLocation_loaded hloaded]
      exact .refl id w.guests
    · have hload : w.guests.Apart id (Guests.load env location w.guests).2 :=
        .load w.guests hne location
      rw [make, Environment.addLocation_new hloaded]
      rcases hg : Guests.load env location w.guests
        with ⟨e | _, guests⟩ <;> rw [hg] at hload <;> exact hload

theorem World.create_apart {id : EnvironmentId} {w : World (Hosted (Overheard η))}
    (hid : id.number ≤ w.issued) (role : Role) : w.guests.Apart id (w.create role).2.guests := by
  have hne : (⟨w.issued + 1⟩ : EnvironmentId) ≠ id := by
    rintro rfl
    exact Nat.not_succ_le_self _ hid
  have hstart : w.guests.Apart id (Guests.start ⟨w.issued + 1⟩ role w.guests).2 :=
    .start hne w.guests role
  unfold create
  rcases hg : Guests.start ⟨w.issued + 1⟩ role w.guests
    with ⟨_ | _ | _, guests⟩ <;> rw [hg] at hstart <;>
    simp only [hg] <;> exact hstart

theorem Environment.discard_apart {id : EnvironmentId} {env : Environment} (hne : env.id ≠ id)
    (w : World (Hosted (Overheard η))) : w.guests.Apart id (env.discard w).2.guests :=
  .release hne w.guests

theorem GuestCall.make_id (call : GuestCall) (env : Environment)
    (w : World (Hosted (Overheard η))) : (call.make env w).1.id = env.id := by
  cases call with
  | addLocation location => exact (env.addLocation_grows location w).id
  | invoke => rfl

theorem Talk.conforms {role : Role} {w w₁ : World (Hosted (Overheard η))}
    {calls : List (GuestCall × Files)} {env : Environment} (h : Talk role w calls env w₁) :
    ∃ exchanges unread, Conforms w.guests.limit calls (w.guests.heardBy env.id) env w₁.guests
      exchanges unread := by
  induction h with
  | created hn =>
    obtain ⟨unread, hc⟩ := Conforms.created hn
    exact ⟨[], unread, hc⟩
  | call _ call ih =>
    obtain ⟨exchanges, unread, hc⟩ := ih
    rw [GuestCall.make_id]
    cases call with
    | addLocation location => exact hc.addLocation location
    | invoke entryPoint payload => exact hc.invoke entryPoint payload
  | meanwhile _ he ih =>
    obtain ⟨exchanges, unread, hc⟩ := ih
    exact ⟨exchanges, unread, hc.meanwhile he⟩

theorem Ended.farewell {env : Environment} {w w' : World (Hosted (Overheard η))}
    {unread : List UInt8} (h : Ended env w w') (hu : w.guests.Unread env.id unread) :
    w'.guests.channels env.id = none ∧
      ∃ answer, w'.guests.heardBy env.id =
        ⟨env.id, GuestCommand.shutdown.toJson.text, answer⟩ :: w.guests.heardBy env.id := by
  induction h with
  | discard | drop => exact Hosted.release_says hu
  | @dropAgain w₁ _ ih =>
    change (w₁.guests.release env.id).channels env.id = none ∧
      ∃ answer, (w₁.guests.release env.id).heardBy env.id = _ :: _
    rw [Hosted.release_again ih.1]
    exact ih
  | meanwhile _ he ih => exact ⟨he.channel.trans ih.1, he.heard ▸ ih.2⟩

/-- What the program of an environment is told from its start to its end: the commands of the
dialogue that the calls lead to, and then to exit. The locations of the environment are those that
the program acknowledged. -/
theorem Ended.conforms_throughout {role : Role} {calls : List (GuestCall × Files)}
    {env : Environment} {w w₁ w₂ : World (Hosted (Overheard η))} (htalk : Talk role w calls env w₁)
    (hended : Ended env w₁ w₂) :
    ∃ exchanges unread answer, Dialogue w.guests.limit calls exchanges unread ∧
      w₂.guests.heardBy env.id =
        ⟨env.id, GuestCommand.shutdown.toJson.text, answer⟩ ::
          (exchanges.map (·.utterance env.id) ++ w.guests.heardBy env.id) ∧
      (∀ x ∈ exchanges, x.command ≠ .shutdown) ∧
      (∀ newer x older location, exchanges = newer ++ x :: older →
        x.command = .addLocation location →
        location ∉ acknowledged older ∧ ∃ node, x.files.find location = .ok node) ∧
      env.locations = acknowledged exchanges ∧ env.locations.Nodup := by
  obtain ⟨exchanges, unread, hc⟩ := htalk.conforms
  obtain ⟨-, answer, hfarewell⟩ := hended.farewell hc.unread
  refine ⟨exchanges, unread, answer, hc.dialogue, ?_, hc.dialogue.ne_shutdown, ?_, hc.locations, ?_⟩
  · rw [hfarewell, hc.heard]
  · intro newer x older location hsplit hx
    exact hc.dialogue.of_addLocation hsplit hx
  · rw [hc.locations]
    exact hc.dialogue.nodup

structure Acknowledging where
  files : Files

def Acknowledging.answer : Piece := .bytes (Utf8.encode "\n\x7b\"status\":\"ok\"\x7d\n")

instance : Hosts Acknowledging where
  files a := a.files
  start _ _ a := (.ok [], a)
  send _ _ a := (.ok [Acknowledging.answer], a)
  stop _ _ a := a
  diagnostics _ := ""

namespace Acknowledging

theorem reads : ∃ value output defined left,
    readMessage GuestReply.decoder 80 { pieces := [answer] } =
      (.ok (some (.ok value output defined)), left) := by
  have hmessages : (Source.messages { pieces := [answer] } GuestReply.decoder 80).map
      (·.toOption.map GuestReply.isAck) = [some true] := by
    decide +kernel
  obtain ⟨m, rest, hm, hack, -⟩ := List.map_eq_cons_iff.mp hmessages
  obtain ⟨left, hread⟩ := readMessage_of_messages hm
  rcases m with e | ⟨value, output, defined⟩ | ⟨message, output⟩
  · cases hack
  · exact ⟨value, output, defined, left, hread⟩
  · cases hack

theorem make_addLocation {env : Environment} {w : World (Hosted (Overheard Acknowledging))}
    {location : String} {node : FileNode} (hs : w.guests.channels env.id = some { pieces := [] })
    (hlimit : w.guests.limit = 80) (hfind : (Hosts.files w.guests.hosts).find location = .ok node)
    (hnew : location ∉ env.locations) :
    ∃ w', GuestCall.make env w (.addLocation location) =
      ({ env with locations := env.locations ++ [location] }, w') ∧ w'.issued = w.issued := by
  obtain ⟨value, output, defined, left, hread⟩ := reads
  rw [← hlimit] at hread
  have hrequest : w.guests.request env.id (.addLocation location) = _ :=
    Hosted.request_of_send hs rfl hread
  have hload : Guests.load env location w.guests = _ := Hosted.load_found hfind env
  rw [GuestCall.make, Environment.addLocation_new hnew, hload, hrequest]
  exact ⟨_, rfl, rfl⟩

def oneArchive : Files := { entries := [(["a"], .file [])] }

theorem find_oneArchive : oneArchive.find "a" = .ok (.file []) :=
  Files.find_name ⟨by decide, by decide, by decide, by decide, by decide⟩ rfl

def idle : World (Hosted (Overheard Acknowledging)) :=
  { guests :=
      { hosts := { hosts := { files := oneArchive } }
        command := ["guest"]
        limit := 80
        grace := 0 } }

theorem archive_sent_once : ∃ calls env w₁ w₂ exchanges unread answer,
    Talk .compile idle calls env w₁ ∧ Ended env w₁ w₂ ∧ env.locations = ["a"] ∧
    calls.map Prod.fst = [.addLocation "a", .addLocation "a"] ∧
    Dialogue 80 calls exchanges unread ∧ acknowledged exchanges = ["a"] ∧
    w₂.guests.heardBy env.id = ⟨env.id, GuestCommand.shutdown.toJson.text, answer⟩ ::
      (exchanges.map (·.utterance env.id) ++ idle.guests.heardBy env.id) := by
  let env : Environment := { id := ⟨1⟩, role := .compile }
  let loaded : Environment := { id := ⟨1⟩, role := .compile, locations := ["a"] }
  let other : Environment := { id := ⟨2⟩, role := .tooling }
  have hother : other.id ≠ loaded.id := by decide
  have hcreated : idle.create .compile = (.ok env, (idle.create .compile).2) := rfl
  obtain ⟨w₁, hmake, hissued⟩ :
    ∃ w₁, GuestCall.make env (idle.create .compile).2 (.addLocation "a") = (loaded, w₁) ∧
      w₁.issued = 1 :=
    make_addLocation rfl rfl find_oneArchive (by simp [env])
  have hfirst : Talk .compile idle [(.addLocation "a", oneArchive)] loaded w₁ := by
    have h := (Talk.created hcreated).call (.addLocation "a")
    rwa [hmake] at h
  have hbetween :=
    ((hfirst.meanwhile (World.create_apart (Nat.le_of_eq hissued.symm) .tooling)).meanwhile
    (GuestCall.make_apart hother (.addLocation "a") _)).meanwhile
      (Environment.discard_apart hother _)
  have htalk := hbetween.call (.addLocation "a")
  have hagain : ∀ w : World (Hosted (Overheard Acknowledging)),
      (GuestCall.make loaded w (.addLocation "a")).1 = loaded := by
    intro w
    rw [GuestCall.make, Environment.addLocation_loaded (by decide)]
  rw [hagain] at htalk
  obtain ⟨exchanges, unread, answer, hdialogue, hheard, -, -, hlocations, -⟩ :=
    Ended.conforms_throughout htalk (.dropAgain .discard)
  exact ⟨_, _, _, _, exchanges, unread, answer, htalk, .dropAgain .discard, rfl, rfl, hdialogue,
    hlocations.symm, hheard⟩

end Acknowledging

end CompileWorker
