import CompileWorker.Environment.Hosted
import CompileWorker.Proofs.StreamReading

namespace CompileWorker

structure Utterance where
  id : EnvironmentId
  line : String
  answer : Except SystemError (List Framing.Piece)

structure Overheard (η : Type) where
  hosts : η
  heard : List Utterance := []

instance {η : Type} [Hosts η] : Hosts (Overheard η) where
  files o := Hosts.files o.hosts
  start id command o :=
    let (answer, hosts) := Hosts.start id command o.hosts
    (answer, { o with hosts })
  send id line o :=
    let (answer, hosts) := Hosts.send id line o.hosts
    (answer, { hosts, heard := ⟨id, line, answer⟩ :: o.heard })
  stop id grace o := { o with hosts := Hosts.stop id grace o.hosts }
  diagnostics o := Hosts.diagnostics o.hosts

namespace Framing

theorem eq_nil_of_cuts {bytes : List UInt8} (h : cuts bytes = []) : bytes = [] := by
  rw [cuts] at h
  split at h
  · split at h
    · assumption
    · cases h
  · cases h

/-- Reading a message passes over blank lines and takes one line after them, if there is one. -/
theorem readMessage_cuts {α : Type} (d : Json.Decoder α) (limit : Nat) (s : Source)
    (hending : s.ending = none) :
    (readMessage d limit s).2.ending = none ∧
      (((readMessage d limit s).1 = .ok none ∧ (readMessage d limit s).2.bytes = [] ∧
          ∀ cut ∈ cuts s.bytes, ¬ isMessageLine limit cut.1) ∨
        ∃ blanks content, (readMessage d limit s).1 = (messageOf d limit content).map some ∧
          cuts s.bytes = blanks ++ (content, (readMessage d limit s).2.bytes) ::
            cuts (readMessage d limit s).2.bytes ∧
          (∀ cut ∈ blanks, ¬ isMessageLine limit cut.1) ∧ isMessageLine limit content) := by
  -- on the bytes to come, as the reader goes on past a blank line
  fun_induction readMessage d limit s with
  | case1 s e s' hread =>
    obtain ⟨-, hfailed⟩ := lines_of_readLine_error hread
    rw [hending] at hfailed
    cases hfailed
  | case2 s line s' hread htaken =>
    have hcuts := cuts_of_readLine_end hread htaken
    have hlength := bytes_length_readLine limit s s' line hread
    have hempty : s'.bytes = [] := by
      rw [eq_nil_of_cuts hcuts, List.length_nil] at hlength
      exact List.eq_nil_of_length_eq_zero (Nat.add_eq_zero_iff.mp hlength).2
    have hending' : s'.ending = none := by
      unfold readLine at hread
      split at hread
      · cases hread
        exact hending
      · rw [hending] at hread
        cases hread
        rfl
    refine ⟨hending', .inl ⟨rfl, hempty, ?_⟩⟩
    rw [hcuts]
    simp
  | case3 s line s' hread htaken hlong =>
    obtain ⟨content, feed, hcuts, hending', rfl⟩ := cuts_of_readLine hending hread htaken
    rw [Line.ofBytes_overlong, decide_eq_true_eq] at hlong
    refine ⟨hending', .inr ⟨[], content, ?_, hcuts, by simp, by simp [isMessageLine, hlong]⟩⟩
    rw [messageOf, if_pos hlong]
    rfl
  | case4 s line s' hread htaken hlong hblank ih =>
    obtain ⟨content, feed, hcuts, hending', rfl⟩ := cuts_of_readLine hending hread htaken
    rw [Line.ofBytes_overlong, decide_eq_true_eq] at hlong
    rw [trim_ofBytes hlong] at hblank
    have hskipped : ¬ isMessageLine limit content := by simp [isMessageLine, hlong, hblank]
    rw [hcuts]
    obtain ⟨hended,
      ⟨hnone, hnothing, hrest⟩ | ⟨blanks, content', hreply, hrest, hblanks, hmessage⟩⟩ :=
        ih hending'
    · exact ⟨hended, .inl ⟨hnone, hnothing, List.forall_mem_cons.mpr ⟨hskipped, hrest⟩⟩⟩
    · exact ⟨hended, .inr ⟨_ :: blanks, content', hreply, by rw [hrest]; rfl,
        List.forall_mem_cons.mpr ⟨hskipped, hblanks⟩, hmessage⟩⟩
  | case5 s line s' hread htaken hlong hblank =>
    obtain ⟨content, feed, hcuts, hending', rfl⟩ := cuts_of_readLine hending hread htaken
    rw [Line.ofBytes_overlong, decide_eq_true_eq] at hlong
    rw [trim_ofBytes hlong] at hblank ⊢
    refine ⟨hending', .inr ⟨[], content, ?_, hcuts, by simp, by simp [isMessageLine, hblank]⟩⟩
    rw [messageOf, if_neg hlong]
    cases d.decode (trim content) <;> rfl

end Framing

open Framing

/-- A command is sent to a program that wrote what is unread, and the program writes more, unless
the command does not reach it. The reply is on the first line that is not blank; what comes after
that line is left unread. -/
inductive Reads (limit : Nat) (unread : List UInt8) :
    Except SystemError (List Piece) → Except EnvironmentError GuestReply → List UInt8 → Prop
  | unsent (e : SystemError) : Reads limit unread (.error e) (.error (.frame (.io e))) unread
  | silence {pieces : List Piece}
      (hblank : ∀ cut ∈ cuts (unread ++ pieces.flatMap Piece.content),
        ¬ isMessageLine limit cut.1) :
      Reads limit unread (.ok pieces) (.error .closed) []
  | line {pieces : List Piece} {blanks : List (List UInt8 × List UInt8)} {content rest : List UInt8}
      (hcuts : cuts (unread ++ pieces.flatMap Piece.content) =
        blanks ++ (content, rest) :: cuts rest)
      (hblank : ∀ cut ∈ blanks, ¬ isMessageLine limit cut.1) (hline : isMessageLine limit content) :
      Reads limit unread (.ok pieces)
        ((messageOf GuestReply.decoder limit content).mapError .frame) rest

namespace Hosted

variable {η : Type} [Hosts η]

def heardBy (h : Hosted (Overheard η)) (id : EnvironmentId) : List Utterance :=
  h.hosts.heard.filter (·.id = id)

/-- The channel is open, and so many bytes in it are unread. -/
def Unread (h : Hosted η) (id : EnvironmentId) (unread : List UInt8) : Prop :=
  ∃ s, h.channels id = some s ∧ s.ending = none ∧ s.bytes = unread

def loaded (location : String) : Except EnvironmentError GuestReply → Except EnvironmentError Unit
  | .ok (.ok ..) => .ok ()
  | .ok (.error message _) => .error (.resolution location message)
  | .error e => .error e

theorem load_missing {h : Hosted η} {location : String} {e : SystemError}
    (hfind : (Hosts.files h.hosts).find location = .error e) (env : Environment) :
    h.load env location = (.error (.resolution location e.text), h) := by
  simp only [load, hfind]

theorem load_found {h : Hosted η} {location : String} {node : FileNode}
    (hfind : (Hosts.files h.hosts).find location = .ok node) (env : Environment) :
    h.load env location =
      (loaded location (h.request env.id (.addLocation location)).1,
        (h.request env.id (.addLocation location)).2) := by
  simp only [load, hfind]
  rcases h.request env.id (.addLocation location) with ⟨e | ⟨_⟩ | ⟨_⟩, h'⟩ <;> rfl

theorem invoke_state (h : Hosted η) (env : Environment) (entryPoint payload : String) :
    (h.invoke env entryPoint payload).2 = (h.request env.id (.invoke entryPoint payload)).2 := by
  unfold invoke
  rcases h.request env.id (.invoke entryPoint payload) with ⟨e | ⟨_⟩ | ⟨_⟩, h'⟩ <;> rfl

theorem release_again {h : Hosted η} {id : EnvironmentId} (hs : h.channels id = none) :
    h.release id = h := by
  simp only [release, hs]

def unheard (h : Hosted (Overheard η)) : Hosted η := { h with hosts := h.hosts.hosts }

theorem start_unheard (id : EnvironmentId) (role : Role) (h : Hosted (Overheard η)) :
    h.unheard.start id role = ((h.start id role).1, (h.start id role).2.unheard) := by
  cases hcommand : h.command with
  | nil => simp only [start, unheard, hcommand]
  | cons program arguments =>
    simp only [start, unheard, hcommand, Hosts.start]
    rcases Hosts.start id ⟨program, arguments, _⟩ h.hosts.hosts with ⟨e | pieces, hosts⟩ <;> rfl

theorem request_unheard (id : EnvironmentId) (command : GuestCommand) (h : Hosted (Overheard η)) :
    h.unheard.request id command =
      ((h.request id command).1, (h.request id command).2.unheard) := by
  cases hs : h.channels id with
  | none => simp only [request, unheard, hs]
  | some s =>
    simp only [request, unheard, hs, Hosts.send]
    rcases Hosts.send id command.toJson.text h.hosts.hosts with ⟨e | pieces, hosts⟩ <;> rfl

theorem load_unheard (env : Environment) (location : String) (h : Hosted (Overheard η)) :
    h.unheard.load env location = ((h.load env location).1, (h.load env location).2.unheard) := by
  have hfiles : Hosts.files h.unheard.hosts = Hosts.files h.hosts := rfl
  cases hfind : (Hosts.files h.hosts).find location with
  | error e => rw [load_missing hfind, load_missing (hfiles ▸ hfind)]
  | ok node => rw [load_found hfind, load_found (hfiles ▸ hfind), request_unheard]

theorem invoke_unheard (env : Environment) (entryPoint payload : String)
    (h : Hosted (Overheard η)) :
    h.unheard.invoke env entryPoint payload =
      ((h.invoke env entryPoint payload).1, (h.invoke env entryPoint payload).2.unheard) := by
  simp only [invoke, request_unheard]
  rcases h.request env.id (.invoke entryPoint payload) with ⟨e | ⟨_⟩ | ⟨_⟩, h'⟩ <;> rfl

theorem release_unheard (id : EnvironmentId) (h : Hosted (Overheard η)) :
    h.unheard.release id = (h.release id).unheard := by
  cases hs : h.channels id with
  | none => rw [release_again hs, release_again (h := h.unheard) hs]
  | some s =>
    simp only [release, unheard, hs]
    rfl

/-- Whatever happened to other environments, to the files and to the programs, nobody spoke to the
program of this environment or read what it wrote. -/
structure Apart (id : EnvironmentId) (h h' : Hosted (Overheard η)) : Prop where
  channel : h'.channels id = h.channels id
  limit : h'.limit = h.limit
  heard : h'.heardBy id = h.heardBy id

namespace Apart

omit [Hosts η] in
theorem refl (id : EnvironmentId) (h : Hosted (Overheard η)) : h.Apart id h := ⟨rfl, rfl, rfl⟩

variable {id other : EnvironmentId} (hne : other ≠ id) (h : Hosted (Overheard η))
include hne

theorem heardBy_send (line : String) :
    (Hosts.send other line h.hosts).2.heard.filter (·.id = id) = h.heardBy id :=
  List.filter_cons_of_neg (by simpa using hne)

theorem start (role : Role) : h.Apart id (h.start other role).2 := by
  cases hcommand : h.command with
  | nil =>
    simp only [Hosted.start, hcommand]
    exact refl id h
  | cons program arguments =>
    simp only [Hosted.start, hcommand, Hosts.start]
    rcases Hosts.start other ⟨program, arguments, _⟩ h.hosts.hosts with ⟨e | pieces, hosts⟩
    · exact ⟨rfl, rfl, rfl⟩
    · exact ⟨if_neg hne.symm, rfl, rfl⟩

theorem request (command : GuestCommand) : h.Apart id (h.request other command).2 := by
  cases hs : h.channels other with
  | none =>
    simp only [Hosted.request, hs]
    exact refl id h
  | some s =>
    have hheard := heardBy_send hne h command.toJson.text
    rcases hsend : Hosts.send other command.toJson.text h.hosts with ⟨e | pieces, hosts⟩
    · rw [hsend] at hheard
      simp only [Hosted.request, hs, hsend]
      exact ⟨rfl, rfl, hheard⟩
    · rw [hsend] at hheard
      simp only [Hosted.request, hs, hsend]
      exact ⟨if_neg hne.symm, rfl, hheard⟩

theorem release : h.Apart id (h.release other) := by
  cases hs : h.channels other with
  | none =>
    rw [release_again hs]
    exact refl id h
  | some s =>
    simp only [Hosted.release, hs]
    exact ⟨if_neg hne.symm, rfl, heardBy_send hne h _⟩

omit hne

theorem load {env : Environment} (hne : env.id ≠ id) (location : String) :
    h.Apart id (h.load env location).2 := by
  cases hfind : (Hosts.files h.hosts).find location with
  | error e =>
    rw [load_missing hfind]
    exact refl id h
  | ok node =>
    rw [load_found hfind]
    exact request hne h _

theorem invoke {env : Environment} (hne : env.id ≠ id) (entryPoint payload : String) :
    h.Apart id (h.invoke env entryPoint payload).2 := by
  rw [invoke_state]
  exact request hne h _

end Apart

theorem heardBy_send {h : Hosted (Overheard η)} {id : EnvironmentId} {line : String}
    {answer : Except SystemError (List Piece)} {hosts : Overheard η}
    (hsend : Hosts.send id line h.hosts = (answer, hosts)) :
    hosts.heard.filter (·.id = id) = ⟨id, line, answer⟩ :: h.heardBy id := by
  obtain ⟨rfl, rfl⟩ := Prod.mk.inj hsend
  exact List.filter_cons_of_pos (by simp)

def replyOf : Except FrameError (Option GuestReply) → Except EnvironmentError GuestReply
  | .ok (some reply) => .ok reply
  | .ok none => .error .closed
  | .error e => .error (.frame e)

theorem request_of_send {h : Hosted η} {id : EnvironmentId} {command : GuestCommand}
    {s left : Source} {pieces : List Piece} {hosts : η}
    {reply : Except FrameError (Option GuestReply)} (hs : h.channels id = some s)
    (hsend : Hosts.send id command.toJson.text h.hosts = (.ok pieces, hosts))
    (hread : readMessage GuestReply.decoder h.limit { s with pieces := s.pieces ++ pieces } =
      (reply, left)) :
    h.request id command = (replyOf reply, setChannel id (some left) { h with hosts }) := by
  simp only [request, hs, hsend, hread]
  rcases reply with e | _ | reply <;> rfl

theorem request_reads {h : Hosted (Overheard η)} {id : EnvironmentId} {unread : List UInt8}
    (hu : h.Unread id unread) (command : GuestCommand) :
    ∃ answer left, (h.request id command).2.Unread id left ∧
      (h.request id command).2.limit = h.limit ∧
      (h.request id command).2.heardBy id = ⟨id, command.toJson.text, answer⟩ :: h.heardBy id ∧
      Reads h.limit unread answer (h.request id command).1 left := by
  obtain ⟨s, hs, hending, rfl⟩ := hu
  rcases hsend : Hosts.send id command.toJson.text h.hosts with ⟨e | pieces, hosts⟩
  · have hrequest : h.request id command = (.error (.frame (.io e)), { h with hosts }) := by
      simp only [request, hs, hsend]
    rw [hrequest]
    exact ⟨_, _, ⟨s, hs, hending, rfl⟩, rfl, heardBy_send hsend, .unsent e⟩
  · have hread :=
      readMessage_cuts GuestReply.decoder h.limit { s with pieces := s.pieces ++ pieces } hending
    have hbytes : Source.bytes { s with pieces := s.pieces ++ pieces } =
        s.bytes ++ pieces.flatMap Piece.content :=
      List.flatMap_append
    rcases hreply : readMessage GuestReply.decoder h.limit { s with pieces := s.pieces ++ pieces }
      with ⟨reply, left⟩
    rw [hreply, hbytes] at hread
    rw [request_of_send hs hsend hreply]
    obtain ⟨hended, hread⟩ := hread
    refine ⟨.ok pieces, left.bytes, ⟨left, if_pos rfl, hended, rfl⟩, rfl, heardBy_send hsend, ?_⟩
    rcases hread with ⟨rfl, hnothing, hblank⟩ | ⟨blanks, content, rfl, hcuts, hblank, hline⟩
    · rw [show left.bytes = [] from hnothing]
      exact .silence hblank
    · have hresult := Reads.line hcuts hblank hline
      cases hm : messageOf GuestReply.decoder h.limit content <;> rw [hm] at hresult <;>
        exact hresult

theorem start_reads {h h' : Hosted (Overheard η)} {id : EnvironmentId} {role : Role}
    (hstart : h.start id role = (.started, h')) :
    ∃ unread, h'.Unread id unread ∧ h'.limit = h.limit ∧ h'.heardBy id = h.heardBy id := by
  cases hcommand : h.command with
  | nil =>
    simp only [start, hcommand] at hstart
    cases hstart
  | cons program arguments =>
    simp only [start, hcommand] at hstart
    split at hstart
    · cases hstart
    · rename_i pieces hosts hsend
      obtain ⟨-, rfl⟩ := Prod.mk.inj hstart
      obtain ⟨-, rfl⟩ := Prod.mk.inj hsend
      exact ⟨_, ⟨_, if_pos rfl, rfl, rfl⟩, rfl, rfl⟩

theorem release_says {h : Hosted (Overheard η)} {id : EnvironmentId} {unread : List UInt8}
    (hu : h.Unread id unread) :
    (h.release id).channels id = none ∧
      ∃ answer, (h.release id).heardBy id = ⟨id, GuestCommand.shutdown.toJson.text, answer⟩ ::
        h.heardBy id := by
  obtain ⟨s, hs, -, -⟩ := hu
  rcases hsend : Hosts.send id GuestCommand.shutdown.toJson.text h.hosts with ⟨answer, hosts⟩
  have hrelease :
      h.release id = setChannel id none { h with hosts := Hosts.stop id h.grace hosts } := by
    simp only [release, hs, hsend]
  have hheard := heardBy_send hsend
  rw [hrelease]
  exact ⟨if_pos rfl, answer, hheard⟩

end Hosted

end CompileWorker
