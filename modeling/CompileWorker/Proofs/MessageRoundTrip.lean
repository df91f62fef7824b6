import CompileWorker.Message.Guest
import CompileWorker.Message.Request
import CompileWorker.Message.Response
import CompileWorker.Proofs.DecoderRoundTrip
import CompileWorker.Proofs.LineSplitting

namespace CompileWorker

open Json

namespace Input

theorem takes_toJson (i : Input) : Takes Input.decoder.ofText i.toJson i :=
  Record.takes (.field rfl (takes_string i.path).field
    (.field rfl (takes_string i.digest).field (.done rfl)))

theorem depth_toJson (i : Input) : i.toJson.depth = 1 := rfl

end Input

namespace WorkRequest

theorem takes_toJson (r : WorkRequest) : Takes WorkRequest.decoder.ofText r.toJson r := by
  have harguments :
      Takes (Decoder.list .string).ofText (.array (r.arguments.map .string)) r.arguments :=
    takes_list (fun s _ ↦ takes_string s) fun s _ ↦ opens_text (j := .string s) rfl
  have hinputs :
      Takes (Decoder.list Input.decoder).ofText (.array (r.inputs.map Input.toJson)) r.inputs :=
    takes_list (fun i _ ↦ i.takes_toJson) fun i _ ↦ ⟨_, _, encode_object _, by decide, by decide⟩
  have hsandbox : ∀ dir, Takes Decoder.string.optional.ofText (.string dir) (some dir) := fun dir ↦
    takes_optional (takes_string dir) (encode_string dir) (by decide) (by decide)
  obtain ⟨arguments, inputs, requestId, verbosity, sandboxDir⟩ := r
  refine Record.takes (.field rfl harguments.field (.field rfl hinputs.field
    (.field rfl (takes_int32 requestId).field ?_)))
  by_cases hquiet : verbosity = 0
  · subst hquiet
    cases sandboxDir with
    | none => exact .done rfl
    | some dir => exact .field rfl (hsandbox dir).field (.done rfl)
  · rw [if_neg hquiet]
    cases sandboxDir with
    | none => exact .field rfl (takes_int32 verbosity).field (.done rfl)
    | some dir =>
      exact .field rfl (takes_int32 verbosity).field (.field rfl (hsandbox dir).field (.done rfl))

theorem depth_toJson_le (r : WorkRequest) : r.toJson.depth ≤ 3 := by
  rw [toJson, depth_object_le_iff]
  intro m hm
  simp only [List.mem_append, List.mem_cons, List.not_mem_nil, or_false, List.mem_map] at hm
  rcases hm with ((rfl | rfl | rfl) | hm) | ⟨dir, -, rfl⟩
  · rw [depth_array_le_iff, List.forall_mem_map]
    exact fun s _ ↦ Nat.zero_le _
  · rw [depth_array_le_iff, List.forall_mem_map]
    exact fun i _ ↦ i.depth_toJson.le
  · exact Nat.zero_le _
  · split at hm
    · cases hm
    · rw [List.mem_singleton.mp hm]
      exact Nat.zero_le _
  · exact Nat.zero_le _

end WorkRequest

namespace WorkResponse

theorem takes_toJson (r : WorkResponse) : Takes WorkResponse.decoder.ofText r.toJson r := by
  obtain ⟨exitCode, output, requestId, wasCancelled⟩ := r
  refine Record.takes
    (.field rfl (takes_int32 exitCode).field (.field rfl (takes_string output).field
    (.field rfl (takes_int32 requestId).field ?_)))
  cases wasCancelled with
  | false => exact .done rfl
  | true => exact .field rfl (takes_bool true).field (.done rfl)

theorem depth_toJson_le (r : WorkResponse) : r.toJson.depth ≤ 1 := by
  obtain ⟨exitCode, output, requestId, wasCancelled⟩ := r
  cases wasCancelled <;> exact Nat.le_refl 1

end WorkResponse

namespace GuestCommand

theorem takes_toJson (c : GuestCommand) : Takes GuestCommand.decoder.ofText c.toJson c := by
  cases c with
  | addLocation path => exact Tagged.takes rfl (by simp [tagged, isExact]) rfl
  | invoke entryPoint payload => exact Tagged.takes rfl (by simp [tagged, isExact]) rfl
  | shutdown => exact Tagged.takes rfl (by simp) rfl

theorem depth_toJson (c : GuestCommand) : c.toJson.depth = 1 := by
  cases c <;> rfl

end GuestCommand

namespace GuestReply

/-- The value of the reply is told exactly by its text and is not nested too deep to be read inside
the reply. -/
def IsCarried : GuestReply → Prop
  | .ok value _ _ => value.isExact ∧ value.depth < greatestDepth
  | .error _ _ => True

instance : (r : GuestReply) → Decidable r.IsCarried
  | .ok .. => inferInstanceAs (Decidable (_ ∧ _))
  | .error .. => inferInstanceAs (Decidable True)

theorem areExact_strings (ss : List String) : areExact (ss.map .string) := by
  rw [areExact_iff, List.forall_mem_map]
  exact fun s _ ↦ rfl

theorem takes_toJson {r : GuestReply} (h : r.IsCarried) :
    Takes GuestReply.decoder.ofText r.toJson r := by
  cases r with
  | ok value output defined =>
    have hvalue : Decoder.any.ofTree value = .ok value :=
      congrArg Except.ok (canonical_of_isExact value h.1)
    refine Tagged.takes rfl ?_ ?_
    · simp [tagged, isExact, h.1, areExact_strings defined]
    · refine (Record.ofMembers_cons rfl (ofTree_field hvalue) _ _).trans ?_
      refine (Record.ofMembers_cons rfl (ofTree_field rfl) _ _).trans ?_
      exact (Record.ofMembers_cons rfl (ofTree_field (ofTree_strings defined)) _ _).trans rfl
  | error message output => exact Tagged.takes rfl (by simp [tagged, isExact]) rfl

theorem depth_toJson_le {r : GuestReply} (h : r.IsCarried) : r.toJson.depth ≤ greatestDepth := by
  cases r with
  | ok value output defined =>
    rw [toJson, greatestDepth, depth_object_le_iff]
    simp only [List.forall_mem_cons]
    refine ⟨Nat.zero_le _, Nat.le_of_lt_succ h.2, Nat.zero_le _, ?_, List.forall_mem_nil _⟩
    rw [depth_array_le_iff, List.forall_mem_map]
    exact fun s _ ↦ Nat.zero_le _
  | error message output => exact Nat.succ_le_of_lt (by decide : 0 < 127)

end GuestReply

namespace Framing

theorem trim_object (members : List (String × Json)) :
    trim (Utf8.encode (Json.object members).text) = Utf8.encode (Json.object members).text := by
  rw [encode_object, trim, Text.trimBy, List.dropWhile_cons_of_neg (by decide), List.reverse_cons,
    List.reverse_append, List.reverse_singleton, List.singleton_append, List.cons_append,
    List.dropWhile_cons_of_neg (by decide)]
  simp

theorem not_mem_text (j : Json) : 0x0A ∉ Utf8.encode j.text := Utf8.not_mem_encode (oneLine_text j)

def writeMessages : List Json → Sink → Except FrameError Unit × Sink
  | [], s => (.ok (), s)
  | message :: messages, s =>
    match writeMessage message s with
    | (.ok (), s) => writeMessages messages s
    | (.error e, s) => (.error e, s)

theorem writeMessages_of_sound (messages : List Json) {s : Sink} (h : s.fault = none) :
    writeMessages messages s =
      (.ok (), { s with reversed := (messages.map Json.text).reverse ++ s.reversed }) := by
  induction messages generalizing s with
  | nil => rfl
  | cons message messages ih =>
    have hwrite :
        writeMessage message s = (.ok (), { s with reversed := message.text :: s.reversed }) := by
      simp [writeMessage, Sink.faultAt, h]
    rw [writeMessages, hwrite]
    refine (ih (s := { s with reversed := message.text :: s.reversed }) h).trans ?_
    rw [List.map_cons, List.reverse_cons, List.append_assoc, List.singleton_append]

theorem encode_text (s : Sink) : Utf8.encode s.text = unlines (s.lines.map Utf8.encode) := by
  rw [Sink.text, Utf8.encode_join, List.flatMap_map, unlines, List.flatMap_map]
  congr 1
  funext line
  exact Utf8.encode_append line "\n"

section Reading

variable {α : Type} {d : Decoder α} {limit : Nat}

def readTimes (d : Decoder α) (limit : Nat) : Nat → Source → List (Except FrameError (Option α))
  | 0, _ => []
  | n + 1, s =>
    let (result, s') := readMessage d limit s
    result :: readTimes d limit n s'

theorem readTimes_of_messages {messages : List α} {s : Source}
    (hmessages : s.messages d limit = messages.map .ok) (hending : s.ending = none) :
    readTimes d limit (messages.length + 1) s = messages.map (.ok ∘ some) ++ [.ok none] := by
  induction messages generalizing s with
  | nil =>
    have hread := readMessage_messages d limit s
    rw [hmessages, hending] at hread
    exact congrArg (fun result ↦ [result]) hread
  | cons m messages ih =>
    have hread := readMessage_messages d limit s
    rw [hmessages] at hread
    obtain ⟨s', hread, hrest, hending'⟩ := hread
    rw [List.length_cons, readTimes, hread]
    simp only
    rw [ih hrest (hending'.trans hending)]
    rfl

end Reading

/-- What is written of some messages is one line for each, and reading it gives the same messages
and then the end. -/
structure RoundTrips {α : Type} (d : Decoder α) (toJson : α → Json) (messages : List α) : Prop where
  written : (writeMessages (messages.map toJson) {}).1 = .ok ()
  lines : Utf8.encode (writeMessages (messages.map toJson) {}).2.text =
    messages.flatMap fun m ↦ Utf8.encode (toJson m).text ++ [0x0A]
  feeds : ∀ m ∈ messages, 0x0A ∉ Utf8.encode (toJson m).text
  read : ∀ (limit : Nat)
    (s : Source), (∀ m ∈ messages, (Utf8.encode (toJson m).text).length ≤ limit) →
    s.bytes = Utf8.encode (writeMessages (messages.map toJson) {}).2.text → s.ending = none →
    readTimes d limit (messages.length + 1) s = messages.map (.ok ∘ some) ++ [.ok none]

section Sending

variable {α : Type} {d : Decoder α} {toJson : α → Json} {messages : List α}

theorem messages_of_texts (hobject : ∀ a, ∃ members, toJson a = .object members)
    (h : ∀ m ∈ messages, Takes d.ofText (toJson m) m ∧ (toJson m).depth ≤ greatestDepth)
    {limit : Nat} {s : Source} (hlines : s.lines = messages.map fun m ↦ Utf8.encode (toJson m).text)
    (hlimit : ∀ m ∈ messages, (Utf8.encode (toJson m).text).length ≤ limit) :
    s.messages d limit = messages.map .ok := by
  have htrim : ∀ m, trim (Utf8.encode (toJson m).text) = Utf8.encode (toJson m).text := by
    intro m
    obtain ⟨members, hmembers⟩ := hobject m
    rw [hmembers, trim_object]
  have hmessage : ∀ line ∈ s.lines, isMessageLine limit line := by
    rw [hlines, List.forall_mem_map]
    intro m hm
    obtain ⟨members, hmembers⟩ := hobject m
    rw [isMessageLine, htrim, hmembers, encode_object, List.isEmpty_cons, Bool.not_false,
      Bool.or_true]
  rw [Source.messages, List.filter_eq_self.mpr hmessage, hlines, List.map_map]
  refine List.map_congr_left fun m hm ↦ ?_
  rw [Function.comp_apply, messageOf, if_neg (Nat.not_lt.mpr (hlimit m hm)), htrim,
    (h m hm).1.decode (h m hm).2]
  rfl

theorem roundTrips (hobject : ∀ a, ∃ members, toJson a = .object members)
    (h : ∀ m ∈ messages, Takes d.ofText (toJson m) m ∧ (toJson m).depth ≤ greatestDepth) :
    RoundTrips d toJson messages := by
  have hwritten := writeMessages_of_sound (messages.map toJson) (s := {}) rfl
  have hbytes : Utf8.encode (writeMessages (messages.map toJson) {}).2.text =
      unlines (messages.map fun m ↦ Utf8.encode (toJson m).text) := by
    rw [hwritten, encode_text, Sink.lines, List.append_nil, List.reverse_reverse, List.map_map,
      List.map_map]
    rfl
  refine ⟨by rw [hwritten], by rw [hbytes, unlines, List.flatMap_map], fun m _ ↦ not_mem_text _, ?_⟩
  intro limit s hlimit hsource hending
  have hlines : s.lines = messages.map fun m ↦ Utf8.encode (toJson m).text := by
    rw [Source.lines, hsource, hbytes, linesOf_unlines]
    rw [List.forall_mem_map]
    exact fun m _ ↦ not_mem_text _
  exact readTimes_of_messages (messages_of_texts hobject h hlines hlimit) hending

end Sending

end Framing

/-- Whatever is sent over a stream comes out of it as it went in: any requests, any responses, any
commands, and any replies whose values are told exactly by their text. -/
theorem messages_roundTrip :
    (∀ messages : List WorkRequest,
      Framing.RoundTrips WorkRequest.decoder WorkRequest.toJson messages) ∧
    (∀ messages : List WorkResponse,
      Framing.RoundTrips WorkResponse.decoder WorkResponse.toJson messages) ∧
    (∀ messages : List GuestCommand,
      Framing.RoundTrips GuestCommand.decoder GuestCommand.toJson messages) ∧
    ∀ messages : List GuestReply, (∀ m ∈ messages, m.IsCarried) →
      Framing.RoundTrips GuestReply.decoder GuestReply.toJson messages := by
  refine ⟨fun requests ↦ ?_, fun responses ↦ ?_, fun commands ↦ ?_, fun replies hreplies ↦ ?_⟩
  · refine Framing.roundTrips (fun r ↦ ⟨_, rfl⟩) fun r _ ↦ ⟨r.takes_toJson, ?_⟩
    exact r.depth_toJson_le.trans (by decide)
  · refine Framing.roundTrips (fun r ↦ ⟨_, rfl⟩) fun r _ ↦ ⟨r.takes_toJson, ?_⟩
    exact r.depth_toJson_le.trans (by decide)
  · refine Framing.roundTrips (fun c ↦ ?_) fun c _ ↦ ⟨c.takes_toJson, ?_⟩
    · cases c <;> exact ⟨_, rfl⟩
    · exact c.depth_toJson.trans_le (by decide)
  · refine Framing.roundTrips (fun r ↦ ?_) fun r hr ↦ ⟨GuestReply.takes_toJson (hreplies r hr), ?_⟩
    · cases r <;> exact ⟨_, rfl⟩
    · exact GuestReply.depth_toJson_le (hreplies r hr)

theorem nested_reply_roundTrips :
    let replies : List GuestReply :=
      [.ok (.array [.object [("a", .int (-1)), ("b", .array [.null])], .string "\n\"\\\u0001é"])
        "line\n" ["unit"],
       .error "no such \"unit\"" ""]
    (∀ m ∈ replies, m.IsCarried) ∧
    Framing.RoundTrips GuestReply.decoder GuestReply.toJson replies :=
  ⟨by decide, messages_roundTrip.2.2.2 _ (by decide)⟩

end CompileWorker
