import CompileWorker.Environment.Mock
import CompileWorker.Proofs.Conversation

namespace CompileWorker

open Framing

namespace Framing

theorem linesOf_unlines_append (ended : Bool) (before : List (List UInt8)) (rest : List UInt8) :
    linesOf ended (unlines before ++ rest) = linesOf true (unlines before) ++
      linesOf ended rest := by
  induction before with
  | nil => rfl
  | cons line before ih =>
    have hcons : unlines (line :: before) = line ++ 0x0A :: unlines before := by simp [unlines]
    rw [hcons, List.append_assoc, List.cons_append, linesOf_append_feed, linesOf_append_feed, ih,
      List.append_assoc]

namespace Source

variable {first s s' : Source} {before rest : List (List UInt8)} {line after : List UInt8}

theorem bytes_ofBytes (content : List UInt8) : (ofBytes content).bytes = content := by
  simp [ofBytes, bytes, Piece.content]

theorem lines_ofBytes (content : List UInt8) : (ofBytes content).lines = linesOf true content := by
  rw [lines, bytes_ofBytes]
  rfl

/-- A line put between the lines of a stream is one line more, and the others are the same. -/
theorem lines_insert (hline : 0x0A ∉ line) (hbytes : s.bytes = unlines before ++ after)
    (hbytes' : s'.bytes = unlines before ++ (line ++ 0x0A :: after))
    (hending : s'.ending = s.ending) :
    ∃ rest, s.lines = (ofBytes (unlines before)).lines ++ rest ∧
      s'.lines = (ofBytes (unlines before)).lines ++ line :: rest := by
  refine ⟨linesOf s.ending.isNone after, ?_, ?_⟩
  · rw [lines, hbytes, linesOf_unlines_append, lines_ofBytes]
  · rw [lines, hbytes', linesOf_unlines_append, linesOf_cons hline, hending, lines_ofBytes]

variable {α : Type} {d : Json.Decoder α} {limit : Nat}

theorem messages_of_skipped (hlines : s.lines = first.lines ++ rest)
    (hlines' : s'.lines = first.lines ++ line :: rest) (hskipped : ¬ isMessageLine limit line) :
    s'.messages d limit = s.messages d limit := by
  rw [messages, messages, hlines, hlines', List.filter_append, List.filter_append,
    List.filter_cons_of_neg hskipped]

theorem messages_of_inserted (hlines : s.lines = first.lines ++ rest)
    (hlines' : s'.lines = first.lines ++ line :: rest) (hmessage : isMessageLine limit line) :
    ∃ later, s.messages d limit = first.messages d limit ++ later ∧
      s'.messages d limit = first.messages d limit ++ messageOf d limit line :: later := by
  refine ⟨(rest.filter (isMessageLine limit)).map (messageOf d limit), ?_, ?_⟩
  · rw [messages, hlines, List.filter_append, List.map_append]
    rfl
  · rw [messages, hlines', List.filter_append, List.filter_cons_of_pos hmessage, List.map_append,
      List.map_cons]
    rfl

end Source

end Framing

def WorkRequest.refusal? (request : WorkRequest) : Option WorkResponse :=
  let t : Transcript := { isVerbose := request.isVerbose }
  match request.payload? with
  | none => some (request.conclude t (.error (.work (.invalidRequest "request has no arguments"))))
  | some payload =>
    match CompileRequest.ofString payload with
    | .error e => some (request.conclude (t.remember "request" payload) (.error (.work e)))
    | .ok _ => none

theorem WorkRequest.refusal_of_not_accepted {request : WorkRequest} (h : request.accepted? = none) :
    ∃ response, request.refusal? = some response ∧ response.exitCode = 1 := by
  unfold accepted? at h
  unfold refusal?
  cases hpayload : request.payload? with
  | none => exact ⟨_, rfl, rfl⟩
  | some payload =>
    cases hr : CompileRequest.ofString payload with
    | error e =>
      simp only [hr]
      exact ⟨_, rfl, rfl⟩
    | ok r => simp [hpayload, hr, Except.toOption] at h

namespace Service

def refusal? (limit : Nat) (line : List UInt8) : Option WorkResponse :=
  match messageOf WorkRequest.decoder limit line with
  | .ok request => request.refusal?
  | .error e => some (rejection e)

/-- A line that is too long, or does not decode, or decodes to a request that is not accepted. -/
def IsRefused (limit : Nat) (line : List UInt8) : Prop :=
  limit < line.length ∨
    trim line ≠ [] ∧ ∀ request, WorkRequest.decoder.decode (trim line) = .ok request →
    request.accepted? = none

theorem IsRefused.isMessageLine {limit : Nat} {line : List UInt8} (h : IsRefused limit line) :
    isMessageLine limit line := by
  rcases h with hlong | ⟨hblank, -⟩
  · simp [Framing.isMessageLine, hlong]
  · simp [Framing.isMessageLine, hblank]

theorem IsRefused.refusal {limit : Nat} {line : List UInt8} (h : IsRefused limit line) :
    ∃ response, refusal? limit line = some response ∧ response.exitCode = 1 := by
  unfold refusal?
  cases hmessage : messageOf WorkRequest.decoder limit line with
  | error e => exact ⟨_, rfl, rfl⟩
  | ok request =>
    unfold messageOf at hmessage
    split at hmessage
    · cases hmessage
    · rename_i hlong
      obtain ⟨-, hrefused⟩ := h.resolve_left hlong
      cases hdecode : WorkRequest.decoder.decode (trim line) with
      | error f => simp [hdecode, Except.mapError] at hmessage
      | ok request' =>
        rw [hdecode] at hmessage
        cases hmessage
        exact WorkRequest.refusal_of_not_accepted (hrefused request hdecode)

end Service

variable {σ : Type} [Guests σ]

namespace Dispatcher

theorem handle_of_refusal (d : Dispatcher σ) {request : WorkRequest} {response : WorkResponse}
    (h : request.refusal? = some response) : d.handle request = (some response, d) := by
  unfold WorkRequest.refusal? at h
  unfold handle Policy.process
  cases hpayload : request.payload? with
  | none =>
    simp only [hpayload] at h
    cases h
    rfl
  | some payload =>
    cases hr : CompileRequest.ofString payload with
    | error e =>
      simp only [hpayload, hr] at h
      cases h
      simp only [hr]
      rfl
    | ok r => simp [hpayload, hr] at h

theorem answer_of_refusal (d : Dispatcher σ) {limit : Nat} {line : List UInt8}
    {response : WorkResponse} (h : Service.refusal? limit line = some response) :
    d.answer (messageOf WorkRequest.decoder limit line) = (some response, d) := by
  unfold Service.refusal? at h
  cases hmessage : messageOf WorkRequest.decoder limit line with
  | ok request =>
    rw [hmessage] at h
    exact d.handle_of_refusal h
  | error e =>
    rw [hmessage] at h
    cases h
    rfl

variable {before : List (Except FrameError WorkRequest)}

theorem answers_of_unanswered (d : Dispatcher σ) (h : (d.answers before).1.length ≠ before.length)
    (after : List (Except FrameError WorkRequest)) :
    d.answers (before ++ after) = d.answers before := by
  rw [answers_append, if_neg h]

/-- An answer that leaves the dispatcher as it is changes none of the others. -/
theorem answers_insert {m : Except FrameError WorkRequest} {response : WorkResponse}
    (hanswer : ∀ d : Dispatcher σ, d.answer m = (some response, d)) (d : Dispatcher σ)
    (h : (d.answers before).1.length = before.length)
    (after : List (Except FrameError WorkRequest)) :
    (d.answers (before ++ m :: after)).2 = (d.answers (before ++ after)).2 ∧
      ∃ later, (d.answers (before ++ after)).1 = (d.answers before).1 ++ later ∧
        (d.answers (before ++ m :: after)).1 = (d.answers before).1 ++ response :: later := by
  refine ⟨?_, ((d.answers before).2.answers after).1, ?_, ?_⟩
  · rw [answers_append, answers_append, if_pos h, if_pos h, answers_of_some (hanswer _)]
  · rw [answers_append, if_pos h]
  · rw [answers_append, if_pos h, answers_of_some (hanswer _)]

end Dispatcher

namespace Service

theorem run_unhindered (d : Dispatcher σ) (source : Source) :
    let s : Service σ := { dispatcher := d, source }
    let messages := messagesFor d source
    let responses := (d.answers messages).1
    s.run.1 = (if responses.length = messages.length then
        some (match source.ending with
          | some e => .error e
          | none => .ok ⟨responses.length, responses.countP (·.exitCode ≠ 0)⟩)
      else none) ∧
      s.run.2.sink.lines = responses.map (·.toJson.text) ∧
      s.run.2.dispatcher =
        if responses.length = messages.length then (d.answers messages).2.shutdown.2
        else (d.answers messages).2 := by
  intro s messages responses
  obtain ⟨hresult, hlines⟩ := run_outcome d source none
  obtain ⟨last, hserve⟩ : ∃ last, s.serve = (ended (s.converse messages).1 source.ending,
    { (s.converse messages).2 with source := last }) := s.serve_tells
  rw [s.converse_of_room messages nofun] at hserve
  have hle : (d.answers messages).1.length ≤ messages.length := d.answers_length_le messages
  refine ⟨hresult.trans ?_, hlines, ?_⟩
  · by_cases hall : (d.answers messages).1.length = messages.length
    · have hend : (messagesFor d source)[(d.answers (messagesFor d source)).1.length]? = none :=
        List.getElem?_eq_none (Nat.le_of_eq hall.symm)
      rw [if_pos hall, hend]
      cases source.ending <;> rfl
    · have hnext : (messagesFor d source)[(d.answers (messagesFor d source)).1.length]? = some _ :=
        List.getElem?_eq_getElem (Nat.lt_of_le_of_ne hle hall)
      rw [if_neg hall, hnext]
      rfl
  · split
    · rename_i hall
      rw [if_pos hall] at hserve
      have hsome : ∃ result, s.serve.1 = some result := by
        rw [hserve]
        cases source.ending with
        | none => exact ⟨_, rfl⟩
        | some e => exact ⟨_, rfl⟩
      obtain ⟨result, hresult⟩ := hsome
      rw [run_of_serve_some hresult, hserve]
    · rename_i hunanswered
      rw [if_neg hunanswered] at hserve
      rw [run_of_serve_none (congrArg Prod.fst hserve), hserve]

/-- A line put between the lines of a stream. A blank one that is not too long changes nothing. One
that is refused has a failure of its own at its place, which depends on the line alone; every other
line written, what the run comes to and all that is done to environments stay as they are. It is not
come to if the run gets stuck before. -/
theorem run_insert_line (d : Dispatcher σ) {source source' : Source} {before : List (List UInt8)}
    {line after : List UInt8} (hline : 0x0A ∉ line)
    (hbytes : source.bytes = unlines before ++ after)
    (hbytes' : source'.bytes = unlines before ++ (line ++ 0x0A :: after))
    (hending : source'.ending = source.ending) :
    let s : Service σ := { dispatcher := d, source }
    let s' : Service σ := { dispatcher := d, source := source' }
    let earlier := ({ dispatcher := d, source := .ofBytes (unlines before) } : Service σ).run
    (line.length ≤ s.limit → trim line = [] → s'.run.1 = s.run.1 ∧
      s'.run.2.sink.lines = s.run.2.sink.lines ∧
      s'.run.2.dispatcher = s.run.2.dispatcher) ∧
    (IsRefused s.limit line → ∃ response, refusal? s.limit line = some response ∧
      response.exitCode = 1 ∧
      WorkResponse.Answers s.limit line response ∧ s'.run.2.dispatcher = s.run.2.dispatcher ∧
      (earlier.1 = none → s.run.1 = none ∧ s'.run.1 = none ∧
        s'.run.2.sink.lines = s.run.2.sink.lines) ∧
      (earlier.1 ≠ none →
        s'.run.1 = s.run.1.map (·.map fun summary ↦ ⟨summary.requests + 1, summary.failures + 1⟩) ∧
        ∃ later, s.run.2.sink.lines = earlier.2.sink.lines ++ later ∧
          s'.run.2.sink.lines = earlier.2.sink.lines ++ response.toJson.text :: later)) := by
  intro s s' earlier
  obtain ⟨rest, hlines, hlines'⟩ := Source.lines_insert hline hbytes hbytes' hending
  obtain ⟨hresult, hwritten, hleft⟩ := run_unhindered d source
  obtain ⟨hresult', hwritten', hleft'⟩ := run_unhindered d source'
  obtain ⟨hstuck, hearlier, -⟩ := run_unhindered d (.ofBytes (unlines before))
  rw [hending] at hresult'
  refine ⟨fun hshort hblank ↦ ?_, fun hrefused ↦ ?_⟩
  · have hskipped : ¬ isMessageLine s.limit line := by simp [isMessageLine, hshort, hblank]
    have hmessages : messagesFor d source' = messagesFor d source :=
      Source.messages_of_skipped hlines hlines' hskipped
    rw [hmessages] at hresult' hwritten' hleft'
    exact ⟨hresult'.trans hresult.symm, hwritten'.trans hwritten.symm, hleft'.trans hleft.symm⟩
  · obtain ⟨response, hresponse, hcode⟩ := hrefused.refusal
    let front := messagesFor d (.ofBytes (unlines before))
    obtain ⟨back, hmessages, hmessages'⟩ : ∃ back, messagesFor d source = front ++ back ∧
        messagesFor d source' = front ++ messageOf WorkRequest.decoder s.limit line :: back :=
      Source.messages_of_inserted hlines hlines' hrefused.isMessageLine
    have hanswer : ∀ d' : Dispatcher σ, d'.answer (messageOf WorkRequest.decoder s.limit line) =
        (some response, d') :=
      fun d' ↦ d'.answer_of_refusal hresponse
    have hanswers := d.answer_line s.limit line
    rw [hanswer] at hanswers
    refine ⟨response, hresponse, hcode, hanswers response rfl, ?_⟩
    rw [hmessages] at hresult hwritten hleft
    rw [hmessages'] at hresult' hwritten' hleft'
    by_cases hall : (d.answers front).1.length = front.length
    · obtain ⟨hsame, later, hresponses, hresponses'⟩ :=
        Dispatcher.answers_insert hanswer d hall back
      have hboth : (d.answers
        (front ++ messageOf WorkRequest.decoder s.limit line :: back)).1.length =
            (front ++ messageOf WorkRequest.decoder s.limit line :: back).length ↔
          (d.answers (front ++ back)).1.length = (front ++ back).length := by
        rw [hresponses, hresponses']
        simp only [List.length_append, List.length_cons]
        omega
      simp only [hboth, hsame] at hresult' hleft'
      refine ⟨hleft'.trans hleft.symm, fun hnone ↦ ?_,
        fun _ ↦ ⟨?_, later.map (·.toJson.text), ?_, ?_⟩⟩
      · rw [hstuck, if_pos hall] at hnone
        cases hnone
      · rw [hresult, hresult', hresponses, hresponses']
        split
        · cases source.ending with
          | some e => rfl
          | none => simp [Except.map, hcode, Nat.add_assoc]
        · rfl
      · rw [hwritten, hresponses, List.map_append, ← hearlier]
      · rw [hwritten', hresponses', List.map_append, List.map_cons, ← hearlier]
    · have hstops : ∀ after, (d.answers (front ++ after)) = d.answers front :=
        fun after ↦ d.answers_of_unanswered hall after
      have hshort : ∀ after, (d.answers front).1.length ≠ (front ++ after).length := by
        intro after
        have hle := d.answers_length_le front
        rw [List.length_append]
        omega
      simp only [hstops, if_neg (hshort _)] at hresult hresult' hwritten hwritten' hleft hleft'
      exact ⟨hleft'.trans hleft.symm, fun _ ↦ ⟨hresult, hresult', hwritten'.trans hwritten.symm⟩,
        fun hsome ↦ absurd (hstuck.trans (if_neg hall)) hsome⟩

def reading (bytes : List UInt8) : Service Mock :=
  { dispatcher := .start { settings := {} } {}, source := .ofBytes bytes }

def jarRequest : List UInt8 := Utf8.encode "[[\"[[],\\\"classes\\\",[],\\\"out.jar\\\"]\"],[],7]"

theorem argumentless_between_requests :
    ∃ (response : WorkResponse) (later : List String), response.exitCode = 1 ∧
      (reading (unlines [jarRequest] ++ unlines [jarRequest])).run.2.sink.lines =
        (reading (unlines [jarRequest])).run.2.sink.lines ++ later ∧
      (reading (unlines [jarRequest] ++
        ([0x7B, 0x7D] ++ 0x0A :: unlines [jarRequest]))).run.2.sink.lines =
        (reading (unlines [jarRequest])).run.2.sink.lines ++ response.toJson.text :: later := by
  have hdecode : (WorkRequest.decoder.decode (trim [0x7B, 0x7D])).toOption = some {} := by
    decide +kernel
  have hrefused : IsRefused (reading []).limit [0x7B, 0x7D] := by
    refine .inr ⟨by decide, fun request h ↦ ?_⟩
    rw [h] at hdecode
    cases hdecode
    rfl
  obtain ⟨-, hinsert⟩ := run_insert_line (reading []).dispatcher (by decide)
    (Source.bytes_ofBytes (unlines [jarRequest] ++ unlines [jarRequest]))
    (Source.bytes_ofBytes (unlines [jarRequest] ++ ([0x7B, 0x7D] ++ 0x0A :: unlines [jarRequest])))
      rfl
  have hreturns : (reading (unlines [jarRequest])).run.1 ≠ none := by
    obtain ⟨hresult, -⟩ := run_unhindered (reading []).dispatcher (.ofBytes (unlines [jarRequest]))
    rw [if_pos (Dispatcher.answers_length _ (by decide) _)] at hresult
    intro hnone
    exact Option.some_ne_none _ (hresult.symm.trans hnone)
  obtain ⟨response, -, hcode, -, -, -, hwithin⟩ := hinsert hrefused
  obtain ⟨-, later, hlines, hlines'⟩ := hwithin hreturns
  exact ⟨response, later, hcode, hlines, hlines'⟩

end Service

end CompileWorker
