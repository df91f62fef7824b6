import CompileWorker.Proofs.JsonLines
import CompileWorker.Proofs.MessageRoundTrip
import CompileWorker.Proofs.RestlessGuests
import CompileWorker.Service
import Mathlib.Data.List.Forall2

namespace CompileWorker

open Framing

variable {σ : Type} [Guests σ]

namespace Dispatcher

def answer (d : Dispatcher σ) : Except FrameError WorkRequest → Option WorkResponse × Dispatcher σ
  | .ok request => d.handle request
  | .error e => (some (Service.rejection e), d)

def answers (d : Dispatcher σ) :
    List (Except FrameError WorkRequest) → List WorkResponse × Dispatcher σ
  | [] => ([], d)
  | m :: messages =>
    match d.answer m with
    | (none, d) => ([], d)
    | (some response, d) =>
      let (responses, d) := d.answers messages
      (response :: responses, d)

variable {d next : Dispatcher σ} {m : Except FrameError WorkRequest} {response : WorkResponse}

theorem answers_of_none (h : d.answer m = (none, next))
    (messages : List (Except FrameError WorkRequest)) : d.answers (m :: messages) = ([], next) := by
  rw [answers, h]

theorem answers_of_some (h : d.answer m = (some response, next))
    (messages : List (Except FrameError WorkRequest)) :
    d.answers (m :: messages) =
      (response :: (next.answers messages).1, (next.answers messages).2) := by
  rw [answers, h]

theorem answers_of_unhandled {request : WorkRequest} (h : (d.handle request).1 = none)
    (messages : List (Except FrameError WorkRequest)) :
    (d.answers (.ok request :: messages)).1 = [] := by
  rcases hhandle : d.handle request with ⟨response, next⟩
  rw [hhandle] at h
  obtain rfl : response = none := h
  rw [answers_of_none (m := .ok request) hhandle]

theorem answers_length_le (d : Dispatcher σ) (messages : List (Except FrameError WorkRequest)) :
    (d.answers messages).1.length ≤ messages.length := by
  induction messages generalizing d with
  | nil => exact Nat.le_refl 0
  | cons m messages ih =>
    rcases hanswer : d.answer m with ⟨_ | response, next⟩
    · rw [answers_of_none hanswer]
      exact Nat.zero_le _
    · rw [answers_of_some hanswer]
      exact Nat.succ_le_succ (ih next)

theorem answers_append (d : Dispatcher σ) (first second : List (Except FrameError WorkRequest)) :
    d.answers (first ++ second) =
      if (d.answers first).1.length = first.length then
        ((d.answers first).1 ++ ((d.answers first).2.answers second).1,
          ((d.answers first).2.answers second).2)
      else d.answers first := by
  induction first generalizing d with
  | nil => rfl
  | cons m first ih =>
    rcases hanswer : d.answer m with ⟨_ | response, next⟩
    · rw [List.cons_append, answers_of_none hanswer, answers_of_none hanswer]
      rfl
    · rw [List.cons_append, answers_of_some hanswer, answers_of_some hanswer, ih next]
      simp only [List.length_cons, Nat.add_right_cancel_iff]
      split <;> rfl

theorem answers_prefix (d : Dispatcher σ) {first second : List (Except FrameError WorkRequest)}
    (h : first <+: second) : (d.answers first).1 <+: (d.answers second).1 := by
  obtain ⟨rest, rfl⟩ := h
  rw [answers_append]
  split
  · exact List.prefix_append _ _
  · exact List.prefix_rfl

theorem overruns_of_unanswered (d : Dispatcher σ) {messages : List (Except FrameError WorkRequest)}
    (h : m ∈ messages[(d.answers messages).1.length]?) :
    ∃ request, m = .ok request ∧
      (d.answers (messages.take (d.answers messages).1.length)).2.Overruns request := by
  induction messages generalizing d with
  | nil => cases h
  | cons first messages ih =>
    rcases hanswer : d.answer first with ⟨_ | response, next⟩
    · rw [answers_of_none hanswer] at h ⊢
      obtain rfl : first = m := Option.some.inj h
      cases first with
      | ok request =>
        refine ⟨request, rfl, (d.handle_eq_none_iff request).mp ?_⟩
        exact congrArg Prod.fst hanswer
      | error e => cases hanswer
    · rw [answers_of_some hanswer] at h ⊢
      rw [List.length_cons, List.take_succ_cons, answers_of_some hanswer]
      exact ih next h

theorem answer_policy (d : Dispatcher σ) (m : Except FrameError WorkRequest) :
    (d.answer m).2.policy = d.policy := by
  cases m with
  | ok request => exact d.handle_policy request
  | error e => rfl

/-- Below the largest limit there is a response to every message. -/
theorem answers_length (d : Dispatcher σ) (hlimit : d.policy.settings.maxRestarts ≠ 0xFFFFFFFF)
    (messages : List (Except FrameError WorkRequest)) :
    (d.answers messages).1.length = messages.length := by
  induction messages generalizing d with
  | nil => rfl
  | cons m messages ih =>
    have hpolicy := d.answer_policy m
    rcases hanswer : d.answer m with ⟨_ | response, next⟩
    · cases m with
      | ok request =>
        exact absurd ((d.handle_eq_none_iff request).mp (congrArg Prod.fst hanswer)).1 hlimit
      | error e => cases hanswer
    · rw [hanswer] at hpolicy
      rw [answers_of_some hanswer]
      exact congrArg (· + 1) (ih next (hpolicy ▸ hlimit))

theorem handle_requestId (d : Dispatcher σ) (request : WorkRequest) :
    ∀ response ∈ (d.handle request).1, response.requestId = request.requestId := by
  obtain ⟨c, result, -, t, hresponse⟩ := d.handle_processes request
  rw [hresponse]
  rcases result with _ | e | signal
  · nofun
  · rintro _ ⟨⟩
    rfl
  · rintro _ ⟨⟩
    rfl

end Dispatcher

/-- A response belongs to a line: it carries the identity of the request on it, or tells that there
is none. -/
def WorkResponse.Answers (limit : Nat) (line : List UInt8) (response : WorkResponse) : Prop :=
  match messageOf WorkRequest.decoder limit line with
  | .ok request => response.requestId = request.requestId
  | .error _ => response.exitCode = 1 ∧ response.requestId = 0

theorem Dispatcher.answer_line (d : Dispatcher σ) (limit : Nat) (line : List UInt8) :
    ∀ response ∈ (d.answer (messageOf WorkRequest.decoder limit line)).1,
      WorkResponse.Answers limit line response := by
  intro response hresponse
  rw [WorkResponse.Answers]
  cases hm : messageOf WorkRequest.decoder limit line with
  | ok request =>
    rw [hm] at hresponse
    exact d.handle_requestId request response hresponse
  | error e =>
    rw [hm] at hresponse
    cases hresponse
    exact ⟨rfl, rfl⟩

theorem Dispatcher.answers_lines (d : Dispatcher σ) (limit : Nat) (lines : List (List UInt8)) :
    let responses := (d.answers (lines.map (messageOf WorkRequest.decoder limit))).1
    List.Forall₂ (WorkResponse.Answers limit) (lines.take responses.length) responses := by
  induction lines generalizing d with
  | nil => exact .nil
  | cons line lines ih =>
    have hanswers := d.answer_line limit line
    rw [List.map_cons]
    rcases hanswer : d.answer (messageOf WorkRequest.decoder limit line) with ⟨_ | response, next⟩
    · rw [answers_of_none hanswer]
      exact .nil
    · rw [hanswer] at hanswers
      rw [answers_of_some hanswer]
      exact .cons (hanswers response rfl) (ih next)

namespace Framing

namespace Sink

def push (s : Sink) (line : String) : Sink := { s with reversed := line :: s.reversed }

end Sink

def SinkFault.kept (f : SinkFault) : Nat := f.afterLines + if f.stage = .flush then 1 else 0

theorem writeMessage_ok {message : Json} {s : Sink}
    (h : ∀ f ∈ s.fault, s.reversed.length < f.afterLines) :
    writeMessage message s = (.ok (), s.push message.text) := by
  have hnone : ∀ stage, s.faultAt stage s.reversed.length = none := by
    intro stage
    unfold Sink.faultAt
    cases hf : s.fault with
    | none => rfl
    | some f => exact if_neg fun hmet ↦ Nat.not_le_of_lt (h f hf) hmet.2
  rw [writeMessage, hnone, hnone]
  rfl

theorem writeMessage_error {message : Json} {s : Sink} {f : SinkFault} (hf : s.fault = some f)
    (h : f.afterLines ≤ s.reversed.length) :
    writeMessage message s =
      (.error (.io f.error), match f.stage with | .write => s | .flush => s.push message.text) := by
  cases hstage : f.stage with
  | write => simp [writeMessage, Sink.faultAt, hf, hstage, h]
  | flush => simp [writeMessage, Sink.faultAt, hf, hstage, h, Sink.push]

end Framing

def ServiceSummary.count (summary : ServiceSummary) (response : WorkResponse) : ServiceSummary :=
  ⟨summary.requests + 1, summary.failures + (!response.isSuccess).toNat⟩

namespace Service

/-- Answers messages one after the other, until there is no response or writing fails. -/
def converse (s : Service σ) :
    List (Except FrameError WorkRequest) → Option (Except SystemError Unit) × Service σ
  | [] => (some (.ok ()), s)
  | m :: messages =>
    match s.dispatcher.answer m with
    | (none, dispatcher) => (none, { s with dispatcher })
    | (some response, dispatcher) =>
      match { s with dispatcher }.respond response with
      | (.error e, s) => (some (.error e.toSystemError), s)
      | (.ok (), s) => s.converse messages

omit [Guests σ] in
theorem respond_eq (s : Service σ) (response : WorkResponse) :
    s.respond response = ((writeMessage response.toJson s.sink).1,
      { s with
        sink := (writeMessage response.toJson s.sink).2
        summary := s.summary.count response }) := rfl

omit [Guests σ] in
theorem respond_source {s next : Service σ} {response : WorkResponse}
    {result : Except FrameError Unit} (h : s.respond response = (result, next)) (source : Source) :
    { s with source }.respond response = (result, { next with source }) := by
  rw [respond_eq] at h ⊢
  obtain ⟨hresult, rfl⟩ := Prod.mk.inj h
  exact Prod.ext hresult rfl

variable {s next : Service σ} {m : Except FrameError WorkRequest} {response : WorkResponse}
  {dispatcher : Dispatcher σ}

theorem converse_none (hanswer : s.dispatcher.answer m = (none, dispatcher))
    (messages : List (Except FrameError WorkRequest)) :
    s.converse (m :: messages) = (none, { s with dispatcher }) := by
  simp only [converse, hanswer]

theorem converse_error {e : FrameError}
    (hanswer : s.dispatcher.answer m = (some response, dispatcher))
    (hrespond : { s with dispatcher }.respond response = (.error e, next))
    (messages : List (Except FrameError WorkRequest)) :
    s.converse (m :: messages) = (some (.error e.toSystemError), next) := by
  simp only [converse, hanswer, hrespond]

theorem converse_ok (hanswer : s.dispatcher.answer m = (some response, dispatcher))
    (hrespond : { s with dispatcher }.respond response = (.ok (), next))
    (messages : List (Except FrameError WorkRequest)) :
    s.converse (m :: messages) = next.converse messages := by
  simp only [converse, hanswer, hrespond]

theorem converse_source (s : Service σ) (source : Source)
    (messages : List (Except FrameError WorkRequest)) :
    { s with source }.converse messages =
      ((s.converse messages).1, { (s.converse messages).2 with source }) := by
  induction messages generalizing s with
  | nil => rfl
  | cons m messages ih =>
    rcases hanswer : s.dispatcher.answer m with ⟨_ | response, dispatcher⟩
    · rw [converse_none hanswer, converse_none (s := { s with source }) hanswer]
    rcases hrespond : { s with dispatcher }.respond response with ⟨e | _, next⟩
    · rw [converse_error hanswer hrespond,
        converse_error (s := { s with source }) hanswer (respond_source hrespond source)]
    · rw [converse_ok hanswer hrespond,
        converse_ok (s := { s with source }) hanswer (respond_source hrespond source)]
      exact ih next

def ended (result : Option (Except SystemError Unit)) (ending : Option SystemError) :
    Option (Except SystemError Unit) :=
  match result, ending with
  | some (.ok ()), some e => some (.error e)
  | result, _ => result

/-- What serving comes to, told from the messages alone; only where the reader stands is left
open. -/
def Tells (s : Service σ) (out : Option (Except SystemError Unit) × Service σ) : Prop :=
  ∃ source, out =
    (ended (s.converse (s.source.messages WorkRequest.decoder s.limit)).1 s.source.ending,
    { (s.converse (s.source.messages WorkRequest.decoder s.limit)).2 with source })

theorem Tells.unanswered {source : Source}
    (hmessages : s.source.messages WorkRequest.decoder s.limit =
      m :: source.messages WorkRequest.decoder s.limit)
    (hanswer : s.dispatcher.answer m = (none, dispatcher)) :
    s.Tells (none, { s with dispatcher, source }) := by
  refine ⟨source, ?_⟩
  rw [hmessages, converse_none hanswer]
  rfl

theorem Tells.stopped {source : Source} {e : FrameError}
    (hmessages : s.source.messages WorkRequest.decoder s.limit =
      m :: source.messages WorkRequest.decoder s.limit)
    (hanswer : s.dispatcher.answer m = (some response, dispatcher))
    (hrespond : { s with dispatcher, source }.respond response = (.error e, next)) :
    s.Tells (some (.error e.toSystemError), next) := by
  have hconverse := converse_error (s := { s with source }) hanswer hrespond
    (source.messages WorkRequest.decoder s.limit)
  rw [converse_source] at hconverse
  obtain ⟨hresult, hnext⟩ := Prod.mk.inj hconverse
  refine ⟨source, ?_⟩
  rw [hmessages, hresult, hnext]
  rfl

theorem Tells.answered {source : Source} {out : Option (Except SystemError Unit) × Service σ}
    (hmessages : s.source.messages WorkRequest.decoder s.limit =
      m :: source.messages WorkRequest.decoder s.limit)
    (hending : source.ending = s.source.ending)
    (hanswer : s.dispatcher.answer m = (some response, dispatcher))
    (hrespond : { s with dispatcher, source }.respond response = (.ok (), next))
    (hnext : next.Tells out) : s.Tells out := by
  have hconverse :=
    converse_ok (s := { s with source }) hanswer hrespond
      (source.messages WorkRequest.decoder s.limit)
  rw [converse_source] at hconverse
  have hsource : next.source = source := (congrArg (·.2.source) hrespond).symm
  have hdispatcher : next.dispatcher = dispatcher := dispatcher_of_respond hrespond
  have hlimit : next.limit = s.limit := by
    have hpolicy := s.dispatcher.answer_policy m
    rw [hanswer] at hpolicy
    rw [limit, limit, hdispatcher, hpolicy]
  obtain ⟨last, rfl⟩ := hnext
  refine ⟨last, ?_⟩
  rw [hsource, hlimit, hmessages, ← hconverse, hending]

theorem serve_tells (s : Service σ) : s.Tells s.serve := by
  -- message by message; a line that holds none is answered like one that does
  fun_induction serve s with
  | case1 s source hread =>
    obtain ⟨hmessages, hending⟩ := messages_of_end hread
    refine ⟨source, ?_⟩
    rw [hmessages, hending]
    rfl
  | case2 s request source hread dispatcher hhandle =>
    obtain ⟨hmessages, -⟩ := messages_of_message hread
    exact .unanswered hmessages hhandle
  | case3 s request source hread response dispatcher hhandle e next hrespond =>
    obtain ⟨hmessages, -⟩ := messages_of_message hread
    exact .stopped hmessages hhandle hrespond
  | case4 s request source hread response dispatcher hhandle next hrespond ih =>
    obtain ⟨hmessages, hending⟩ := messages_of_message hread
    exact .answered hmessages hending hhandle hrespond ih
  | case5 s e source hread hrecoverable e' next hrespond =>
    obtain ⟨hmessages, -⟩ := messages_of_recoverable hread hrecoverable
    exact .stopped hmessages rfl hrespond
  | case6 s e source hread hrecoverable next hrespond ih =>
    obtain ⟨hmessages, hending⟩ := messages_of_recoverable hread hrecoverable
    exact .answered hmessages hending rfl hrespond ih
  | case7 s e source hread hfailure =>
    obtain ⟨hmessages, hending⟩ := messages_of_failure hread hfailure
    refine ⟨source, ?_⟩
    rw [hmessages, hending]
    rfl

omit [Guests σ] in
theorem respond_of_room {s : Service σ}
    (h : ∀ f ∈ s.sink.fault, s.sink.reversed.length < f.afterLines) (response : WorkResponse) :
    s.respond response =
      (.ok (),
        { s with
          sink := s.sink.push response.toJson.text
          summary := s.summary.count response }) := by
  rw [respond_eq, writeMessage_ok h]

omit [Guests σ] in
theorem respond_of_fault {s : Service σ} {f : SinkFault} (hf : s.sink.fault = some f)
    (h : f.afterLines ≤ s.sink.reversed.length) (response : WorkResponse) :
    ∃ next, s.respond response = (.error (.io f.error), next) ∧
      next.sink =
        match f.stage with
        | .write => s.sink
        | .flush => s.sink.push response.toJson.text := by
  rw [respond_eq, writeMessage_error hf h]
  exact ⟨_, rfl, rfl⟩

theorem converse_of_room (s : Service σ) (messages : List (Except FrameError WorkRequest))
    (h : ∀ f ∈ s.sink.fault, (s.dispatcher.answers messages).1.length ≤
      f.afterLines - s.sink.reversed.length) :
    s.converse messages =
      (if (s.dispatcher.answers messages).1.length = messages.length then some (.ok ()) else none,
        { s with
          dispatcher := (s.dispatcher.answers messages).2
          sink :=
            { s.sink with
              reversed := ((s.dispatcher.answers messages).1.map (·.toJson.text)).reverse ++
                s.sink.reversed }
          summary := (s.dispatcher.answers messages).1.foldl ServiceSummary.count s.summary }) := by
  induction messages generalizing s with
  | nil => rfl
  | cons m messages ih =>
    rcases hanswer : s.dispatcher.answer m with ⟨_ | response, dispatcher⟩
    · rw [converse_none hanswer, Dispatcher.answers_of_none hanswer]
      rfl
    rw [Dispatcher.answers_of_some hanswer] at h ⊢
    have hroom : ∀ f ∈ s.sink.fault, s.sink.reversed.length < f.afterLines := fun f hf ↦ by
      have hle := h f hf
      rw [List.length_cons] at hle
      omega
    have hrespond := respond_of_room (s := { s with dispatcher }) hroom response
    rw [converse_ok hanswer hrespond, ih]
    · simp [Sink.push]
    · intro f hf
      have hle := h f hf
      rw [List.length_cons] at hle
      simp only [Sink.push, List.length_cons]
      omega

theorem converse_of_fault (s : Service σ) (messages : List (Except FrameError WorkRequest))
    {f : SinkFault} (hf : s.sink.fault = some f)
    (h : f.afterLines - s.sink.reversed.length < (s.dispatcher.answers messages).1.length) :
    (s.converse messages).1 = some (.error f.error) ∧
      (s.converse messages).2.sink.lines = s.sink.lines ++
        ((s.dispatcher.answers messages).1.take
          (f.afterLines - s.sink.reversed.length + if f.stage = .flush then 1 else 0)).map
            (·.toJson.text) := by
  induction messages generalizing s with
  | nil => exact absurd h (Nat.not_lt_zero _)
  | cons m messages ih =>
    rcases hanswer : s.dispatcher.answer m with ⟨_ | response, dispatcher⟩
    · rw [Dispatcher.answers_of_none hanswer] at h
      exact absurd h (Nat.not_lt_zero _)
    rw [Dispatcher.answers_of_some hanswer] at h ⊢
    by_cases hmet : f.afterLines ≤ s.sink.reversed.length
    · obtain ⟨next, hrespond, hsink⟩ :=
        respond_of_fault (s := { s with dispatcher }) hf hmet response
      rw [converse_error hanswer hrespond, hsink, Nat.sub_eq_zero_of_le hmet]
      refine ⟨rfl, ?_⟩
      cases f.stage with
      | write => simp
      | flush => simp [Sink.push, Sink.lines]
    · have hroom : ∀ f ∈ s.sink.fault, s.sink.reversed.length < f.afterLines := fun f' hf' ↦ by
        obtain rfl := Option.some.inj (hf.symm.trans hf')
        exact Nat.lt_of_not_le hmet
      have hrespond := respond_of_room (s := { s with dispatcher }) hroom response
      -- one line less is left to be written
      have hleft : f.afterLines - s.sink.reversed.length =
          f.afterLines - (s.sink.reversed.length + 1) + 1 := by
        omega
      rw [List.length_cons] at h
      obtain ⟨hresult, hlines⟩ := ih
        { s with
          dispatcher
          sink := s.sink.push response.toJson.text
          summary := s.summary.count response } hf
            (by simp only [Sink.push, List.length_cons]; omega)
      rw [converse_ok hanswer hrespond]
      refine ⟨hresult, hlines.trans ?_⟩
      rw [hleft, Nat.add_right_comm]
      simp [Sink.push, Sink.lines]

end Service

theorem foldl_count (responses : List WorkResponse) (summary : ServiceSummary) :
    responses.foldl ServiceSummary.count summary =
      ⟨summary.requests + responses.length,
        summary.failures + responses.countP (·.exitCode ≠ 0)⟩ := by
  induction responses generalizing summary with
  | nil => rfl
  | cons response responses ih =>
    rw [List.foldl_cons, ih, ServiceSummary.count, List.length_cons, List.countP_cons,
      WorkResponse.isSuccess]
    by_cases hcode : response.exitCode = 0 <;> simp [hcode] <;> omega

namespace Service

def messagesFor (d : Dispatcher σ) (source : Source) : List (Except FrameError WorkRequest) :=
  source.messages WorkRequest.decoder d.policy.settings.maxMessageBytes.toNat

omit [Guests σ] in
theorem messagesFor_single {d : Dispatcher σ} {arguments : List String} {source : Source}
    (hlines : source.lines = [Utf8.encode (WorkRequest.toJson { arguments }).text])
    (hlimit : (Utf8.encode (WorkRequest.toJson { arguments }).text).length ≤
      d.policy.settings.maxMessageBytes.toNat) :
    messagesFor d source = [.ok { arguments }] := by
  let requests : List WorkRequest := [{ arguments }]
  have htakes : ∀ r ∈ requests, Json.Takes WorkRequest.decoder.ofText r.toJson r ∧
      r.toJson.depth ≤ Json.greatestDepth :=
    fun r _ ↦ ⟨r.takes_toJson, r.depth_toJson_le.trans (by decide)⟩
  exact messages_of_texts (fun r ↦ ⟨_, rfl⟩) htakes hlines (List.forall_mem_singleton.mpr hlimit)

theorem run_outcome (d : Dispatcher σ) (source : Source) (fault : Option SinkFault) :
    let s : Service σ := { dispatcher := d, source, sink := { fault } }
    let responses := (d.answers (messagesFor d source)).1
    let met := fault.filter (·.afterLines < responses.length)
    s.run.1 = (match met, (messagesFor d source)[responses.length]?, source.ending with
        | some f, _, _ => some (.error f.error)
        | none, some _, _ => none
        | none, none, some e => some (.error e)
        | none, none, none => some (.ok ⟨responses.length, responses.countP (·.exitCode ≠ 0)⟩)) ∧
      s.run.2.sink.lines = (met.elim responses fun f ↦ responses.take f.kept).map
        (·.toJson.text) := by
  intro s responses met
  obtain ⟨last, hserve⟩ :
    ∃ last, s.serve = (ended (s.converse (messagesFor d source)).1 source.ending,
    { (s.converse (messagesFor d source)).2 with source := last }) := s.serve_tells
  have hle : responses.length ≤ (messagesFor d source).length := d.answers_length_le _
  rcases hmet : met with _ | f
  · have hroom : ∀ f ∈ fault, responses.length ≤ f.afterLines - 0 := fun f hf ↦ by
      have hnot := Option.filter_eq_none_iff.mp hmet f hf
      simpa using hnot
    rw [s.converse_of_room (messagesFor d source) hroom, foldl_count] at hserve
    by_cases hall : responses.length = (messagesFor d source).length
    · rw [if_pos hall] at hserve
      rw [hall, List.getElem?_length]
      cases hending : source.ending with
      | none =>
        rw [hending] at hserve
        rw [run_of_serve_some (congrArg Prod.fst hserve), hserve]
        refine ⟨?_, ?_⟩
        · simp [Except.map, s, responses, ← hall]
        · simp [Sink.lines, s, responses]
      | some e =>
        rw [hending] at hserve
        rw [run_of_serve_some (congrArg Prod.fst hserve), hserve]
        refine ⟨rfl, ?_⟩
        simp [Sink.lines, s, responses]
    · rw [if_neg hall] at hserve
      rw [List.getElem?_eq_getElem (Nat.lt_of_le_of_ne hle hall),
        run_of_serve_none (congrArg Prod.fst hserve), hserve]
      refine ⟨rfl, ?_⟩
      simp [Sink.lines, s, responses]
  · obtain ⟨hf, hlt⟩ := Option.filter_eq_some_iff.mp hmet
    obtain ⟨hresult, hlines⟩ :=
      s.converse_of_fault (messagesFor d source) hf (of_decide_eq_true hlt)
    rw [hresult] at hserve
    rw [run_of_serve_some (congrArg Prod.fst hserve), hserve]
    exact ⟨rfl, hlines⟩

/-- However a stream is cut into pieces, whatever is on it and wherever a read or a write fails: the
lines that hold a message are answered one by one in their order, every answer is one line of JSON,
and the first read or write that fails ends the run with its error. The lines until then are the
first of those that the run without errors writes. One kind of request is left without an answer,
and nothing after it is answered: one that overruns. -/
theorem run_answers_lines (d : Dispatcher σ) (source : Source) (fault : Option SinkFault) :
    let s : Service σ := { dispatcher := d, source, sink := { fault } }
    let lines := source.lines.filter (isMessageLine s.limit)
    let messages := lines.map (messageOf WorkRequest.decoder s.limit)
    let responses := (d.answers messages).1
    let met := fault.filter (·.afterLines < responses.length)
    List.Forall₂ (WorkResponse.Answers s.limit) (lines.take responses.length) responses ∧
      (∀ m ∈ messages[responses.length]?, ∃ request, m = .ok request ∧
        (d.answers (messages.take responses.length)).2.Overruns request) ∧
      s.run.1 = (match met, messages[responses.length]?, source.ending with
        | some f, _, _ => some (.error f.error)
        | none, some _, _ => none
        | none, none, some e => some (.error e)
        | none, none, none => some (.ok ⟨responses.length, responses.countP (·.exitCode ≠ 0)⟩)) ∧
      s.run.2.sink.lines = (met.elim responses fun f ↦ responses.take f.kept).map (·.toJson.text) ∧
      (∀ line ∈ s.run.2.sink.lines, OneLine line) ∧
      ∀ more, s.run.2.sink.lines <+:
        ({ dispatcher := d, source := source.mended more } : Service σ).run.2.sink.lines := by
  intro s lines messages responses met
  obtain ⟨hresult, hlines⟩ := run_outcome d source fault
  refine ⟨d.answers_lines s.limit lines, fun m hm ↦ d.overruns_of_unanswered hm, hresult, hlines,
    fun line hline ↦ ?_, fun more ↦ ?_⟩
  · have hmem : line ∈ (met.elim responses fun f ↦ responses.take f.kept).map (·.toJson.text) :=
      hlines ▸ hline
    obtain ⟨response, -, rfl⟩ := List.mem_map.mp hmem
    exact Json.oneLine_text _
  · have hwritten : (met.elim responses fun f ↦ responses.take f.kept) <+: responses := by
      cases met with
      | none => exact List.prefix_rfl
      | some f => exact List.take_prefix _ _
    have hmessages : messagesFor d source <+: messagesFor d (source.mended more) :=
      ((source.lines_prefix more).filter _).map _
    obtain ⟨-, hmended⟩ := run_outcome d (source.mended more) none
    rw [show s.run.2.sink.lines = _ from hlines, show Sink.lines _ = _ from hmended]
    exact (hwritten.trans (d.answers_prefix hmessages)).map _

def restlessService : Service Mock where
  dispatcher := .start unlimitedPolicy restlessGuests
  source := .ofBytes (Utf8.encode restlessRequest.toJson.text)

theorem line_left_unanswered : unlimitedPolicy.settings.problems = [] ∧
    restlessService.source.lines = [Utf8.encode restlessRequest.toJson.text] ∧
    restlessService.source.ending = none ∧ restlessService.sink.fault = none ∧
    restlessService.run.1 = none ∧ restlessService.run.2.sink.lines = [] := by
  have hlines : restlessService.source.lines = [Utf8.encode restlessRequest.toJson.text] := by
    decide +kernel
  have hmessages : messagesFor restlessService.dispatcher restlessService.source =
      [.ok restlessRequest] :=
    messagesFor_single hlines (by decide +kernel)
  have hanswers : (restlessService.dispatcher.answers [.ok restlessRequest]).1 = [] :=
    Dispatcher.answers_of_unhandled (Dispatcher.handle_restless rfl) []
  obtain ⟨hresult, hwritten⟩ := run_outcome restlessService.dispatcher restlessService.source none
  rw [hmessages, hanswers] at hresult hwritten
  exact ⟨by decide +kernel, hlines, rfl, rfl, hresult, hwritten⟩

end Service

end CompileWorker
