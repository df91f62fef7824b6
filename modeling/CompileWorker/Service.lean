import CompileWorker.Dispatcher
import CompileWorker.Framing.Message

namespace CompileWorker

open Framing

structure ServiceSummary where
  requests : Nat := 0
  failures : Nat := 0
  deriving DecidableEq, Repr

structure Service (σ : Type) where
  dispatcher : Dispatcher σ
  source : Source
  sink : Sink := {}
  summary : ServiceSummary := {}

namespace Service

variable {σ : Type} [Guests σ]

def limit (s : Service σ) : Nat := s.dispatcher.policy.settings.maxMessageBytes.toNat

def rejection (e : FrameError) : WorkResponse :=
  .failure 0 ((WorkError.invalidRequest ("malformed request: " ++ e.message)).display ++ "\n")

def respond (s : Service σ) (response : WorkResponse) : Except FrameError Unit × Service σ :=
  let summary : ServiceSummary :=
    ⟨s.summary.requests + 1, s.summary.failures + (!response.isSuccess).toNat⟩
  let (result, sink) := writeMessage response.toJson s.sink
  (result, { s with sink, summary })

/-- Answers one message after the other. There is no end to it after a request without a
response. -/
def serve (s : Service σ) : Option (Except SystemError Unit) × Service σ :=
  match _h : readMessage WorkRequest.decoder s.limit s.source with
  | (.ok none, source) => (some (.ok ()), { s with source })
  | (.ok (some request), source) =>
    match s.dispatcher.handle request with
    | (none, dispatcher) => (none, { s with dispatcher, source })
    | (some response, dispatcher) =>
      match _hr : { s with dispatcher, source }.respond response with
      | (.error e, s) => (some (.error e.toSystemError), s)
      | (.ok (), next) => next.serve
  | (.error e, source) =>
    if _he : e.isRecoverable then
      match _hr : { s with source }.respond (rejection e) with
      | (.error e, s) => (some (.error e.toSystemError), s)
      | (.ok (), next) => next.serve
    else (some (.error e.toSystemError), { s with source })
termination_by s.source.bytes.length
decreasing_by
  · have hlt := bytes_length_readMessage_lt WorkRequest.decoder s.limit s.source
    rw [_h] at hlt
    have : next.source = source := by
      have := congrArg (·.2.source) _hr
      simpa [respond] using this.symm
    rw [this]
    exact hlt
  · have hlt := bytes_length_readMessage_lt WorkRequest.decoder s.limit s.source
    rw [_h] at hlt
    have : next.source = source := by
      have := congrArg (·.2.source) _hr
      simpa [respond] using this.symm
    rw [this]
    exact hlt _he

/-- Serves until the stream ends and discards every environment. -/
def run (s : Service σ) : Option (Except SystemError ServiceSummary) × Service σ :=
  match s.serve with
  | (none, s) => (none, s)
  | (some result, s) =>
    (some (result.map fun () ↦ s.summary), { s with dispatcher := s.dispatcher.shutdown.2 })

end Service

end CompileWorker
