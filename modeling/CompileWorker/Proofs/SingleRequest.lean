import CompileWorker.Environment.Mock
import CompileWorker.Proofs.Lifecycle
import CompileWorker.Proofs.MessageRoundTrip
import CompileWorker.Proofs.RefusedLines

namespace CompileWorker

open Framing

variable {σ : Type}

theorem Bench.Orderly.lifecycle {b : Bench σ} (h : b.Orderly)
    (hvacant : ∀ role, (b.caches.get role).entry = none) : Lifecycle b.world.trace.reverse := by
  have hlive : b.live = fun _ ↦ none := by
    funext role
    simp [Bench.live, EnvironmentCache.environmentId?, hvacant role]
  exact (hlive ▸ h.world.lives).lifecycle

variable [Guests σ]

namespace Dispatcher

theorem runOnce_of_none {d : Dispatcher σ} {arguments : List String}
    (h : (d.handle { arguments }).1 = none) :
    d.runOnce arguments = (none, (d.handle { arguments }).2) := by
  rcases hhandle : d.handle { arguments } with ⟨response, next⟩
  rw [hhandle] at h
  obtain rfl : response = none := h
  rw [runOnce, hhandle]

theorem runOnce_of_some {d : Dispatcher σ} {arguments : List String} {response : WorkResponse}
    (h : (d.handle { arguments }).1 = some response) :
    d.runOnce arguments = (some response, (d.handle { arguments }).2.shutdown.2) := by
  rcases hhandle : d.handle { arguments } with ⟨response', next⟩
  rw [hhandle] at h
  obtain rfl : response' = some response := h
  rw [runOnce, hhandle]

theorem runOnce_response (d : Dispatcher σ) (arguments : List String) :
    (d.runOnce arguments).1 = (d.handle { arguments }).1 := by
  cases hresponse : (d.handle { arguments }).1 with
  | none => rw [runOnce_of_none hresponse]
  | some response => rw [runOnce_of_some hresponse]

theorem runOnce_bench {d : Dispatcher σ} {arguments : List String}
    (h : (d.runOnce arguments).1.isSome) :
    ∃ actions, (d.runOnce arguments).2.bench =
      (d.bench.after actions).after [.discard .tooling, .discard .compile] := by
  rw [runOnce_response] at h
  obtain ⟨response, hresponse⟩ := Option.isSome_iff_exists.mp h
  obtain ⟨actions, hactions⟩ := d.handle_acts { arguments }
  rw [runOnce_of_some hresponse]
  exact ⟨actions, hactions ▸ (d.handle { arguments }).2.shutdown_bench⟩

theorem runOnce_vacant {d : Dispatcher σ} {arguments : List String}
    (h : (d.runOnce arguments).1.isSome) (role : Role) :
    ((d.runOnce arguments).2.caches.get role).entry = none := by
  obtain ⟨actions, hactions⟩ := runOnce_bench h
  have hcaches : (d.runOnce arguments).2.caches = _ := congrArg Bench.caches hactions
  rw [hcaches]
  exact Bench.vacant_after_discards _ role

theorem runOnce_lifecycle {policy : Policy} {guests : σ} {arguments : List String}
    (h : ((start policy guests).runOnce arguments).1.isSome) :
    Lifecycle ((start policy guests).runOnce arguments).2.world.trace.reverse := by
  obtain ⟨actions, hactions⟩ := runOnce_bench h
  have horderly : ((start policy guests).runOnce arguments).2.bench.Orderly :=
    hactions ▸ ((Bench.Orderly.start guests).after actions).after _
  exact horderly.lifecycle (runOnce_vacant h)

end Dispatcher

namespace Service

/-- A service whose stream is the one line of a request for some arguments, if the line is not too
long, writes the one response that handling the arguments at once has, and leaves the same
dispatcher behind, with all in its trace that was done to environments. Each of them is created
once, used and discarded once, and none is left. Without a response there is an end to neither, and
that is so exactly if compiling overruns. -/
theorem run_single_request (policy : Policy) (guests : σ) (arguments : List String)
    (source : Source)
    (hlines : source.lines = [Utf8.encode (WorkRequest.toJson { arguments }).text])
    (hending : source.ending = none)
    (hlimit : (Utf8.encode (WorkRequest.toJson { arguments }).text).length ≤
      policy.settings.maxMessageBytes.toNat) :
    let once := (Dispatcher.start policy guests).runOnce arguments
    let s : Service σ := { dispatcher := .start policy guests, source }
    (once.1 = none ↔ (Dispatcher.start policy guests).Overruns { arguments }) ∧
      s.run.1 = once.1.map (fun response ↦ .ok ⟨1, if response.isSuccess then 0 else 1⟩) ∧
      s.run.2.sink.text = once.1.elim "" (·.toJson.text ++ "\n") ∧
      s.run.2.dispatcher = once.2 ∧
      (once.1.isSome → Lifecycle once.2.world.trace.reverse ∧
        ∀ role, (once.2.caches.get role).isVacant) := by
  intro once s
  let d := Dispatcher.start policy guests
  obtain ⟨hresult, hwritten, hleft⟩ := run_unhindered d source
  have hmessages : messagesFor d source = [.ok { arguments }] := messagesFor_single hlines hlimit
  rw [hmessages] at hresult hwritten hleft
  rw [hending] at hresult
  have hoverruns : (d.handle { arguments }).1 = none ↔ d.Overruns { arguments } :=
    d.handle_eq_none_iff _
  rw [← d.runOnce_response arguments] at hoverruns
  refine ⟨hoverruns, ?_⟩
  rcases hhandle : d.handle { arguments } with ⟨_ | response, next⟩
  · have honce : once = (none, next) := by
      rw [show once = _ from Dispatcher.runOnce_of_none (congrArg Prod.fst hhandle), hhandle]
    have hanswers : d.answers [.ok { arguments }] = ([], next) :=
      Dispatcher.answers_of_none (m := .ok { arguments }) hhandle []
    rw [hanswers] at hresult hwritten hleft
    rw [honce]
    refine ⟨hresult, ?_, hleft, nofun⟩
    rw [Sink.text, hwritten]
    rfl
  · have honce : once = (some response, next.shutdown.2) := by
      rw [show once = _ from Dispatcher.runOnce_of_some (congrArg Prod.fst hhandle), hhandle]
    have hreturns : once.1.isSome := congrArg (·.1.isSome) honce
    have hlifecycle : Lifecycle once.2.world.trace.reverse := Dispatcher.runOnce_lifecycle hreturns
    have hvacant : ∀ role, (once.2.caches.get role).isVacant := by
      intro role
      rw [EnvironmentCache.isVacant, Dispatcher.runOnce_vacant hreturns]
      rfl
    have hanswers : d.answers [.ok { arguments }] = ([response], next) :=
      Dispatcher.answers_of_some (m := .ok { arguments }) hhandle []
    rw [hanswers] at hresult hwritten hleft
    rw [honce] at hlifecycle hvacant ⊢
    refine ⟨hresult.trans ?_, ?_, hleft, fun _ ↦ ⟨hlifecycle, hvacant⟩⟩
    · by_cases hcode : response.exitCode = 0 <;> simp [WorkResponse.isSuccess, hcode]
    · rw [Sink.text, hwritten]
      simp

def planningGuests : Mock :=
  Mock.respond "rules-clojure.jar/get-compilation-script-json" (.string "s") {}

theorem jar_request_at_once :
    let arguments := ["[[],\"classes\",[],\"out.jar\"]"]
    let line := Utf8.encode (WorkRequest.toJson { arguments }).text
    let once := (Dispatcher.start { settings := {} } planningGuests).runOnce arguments
    let s : Service Mock :=
      { dispatcher := .start { settings := {} } planningGuests, source := .ofBytes line }
    once.1.map (·.exitCode) = some 0 ∧ once.2.world.issued = 2 ∧ s.run.1 = some (.ok ⟨1, 0⟩) ∧
      s.run.2.sink.text = once.1.elim "" (·.toJson.text ++ "\n") ∧ s.run.2.dispatcher = once.2 := by
  intro arguments line once s
  have hcode : once.1.map (·.exitCode) = some 0 := by decide +kernel
  have hlines : (Source.ofBytes line).lines = [line] := by decide +kernel
  obtain ⟨-, hresult, hwritten, hleft, -⟩ :=
    run_single_request { settings := {} } planningGuests arguments (.ofBytes line) hlines rfl
      (by decide +kernel)
  refine ⟨hcode, by decide +kernel, ?_, hwritten, hleft⟩
  obtain ⟨response, hresponse, hzero⟩ := Option.map_eq_some_iff.mp hcode
  rw [hresult, show Option.map _ once.1 = _ from congrArg _ hresponse, Option.map_some,
    WorkResponse.isSuccess, hzero]
  rfl

end Service

theorem no_response_at_once : unlimitedPolicy.settings.problems = [] ∧
    ((Dispatcher.start unlimitedPolicy restlessGuests).runOnce ["[[],\"c\",[],\"o\"]"]).1 =
      none := by
  have hhandle : ((Dispatcher.start unlimitedPolicy restlessGuests).handle restlessRequest).1 =
      none :=
    Dispatcher.handle_restless rfl
  refine ⟨by decide +kernel, ?_⟩
  rw [Dispatcher.runOnce_response]
  exact hhandle

end CompileWorker
