import CompileWorker.Framing.Source
import CompileWorker.Json.Decoder
import CompileWorker.Text.Blank

namespace CompileWorker.Framing

open Json

inductive FrameError
  | io (error : SystemError)
  | decode (error : TextError)
  | tooLarge (limit : Nat)
  | encode (error : TextError)
  deriving Repr

namespace FrameError

def message : FrameError → String
  | .io e => "I/O error: " ++ e.text
  | .decode e => "invalid JSON: " ++ e.message
  | .tooLarge limit => "message exceeds maximum size of " ++ toString limit ++ " bytes"
  | .encode e => "failed to encode message: " ++ e.message

def isRecoverable : FrameError → Bool
  | .decode _ | .tooLarge _ => true
  | .io _ | .encode _ => false

def toSystemError : FrameError → SystemError
  | .io e => e
  | e => ⟨.invalidData, e.message⟩

end FrameError

def trim (line : List UInt8) : List UInt8 := Text.trimBy Text.isAsciiBlank line

def readMessage {α : Type} (d : Decoder α) (limit : Nat) (s : Source) :
    Except FrameError (Option α) × Source :=
  match _h : readLine limit s with
  | (.error e, s) => (.error (.io e), s)
  | (.ok line, s') =>
    if _htaken : line.taken = 0 then (.ok none, s')
    else if line.overlong then (.error (.tooLarge limit), s')
    else if (trim line.content).isEmpty then readMessage d limit s'
    else
      (match d.decode (trim line.content) with
        | .ok a => .ok (some a)
        | .error e => .error (.decode e),
       s')
termination_by s.bytes.length
decreasing_by
  have := bytes_length_readLine limit s s' line _h
  omega

theorem bytes_length_readMessage_lt {α : Type} (d : Decoder α) (limit : Nat) (s : Source) :
    match readMessage d limit s with
    | (.ok (some _), s') => s'.bytes.length < s.bytes.length
    | (.error e, s') => e.isRecoverable → s'.bytes.length < s.bytes.length
    | (.ok none, _) => True := by
  fun_induction readMessage d limit s with
  | case1 => simp [FrameError.isRecoverable]
  | case2 => trivial
  | case3 s line s' h htaken =>
    have := bytes_length_readLine limit s s' line h
    simp only
    omega
  | case4 s line s' h htaken hlong hblank ih =>
    have := bytes_length_readLine limit s s' line h
    revert ih
    split <;> intro ih
    · omega
    · intro he
      have := ih he
      omega
    · trivial
  | case5 s line s' h htaken hlong hblank =>
    have := bytes_length_readLine limit s s' line h
    cases d.decode (trim line.content) <;> simp only <;> omega

inductive Stage
  | write
  | flush
  deriving DecidableEq, Repr

/-- A writer that fails once so many lines are in it: at the next write, or at the flush after one
more. -/
structure SinkFault where
  stage : Stage
  afterLines : Nat
  error : SystemError
  deriving Repr

/-- Where messages are written: the lines so far, the newest first, and the fault that will end
it. -/
structure Sink where
  reversed : List String := []
  fault : Option SinkFault := none
  deriving Repr

namespace Sink

def lines (s : Sink) : List String := s.reversed.reverse

def text (s : Sink) : String := String.join (s.lines.map (· ++ "\n"))

def faultAt (s : Sink) (stage : Stage) (lines : Nat) : Option SystemError :=
  match s.fault with
  | some f => if f.stage = stage ∧ f.afterLines ≤ lines then some f.error else none
  | none => none

end Sink

def writeMessage (message : Json) (s : Sink) : Except FrameError Unit × Sink :=
  match s.faultAt .write s.reversed.length with
  | some e => (.error (.io e), s)
  | none =>
    let written := { s with reversed := message.text :: s.reversed }
    match s.faultAt .flush s.reversed.length with
    | some e => (.error (.io e), written)
    | none => (.ok (), written)

end CompileWorker.Framing
