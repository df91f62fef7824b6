import CompileWorker.Files
import CompileWorker.Shell.Syntax

namespace CompileWorker.Shell

inductive Port
  | standard
  | diagnostics
  | pipe (number : Nat)
  | text (number : Nat)
  deriving DecidableEq, Repr

inductive Interaction (α : Type)
  | done (value : α)
  | input (port : Port) (resume : Chars → Interaction α)
  | output (port : Port) (text : Chars) (resume : Unit → Interaction α)
  | provide (text : Chars) (resume : Nat → Interaction α)
  | look (resume : Files → Interaction α)
  | store (files : Files) (resume : Unit → Interaction α)
  | pause (milliseconds : Nat) (resume : Unit → Interaction α)

namespace Interaction

variable {α β : Type}

def bind : Interaction α → (α → Interaction β) → Interaction β
  | done value, next => next value
  | input port resume, next => .input port fun line ↦ (resume line).bind next
  | output port text resume, next => .output port text fun u ↦ (resume u).bind next
  | provide text resume, next => .provide text fun number ↦ (resume number).bind next
  | look resume, next => .look fun files ↦ (resume files).bind next
  | store files resume, next => .store files fun u ↦ (resume u).bind next
  | pause milliseconds resume, next => .pause milliseconds fun u ↦ (resume u).bind next

instance : Monad Interaction where
  pure := done
  bind := bind

instance [Inhabited α] : Inhabited (Interaction α) := ⟨done default⟩

/-- Keeps what goes into a pipe, and gives it back at the end, the pieces of `kept` standing first
in reverse order. -/
def collect (number : Nat) : Interaction α → List Chars → Interaction (α × Chars)
  | done value, kept => done (value, kept.reverse.flatten)
  | input port resume, kept => .input port fun line ↦ (resume line).collect number kept
  | output port text resume, kept =>
    if port = .pipe number then .pause 0 fun u ↦ (resume u).collect number (text :: kept)
    else .output port text fun u ↦ (resume u).collect number kept
  | provide text resume, kept => .provide text fun n ↦ (resume n).collect number kept
  | look resume, kept => .look fun files ↦ (resume files).collect number kept
  | store files resume, kept => .store files fun u ↦ (resume u).collect number kept
  | pause milliseconds resume, kept => .pause milliseconds fun u ↦ (resume u).collect number kept

def splitLine? (text : Chars) : Option (Chars × Chars) :=
  match text.dropWhile (· ≠ '\n') with
  | [] => none
  | c :: rest => some (text.takeWhile (· ≠ '\n') ++ [c], rest)

/-- Lets a writer go on until a line is in the pipe or the writer is done: the line, what is in the
pipe behind it, and what the writer does next. -/
def pull (number : Nat) : Interaction Unit → Chars → Interaction (Chars × Chars × Interaction Unit)
  | done value, held =>
    match splitLine? held with
    | some (line, rest) => done (line, rest, done value)
    | none => done (held, [], done value)
  | input port resume, held => .input port fun line ↦ (resume line).pull number held
  | output port text resume, held =>
    if port = .pipe number then
      let held := held ++ text
      match splitLine? held with
      | some (line, rest) => done (line, rest, resume ())
      | none => .pause 0 fun u ↦ (resume u).pull number held
    else .output port text fun u ↦ (resume u).pull number held
  | provide text resume, held => .provide text fun n ↦ (resume n).pull number held
  | look resume, held => .look fun files ↦ (resume files).pull number held
  | store files resume, held => .store files fun u ↦ (resume u).pull number held
  | pause milliseconds resume, held => .pause milliseconds fun u ↦ (resume u).pull number held

/-- Lets a writer go on to its end, or until it writes into a pipe that nobody reads. -/
def drain (number : Nat) : Interaction Unit → Interaction Unit
  | done value => done value
  | input port resume => .input port fun line ↦ (resume line).drain number
  | output port text resume =>
    if port = .pipe number then done () else .output port text fun u ↦ (resume u).drain number
  | provide text resume => .provide text fun n ↦ (resume n).drain number
  | look resume => .look fun files ↦ (resume files).drain number
  | store files resume => .store files fun u ↦ (resume u).drain number
  | pause milliseconds resume => .pause milliseconds fun u ↦ (resume u).drain number

/-- A reader of a pipe with the writer into it, which goes on whenever the reader waits for a line
that is not there; `held` is in the pipe. -/
def connect (number : Nat) : Interaction α → Interaction Unit → Chars → Interaction α
  | done value, writer, _ => (writer.drain number).bind fun _ ↦ done value
  | input port resume, writer, held =>
    if port = .pipe number then
      match splitLine? held with
      | some (line, held) => (resume line).connect number writer held
      | none => (writer.pull number held).bind fun (line, held, writer) ↦
          (resume line).connect number writer held
    else .input port fun line ↦ (resume line).connect number writer held
  | output port text resume, writer, held =>
    .output port text fun u ↦ (resume u).connect number writer held
  | provide text resume, writer, held => .provide text fun n ↦ (resume n).connect number writer held
  | look resume, writer, held => .look fun files ↦ (resume files).connect number writer held
  | store files resume, writer, held => .store files fun u ↦ (resume u).connect number writer held
  | pause milliseconds resume, writer, held =>
    .pause milliseconds fun u ↦ (resume u).connect number writer held

def hurry : Interaction α → Interaction α
  | done value => done value
  | input port resume => .input port fun line ↦ (resume line).hurry
  | output port text resume => .output port text fun u ↦ (resume u).hurry
  | provide text resume => .provide text fun n ↦ (resume n).hurry
  | look resume => .look fun files ↦ (resume files).hurry
  | store files resume => .store files fun u ↦ (resume u).hurry
  | pause _ resume => .pause 0 fun u ↦ (resume u).hurry

end Interaction

end CompileWorker.Shell
