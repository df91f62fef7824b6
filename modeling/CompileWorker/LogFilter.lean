import CompileWorker.Text.Alphanumeric
import CompileWorker.Text.Blank

namespace CompileWorker

inductive LogLevel
  | off
  | error
  | warn
  | info
  | debug
  | trace
  deriving DecidableEq, Repr

namespace LogLevel

def name : LogLevel → String
  | .off => "off"
  | .error => "error"
  | .warn => "warn"
  | .info => "info"
  | .debug => "debug"
  | .trace => "trace"

def all : List LogLevel := [.off, .error, .warn, .info, .debug, .trace]

def ofNumber? (text : String) : Option LogLevel :=
  let digits := match text.toList with
    | '+' :: digits => digits
    | digits => digits
  if digits ≠ [] ∧ digits.all Char.isDigit then
    all[digits.foldl (fun n c ↦ n * 10 + (c.toNat - 48)) 0]?
  else none

def ofText? (text : String) : Option LogLevel :=
  ofNumber? text <|> all.find? fun level ↦ level.name = text.toLower

end LogLevel

structure LogDirective where
  target : Option String
  level : LogLevel
  deriving DecidableEq, Repr

namespace LogDirective

def display (d : LogDirective) : String :=
  match d.target with
  | some target => target ++ "=" ++ d.level.name
  | none => d.level.name

def begins (c : Char) : Bool := Text.isAlphanumeric c || c = '-' || c = ':' || c = '_'

/-- A level, a target and a level, or a target whose level is left open. Where the parts are is seen
with the blanks at both ends away, but they are taken from the whole text. Spans are not known
here. -/
def ofText? (text : String) : Option LogDirective :=
  let trimmed := Text.trimBy Text.isBlank text.toList
  if (trimmed.head?.map begins).getD false = false then none
  else
    let before := trimmed.takeWhile (· ≠ '=')
    if before.contains '[' then none
    else if before.length = trimmed.length then
      some (match LogLevel.ofText? text with
        | some level => ⟨none, level⟩
        | none => ⟨some text, .trace⟩)
    else
      let target := String.ofList (text.toList.take before.length)
      match text.toList.drop (before.length + 1) with
      | [] => some ⟨some target, .trace⟩
      | level => (LogLevel.ofText? (String.ofList level)).map (⟨some target, ·⟩)

/-- The more specific directive goes first: the longer target, then the greater. -/
def precedes (a b : LogDirective) : Bool :=
  let size (d : LogDirective) : Nat := match d.target with
    | some target => target.utf8ByteSize + 1
    | none => 0
  size b < size a || (size a = size b && b.target.getD "" < a.target.getD "")

end LogDirective

/-- Directives in order, one for each target. -/
structure LogFilter where
  directives : List LogDirective
  deriving DecidableEq, Repr

namespace LogFilter

private def place (d : LogDirective) : List LogDirective → List LogDirective
  | [] => [d]
  | e :: rest =>
    if d.target = e.target then d :: rest else if d.precedes e then d :: e :: rest
    else e :: place d rest

def ofText? (text : String) : Option LogFilter := do
  let directives ← ((text.splitOn ",").filter (· ≠ "")).mapM LogDirective.ofText?
  return ⟨directives.foldl (fun placed d ↦ place d placed) []⟩

def display (f : LogFilter) : String := ",".intercalate (f.directives.map LogDirective.display)

def fallback : LogFilter := ⟨[⟨some "cljw", .info⟩]⟩

/-- The environment's filter if it is set and parses, else the configured one, else the last
resort. -/
def choose (environment : Option String) (configured : String) : LogFilter :=
  ((environment.bind ofText?) <|> ofText? configured).getD fallback

end LogFilter

end CompileWorker
