import CompileWorker.Message.Error

namespace CompileWorker

inductive Signal
  | ok
  /-- the result stands, but the environment must not serve another request -/
  | okThenInvalidate
  /-- the environment is in the way: try again in a fresh one -/
  | retry
  deriving DecidableEq, Repr

namespace Signal

def keyword : String := ":rules-clojure.compile/"

def token? : Signal → Option String
  | .ok => none
  | .okThenInvalidate => some "reload"
  | .retry => some "restart"

def ofToken? (token : String) : Option Signal :=
  if token = "reload" ∨ token = keyword ++ "reload" then some .okThenInvalidate
  else if token = "restart" ∨ token = keyword ++ "restart" then some .retry
  else none

def ofValue : Json → Except WorkError Signal
  | .null => .ok .ok
  | .string token =>
    match ofToken? token with
    | some signal => .ok signal
    | none => .error (.guestProtocol ("unknown compile signal " ++ Text.quoted token))
  | j => .error (.guestProtocol ("compile signal must be null or a string, got " ++ j.text))

end Signal

end CompileWorker
