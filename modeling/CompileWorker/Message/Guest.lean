import CompileWorker.Json.Decoder

namespace CompileWorker

open Json

inductive GuestCommand
  | addLocation (path : String)
  | invoke (entryPoint payload : String)
  | shutdown
  deriving DecidableEq, Repr

namespace GuestCommand

private def setPath (path : String) : GuestCommand → GuestCommand
  | .addLocation _ => .addLocation path
  | c => c

private def setEntryPoint (entryPoint : String) : GuestCommand → GuestCommand
  | .invoke _ payload => .invoke entryPoint payload
  | c => c

private def setPayload (payload : String) : GuestCommand → GuestCommand
  | .invoke entryPoint _ => .invoke entryPoint payload
  | c => c

def tagged : Tagged GuestCommand where
  name := "GuestCommand"
  tag := "op"
  variants :=
    [("add-location",
      { name := "struct variant GuestCommand::AddLocation"
        initial := .addLocation ""
        fields := [.of .required "path" .string setPath]
        isClosed := false }),
     ("invoke",
      { name := "struct variant GuestCommand::Invoke"
        initial := .invoke "" ""
        fields := [.of .required "entry-point" .string setEntryPoint,
          .of .required "payload" .string setPayload]
        isClosed := false }),
     ("shutdown",
      { name := "unit variant GuestCommand::Shutdown", initial := .shutdown, fields := [],
        isClosed := false })]

def decoder : Decoder GuestCommand := tagged.decoder

def toJson : GuestCommand → Json
  | .addLocation path => .object [("op", .string "add-location"), ("path", .string path)]
  | .invoke entryPoint payload =>
    .object [("op", .string "invoke"), ("entry-point", .string entryPoint),
      ("payload", .string payload)]
  | .shutdown => .object [("op", .string "shutdown")]

end GuestCommand

inductive GuestReply
  | ok (value : Json) (output : String) (defined : List String)
  | error (message output : String)
  deriving Repr

namespace GuestReply

def ack : GuestReply := .ok .null "" []

def isAck : GuestReply → Bool
  | .ok .null "" [] => true
  | _ => false

private def setValue (value : Json) : GuestReply → GuestReply
  | .ok _ output defined => .ok value output defined
  | r => r

private def setOutput (output : String) : GuestReply → GuestReply
  | .ok value _ defined => .ok value output defined
  | .error message _ => .error message output

private def setDefined (defined : List String) : GuestReply → GuestReply
  | .ok value output _ => .ok value output defined
  | r => r

private def setMessage (message : String) : GuestReply → GuestReply
  | .error _ output => .error message output
  | r => r

def tagged : Tagged GuestReply where
  name := "GuestReply"
  tag := "status"
  variants :=
    [("ok",
      { name := "struct variant GuestReply::Ok"
        initial := ack
        fields :=
          [.of .optional "value" .any setValue,
           .of .optional "output" .string setOutput,
           .of .optional "defined" (.list .string) setDefined]
        isClosed := false }),
     ("error",
      { name := "struct variant GuestReply::Error"
        initial := .error "" ""
        fields := [.of .required "message" .string setMessage,
          .of .optional "output" .string setOutput]
        isClosed := false })]

def decoder : Decoder GuestReply := tagged.decoder

def toJson : GuestReply → Json
  | .ok value output defined =>
    .object
      [("status", .string "ok"), ("value", value), ("output", .string output),
       ("defined", .array (defined.map .string))]
  | .error message output =>
    .object [("status", .string "error"), ("message", .string message), ("output", .string output)]

end GuestReply

end CompileWorker
