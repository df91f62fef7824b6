import CompileWorker.Json.Decoder

namespace CompileWorker

open Json

inductive ErrorCode
  | invalidRequest
  | resolutionFailed
  | environmentFailed
  | compilerFailed
  | restartLoop
  | guestProtocol
  deriving DecidableEq, Repr

namespace ErrorCode

def name : ErrorCode → String
  | .invalidRequest => "INVALID_REQUEST"
  | .resolutionFailed => "RESOLUTION_FAILED"
  | .environmentFailed => "ENVIRONMENT_FAILED"
  | .compilerFailed => "COMPILER_FAILED"
  | .restartLoop => "RESTART_LOOP"
  | .guestProtocol => "GUEST_PROTOCOL"

def all : List ErrorCode :=
  [.invalidRequest, .resolutionFailed, .environmentFailed, .compilerFailed, .restartLoop,
    .guestProtocol]

def decoder : Decoder ErrorCode := .oneOf (all.map fun code ↦ (code.name, code))

def toJson (code : ErrorCode) : Json := .string code.name

end ErrorCode

structure WorkError where
  code : ErrorCode
  message : String
  data : Option Json := none
  deriving Repr

namespace WorkError

def display (e : WorkError) : String := e.code.name ++ ": " ++ e.message

def record : Record WorkError where
  name := "struct WorkError"
  initial := { code := .invalidRequest, message := "" }
  fields :=
    [.of .required "code" ErrorCode.decoder fun v e ↦ { e with code := v },
     .of .required "message" .string fun v e ↦ { e with message := v },
     .of .optionalByName "data" (.optional .any) fun v e ↦ { e with data := v }]
  isClosed := false

def decoder : Decoder WorkError := record.decoder

def toJson (e : WorkError) : Json :=
  .object ([("code", e.code.toJson), ("message", .string e.message)] ++
    e.data.toList.map fun j ↦ ("data", j))

def invalidRequest (message : String) : WorkError := { code := .invalidRequest, message }

def resolutionFailed (location reason : String) : WorkError where
  code := .resolutionFailed
  message := "cannot load classpath location '" ++ location ++ "': " ++ reason
  data := some (.object [("location", .string location)])

def compilerFailed (entryPoint message : String) : WorkError where
  code := .compilerFailed
  message := entryPoint ++ " failed: " ++ message
  data := some (.object [("entry_point", .string entryPoint)])

def restartLoop (attempts : UInt32) : WorkError where
  code := .restartLoop
  message := "compiler requested a restart " ++ toString attempts.toNat ++ " times in a row"
  data := some (.object [("attempts", .nat attempts.toNat)])

def guestProtocol (message : String) : WorkError := { code := .guestProtocol, message }

def emptyEntry (field : String) (index : Nat) : WorkError where
  code := .invalidRequest
  message := field ++ " entry " ++ toString index ++ " is empty"
  data := some (.object [("field", .string field), ("index", .nat index)])

end WorkError

end CompileWorker
