import CompileWorker.Json.Decoder

namespace CompileWorker

open Json

structure WorkResponse where
  exitCode : Int32
  output : String := ""
  requestId : Int32 := 0
  wasCancelled : Bool := false
  deriving DecidableEq, Repr

namespace WorkResponse

def success (requestId : Int32) (output : String) : WorkResponse :=
  { exitCode := 0, output, requestId }

def failure (requestId : Int32) (output : String) : WorkResponse :=
  { exitCode := 1, output, requestId }

def isSuccess (r : WorkResponse) : Bool := r.exitCode = 0

def record : Record WorkResponse where
  name := "struct WorkResponse"
  initial := { exitCode := 0 }
  fields :=
    [.of .required "exitCode" .int32 fun v r ↦ { r with exitCode := v },
     .of .optional "output" .string fun v r ↦ { r with output := v },
     .of .optional "requestId" .int32 fun v r ↦ { r with requestId := v },
     .of .optional "wasCancelled" .bool fun v r ↦ { r with wasCancelled := v }]
  isClosed := false

def decoder : Decoder WorkResponse := record.decoder

def toJson (r : WorkResponse) : Json :=
  .object (
    [("exitCode", .int r.exitCode.toInt), ("output", .string r.output),
      ("requestId", .int r.requestId.toInt)] ++
    if r.wasCancelled then [("wasCancelled", .bool true)] else [])

end WorkResponse

end CompileWorker
