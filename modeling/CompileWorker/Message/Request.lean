import CompileWorker.Json.Decoder

namespace CompileWorker

open Json

/-- A file that a request depends on. Its digest is empty if the build tool did not digest it. -/
structure Input where
  path : String
  digest : String := ""
  deriving DecidableEq, Repr

namespace Input

def isDigested (i : Input) : Bool := i.digest ≠ ""

def record : Record Input where
  name := "struct Input"
  initial := { path := "" }
  fields :=
    [.of .required "path" .string fun v i ↦ { i with path := v },
     .of .optional "digest" .string fun v i ↦ { i with digest := v }]
  isClosed := false

def decoder : Decoder Input := record.decoder

def toJson (i : Input) : Json := .object [("path", .string i.path), ("digest", .string i.digest)]

end Input

structure WorkRequest where
  arguments : List String := []
  inputs : List Input := []
  requestId : Int32 := 0
  verbosity : Int32 := 0
  sandboxDir : Option String := none
  deriving DecidableEq, Repr

namespace WorkRequest

def payload? (r : WorkRequest) : Option String := r.arguments.head?

def isVerbose (r : WorkRequest) : Bool := 0 < r.verbosity

def digestedInputs (r : WorkRequest) : List Input := r.inputs.filter (·.isDigested)

def record : Record WorkRequest where
  name := "struct WorkRequest"
  initial := {}
  fields :=
    [.of .optional "arguments" (.list .string) fun v r ↦ { r with arguments := v },
     .of .optional "inputs" (.list Input.decoder) fun v r ↦ { r with inputs := v },
     .of .optional "requestId" .int32 fun v r ↦ { r with requestId := v },
     .of .optional "verbosity" .int32 fun v r ↦ { r with verbosity := v },
     .of .optional "sandboxDir" (.optional .string) fun v r ↦ { r with sandboxDir := v }]
  isClosed := false

def decoder : Decoder WorkRequest := record.decoder

/-- A verbosity of zero and an absent sandbox are left out. -/
def toJson (r : WorkRequest) : Json :=
  .object (
    [("arguments", .array (r.arguments.map .string)),
     ("inputs", .array (r.inputs.map Input.toJson)),
     ("requestId", .int r.requestId.toInt)] ++
    (if r.verbosity = 0 then [] else [("verbosity", .int r.verbosity.toInt)]) ++
    r.sandboxDir.toList.map fun dir ↦ ("sandboxDir", .string dir))

end WorkRequest

end CompileWorker
