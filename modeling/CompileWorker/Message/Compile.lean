import CompileWorker.Message.Error
import CompileWorker.Text.Blank

namespace CompileWorker

open Json

structure CompileRequest where
  aot : List String := []
  classesDir : String
  /-- Earlier entries shadow later ones. -/
  classpath : List String := []
  outputJar : String
  srcDir : Option String := none
  srcs : List String := []
  deriving DecidableEq, Repr

namespace CompileRequest

def record : Record CompileRequest where
  name := "struct CompileRequest"
  initial := { classesDir := "", outputJar := "" }
  fields :=
    [.of .optional "aot" (.list .string) fun v r ↦ { r with aot := v },
     .of .required "classes-dir" .string fun v r ↦ { r with classesDir := v },
     .of .optional "classpath" (.list .string) fun v r ↦ { r with classpath := v },
     .of .required "output-jar" .string fun v r ↦ { r with outputJar := v },
     .of .optional "src-dir" (.optional .string) fun v r ↦ { r with srcDir := v },
     .of .optional "srcs" (.list .string) fun v r ↦ { r with srcs := v }]
  isClosed := false

def decoder : Decoder CompileRequest := record.decoder

def toJson (r : CompileRequest) : Json :=
  .object (
    [("aot", .array (r.aot.map .string)),
     ("classes-dir", .string r.classesDir),
     ("classpath", .array (r.classpath.map .string)),
     ("output-jar", .string r.outputJar)] ++
    (r.srcDir.toList.map fun dir ↦ ("src-dir", .string dir)) ++
    [("srcs", .array (r.srcs.map .string))])

/-- The first condition that the request violates. -/
def problem? (r : CompileRequest) : Option WorkError :=
  if r.classesDir = "" then some (.invalidRequest "classes-dir must not be empty")
  else if r.outputJar = "" then some (.invalidRequest "output-jar must not be empty")
  else match r.classpath.findIdx? (· = "") with
    | some index => some (.emptyEntry "classpath" index)
    | none => (r.aot.findIdx? Text.isBlankText).map (.emptyEntry "aot")

def validate (r : CompileRequest) : Except WorkError CompileRequest :=
  match r.problem? with
  | some error => .error error
  | none => .ok r

def ofText (text : List UInt8) : Except WorkError CompileRequest :=
  match decoder.decode text with
  | .error e => .error (.invalidRequest ("invalid compile request: " ++ e.message))
  | .ok r => r.validate

def ofString (text : String) : Except WorkError CompileRequest := ofText (Utf8.encode text)

def ofArguments : List String → Except WorkError CompileRequest
  | [] => .error (.invalidRequest "missing compile request argument")
  | payload :: _ => ofString payload

end CompileRequest

end CompileWorker
