import CompileWorker.Json.Decoder

namespace CompileWorker

open Json

structure EntryPoints where
  plan : String := "rules-clojure.jar/get-compilation-script-json"
  compile : String := "rules-clojure.compile/eval-script"
  package : String := "rules-clojure.jar/create-jar-json"
  deriving DecidableEq, Repr

namespace EntryPoints

def package? (e : EntryPoints) : Option String := if e.package = "" then none else some e.package

def record : Record EntryPoints where
  name := "struct EntryPoints"
  initial := {}
  fields :=
    [.of .optional "plan" .string fun v e ↦ { e with plan := v },
     .of .optional "compile" .string fun v e ↦ { e with compile := v },
     .of .optional "package" .string fun v e ↦ { e with package := v }]
  isClosed := true

def decoder : Decoder EntryPoints := record.decoder

def toJson (e : EntryPoints) : Json :=
  .object [("plan", .string e.plan), ("compile", .string e.compile), ("package", .string e.package)]

end EntryPoints

structure GuestSettings where
  command : List String := ["cljw-guest"]
  toolingClasspath : List String := []
  shutdownGrace : UInt64 := 2000
  fingerprintTooling : Bool := true
  deriving DecidableEq, Repr

namespace GuestSettings

def record : Record GuestSettings where
  name := "struct GuestConfig"
  initial := {}
  fields :=
    [.of .optional "command" (.list .string) fun v g ↦ { g with command := v },
     .of .optional "tooling-classpath" (.list .string) fun v g ↦ { g with toolingClasspath := v },
     .of .optional "shutdown-grace-ms" (.uint64 "u64") fun v g ↦ { g with shutdownGrace := v },
     .of .optional "fingerprint-tooling" .bool fun v g ↦ { g with fingerprintTooling := v }]
  isClosed := true

def decoder : Decoder GuestSettings := record.decoder

def toJson (g : GuestSettings) : Json :=
  .object
    [("command", .array (g.command.map .string)),
     ("tooling-classpath", .array (g.toolingClasspath.map .string)),
     ("shutdown-grace-ms", .nat g.shutdownGrace.toNat),
     ("fingerprint-tooling", .bool g.fingerprintTooling)]

end GuestSettings

structure WorkerSettings where
  entryPoints : EntryPoints := {}
  maxRestarts : UInt32 := 1
  maxMessageBytes : UInt64 := 16777216
  guest : GuestSettings := {}
  deriving DecidableEq, Repr

namespace WorkerSettings

def record : Record WorkerSettings where
  name := "struct WorkerConfig"
  initial := {}
  fields :=
    [.of .optional "entry-points" EntryPoints.decoder fun v w ↦ { w with entryPoints := v },
     .of .optional "max-restarts" .uint32 fun v w ↦ { w with maxRestarts := v },
     .of .optional "max-message-bytes" (.uint64 "usize") fun v w ↦ { w with maxMessageBytes := v },
     .of .optional "guest" GuestSettings.decoder fun v w ↦ { w with guest := v }]
  isClosed := true

def decoder : Decoder WorkerSettings := record.decoder

def toJson (w : WorkerSettings) : Json :=
  .object
    [("entry-points", w.entryPoints.toJson),
     ("max-restarts", .nat w.maxRestarts.toNat),
     ("max-message-bytes", .nat w.maxMessageBytes.toNat),
     ("guest", w.guest.toJson)]

/-- The least message size that may be set. -/
def leastMessageBytes : UInt64 := 1024

/-- Every setting that cannot be used, in words. -/
def problems (w : WorkerSettings) : List String :=
  (if w.entryPoints.plan = "" then ["worker.entry-points.plan must not be empty"] else []) ++
  (if w.entryPoints.compile = "" then ["worker.entry-points.compile must not be empty"] else []) ++
  (if w.guest.command.head?.getD "" = "" then
    ["worker.guest.command must name a program"] else []) ++
  (if w.maxMessageBytes < leastMessageBytes then
    ["worker.max-message-bytes must be at least " ++ toString leastMessageBytes.toNat ++ ", got " ++
      toString w.maxMessageBytes.toNat]
   else [])

end WorkerSettings

structure LoggingSettings where
  filter : String := "cljw=info"
  ansi : Bool := false
  deriving DecidableEq, Repr

namespace LoggingSettings

def record : Record LoggingSettings where
  name := "struct LoggingConfig"
  initial := {}
  fields :=
    [.of .optional "filter" .string fun v l ↦ { l with filter := v },
     .of .optional "ansi" .bool fun v l ↦ { l with ansi := v }]
  isClosed := true

def decoder : Decoder LoggingSettings := record.decoder

def toJson (l : LoggingSettings) : Json :=
  .object [("filter", .string l.filter), ("ansi", .bool l.ansi)]

end LoggingSettings

structure Settings where
  worker : WorkerSettings := {}
  logging : LoggingSettings := {}
  deriving DecidableEq, Repr

namespace Settings

def record : Record Settings where
  name := "struct Settings"
  initial := {}
  fields :=
    [.of .optional "worker" WorkerSettings.decoder fun v s ↦ { s with worker := v },
     .of .optional "logging" LoggingSettings.decoder fun v s ↦ { s with logging := v }]
  isClosed := true

def decoder : Decoder Settings := record.decoder

def toJson (s : Settings) : Json :=
  .object [("worker", s.worker.toJson), ("logging", s.logging.toJson)]

def toValue (s : Settings) : Json := s.toJson.canonical

end Settings

end CompileWorker
