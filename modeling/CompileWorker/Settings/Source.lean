import CompileWorker.Json.Decoder

namespace CompileWorker

open Json

inductive Origin
  | builtin
  | file
  | cli
  deriving DecidableEq, Repr

namespace Origin

def name : Origin → String
  | .builtin => "builtin"
  | .file => "file"
  | .cli => "cli"

def decoder : Decoder Origin := .oneOf ([builtin, file, cli].map fun origin ↦ (origin.name, origin))

end Origin

structure SettingsSource where
  origin : Origin
  path : Option String := none
  digest : Option String := none
  deriving DecidableEq, Repr

namespace SettingsSource

def record : Record SettingsSource where
  name := "struct ConfigSource"
  initial := { origin := .builtin }
  fields :=
    [.of .required "origin" Origin.decoder fun v s ↦ { s with origin := v },
     .of .optionalByName "path" (.optional .string) fun v s ↦ { s with path := v },
     .of .optionalByName "digest" (.optional .string) fun v s ↦ { s with digest := v }]
  isClosed := false

def decoder : Decoder SettingsSource := record.decoder

def toJson (s : SettingsSource) : Json :=
  .object (
    [("origin", .string s.origin.name)] ++
    (s.path.toList.map fun path ↦ ("path", .string path)) ++
    s.digest.toList.map fun digest ↦ ("digest", .string digest))

end SettingsSource

end CompileWorker
