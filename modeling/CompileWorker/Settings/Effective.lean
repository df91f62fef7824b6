import CompileWorker.Digest.Sha256
import CompileWorker.Files
import CompileWorker.Json.Merge
import CompileWorker.Settings.Basic
import CompileWorker.Settings.Source
import CompileWorker.Toml.Conversion

namespace CompileWorker

inductive SettingsError
  | unreadable (path : String) (error : SystemError)
  | notUtf8 (path : String) (fault : Utf8.Fault)
  | notToml (path : String)
  | undecodable (cause : Json.Cause)
  | unusable (problems : List String)
  deriving Repr

namespace SettingsError

private def describe (fault : Utf8.Fault) : String :=
  match fault.length with
  | some n => "invalid utf-8 sequence of " ++ toString n ++ " bytes from index " ++
      toString fault.offset
  | none => "incomplete utf-8 byte sequence from index " ++ toString fault.offset

def message : SettingsError → String
  | .unreadable path e => "cannot read " ++ path ++ ": " ++ e.text
  | .notUtf8 path fault => "cannot parse " ++ path ++ ": invalid UTF-8: " ++ describe fault
  | .notToml path => "cannot parse " ++ path ++ ": invalid TOML"
  | .undecodable cause => "invalid configuration: " ++ cause.message
  | .unusable problems => "invalid configuration: " ++ "; ".intercalate problems

end SettingsError

structure SettingsLayer where
  source : SettingsSource
  value : Json
  deriving Repr

namespace SettingsLayer

def builtin : SettingsLayer := ⟨{ origin := .builtin }, ({} : Settings).toValue⟩

def overrides (value : Json) : SettingsLayer := ⟨{ origin := .cli }, value⟩

def ofFile (fs : Files) (path : String) : Except SettingsError SettingsLayer := do
  let content ← (fs.read path).mapError (.unreadable path)
  let text ← (Utf8.decode content).mapError (.notUtf8 path)
  match Toml.parse text with
  | some value =>
    return ⟨{ origin := .file, path := some path, digest := some (Sha256.hexDigest content) },
      value⟩
  | none => throw (.notToml path)

end SettingsLayer

/-- The merged value with its sources, and the settings it decodes to. -/
structure EffectiveSettings where
  config : Json
  sources : List SettingsSource
  settings : Settings
  deriving Repr

namespace EffectiveSettings

def check (config : Json) : Except SettingsError Settings := do
  let settings ← (Settings.decoder.ofTree config).mapError .undecodable
  match settings.worker.problems with
  | [] => return settings
  | problems => throw (.unusable problems)

def ofLayers (layers : List SettingsLayer) : Except SettingsError EffectiveSettings := do
  let config := Json.mergeLayers (layers.map (·.value))
  return ⟨config, layers.map (·.source), ← check config⟩

/-- The defaults, then the file if there is one, then the overrides if there are any. -/
def build (fs : Files) (path : Option String) (overrides : Option Json) :
    Except SettingsError EffectiveSettings := do
  let file ← path.toList.mapM (SettingsLayer.ofFile fs)
  ofLayers (.builtin :: file ++ overrides.toList.map .overrides)

def get? (e : EffectiveSettings) (path : String) : Option Json := e.config.at? (path.splitOn ".")

def schema : String := "cljw/effective_config@1"

def report (createdAt : String) (e : EffectiveSettings) : String :=
  (Json.object
    [("schema_id", .string schema), ("created_at", .string createdAt), ("config", e.config),
     ("sources", .array (e.sources.map SettingsSource.toJson))]).layout 0

end EffectiveSettings

end CompileWorker
