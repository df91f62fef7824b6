import CompileWorker.Program
import CompileWorker.Shell.Hosts

namespace CompileWorker

def CompileRequest.paths (payload : String) : List String :=
  match CompileRequest.ofString payload with
  | .ok r => r.classpath
  | .error _ => []

def WorkRequest.paths (line : List UInt8) : List String :=
  match WorkRequest.decoder.decode line with
  | .ok r => r.arguments.take 1 |>.flatMap CompileRequest.paths
  | .error _ => []

namespace CommandLine

def guestPaths (guest : GuestSettings) (fs : Files) : List String :=
  Shell.Scripts.paths fs guest.command ++ guest.toolingClasspath

def argumentPaths (c : CommandLine) (fs : Files) : List String :=
  c.arguments.filterMap Flagfile.path? ++
    match Flagfile.expand fs c.arguments with
    | .ok (payload :: _) => CompileRequest.paths payload
    | _ => []

end CommandLine

def Launch.paths (launch : Launch) (fs : Files) : List String :=
  match CommandLine.read launch.arguments with
  | .ok (.work c) =>
    let path := c.settingsPath <|> launch.settingsPath
    let guest := match EffectiveSettings.build fs path c.overrides with
      | .ok effective => CommandLine.guestPaths effective.settings.worker.guest fs
      | .error _ => []
    path.toList ++ guest ++ c.argumentPaths fs
  | _ => []

end CompileWorker
