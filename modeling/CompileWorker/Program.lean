import CompileWorker.CommandLine
import CompileWorker.Digest.Fingerprint
import CompileWorker.Environment.Hosted
import CompileWorker.Flagfile
import CompileWorker.Service
import CompileWorker.Settings.Effective

namespace CompileWorker

structure Launch where
  arguments : List String
  settingsPath : Option String := none
  time : String
  deriving Repr

structure Outcome where
  exitCode : Int32 := 0
  output : String := ""
  diagnostics : String := ""
  deriving DecidableEq, Repr

namespace Program

def version : String := "cljw 0.1.0"

def usage : String := "Usage: cljw [OPTIONS] [ARGS]..."

variable {η : Type} [Hosts η]

inductive Task (η : Type)
  | finish (outcome : Outcome)
  | serve (dispatcher : Dispatcher (Hosted η))
  | handle (dispatcher : Dispatcher (Hosted η)) (arguments : List String)

def toolingKey (fs : Files) (settings : GuestSettings) : Except SystemError DigestMap :=
  if settings.fingerprintTooling then DigestMap.fingerprint fs settings.toolingClasspath
  else .ok .empty

def work (launch : Launch) (c : CommandLine) (hosts : η) : Task η :=
  match EffectiveSettings.build (Hosts.files hosts) (c.settingsPath <|> launch.settingsPath)
      c.overrides with
  | .error e =>
    .finish { exitCode := 2, diagnostics := "Configuration error: " ++ e.message ++ "\n" }
  | .ok effective =>
    if c.showsSettings then .finish { output := effective.report launch.time ++ "\n" }
    else
      let settings := effective.settings.worker
      match toolingKey (Hosts.files hosts) settings.guest with
      | .error _ => .finish { exitCode := 1 }
      | .ok toolingKey =>
        let dispatcher : Dispatcher (Hosted η) :=
          { policy := { settings, toolingKey }, world := { guests := .ofSettings settings hosts } }
        if c.isPersistent then .serve dispatcher else .handle dispatcher c.arguments

def begin (launch : Launch) (hosts : η) : Task η :=
  match CommandLine.read launch.arguments with
  | .error e => .finish { exitCode := 2, diagnostics := e.message ++ "\n" }
  | .ok .showVersion => .finish { output := version ++ "\n" }
  | .ok .showHelp => .finish { output := usage ++ "\n" }
  | .ok (.work c) => work launch c hosts

/-- Serves all requests of an input. There is no outcome if the service does not come to an end. -/
def serve (dispatcher : Dispatcher (Hosted η)) (source : Framing.Source) : Option Outcome × η :=
  let (result, s) := ({ dispatcher, source } : Service (Hosted η)).run
  let hosts := s.dispatcher.world.guests.hosts
  let outcome := result.map fun result ↦
    { exitCode := if result.isOk then 0 else 1
      output := s.sink.text
      diagnostics := Hosts.diagnostics hosts }
  (outcome, hosts)

/-- Handles the request of some arguments, flagfiles expanded. What a response says is written with
the errors, after what the guests wrote. -/
def handle (dispatcher : Dispatcher (Hosted η)) (arguments : List String) : Option Outcome × η :=
  match Flagfile.expand (Hosts.files dispatcher.world.guests.hosts) arguments with
  | .error _ => (some { exitCode := 1 }, dispatcher.world.guests.hosts)
  | .ok arguments =>
    let (response, d) := dispatcher.runOnce arguments
    let hosts := d.world.guests.hosts
    let outcome := response.map fun response ↦
      { exitCode := response.exitCode, diagnostics := Hosts.diagnostics hosts ++ response.output }
    (outcome, hosts)

def run (launch : Launch) (source : Framing.Source) (hosts : η) : Option Outcome × η :=
  match begin launch hosts with
  | .finish outcome => (some outcome, hosts)
  | .serve dispatcher => serve dispatcher source
  | .handle dispatcher arguments => handle dispatcher arguments

end Program

end CompileWorker
