import CompileWorker.Environment.World
import CompileWorker.Files
import CompileWorker.Message.Guest
import CompileWorker.Settings.Basic

namespace CompileWorker

structure HostCommand where
  program : String
  arguments : List String
  bindings : List (String × String)
  deriving DecidableEq, Repr

class Hosts (η : Type) where
  files : η → Files
  start : EnvironmentId → HostCommand → η → Except SystemError (List Framing.Piece) × η
  send : EnvironmentId → String → η → Except SystemError (List Framing.Piece) × η
  /-- closes the input of a program and waits for its end, which is forced after so many
  milliseconds -/
  stop : EnvironmentId → Nat → η → η
  diagnostics : η → String

/-- Guests in host programs. A channel is open from the start of a program to its release; it holds
what the program wrote and nobody has read. -/
structure Hosted (η : Type) where
  hosts : η
  command : List String
  limit : Nat
  grace : Nat
  channels : EnvironmentId → Option Framing.Source := fun _ ↦ none

namespace Hosted

variable {η : Type} [Hosts η]

def ofSettings (settings : WorkerSettings) (hosts : η) : Hosted η :=
  { hosts, command := settings.guest.command, limit := settings.maxMessageBytes.toNat,
    grace := settings.guest.shutdownGrace.toNat }

def setChannel (id : EnvironmentId) (channel : Option Framing.Source) (h : Hosted η) : Hosted η :=
  { h with channels := fun i ↦ if i = id then channel else h.channels i }

def roleVariable : String := "CLJW_ROLE"

def idVariable : String := "CLJW_ENVIRONMENT_ID"

def start (id : EnvironmentId) (role : Role) (h : Hosted η) : Start × Hosted η :=
  match h.command with
  | [] => (.failed (.invalidCommand "guest command is empty"), h)
  | program :: arguments =>
    let bindings := [(roleVariable, role.name), (idVariable, toString id.number)]
    match Hosts.start id { program, arguments, bindings } h.hosts with
    | (.error e, hosts) => (.failed (.spawn program e), { h with hosts })
    | (.ok pieces, hosts) => (.started, setChannel id (some { pieces }) { h with hosts })

def request (id : EnvironmentId) (command : GuestCommand) (h : Hosted η) :
    Except EnvironmentError GuestReply × Hosted η :=
  match h.channels id with
  | none => (.error .closed, h)
  | some channel =>
    match Hosts.send id command.toJson.text h.hosts with
    | (.error e, hosts) => (.error (.frame (.io e)), { h with hosts })
    | (.ok pieces, hosts) =>
      let (reply, channel) :=
        Framing.readMessage GuestReply.decoder h.limit
          { channel with pieces := channel.pieces ++ pieces }
      (match reply with
        | .ok (some reply) => .ok reply
        | .ok none => .error .closed
        | .error e => .error (.frame e),
       setChannel id (some channel) { h with hosts })

/-- Loads a location that exists. A reply without an error is an acknowledgement, whatever it
says. -/
def load (env : Environment) (location : String) (h : Hosted η) :
    Except EnvironmentError Unit × Hosted η :=
  match (Hosts.files h.hosts).find location with
  | .error e => (.error (.resolution location e.text), h)
  | .ok _ =>
    match h.request env.id (.addLocation location) with
    | (.ok (.ok ..), h) => (.ok (), h)
    | (.ok (.error message _), h) => (.error (.resolution location message), h)
    | (.error e, h) => (.error e, h)

def invoke (env : Environment) (entryPoint payload : String) (h : Hosted η) :
    (Except EnvironmentError Invocation × List String) × Hosted η :=
  match h.request env.id (.invoke entryPoint payload) with
  | (.ok (.ok value output defined), h) => ((.ok ⟨value, output⟩, defined), h)
  | (.ok (.error message output), h) => ((.error (.guest entryPoint message output), []), h)
  | (.error e, h) => ((.error e, []), h)

/-- Asks the program of an environment to exit, once. It need not be there to hear it. -/
def release (id : EnvironmentId) (h : Hosted η) : Hosted η :=
  match h.channels id with
  | none => h
  | some _ =>
    let (_, hosts) := Hosts.send id GuestCommand.shutdown.toJson.text h.hosts
    setChannel id none { h with hosts := Hosts.stop id h.grace hosts }

instance : Guests (Hosted η) where
  start := start
  load := load
  invoke := invoke
  discard env h := (.ok (), h.release env.id)
  abandon env h := h.release env.id

end Hosted

end CompileWorker
