import CompileWorker.Environment.World

namespace CompileWorker

inductive FaultSite
  | create
  | load
  | invoke
  | discard
  deriving DecidableEq, Repr

structure Fault where
  site : FaultSite
  name : String
  error : EnvironmentError
  deriving Repr

/-- Guests with the faults that wait for them, the oldest first. -/
structure Faulty (σ : Type) where
  guests : σ
  faults : List Fault := []

namespace Faulty

variable {σ : Type}

def strike (site : FaultSite) (name : String) : List Fault → Option EnvironmentError × List Fault
  | [] => (none, [])
  | fault :: faults =>
    if fault.site = site ∧ fault.name = name then (some fault.error, faults)
    else
      let (error, faults) := strike site name faults
      (error, fault :: faults)

instance [Guests σ] : Guests (Faulty σ) where
  start id role f :=
    match strike .create role.name f.faults with
    | (some e, faults) => (.refused e, { f with faults })
    | (none, _) =>
      let (start, guests) := Guests.start id role f.guests
      (start, { f with guests })
  load env location f :=
    match strike .load location f.faults with
    | (some e, faults) => (.error e, { f with faults })
    | (none, _) =>
      let (answer, guests) := Guests.load env location f.guests
      (answer, { f with guests })
  invoke env entryPoint payload f :=
    match strike .invoke entryPoint f.faults with
    | (some e, faults) => ((.error e, []), { f with faults })
    | (none, _) =>
      let (answer, guests) := Guests.invoke env entryPoint payload f.guests
      (answer, { f with guests })
  discard env f :=
    let (answer, guests) := Guests.discard env f.guests
    match strike .discard env.role.name f.faults with
    | (some e, faults) => (.error e, { guests, faults })
    | (none, _) => (answer, { f with guests })
  abandon env f := { f with guests := Guests.abandon env f.guests }

end Faulty

end CompileWorker
