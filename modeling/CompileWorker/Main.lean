import CompileWorker.Program.Paths
import Std.Time.Format

namespace CompileWorker

open Shell (Scripts)

def look (fs : Files) (path : String) : IO Files := do
  if path = "" || (fs.find path).isOk then return fs
  try
    let content ← IO.FS.readBinFile path
    return fs.put (Files.namesOf path) (.file content.toList)
  catch
    | .inappropriateType .. => return fs.put (Files.namesOf path) .directory
    | _ => return fs

def rounds : Nat := 4

def snapshot (paths : Files → List String) : IO Files := do
  let mut fs : Files := {}
  for _ in [0:rounds] do
    for path in paths fs do
      fs ← look fs path
  return fs

def pathOf (names : List String) : String :=
  match names with
  | "/" :: names => "/" ++ "/".intercalate names
  | names => "/".intercalate names

def store (before after : Files) : IO Unit := do
  for (names, _) in before.entries do
    if (after.node? names).isNone then
      try IO.FS.removeFile (pathOf names) catch _ => IO.FS.removeDirAll (pathOf names)
  for (names, node) in after.entries do
    if after.node? names = some node && before.node? names ≠ some node then
      match node with
      | .file content => IO.FS.writeBinFile (pathOf names) ⟨content.toArray⟩
      | .directory => IO.FS.createDirAll (pathOf names)

partial def readLine (input : IO.FS.Stream) (line : ByteArray) : IO ByteArray := do
  let next ← input.read 1
  let line := line ++ next
  if next.isEmpty || next.toList = [0x0A] then return line else readLine input line

def exitOfPanic : UInt32 := 101

/-- Answers line by line, so that an answer does not wait for the next request. -/
partial def serveLines (launch : Launch) (s : Service (Hosted Scripts)) : IO UInt32 := do
  let line := (← readLine (← IO.getStdin) .empty).toList
  let before ← snapshot fun fs ↦ launch.paths fs ++ WorkRequest.paths line
  let (result, s) :=
    { s with dispatcher.world.guests.hosts.files := before, source := .ofBytes line }.serve
  let some result := result | return exitOfPanic
  let isOver := line.isEmpty || !result.isOk
  let s := if isOver then { s with dispatcher := s.dispatcher.shutdown.2 } else s
  let output ← IO.getStdout
  output.putStr s.sink.text
  output.flush
  let hosts := s.dispatcher.world.guests.hosts
  (← IO.getStderr).putStr (Hosts.diagnostics hosts)
  store before hosts.files
  if isOver then return if result.isOk then 0 else 1
  serveLines launch { s with sink := {}, dispatcher.world.guests.hosts.diagnostics := [] }

def finish (outcome : Outcome) : IO UInt32 := do
  (← IO.getStdout).putStr outcome.output
  (← IO.getStderr).putStr outcome.diagnostics
  return outcome.exitCode.toInt.toNat.toUInt32

def timeFormat : String := "uuuu-MM-dd'T'HH:mm:ss.SSSSSSSSS'Z'"

end CompileWorker

open CompileWorker

def main (arguments : List String) : IO UInt32 := do
  let time := (Std.Time.DateTime.ofTimestamp (← Std.Time.Timestamp.now) .UTC).format timeFormat
  let launch : Launch := { arguments, settingsPath := ← IO.getEnv "CLJW_CONFIG", time }
  let before ← snapshot launch.paths
  let hosts : Shell.Scripts := { files := before }
  match Program.begin launch hosts with
  | .finish outcome => finish outcome
  | .serve dispatcher => serveLines launch { dispatcher, source := .ofBytes [] }
  | .handle dispatcher arguments =>
    let (outcome, hosts) := Program.handle dispatcher arguments
    store before hosts.files
    match outcome with
    | none => return exitOfPanic
    | some outcome => finish outcome
