import Std.Time.DateTime.Timestamp
import Bulletin.Http.Wire
import Bulletin.Service.Session
import Bulletin.Settings.Start

namespace Bulletin

def settingNames : List String :=
  ["SERVER_ADDRESS", "SERVER_PORT", "DATABASE_URL", "DATABASE_MAX_CONNECTIONS"]

def setVariables : IO Variables :=
  settingNames.filterMapM fun name => do return (← IO.getEnv name).map (name, ·)

def dotenvFile : IO (Option String) := do
  try return some (← IO.FS.readFile ".env") catch _ => return none

def clock : IO Timestamp := do
  return ⟨(← Std.Time.Timestamp.now).toNanosecondsSinceUnixEpoch.toInt, 0⟩

def readLine (input : IO.FS.Stream) : IO String := do
  return (← input.getLine).trimAsciiEnd.toString

partial def readHeaders (input : IO.FS.Stream) : IO (List String) := do
  let line ← readLine input
  if line.isEmpty then return [] else return line :: (← readHeaders input)

partial def readBody (input : IO.FS.Stream) (length : Nat) : IO Bytes := do
  if length = 0 then return []
  let chunk ← input.read length.toUSize
  if chunk.isEmpty then return []
  return chunk.data.toList ++ (← readBody input (length - chunk.size))

partial def serveAll (input output : IO.FS.Stream) (memory : Memory) : IO Unit := do
  let first ← readLine input
  if first.isEmpty then return
  match Request.ofHead? first (← readHeaders input) with
  | none => serveAll input output memory
  | some (request, length) =>
    let request := { request with body := ← readBody input length }
    let (response, memory) := memory.answer (← clock) request
    output.write ⟨response.write.toArray⟩
    output.flush
    serveAll input output memory

def start : IO UInt32 := do
  match (Settings.load (← setVariables) (← dotenvFile)).bind Settings.backend with
  | .error e =>
    IO.eprintln e.message
    return 1
  | .ok (.database url _) =>
    IO.eprintln ("There is no connection to " ++ url)
    return 1
  | .ok .memory =>
    serveAll (← IO.getStdin) (← IO.getStdout) {}
    return 0

end Bulletin

def main : IO UInt32 := Bulletin.start
