import ClusterPlacement.CommandLine.Execution
import ClusterPlacement.Controller
import ClusterPlacement.Store.Form
import Std.Time.DateTime.Timestamp
/-! The program: its commands on the machine that it runs on. A store is kept in a file as the text of
its JSON form. -/

namespace ClusterPlacement.CommandLine

/-- The system's number for reading a directory as a file. -/
def isDirectoryCode : UInt32 := 21

/-- The system's number for a path that is too long, given with a minus sign. -/
def nameTooLongCode : UInt32 := 0 - 36

def ReadError.ofIO : IO.Error → ReadError
  | .noFileOrDirectory _ _ _ | .noSuchThing _ _ _ => .missing
  | .inappropriateType _ code _ => if code = isDirectoryCode then .isDirectory else .notDirectory
  | e@(.invalidArgument _ code _) =>
    if code = nameTooLongCode then .nameTooLong else .other e.toString
  | e => .other e.toString

namespace Machine

def readText (path : String) : IO (Except ReadError String) := do
  match ← (IO.FS.readBinFile path).toBaseIO with
  | .error e => return .error (.ofIO e)
  | .ok bytes => match String.fromUTF8? bytes with
    | some text => return .ok text
    | none => return .error .notText

/-- The empty path is the current directory. -/
def makeDirectory (path : String) : IO Bool := do
  if path = "" then return true
  match ← (IO.FS.createDirAll path).toBaseIO with
  | .ok _ => return true
  | .error _ => return false

def saveStore (path : String) (s : Store) : IO Unit :=
  IO.FS.writeFile path (Json.compactText (Store.form.encode s))

/-- An empty file is a store without records. -/
def openStore (path : String) : IO (Option Store) := do
  match ← readText path with
  | .error .missing | .ok "" =>
    match ← (saveStore path .empty).toBaseIO with
    | .ok _ => return some .empty
    | .error _ => return none
  | .error _ => return none
  | .ok text => match Store.form.decodeText text.toList with
    | .ok s => return some s
    | .error _ => return none

def time : IO UInt64 := do
  return UInt64.ofInt (← Std.Time.Timestamp.now).toSecondsSinceUnixEpoch.val

def host : Host IO := ⟨readText, makeDirectory, openStore, saveStore, time⟩

/-- A random factor from 0.5 up to but not including 1.5, one for each key. -/
def drawFactors (keys : List String) : IO (String → Binary64) := do
  let range := Binary64.binade
  let drawn ← keys.mapM fun key => do
    return (key, Binary64.ofRatio false (range + 2 * (← IO.rand 0 (range - 1))) (2 * range))
  let factors := Table.ofList drawn
  return fun key => (factors.find? key).getD (.ofNat 1)

/-- The controller's clock, which counts from an arbitrary moment. -/
def now : IO Duration := do return ⟨← IO.monoNanosNow⟩

/-- The longest sleep without a break, in milliseconds. -/
def longestSleep : Nat := UInt32.size - 1

partial def sleep (milliseconds : Nat) : IO Unit := do
  IO.sleep (.ofNat (min milliseconds longestSleep))
  if longestSleep < milliseconds then sleep (milliseconds - longestSleep)

/-- Passes over the store until the process is stopped. A pass is worked out in one go, so the time of day is
read once for all of it. -/
partial def serve (path : String) (c : Controller) : IO Outcome := do
  match ← openStore path with
  | none => return .failed "failed to open database"
  | some s =>
    let factor ← drawFactors (s.policyList.map Policy.key)
    let time ← time
    match c.pass ⟨← now, fun _ => time, factor⟩ s with
    | none => return .failed "a wait is too long"
    | some p =>
      saveStore path p.store
      sleep ((p.controller.nextWake (← now)).nanoseconds / 1000000 + 1)
      serve path p.controller

def startServing (i : Invocation) : IO Outcome := do
  let prepared ← (do
    let config ← loadConfig host i
    let _ ← openStoreOf host config
    return config : ExceptT String IO Config).run
  match prepared with
  | .error message => return .failed message
  | .ok config => serve config.storePath (.new config.settings)

/-- Does what the arguments ask for. -/
def run (args : List String) : IO Outcome :=
  match Request.ofArguments args with
  | .invoke i => match i.task with
    | .perform c => CommandLine.perform host i c
    | .serve => startServing i
  | .version => return .success versionText
  | .help => return .success usageText
  | .misuse => return ⟨2, "", usageText⟩

end Machine

end ClusterPlacement.CommandLine

def main (args : List String) : IO UInt32 := do
  let outcome ← ClusterPlacement.CommandLine.Machine.run args
  IO.print outcome.stdout
  IO.eprint outcome.stderr
  return .ofNat outcome.exitCode
