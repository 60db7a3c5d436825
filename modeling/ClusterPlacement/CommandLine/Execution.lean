import ClusterPlacement.CommandLine.Arguments
import ClusterPlacement.Config
import ClusterPlacement.Json.Printing
import ClusterPlacement.Reconcile.Form
import ClusterPlacement.Store.Form
/-! What the commands do, on any machine that can read files, keep stores and tell the time. -/

namespace ClusterPlacement.CommandLine

/-- Why a file cannot be read as text. -/
inductive ReadError where
  | missing
  | isDirectory
  | notDirectory
  | nameTooLong
  | notText
  | other (message : String)

def ReadError.message : ReadError → String
  | missing => "No such file or directory (os error 2)"
  | isDirectory => "Is a directory (os error 21)"
  | notDirectory => "Not a directory (os error 20)"
  | nameTooLong => "File name too long (os error 36)"
  | notText => "stream did not contain valid UTF-8"
  | other message => message

/-- What a command needs from the machine it runs on. -/
structure Host (m : Type → Type) where
  readText : String → m (Except ReadError String)
  /-- Makes a directory with all those above it, and tells whether it is there now. -/
  makeDirectory : String → m Bool
  /-- The store in a file, which is made if it is missing; nothing if the file is no store. -/
  openStore : String → m (Option Store)
  saveStore : String → Store → m Unit
  /-- Seconds since 1970. -/
  time : m UInt64

/-- How a command ends. -/
structure Outcome where
  exitCode : Nat
  stdout : String
  stderr : String
deriving DecidableEq

namespace Outcome

def success (stdout : String) : Outcome := ⟨0, stdout, ""⟩

def failed (message : String) : Outcome := ⟨1, "", "Error: " ++ message ++ "\n"⟩

end Outcome

def versionText : String := "fleetd 0.1.0\n"

def usageText : String :=
  "Usage: fleetd [--config <PATH>] [--data-dir <PATH>] <run|apply|schedule|status|config>\n"

/-- Values are printed over several lines, and a line break ends them. -/
def printed (v : Json) : String := Json.prettyText v ++ "\n"

section

variable {m : Type → Type} [Monad m]

/-- The configuration of an invocation: from its file or by default, with the directory of the store
as given. -/
def loadConfig (h : Host m) (i : Invocation) : ExceptT String m Config := do
  let c ← match i.configFile with
    | none => pure Config.default
    | some path => do
      match ← h.readText path with
      | .error e => throw e.message
      | .ok text => match Config.read text.toList with
        | .ok c => pure c
        | .error .unreadable => throw "TOML parse error"
        | .error (.invalid e) => throw e.message
  return { c with dataDir := i.dataDir.getD c.dataDir }

/-- Opens the store of a configuration, in a directory that is made for it. -/
def openStoreOf (h : Host m) (c : Config) : ExceptT String m Store := do
  if !(← h.makeDirectory c.dataDir) then throw ("failed to create " ++ c.dataDir)
  match ← h.openStore c.storePath with
  | some s => return s
  | none => throw "failed to open database"

def loadManifest (h : Host m) (file : String) : ExceptT String m Manifest := do
  match ← h.readText file with
  | .error _ => throw ("failed to read " ++ file)
  | .ok text => match Manifest.form.decodeText text.toList with
    | .ok manifest => return manifest
    | .error _ => throw ("failed to parse " ++ file)

/-- Refuses what is no key of a policy. -/
def checkKey (key : String) : Except String Unit :=
  if (splitObjectKey? key).isSome then .ok ()
  else .error ("expected a policy key of the form namespace/name, got " ++ Text.quoted key)

/-- What `status` shows of a policy. -/
def statusOf (s : Store) (key : String) : Except String Json := do
  checkKey key
  match s.policy? key with
  | none => .error ("schedule policy not found: " ++ key)
  | some p => match s.binding? p.ns p.bindingName with
    | none => .error ("policy " ++ key ++ " has not been scheduled yet")
    | some b =>
      let time (t : Option UInt64) : Json := .ofOption (fun t => .natural t.toNat) t
      return Json.sortKeys <| .object
        [("policy", .string key), ("last_schedule_time", time p.status.lastScheduleTime),
          ("last_modify_time", time p.status.lastModifyTime),
          ("binding", (BindingStatus.ofBinding b).toJson)]

/-- Runs a command that works on a store, and gives what it prints and the store after it. -/
def onStore (h : Host m) (s : Store) : Command → ExceptT String m (Json × Store)
  | .apply file => do
    match (← loadManifest h file).apply s with
    | .ok (counts, s) => return (counts.toJson, s)
    | .error e => throw e.message
  | .schedule key true => do
    let _ ← (checkKey key : Except String Unit)
    match s.plan key with
    | .ok plan => return (plan.toJson, s)
    | .error e => throw e.message
  | .schedule key false => do
    let _ ← (checkKey key : Except String Unit)
    match s.reconcile (← h.time) key with
    | .ok (outcome, s) => return (outcome.toJson, s)
    | .error e => throw e.message
  | .status key => do return (← statusOf s key, s)
  | .config => return (.null, s)

/-- Runs a command and gives its output. -/
def output (h : Host m) (i : Invocation) (c : Command) : ExceptT String m String := do
  let config ← loadConfig h i
  if c = .config then
    match config.write? with
    | some text => return String.ofList text
    | none => throw "out-of-range value for u64 type"
  else
    let s ← openStoreOf h config
    let (v, s) ← onStore h s c
    h.saveStore config.storePath s
    return printed v

def perform (h : Host m) (i : Invocation) (c : Command) : m Outcome := do
  match ← (output h i c).run with
  | .ok text => return .success text
  | .error message => return .failed message

end

end ClusterPlacement.CommandLine
