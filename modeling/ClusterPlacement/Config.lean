import ClusterPlacement.Settings
import ClusterPlacement.Toml.Assembly
/-! The configuration: where the store is kept, how the controller works, and what is logged. It is
read from TOML, in which everything may be left out, and written back in full. -/

namespace ClusterPlacement

structure LogSettings where
  filter : String
  /-- Whether log lines are JSON. -/
  json : Bool
deriving DecidableEq

structure Config where
  /-- The directory of the store's file. -/
  dataDir : String
  settings : Settings
  logging : LogSettings
deriving DecidableEq

inductive ConfigError where
  /-- The text is not TOML, or a value has the wrong type. -/
  | unreadable
  | invalid (e : SettingsError)
deriving DecidableEq

def LogSettings.default : LogSettings := ⟨"info,fleetd=debug,fleetbind=debug", false⟩

namespace Config

def defaultDataDir : String := "/var/lib/fleetbind"

def default : Config := ⟨defaultDataDir, .default, .default⟩

def storeFileName : String := "fleetbind.redb"

/-- The path of a file in a directory. The empty path is the current directory. -/
def inDirectory (dir file : String) : String :=
  match dir.toList.getLast? with
  | none => file
  | some c => if c = '/' then dir ++ file else dir ++ "/" ++ file

/-- The file that the store is kept in. -/
def storePath (c : Config) : String := inDirectory c.dataDir storeFileName

/-- The fields of a section as a look-up. An array gives them by place, and a moment has none. -/
def sectionOf? (names : List String) : Toml → Option (String → Option Toml)
  | .table entries => some fun name => entries.lookup name
  | .array items => some fun name => (names.zip items).lookup name
  | .moment => some fun _ => none
  | _ => none

/-- Reads a field, or takes its default where it is not given. -/
def field {α : Type} (lookup : String → Option Toml) (name : String) (read : Toml → Option α)
    (default : α) : Option α :=
  match lookup name with
  | none => some default
  | some v => read v

def asString : Toml → Option String
  | .string s => some s
  | _ => none

def asBoolean : Toml → Option Bool
  | .boolean b => some b
  | _ => none

def asWord : Toml → Option UInt64
  | .integer n => if 0 ≤ n then some n.toUInt64 else none
  | _ => none

/-- An integer can stand for a float. -/
def asFloat : Toml → Option Binary64
  | .float x => some x
  | .integer n => some (.ofInt n.toInt)
  | _ => none

def dataDirOf (v : Toml) : Option String := do
  let lookup ← sectionOf? ["data_dir"] v
  field lookup "data_dir" asString defaultDataDir

def settingsOf (v : Toml) : Option Settings := do
  let lookup ← sectionOf?
    ["resync_interval_secs", "initial_backoff_ms", "max_backoff_secs", "backoff_multiplier"] v
  let d := Settings.default
  return ⟨← field lookup "resync_interval_secs" asWord d.resyncIntervalSeconds,
    ← field lookup "initial_backoff_ms" asWord d.initialBackoffMilliseconds,
    ← field lookup "max_backoff_secs" asWord d.maxBackoffSeconds,
    ← field lookup "backoff_multiplier" asFloat d.backoffMultiplier⟩

def loggingOf (v : Toml) : Option LogSettings := do
  let lookup ← sectionOf? ["filter", "json"] v
  return ⟨← field lookup "filter" asString LogSettings.default.filter,
    ← field lookup "json" asBoolean LogSettings.default.json⟩

/-- The configuration that the entries of a TOML table give. Other entries are left aside. -/
def ofEntries? (entries : List (String × Toml)) : Option Config := do
  let lookup (name : String) := entries.lookup name
  return ⟨← field lookup "store" dataDirOf defaultDataDir,
    ← field lookup "controller" settingsOf .default,
    ← field lookup "logging" loggingOf .default⟩

def error? (c : Config) : Option SettingsError := c.settings.error?

/-- Reads a configuration and checks it. -/
def read (text : List Char) : Except ConfigError Config :=
  match (Toml.read? text).bind ofEntries? with
  | none => .error .unreadable
  | some c => match c.error? with
    | none => .ok c
    | some e => .error (.invalid e)

def line (name : String) (value : List Char) : List Char := name.toList ++ [' ', '=', ' '] ++ value ++ ['\n']

def header (name : String) : List Char := '[' :: name.toList ++ [']', '\n']

def writeBoolean (b : Bool) : List Char := if b then ['t', 'r', 'u', 'e'] else ['f', 'a', 'l', 's', 'e']

/-- Writes the whole configuration, unless one of its numbers does not fit a TOML integer. -/
def write? (c : Config) : Option (List Char) := do
  let interval ← Toml.writeInteger? c.settings.resyncIntervalSeconds.toNat
  let initial ← Toml.writeInteger? c.settings.initialBackoffMilliseconds.toNat
  let longest ← Toml.writeInteger? c.settings.maxBackoffSeconds.toNat
  return header "store" ++ line "data_dir" (Toml.writeString c.dataDir.toList) ++ ['\n'] ++
    header "controller" ++ line "resync_interval_secs" interval ++
    line "initial_backoff_ms" initial ++ line "max_backoff_secs" longest ++
    line "backoff_multiplier" (Toml.writeFloat c.settings.backoffMultiplier) ++ ['\n'] ++
    header "logging" ++ line "filter" (Toml.writeString c.logging.filter.toList) ++
    line "json" (writeBoolean c.logging.json)

end Config

end ClusterPlacement
