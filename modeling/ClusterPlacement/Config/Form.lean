import ClusterPlacement.Config
import ClusterPlacement.Json.Codec
/-! The JSON forms of parts of the configuration. A configuration file is TOML, so nothing in the library
reads these. They are for a program that is sent configurations in requests. -/

namespace ClusterPlacement

open Json (Codec Field)

def Config.dataDirForm : Codec String :=
  Codec.record "StoreConfig" [.withDefault "data_dir" .path Config.defaultDataDir]
    (fun (dir, ()) => dir) (fun dir => (dir, ()))

def Settings.form : Codec Settings :=
  Codec.record "ControllerConfig"
    [.withDefault "resync_interval_secs" .word64 Settings.default.resyncIntervalSeconds,
      .withDefault "initial_backoff_ms" .word64 Settings.default.initialBackoffMilliseconds,
      .withDefault "max_backoff_secs" .word64 Settings.default.maxBackoffSeconds,
      .withDefault "backoff_multiplier" .binary64 Settings.default.backoffMultiplier]
    (fun (interval, initial, longest, multiplier, ()) => ⟨interval, initial, longest, multiplier⟩)
    (fun s => (s.resyncIntervalSeconds, s.initialBackoffMilliseconds, s.maxBackoffSeconds,
      s.backoffMultiplier, ()))

def LogSettings.form : Codec LogSettings :=
  Codec.record "LoggingConfig"
    [.withDefault "filter" .string LogSettings.default.filter,
      .withDefault "json" .boolean LogSettings.default.json]
    (fun (filter, json, ()) => ⟨filter, json⟩) (fun l => (l.filter, l.json, ()))

end ClusterPlacement
