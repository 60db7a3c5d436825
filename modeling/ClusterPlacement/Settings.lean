import ClusterPlacement.Binary64.Decimal
import ClusterPlacement.Duration
/-! The settings of the controller: how often it looks at every policy, and how long it waits after
a failure. -/

namespace ClusterPlacement

structure Settings where
  resyncIntervalSeconds : UInt64
  initialBackoffMilliseconds : UInt64
  maxBackoffSeconds : UInt64
  backoffMultiplier : Binary64
deriving DecidableEq

inductive SettingsError where
  | noResyncInterval
  | noInitialBackoff
  | maxBelowInitial (maxSeconds initialMilliseconds : UInt64)
  | multiplier (x : Binary64)
deriving DecidableEq

def SettingsError.message : SettingsError → String
  | noResyncInterval => "controller.resync_interval_secs must be greater than 0"
  | noInitialBackoff => "controller.initial_backoff_ms must be greater than 0"
  | maxBelowInitial max initial =>
    "controller.max_backoff_secs (" ++ Numeral.decimal max.toNat ++
      "s) is below initial_backoff_ms (" ++ Numeral.decimal initial.toNat ++ "ms)"
  | multiplier x =>
    "controller.backoff_multiplier must be a finite number >= 1, got " ++ x.plainText

namespace Settings

def default : Settings := ⟨30, 500, 300, Binary64.ofNat 2⟩

def resyncInterval (s : Settings) : Duration := .ofSeconds s.resyncIntervalSeconds.toNat

def initialBackoff (s : Settings) : Duration := .ofMilliseconds s.initialBackoffMilliseconds.toNat

def maxBackoff (s : Settings) : Duration := .ofSeconds s.maxBackoffSeconds.toNat

/-- What would make the controller stall or spin. -/
def error? (s : Settings) : Option SettingsError :=
  if s.resyncIntervalSeconds = 0 then some .noResyncInterval
  else if s.initialBackoffMilliseconds = 0 then some .noInitialBackoff
  else if s.maxBackoff.nanoseconds < s.initialBackoff.nanoseconds then
    some (.maxBelowInitial s.maxBackoffSeconds s.initialBackoffMilliseconds)
  else if !s.backoffMultiplier.isFinite || s.backoffMultiplier.lt (Binary64.ofNat 1) then
    some (.multiplier s.backoffMultiplier)
  else none

end Settings

end ClusterPlacement
