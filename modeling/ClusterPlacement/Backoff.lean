import ClusterPlacement.Settings
/-! How long a policy waits after a failure. The delay grows by a factor from one failure to the next
within fixed limits, and the time until the next attempt is the delay times a random factor. -/

namespace ClusterPlacement.Backoff

/-- No delay is shorter than this. -/
def shortest : Duration := .ofMilliseconds 10

/-- The seconds of the first delay. -/
def firstSeconds (s : Settings) : Binary64 := (s.initialBackoff.max shortest).toSeconds

/-- The seconds that no delay exceeds. -/
def lastSeconds (s : Settings) : Binary64 := s.maxBackoff.toSeconds.max (firstSeconds s)

/-- The seconds of the delay after another one, or of the first. A product that is not a number
counts as the longest delay. -/
def nextSeconds (s : Settings) (previous : Option Duration) : Binary64 :=
  let seconds :=
    match previous with
    | none => firstSeconds s
    | some d => d.toSeconds.mul s.backoffMultiplier
  if seconds.isNaN then lastSeconds s else seconds.clamp (firstSeconds s) (lastSeconds s)

/-- The next delay, unless it is too long to be a duration. -/
def next? (s : Settings) (previous : Option Duration) : Option Duration :=
  Duration.ofBinary64? (nextSeconds s previous)

/-- The wait that a random factor makes of a delay, unless it is too long to be a duration. -/
def jittered? (delay : Duration) (factor : Binary64) : Option Duration :=
  Duration.ofBinary64? (delay.toSeconds.mul factor)

end ClusterPlacement.Backoff
