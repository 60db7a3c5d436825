import ClusterPlacement.Backoff
import ClusterPlacement.Reconcile
/-! The controller: passes over all stored policies. A policy that fails waits in a queue before it is
tried again, and leaves the queue when it succeeds, is skipped or is gone. Of the numbers in the queue only
the lengths of waits have a limit here. What happens beyond the last time that a clock can show, or once
a policy has failed more often in a row than 32 bits can count, is left out. -/

namespace ClusterPlacement

/-- A policy whose last attempt failed. Times count from the start of the controller's clock. -/
structure Waiting where
  /-- A time as late as it comes, even if no clock shows it. -/
  due : Duration
  /-- How often it failed in a row, by a count that does not run over. -/
  failures : Nat
  /-- The delay without its random factor. -/
  delay : Duration
deriving DecidableEq

/-- How the policies of one pass fared. -/
structure PassSummary where
  written : Nat
  unchanged : Nat
  skipped : Nat
  failed : Nat
  /-- Policies that were still waiting. -/
  deferred : Nat
deriving DecidableEq

structure Controller where
  settings : Settings
  queue : Table Waiting
deriving DecidableEq

namespace Controller

def new (settings : Settings) : Controller := ⟨settings, .empty⟩

/-- What a clock shows when a policy is reconciled. It goes on while a pass is under way. -/
abbrev Clock := String → UInt64

/-- A clock that stands still. -/
def Clock.ofNat (time : Nat) : Clock := fun _ => .ofNat time

/-- The circumstances of a pass: its time on the controller's clock, the time of day at each policy, and the
random factor for each policy that fails. -/
structure Circumstances where
  now : Duration
  time : Clock
  factor : String → Binary64

/-- Puts a policy that failed into the queue. There is no result if its wait is too long to be a
duration. -/
def requeue (c : Controller) (now : Duration) (factor : Binary64) (key : String) :
    Option Controller := do
  let previous := c.queue.find? key
  let delay ← Backoff.next? c.settings (previous.map (·.delay))
  let wait ← Backoff.jittered? delay factor
  let failures := (previous.map (·.failures)).getD 0 + 1
  return { c with queue := c.queue.insert key ⟨⟨now.nanoseconds + wait.nanoseconds⟩, failures, delay⟩ }

def release (c : Controller) (key : String) : Controller := { c with queue := c.queue.erase key }

def isWaiting (c : Controller) (now : Duration) (key : String) : Bool :=
  match c.queue.find? key with
  | some w => now.nanoseconds < w.due.nanoseconds
  | none => false

/-- What a pass carries from one policy to the next. -/
structure PassState where
  controller : Controller
  store : Store
  summary : PassSummary

/-- Handles one policy of a pass. -/
def visit (here : Circumstances) (p : PassState) (key : String) : Option PassState :=
  if p.controller.isWaiting here.now key then
    some { p with summary.deferred := p.summary.deferred + 1 }
  else
    match p.store.reconcile (here.time key) key with
    | .ok (.scheduled outcome, store) =>
      let controller := p.controller.release key
      match outcome.write with
      | .unchanged => some ⟨controller, store, { p.summary with unchanged := p.summary.unchanged + 1 }⟩
      | _ => some ⟨controller, store, { p.summary with written := p.summary.written + 1 }⟩
    | .ok (.skipped _, store) =>
      some ⟨p.controller.release key, store, { p.summary with skipped := p.summary.skipped + 1 }⟩
    | .error _ => do
      let controller ← p.controller.requeue here.now (here.factor key) key
      return { p with controller, summary.failed := p.summary.failed + 1 }

/-- One pass over the stored policies in the order of their keys. Policies that are gone leave the
queue first. -/
def pass (c : Controller) (here : Circumstances) (s : Store) : Option PassState :=
  let live := s.policyList.map Policy.key
  let kept := { c with queue := c.queue.filterKeys live.contains }
  live.foldlM (visit here) ⟨kept, s, ⟨0, 0, 0, 0, 0⟩⟩

/-- The delay that a policy in the queue waits out, without its random factor. -/
def backoff? (c : Controller) (key : String) : Option Duration := (c.queue.find? key).map (·.delay)

/-- How long to wait for the next pass: until a policy is due, and no longer than the resync
interval. -/
def nextWake (c : Controller) (now : Duration) : Duration :=
  (c.queue.values.map fun w => ⟨w.due.nanoseconds - now.nanoseconds⟩).foldl Duration.min
    c.settings.resyncInterval

end Controller

end ClusterPlacement
