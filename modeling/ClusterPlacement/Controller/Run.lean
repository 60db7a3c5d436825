import ClusterPlacement.Controller
/-! The controller's loop on a clock of its own: a first pass at once, and each further one when the
wait that the pass before it asked for is over. -/

namespace ClusterPlacement.Controller

/-- A controller at work on a store, and the time of its next pass. -/
structure Run where
  controller : Controller
  store : Store
  wake : Duration

namespace Run

def start (c : Controller) (s : Store) : Run := ⟨c, s, .zero⟩

def millisecond : Nat := 1000000

/-- Thirty years. A wait on this clock is over after that time even if a longer one was asked for. -/
def longestWait : Duration := .ofSeconds (30 * 365 * 86400)

/-- The end of a pause that begins now. The loop has no pauses; they are for a caller that lets time go by
before it changes the store. -/
def pauseEnd (now pause : Duration) : Duration :=
  ⟨now.nanoseconds + (pause.min longestWait).nanoseconds⟩

/-- The end of a wait. The clock ticks in milliseconds, and at least one tick goes by. -/
def wakeAfter (now wait : Duration) : Duration :=
  let ticks := ((wait.min longestWait).nanoseconds + millisecond - 1) / millisecond
  ⟨now.nanoseconds + Nat.max ticks 1 * millisecond⟩

theorem lt_wakeAfter (now wait : Duration) :
    now.nanoseconds < (wakeAfter now wait).nanoseconds := by
  simp only [wakeAfter, millisecond]
  have : 1 ≤ Nat.max (((wait.min longestWait).nanoseconds + 1000000 - 1) / 1000000) 1 :=
    Nat.le_max_right _ _
  omega

/-- The passes up to a point in time. A pass that is due at that very point comes before whatever else
happens then. For one policy the time of day and the factor are the same in all of them. There is no result
if a wait is too long to be a duration. -/
def passesUntil (finish : Duration) (time : Clock) (factor : String → Binary64) (r : Run) :
    Option Run :=
  if finish.nanoseconds < r.wake.nanoseconds then some r
  else
    match r.controller.pass ⟨r.wake, time, factor⟩ r.store with
    | none => none
    | some p =>
      passesUntil finish time factor
        ⟨p.controller, p.store, wakeAfter r.wake (p.controller.nextWake r.wake)⟩
termination_by finish.nanoseconds + 1 - r.wake.nanoseconds
decreasing_by
  have := lt_wakeAfter r.wake (p.controller.nextWake r.wake)
  omega

end Run

end ClusterPlacement.Controller
