import ClusterPlacement.Failover
/-! The clusters that take a policy's resources: every primary, or a substitute in its place. -/

namespace ClusterPlacement

/-- The primaries of a policy with what is wrong about them. -/
structure Availability where
  source : PrimarySource
  primaries : List Primary
  /-- The places of the primaries that are not online, ascending. -/
  unavailable : List Nat
  /-- There is a pool only if it is needed. -/
  pool : Option Pool
deriving DecidableEq

namespace Availability

def unavailableNames (a : Availability) : List String :=
  a.unavailable.filterMap fun i => a.primaries[i]?.map (·.name)

/-- The places in a list of primaries that are not online. -/
def unavailablePlaces (primaries : List Primary) : List Nat :=
  (primaries.zipIdx.filter (!·.1.online)).map (·.2)

/-- Finds the primaries of a policy and, if some are not online, a pool large enough to replace
them all. -/
def check (s : Store) (spec : PolicySpec) : Except PlacementError Availability := do
  let (source, primaries) ← s.primaries spec
  let report : Availability := ⟨source, primaries, unavailablePlaces primaries, none⟩
  if report.unavailable.isEmpty then return report
  else if spec.failover.isEmpty then .error (.noFailover report.unavailableNames)
  else
    let pool ← Pool.build s spec.failover primaries
    if pool.capacity < report.unavailable.length then
      .error (.capacityExceeded report.unavailableNames pool.capacity)
    else return { report with pool := some pool }

end Availability

/-- A cluster that takes resources. -/
structure Target where
  name : String
  /-- The place of the primary that it stands for. -/
  primary : Nat
  /-- The role of that primary. -/
  role : Option String
  /-- The primary whose place it takes, if it is not that primary itself. -/
  substitutedFor : Option String
deriving DecidableEq

namespace Target

/-- The targets for the primaries from place `i` on. -/
def resolveFrom (a : Availability) : Nat → Cursor → List Primary → Except PlacementError (List Target)
  | _, _, [] => .ok []
  | i, cursor, p :: rest =>
    if p.online then do
      return ⟨p.name, i, p.role, none⟩ :: (← resolveFrom a (i + 1) cursor rest)
    else
      match a.pool.map (fun pool => cursor.next pool) with
      | some (some substitute, cursor) => do
        return ⟨substitute, i, p.role, some p.name⟩ :: (← resolveFrom a (i + 1) cursor rest)
      | some (none, cursor) => .error (.capacityExceeded a.unavailableNames cursor.done)
      | none => .error (.capacityExceeded a.unavailableNames cursor.done)

/-- Turns every primary into a target, with substitutes taken from the pool in the order of the
primaries. -/
def resolve (a : Availability) : Except PlacementError (List Target) :=
  resolveFrom a 0 .start a.primaries

end Target

end ClusterPlacement
