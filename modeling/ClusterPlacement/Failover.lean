import ClusterPlacement.Availability
/-! Failover: the pool of clusters that may stand in for unavailable primaries, and the cursor that
hands them out. A pool is a snapshot, so the count of its members and the walk over them always see
the same list. -/

namespace ClusterPlacement

structure PoolMember where
  name : String
  online : Bool
deriving DecidableEq

/-- A failover entry with the members it stands for. -/
structure PoolEntry where
  kind : FailoverKind
  /-- The name that the entry gives, of a cluster or a set. -/
  source : String
  members : List PoolMember
deriving DecidableEq

structure Pool where
  entries : List PoolEntry
  /-- How many members are online. -/
  capacity : Nat
  /-- The members that are not online, in order. -/
  unavailable : List String
deriving DecidableEq

namespace Pool

def empty : Pool := ⟨[], 0, []⟩

def add (p : Pool) (entry : PoolEntry) : Pool where
  entries := p.entries ++ [entry]
  capacity := p.capacity + entry.members.countP (·.online)
  unavailable := p.unavailable ++ (entry.members.filter (!·.online)).map (·.name)

/-- The clusters that a failover entry stands for. -/
def expand (s : Store) (entry : FailoverEntry) : Except PlacementError (List PoolMember) :=
  match entry.kind with
  | .cluster => do
    let c ← s.lookUpCluster entry.name
    return [⟨c.name, c.isOnline⟩]
  | .clusterSet => do
    let set ← s.lookUpClusterSet entry.name
    let found ← s.setMembers set
    return found.map fun p => ⟨p.name, p.online⟩

/-- The members whose names are new, each at its first place, and all names seen after them. -/
def keepFresh : List String → List PoolMember → List PoolMember × List String
  | seen, [] => ([], seen)
  | seen, m :: members =>
    if m.name ∈ seen then keepFresh seen members
    else
      let (kept, seen) := keepFresh (m.name :: seen) members
      (m :: kept, seen)

/-- Adds the members of one more failover entry that were not seen before. -/
def addExpanded (s : Store) (state : Pool × List String) (entry : FailoverEntry) :
    Except PlacementError (Pool × List String) := do
  let members ← expand s entry
  let (kept, seen) := keepFresh state.2 members
  return (state.1.add ⟨entry.kind, entry.name, kept⟩, seen)

/-- The pool of a failover policy, in declared order. The primaries that are online hold the
resources already, so they count as seen. -/
def build (s : Store) (entries : List FailoverEntry) (primaries : List Primary) :
    Except PlacementError Pool := do
  let online := (primaries.filter (·.online)).map (·.name)
  let (pool, _) ← entries.foldlM (addExpanded s) (empty, online)
  return pool

end Pool

/-- Where a walk over a pool stands. -/
structure Cursor where
  /-- The entry to look at. -/
  entry : Nat
  /-- The member of a set entry to look at. -/
  member : Nat
  /-- The place among the unavailable members of the one to be met next. -/
  offline : Nat
  /-- How many members were handed out. -/
  done : Nat
deriving DecidableEq

namespace Cursor

def start : Cursor := ⟨0, 0, 0, 0⟩

/-- One look at the pool: the member met, if any, and the cursor behind it; nothing at the end of the
pool. An entry for one cluster is used up at once and a set entry member by member. -/
def look (pool : Pool) (c : Cursor) : Option (Option PoolMember × Cursor) :=
  match pool.entries[c.entry]? with
  | none => none
  | some e =>
    match e.kind with
    | .cluster => some (e.members.head?, { c with entry := c.entry + 1 })
    | .clusterSet =>
      match e.members[c.member]? with
      | none => some (none, { c with entry := c.entry + 1, member := 0 })
      | some m =>
        if c.member + 1 = e.members.length then
          some (some m, { c with entry := c.entry + 1, member := 0 })
        else some (some m, { c with member := c.member + 1 })

/-- Passes over a member that is not online. The place among the unavailable members stays on the
last one. -/
def passOffline (c : Cursor) (pool : Pool) : Cursor :=
  if c.offline + 1 < pool.unavailable.length then { c with offline := c.offline + 1 } else c

/-- How many members are left in the entry under the cursor. -/
def left (pool : Pool) (c : Cursor) : Nat :=
  match pool.entries[c.entry]? with
  | none => 0
  | some e => e.members.length - c.member

theorem look_descends {pool : Pool} {c next : Cursor} {met : Option PoolMember}
    (h : look pool c = some (met, next)) :
    Prod.Lex (· < ·) (· < ·) (pool.entries.length - next.entry, left pool next)
      (pool.entries.length - c.entry, left pool c) := by
  unfold look at h
  split at h
  case h_1 => simp at h
  case h_2 e found =>
    have inside : c.entry < pool.entries.length := (List.getElem?_eq_some_iff.1 found).1
    split at h
    case h_1 =>
      obtain ⟨_, rfl⟩ := by simpa using h
      exact .left _ _ (by simp only; omega)
    case h_2 =>
      split at h
      case h_1 =>
        obtain ⟨_, rfl⟩ := by simpa using h
        exact .left _ _ (by simp only; omega)
      case h_2 m here =>
        have within : c.member < e.members.length := (List.getElem?_eq_some_iff.1 here).1
        split at h
        case isTrue =>
          obtain ⟨_, rfl⟩ := by simpa using h
          exact .left _ _ (by simp only; omega)
        case isFalse =>
          obtain ⟨_, rfl⟩ := by simpa using h
          refine .right _ ?_
          simp only [left, found]
          omega

@[simp] theorem passOffline_entry (pool : Pool) (c : Cursor) :
    (c.passOffline pool).entry = c.entry := by
  unfold passOffline; split <;> rfl

@[simp] theorem left_passOffline (pool : Pool) (c : Cursor) :
    left pool (c.passOffline pool) = left pool c := by
  unfold passOffline; split <;> rfl

/-- Hands out the next member that is online, and nothing once the pool is used up. -/
def next (c : Cursor) (pool : Pool) : Option String × Cursor :=
  match _ : look pool c with
  | none => (none, c)
  | some (none, c') => next c' pool
  | some (some m, c') =>
    if m.online then (some m.name, { c' with done := c'.done + 1 })
    else next (c'.passOffline pool) pool
termination_by (pool.entries.length - c.entry, left pool c)
decreasing_by
  · exact look_descends ‹_›
  · simpa using look_descends ‹_›

end Cursor

end ClusterPlacement
