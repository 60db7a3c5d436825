import ClusterPlacement.Proofs.Availability.Capacity
/-! What a pool holds, entry by entry, and why there may be none. The names met so far are handed on from
entry to entry, so an entry keeps of its clusters those that neither an online primary nor an entry
before it has taken. The look-ups take no notice of the names, so the first one that fails in declared
order is the error of the whole. -/

namespace ClusterPlacement

open Pool (namesOf onlineNames keepFresh addExpanded)

variable {s : Store} {entries before : List FailoverEntry} {primaries : List Primary} {pool : Pool}

namespace Store

/-- The names that are taken when some entries were expanded: those of the online primaries and all that
the entries name. -/
def taken (s : Store) (primaries : List Primary) (before : List FailoverEntry) : List String :=
  onlineNames primaries ++ (before.flatMap s.named).map (·.name)

/-- Clusters come out of a selection in the order of their names. -/
theorem clustersMatching_ascending (keyed : s.clusters.KeyedBy Cluster.name) (selector : Labels) :
    (s.clustersMatching selector).Pairwise (·.name < ·.name) :=
  keyed.ascending_values.filter _

end Store

namespace Pool

/-- Of the members on a walk the first of every name that is not taken. -/
def firsts (taken : List String) (walk : List PoolMember) : List PoolMember :=
  (walk.filter (·.name ∉ taken)).eraseDupsBy fun a b => a.name == b.name

/-- All that there is to the pool of a failover policy. -/
structure Contents (s : Store) (entries : List FailoverEntry) (primaries : List Primary) (pool : Pool) :
    Prop where
  entries_eq : pool.entries = entries.mapIdx fun i entry =>
    ⟨entry.kind, entry.name,
      firsts (s.taken primaries (entries.take i)) ((s.named entry).map Cluster.member)⟩
  members_eq : pool.members =
    firsts (onlineNames primaries) ((entries.flatMap s.named).map Cluster.member)
  capacity_eq : pool.capacity = pool.members.countP (·.online)
  unavailable_eq : pool.unavailable = namesOf (pool.members.filter (!·.online))

theorem Contents.unique {pool' : Pool} (contents : Contents s entries primaries pool)
    (contents' : Contents s entries primaries pool') : pool = pool' := by
  have members : pool.members = pool'.members := contents.members_eq.trans contents'.members_eq.symm
  have listed : pool.entries = pool'.entries := contents.entries_eq.trans contents'.entries_eq.symm
  have capacity : pool.capacity = pool'.capacity := by
    rw [contents.capacity_eq, contents'.capacity_eq, members]
  have unavailable : pool.unavailable = pool'.unavailable := by
    rw [contents.unavailable_eq, contents'.unavailable_eq, members]
  cases pool
  cases pool'
  simp only at listed capacity unavailable
  rw [listed, capacity, unavailable]

/-- Members carry the states of the clusters that are stored under their names. -/
theorem Contents.current (contents : Contents s entries primaries pool)
    (keyed : s.clusters.KeyedBy Cluster.name) {m : PoolMember} (member : m ∈ pool.members) :
    ∃ c, s.cluster? m.name = some c ∧ m = c.member := by
  rw [contents.members_eq, firsts, ← keepFresh_eq_eraseDupsBy] at member
  obtain ⟨c, named, rfl⟩ := List.mem_map.1 (keepFresh_sublist.subset member)
  have stored := Store.mem_clusterList_of_mem_failover named
  exact ⟨c, keyed.find?_of_mem_values stored, rfl⟩

end Pool

end ClusterPlacement
