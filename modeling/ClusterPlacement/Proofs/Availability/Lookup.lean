import ClusterPlacement.Proofs.Failover.Pool
/-! Which clusters a policy and its failover policy name, and when all of them can be looked up. Where
they can, expanding a set or an entry gives just these clusters, with the state each is stored with. -/

namespace ClusterPlacement

def Primary.member (p : Primary) : PoolMember := ⟨p.name, p.online⟩

def Cluster.member (c : Cluster) : PoolMember := ⟨c.name, c.isOnline⟩

namespace Store

variable {s : Store} {set : ClusterSet} {spec : PolicySpec}

/-- The stored clusters of a set, in the order of an expansion. -/
def membersOf (s : Store) (set : ClusterSet) : List Cluster :=
  match set.membership? with
  | some (.roles members) => members.filterMap fun m => s.cluster? m.name
  | some (.selector selector) => s.clustersMatching selector
  | none => []

/-- The stored clusters that a failover entry stands for. -/
def named (s : Store) (entry : FailoverEntry) : List Cluster :=
  match entry.kind with
  | .cluster => (s.cluster? entry.name).toList
  | .clusterSet => ((s.clusterSet? entry.name).map s.membersOf).getD []

/-- The stored clusters that a policy wants to use. -/
def wanted (s : Store) (spec : PolicySpec) : List Cluster :=
  match spec.source with
  | .assign => spec.entries.filterMap fun entry => entry.name.bind s.cluster?
  | .clusterSet => ((spec.clusterSet.bind s.clusterSet?).map s.membersOf).getD []

/-- A set that says how its members are found, where those it lists are stored. -/
def SetFound (s : Store) (set : ClusterSet) : Prop :=
  match set.membership? with
  | some (.roles members) => ∀ m ∈ members, ∃ c, s.cluster? m.name = some c
  | some (.selector _) => True
  | none => False

def EntryFound (s : Store) (entry : FailoverEntry) : Prop :=
  match entry.kind with
  | .cluster => ∃ c, s.cluster? entry.name = some c
  | .clusterSet => ∃ set, s.clusterSet? entry.name = some set ∧ s.SetFound set

/-- A policy that gives all the names it has to, of clusters and sets that are stored. -/
def PrimariesFound (s : Store) (spec : PolicySpec) : Prop :=
  match spec.source with
  | .assign => ∀ entry ∈ spec.entries, ∃ name c, entry.name = some name ∧ s.cluster? name = some c
  | .clusterSet => ∃ name set, spec.clusterSet = some name ∧ s.clusterSet? name = some set ∧
      s.SetFound set

theorem lookUpCluster_eq_ok_iff {name : String} {c : Cluster} :
    s.lookUpCluster name = .ok c ↔ s.cluster? name = some c := by
  unfold lookUpCluster
  cases s.cluster? name <;> simp

theorem lookUpClusterSet_eq_ok_iff {name : String} :
    s.lookUpClusterSet name = .ok set ↔ s.clusterSet? name = some set := by
  unfold lookUpClusterSet
  cases s.clusterSet? name <;> simp

theorem primaryOfMember_eq_ok_iff {m : SetMember} {p : Primary} :
    s.primaryOfMember m = .ok p ↔
      ∃ c, s.cluster? m.name = some c ∧ ⟨c.name, some m.role, c.isOnline⟩ = p := by
  simp only [primaryOfMember, Except.bind_eq_ok_iff, Except.pure_eq_ok_iff, lookUpCluster_eq_ok_iff]

theorem primaryOfEntry_eq_ok_iff {entry : PolicyEntry} {i : Nat} {p : Primary} :
    s.primaryOfEntry entry i = .ok p ↔
      ∃ name c, entry.name = some name ∧ s.cluster? name = some c ∧
        ⟨c.name, none, c.isOnline⟩ = p := by
  unfold primaryOfEntry
  cases entry.name with
  | none => simp
  | some name =>
    simp only [Except.bind_eq_ok_iff, Except.pure_eq_ok_iff, lookUpCluster_eq_ok_iff,
      Option.some.injEq, exists_eq_left', exists_and_left]

/-- Entries looked up one by one are the clusters found for them. -/
theorem map_member_of_forall₂ {α : Type} {xs : List α} {ps : List Primary} {R : α → Primary → Prop}
    {find : α → Option Cluster} (related : List.Forall₂ R xs ps)
    (found : ∀ x p, R x p → ∃ c, find x = some c ∧ p.member = c.member) :
    ps.map Primary.member = (xs.filterMap find).map Cluster.member := by
  induction related with
  | nil => rfl
  | cons head _ ih =>
    obtain ⟨c, here, same⟩ := found _ _ head
    simp only [List.map_cons, List.filterMap_cons, here, ih, same]

theorem map_member_setMembers {ps : List Primary} (h : s.setMembers set = .ok ps) :
    ps.map Primary.member = (s.membersOf set).map Cluster.member := by
  cases found : set.membership? with
  | none => simp [setMembers, found] at h
  | some membership =>
    simp only [setMembers, membersOf, found] at h ⊢
    cases membership with
    | roles members =>
      refine map_member_of_forall₂ (Except.mapM_eq_ok_iff.1 h) fun m p looked => ?_
      obtain ⟨c, here, rfl⟩ := primaryOfMember_eq_ok_iff.1 looked
      exact ⟨c, here, rfl⟩
    | selector selector =>
      obtain rfl := Except.ok.inj h
      simp only [List.map_map]
      rfl

theorem exists_setMembers_iff : (∃ ps, s.setMembers set = .ok ps) ↔ s.SetFound set := by
  unfold SetFound setMembers
  cases set.membership? with
  | none => simp
  | some membership =>
    cases membership with
    | selector selector => simp
    | roles members =>
      simp only [Except.exists_mapM_eq_ok_iff, primaryOfMember_eq_ok_iff]
      refine forall₂_congr fun m _ => ⟨?_, ?_⟩
      · rintro ⟨_, c, found, _⟩
        exact ⟨c, found⟩
      · rintro ⟨c, found⟩
        exact ⟨_, c, found, rfl⟩

theorem expand_eq_named {entry : FailoverEntry} {walk : List PoolMember}
    (h : Pool.expand s entry = .ok walk) : walk = (s.named entry).map Cluster.member := by
  unfold Pool.expand at h
  unfold named
  cases kind : entry.kind with
  | cluster =>
    simp only [kind, Except.bind_eq_ok_iff, Except.pure_eq_ok_iff, lookUpCluster_eq_ok_iff] at h ⊢
    obtain ⟨c, found, rfl⟩ := h
    rw [found]
    rfl
  | clusterSet =>
    simp only [kind, Except.bind_eq_ok_iff, Except.pure_eq_ok_iff, lookUpClusterSet_eq_ok_iff]
      at h ⊢
    obtain ⟨set, found, ps, members, rfl⟩ := h
    rw [found, Option.map_some, Option.getD_some, ← map_member_setMembers members]
    rfl

theorem exists_expand_iff {entry : FailoverEntry} :
    (∃ walk, Pool.expand s entry = .ok walk) ↔ s.EntryFound entry := by
  unfold Pool.expand EntryFound
  cases entry.kind with
  | cluster =>
    simp only [Except.bind_eq_ok_iff, Except.pure_eq_ok_iff, lookUpCluster_eq_ok_iff]
    constructor
    · rintro ⟨_, c, found, _⟩
      exact ⟨c, found⟩
    · rintro ⟨c, found⟩
      exact ⟨_, c, found, rfl⟩
  | clusterSet =>
    simp only [Except.bind_eq_ok_iff, Except.pure_eq_ok_iff, lookUpClusterSet_eq_ok_iff,
      ← exists_setMembers_iff]
    constructor
    · rintro ⟨_, set, found, ps, members, _⟩
      exact ⟨set, found, ps, members⟩
    · rintro ⟨set, found, ps, members⟩
      exact ⟨_, set, found, ps, members, rfl⟩

theorem exists_sourceOfSet_of_setFound (name : String) (found : s.SetFound set) :
    ∃ source, sourceOfSet name set = .ok source := by
  unfold SetFound at found
  unfold sourceOfSet
  cases membership : set.membership? with
  | none => simp [membership] at found
  | some m => cases m <;> exact ⟨_, rfl⟩

theorem map_member_primaries {source : PrimarySource} {ps : List Primary}
    (h : s.primaries spec = .ok (source, ps)) :
    ps.map Primary.member = (s.wanted spec).map Cluster.member := by
  unfold primaries at h
  unfold wanted
  cases given : spec.source with
  | assign =>
    simp only [given, Except.bind_eq_ok_iff, Except.pure_eq_ok_iff, Except.mapM_eq_ok_iff,
      Prod.mk.injEq] at h ⊢
    obtain ⟨_, related, _, rfl⟩ := h
    have indexed : spec.entries.filterMap (fun entry => entry.name.bind s.cluster?) =
        spec.entries.zipIdx.filterMap fun pair => pair.1.name.bind s.cluster? := by
      conv_lhs => rw [← List.zipIdx_map_fst 0 spec.entries, List.filterMap_map]
      rfl
    rw [indexed]
    refine map_member_of_forall₂ related fun pair p looked => ?_
    obtain ⟨name, c, names, found, rfl⟩ := primaryOfEntry_eq_ok_iff.1 looked
    exact ⟨c, by rw [names]; exact found, rfl⟩
  | clusterSet =>
    simp only [given] at h ⊢
    cases names : spec.clusterSet with
    | none => simp [names] at h
    | some name =>
      simp only [names, Except.bind_eq_ok_iff, Except.pure_eq_ok_iff, lookUpClusterSet_eq_ok_iff,
        Prod.mk.injEq] at h
      obtain ⟨set, found, _, _, _, members, _, rfl⟩ := h
      rw [Option.bind_some, found, Option.map_some, Option.getD_some]
      exact map_member_setMembers members

theorem exists_primaryOfEntry_iff {entry : PolicyEntry} {i : Nat} :
    (∃ p, s.primaryOfEntry entry i = .ok p) ↔
      ∃ name c, entry.name = some name ∧ s.cluster? name = some c := by
  simp only [primaryOfEntry_eq_ok_iff]
  constructor
  · rintro ⟨_, name, c, names, found, _⟩
    exact ⟨name, c, names, found⟩
  · rintro ⟨name, c, names, found⟩
    exact ⟨_, name, c, names, found, rfl⟩

theorem exists_primaries_iff : (∃ found, s.primaries spec = .ok found) ↔ s.PrimariesFound spec := by
  unfold primaries PrimariesFound
  cases spec.source with
  | assign =>
    simp only [Except.bind_eq_ok_iff, Except.pure_eq_ok_iff]
    constructor
    · rintro ⟨_, ps, looked, _⟩ entry member
      obtain ⟨i, bound, rfl⟩ := List.mem_iff_getElem.1 member
      have indexed : (spec.entries[i], i) ∈ spec.entries.zipIdx :=
        List.mk_mem_zipIdx_iff_getElem?.2 (List.getElem?_eq_getElem bound)
      exact exists_primaryOfEntry_iff.1 (Except.exists_mapM_eq_ok_iff.1 ⟨ps, looked⟩ _ indexed)
    · intro found
      obtain ⟨ps, looked⟩ := Except.exists_mapM_eq_ok_iff.2 fun pair member =>
        exists_primaryOfEntry_iff.2 (found _ (List.fst_mem_of_mem_zipIdx member))
      exact ⟨_, ps, looked, rfl⟩
  | clusterSet =>
    cases spec.clusterSet with
    | none => simp
    | some name =>
      simp only [Except.bind_eq_ok_iff, Except.pure_eq_ok_iff, lookUpClusterSet_eq_ok_iff]
      constructor
      · rintro ⟨_, set, found, _, _, ps, members, _⟩
        exact ⟨name, set, rfl, found, exists_setMembers_iff.1 ⟨ps, members⟩⟩
      · rintro ⟨_, set, same, found, listed⟩
        obtain rfl := Option.some.inj same
        obtain ⟨source, sourced⟩ := exists_sourceOfSet_of_setFound name listed
        obtain ⟨ps, members⟩ := exists_setMembers_iff.2 listed
        exact ⟨_, set, found, source, sourced, ps, members, rfl⟩

end Store

end ClusterPlacement
