import ClusterPlacement.Proofs.Plan.Positions
/-! More spares at the end of a failover policy. The pool of the longer policy starts with all of the shorter
one's, in the same order, for its first entries know nothing of those behind them. As there were enough
spares before, the cursor never comes to the new ones, and the plan stays as it was. -/

namespace ClusterPlacement

open Availability (Reports)
open Pool (namesOf)
open Target (offlineCount sparesFrom substitute)

variable {s : Store} {spec : PolicySpec} {p : Policy} {plan : Plan} {a : Availability}
  {entries more : List FailoverEntry} {primaries : List Primary} {pool pool' : Pool}

def PolicySpec.withSpares (spec : PolicySpec) (more : List FailoverEntry) : PolicySpec :=
  { spec with failover := spec.failover ++ more }

def Policy.withSpares (p : Policy) (more : List FailoverEntry) : Policy :=
  { p with spec := p.spec.withSpares more }

/-- Names are taken by what comes before them, so what is kept of the first entries stays. -/
theorem Pool.members_prefix_of_append (built : build s entries primaries = .ok pool)
    (built' : build s (entries ++ more) primaries = .ok pool') : pool.members <+: pool'.members := by
  obtain ⟨_, walks, expanded, members⟩ := build_members built
  obtain ⟨_, walks', expanded', members'⟩ := build_members built'
  rw [Store.flatten_walks expanded] at members
  rw [Store.flatten_walks expanded', List.flatMap_append, List.map_append, keepFresh_append,
    ← members] at members'
  rw [members']
  exact List.prefix_append _ _

theorem Pool.capacity_le_of_append (built : build s entries primaries = .ok pool)
    (built' : build s (entries ++ more) primaries = .ok pool') : pool.capacity ≤ pool'.capacity := by
  rw [(build_members built).1.capacity_eq, (build_members built').1.capacity_eq]
  exact (members_prefix_of_append built built').sublist.countP_le

/-- Members that follow those of a pool do not come up before them. -/
theorem Cursor.spares_prefix (wellFormed : pool.WellFormed) (wellFormed' : pool'.WellFormed)
    (longer : pool.members <+: pool'.members) : start.spares pool <+: start.spares pool' := by
  rw [spares, spares, ahead_start wellFormed, ahead_start wellFormed']
  exact (longer.filter _).map _

/-- Primaries that can all be replaced are replaced the same way if there is more to choose from. -/
theorem Target.substitute_of_prefix {i : Nat} {spares spares' : List String}
    (enough : offlineCount primaries ≤ spares.length) (longer : spares <+: spares') :
    substitute i spares' primaries = substitute i spares primaries := by
  induction primaries generalizing i spares spares' with
  | nil => rfl
  | cons p rest ih =>
    unfold substitute
    by_cases online : p.online
    · rw [offlineCount_online online] at enough
      rw [if_pos online, if_pos online, ih enough longer]
    · rw [offlineCount_offline online] at enough
      rw [if_neg online, if_neg online]
      cases spares with
      | nil => simp at enough
      | cons spare spares =>
        obtain ⟨behind, rfl⟩ := longer
        have fewer : offlineCount rest ≤ spares.length := Nat.le_of_succ_le_succ enough
        simp only [List.cons_append, ih fewer (List.prefix_append _ _)]

namespace Availability

/-- A report for the longer policy, if the new entries can be expanded or need not be. -/
theorem Reports.withSpares (reports : Reports s spec a)
    (expand : offlineCount a.primaries ≠ 0 → ∀ entry ∈ more, ∃ walk, Pool.expand s entry = .ok walk) :
    ∃ pool?, Reports s (spec.withSpares more) { a with pool := pool? } ∧
      sparesFrom a .start <+: sparesFrom { a with pool := pool? } .start := by
  rcases reports.pool_eq with ⟨none, without⟩ | ⟨some, policy, pool, given, built, enough⟩
  · exact ⟨a.pool, ⟨reports.primaries_eq, reports.unavailable_eq, .inl ⟨none, without⟩⟩,
      List.prefix_refl _⟩
  · obtain ⟨_, walks, expanded, _⟩ := Pool.build_members built
    have all : ∀ entry ∈ spec.failover ++ more, ∃ walk, Pool.expand s entry = .ok walk :=
      List.forall_mem_append.2 ⟨Except.exists_mapM_eq_ok_iff.1 ⟨walks, expanded⟩, expand some⟩
    obtain ⟨pool', built'⟩ := Pool.exists_build a.primaries all
    have longer := Pool.members_prefix_of_append built built'
    have reported : Reports s (spec.withSpares more) { a with pool := .some pool' } := by
      refine ⟨reports.primaries_eq, reports.unavailable_eq, .inr ⟨some, ?_, pool', rfl, built', ?_⟩⟩
      · exact fun empty => policy (List.append_eq_nil_iff.1 empty).1
      · exact enough.trans (Pool.capacity_le_of_append built built')
    refine ⟨.some pool', reported, ?_⟩
    simp only [sparesFrom, given]
    exact Cursor.spares_prefix (Pool.build_members built).1 (Pool.build_members built').1 longer

end Availability

namespace Plan

theorem Stages.withSpares {targets : List Target} (stages : Stages s p plan a targets)
    (expand : offlineCount a.primaries ≠ 0 → ∀ entry ∈ more, ∃ walk, Pool.expand s entry = .ok walk) :
    ∃ pool?, Stages s (p.withSpares more) plan { a with pool := pool? } targets := by
  obtain ⟨pool?, reports, longer⟩ := stages.reports.withSpares expand
  refine ⟨pool?, reports, ?_, stages.distributed, stages.bound, stages.policy_eq⟩
  rw [reports.resolve_eq_ok, stages.targets_eq]
  exact congrArg _ (Target.substitute_of_prefix stages.reports.enough longer)

/-- A plan stays as it is, position by position and resource by resource, when entries are appended to the
failover policy that can be expanded. If every primary is online nobody looks at them; otherwise one that
cannot be expanded keeps the policy from being planned. -/
theorem compute_withSpares_iff (computed : compute s p = .ok plan) (more : List FailoverEntry) :
    compute s (p.withSpares more) = .ok plan ↔
      (s.offlineWanted p.spec ≠ 0 → ∀ entry ∈ more, ∃ walk, Pool.expand s entry = .ok walk) := by
  constructor
  · intro again down
    obtain ⟨a, _, stages⟩ := compute_eq_ok_iff.1 again
    have offline : offlineCount a.primaries ≠ 0 := by
      rwa [Store.offlineCount_eq_offlineWanted stages.reports.primaries_eq]
    rcases stages.reports.pool_eq with ⟨none, _⟩ | ⟨_, _, pool, _, built, _⟩
    · exact absurd none offline
    · obtain ⟨_, walks, expanded, _⟩ := Pool.build_members built
      have all := Except.exists_mapM_eq_ok_iff.1 ⟨walks, expanded⟩
      exact (List.forall_mem_append.1 all).2
  · intro expand
    obtain ⟨a, targets, stages⟩ := compute_eq_ok_iff.1 computed
    rw [← Store.offlineCount_eq_offlineWanted stages.reports.primaries_eq] at expand
    obtain ⟨pool?, longer⟩ := stages.withSpares expand
    exact compute_eq_ok_iff.2 ⟨_, targets, longer⟩

/-- Two of three primaries are replaced. The spares that are appended name clusters and a set for the second
time, a cluster that is not online and a primary. -/
theorem compute_withSpares_scattered : ∃ plan, compute sevenClusters scattered = .ok plan ∧
    plan.clusters = ["d", "g", "f"] ∧
    compute sevenClusters (scattered.withSpares
      [⟨"spare", .clusterSet⟩, ⟨"f", .cluster⟩, ⟨"e", .cluster⟩, ⟨"a", .cluster⟩]) = .ok plan ∧
    compute sevenClusters (scattered.withSpares [⟨"gone", .cluster⟩]) ≠ .ok plan := by
  have planned : (compute sevenClusters scattered).toOption.map clusters =
      some ["d", "g", "f"] := by
    rw [compute_of_check rfl]
    rfl
  obtain ⟨plan, computed, placed⟩ := Except.toOption_map_eq_some_iff.1 planned
  refine ⟨plan, computed, placed, (compute_withSpares_iff computed _).2 ?_, ?_⟩
  · intro _
    simp only [List.forall_mem_cons]
    exact ⟨⟨_, rfl⟩, ⟨_, rfl⟩, ⟨_, rfl⟩, ⟨_, rfl⟩, by simp⟩
  · intro same
    have expand := (compute_withSpares_iff computed _).1 same (by decide) _ List.mem_cons_self
    obtain ⟨_, found⟩ := expand
    cases found

end Plan

end ClusterPlacement
