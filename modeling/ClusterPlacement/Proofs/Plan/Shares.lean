import ClusterPlacement.Proofs.Plan.Outages
import ClusterPlacement.Proofs.Share.Conservation
/-! What a plan makes of the weights of its policy. By clusters, the position of an entry is the position of
its primary, of whatever stands in for that primary, and of its share. By roles, every member of a set
runs the whole share of the first entry for its role. Either way the bounds of the entry hold. -/

namespace ClusterPlacement

open Share (Allots WithinBounds greatestTotal leastTotal total)
open Target (offlineCount substitute)

variable {s : Store} {spec : PolicySpec} {p : Policy} {plan : Plan} {entries : List PolicyEntry}
  {shares : List Nat} {role : String}

namespace Share

/-- Every entry has a share, and the share is within its bounds. -/
theorem Allots.share_of_entry {replicas i : Nat} {entry : PolicyEntry}
    (allots : Allots replicas entries shares) (here : entries[i]? = some entry) :
    ∃ count, shares[i]? = some count ∧ WithinBounds count entry := by
  have inside : i < shares.length := by
    rw [allots.fits.length_eq]
    exact (List.getElem?_eq_some_iff.1 here).1
  have found : shares[i]? = some shares[i] := List.getElem?_eq_getElem inside
  exact ⟨shares[i], found, allots.fits.within found here⟩

theorem allots_of_weighted {replicas : Nat} (shared : weighted replicas entries = .ok shares) :
    Allots replicas entries shares := by
  obtain ⟨shareable, rfl⟩ := weighted_eq_ok_iff.1 shared
  exact ofProportions_allots _ replicas shareable

end Share

namespace Store

/-- The clusters of a policy are the members of a set that lists them by their roles. -/
def ListsRoles (s : Store) (spec : PolicySpec) (members : List SetMember) : Prop :=
  spec.source = .clusterSet ∧ ∃ name set, spec.clusterSet = some name ∧
    s.clusterSet? name = some set ∧ set.membership? = some (.roles members)

theorem sourceOfSet_ne_assign {name : String} {set : ClusterSet} :
    sourceOfSet name set ≠ .ok .assign := by
  intro sourced
  unfold sourceOfSet at sourced
  split at sourced <;> cases sourced

theorem length_primaries_of_assign {primaries : List Primary}
    (found : s.primaries spec = .ok (.assign, primaries)) :
    primaries.length = spec.entries.length := by
  unfold Store.primaries at found
  cases given : spec.source with
  | assign =>
    simp only [given, Except.bind_eq_ok_iff, Except.pure_eq_ok_iff, Except.mapM_eq_ok_iff,
      Prod.mk.injEq, true_and] at found
    obtain ⟨_, looked, rfl⟩ := found
    rw [← looked.length_eq, List.length_zipIdx]
  | clusterSet =>
    simp only [given] at found
    cases named : spec.clusterSet with
    | none => simp [named] at found
    | some name =>
      simp only [named, Except.bind_eq_ok_iff, Except.pure_eq_ok_iff, Prod.mk.injEq] at found
      obtain ⟨_, _, _, sourced, _, _, rfl, _⟩ := found
      exact absurd sourced sourceOfSet_ne_assign

theorem listsRoles_of_primaries {primaries : List Primary}
    (found : s.primaries spec = .ok (.roleSet, primaries)) : ∃ members,
      s.ListsRoles spec members ∧ primaries.map (·.role) = members.map fun m => some m.role := by
  unfold Store.primaries at found
  cases given : spec.source with
  | assign =>
    simp only [given, Except.bind_eq_ok_iff, Except.pure_eq_ok_iff] at found
    obtain ⟨_, _, found⟩ := found
    cases found
  | clusterSet =>
    simp only [given] at found
    cases named : spec.clusterSet with
    | none => simp [named] at found
    | some name =>
      simp only [named, Except.bind_eq_ok_iff, Except.pure_eq_ok_iff, lookUpClusterSet_eq_ok_iff,
        Prod.mk.injEq] at found
      obtain ⟨set, stored, source, sourced, _, looked, rfl, rfl⟩ := found
      cases listed : set.membership? with
      | none => simp [sourceOfSet, listed] at sourced
      | some membership =>
        cases membership with
        | selector labels => simp [sourceOfSet, listed] at sourced
        | roles members =>
          refine ⟨members, ⟨given, name, set, named, stored, listed⟩, ?_⟩
          simp only [setMembers, listed] at looked
          apply Except.map_eq_of_mapM looked
          intro m primary here
          obtain ⟨_, _, rfl⟩ := primaryOfMember_eq_ok_iff.1 here
          rfl

end Store

namespace Target

variable {primaries : List Primary} {spares : List String}

/-- Each target has the place of its primary, and the role. -/
theorem getElem?_seats (enough : offlineCount primaries ≤ spares.length) (i : Nat) :
    ((substitute 0 spares primaries).map seat)[i]? = primaries[i]?.map fun p => (i, p.role) := by
  rw [seats_substitute enough, List.getElem?_map, List.getElem?_zipIdx, List.getElem?_map]
  cases primaries[i]? with
  | none => rfl
  | some p => simp

end Target

namespace Placement

/-- The first entry for a role, at its place. -/
def FirstFor (role : String) (entries : List PolicyEntry) (j : Nat) (entry : PolicyEntry) : Prop :=
  entries[j]? = some entry ∧ entry.role = some role ∧
    ∀ k < j, ∀ earlier, entries[k]? = some earlier → earlier.role ≠ some role

theorem FirstFor.findIdx?_eq {j : Nat} {entry : PolicyEntry} (first : FirstFor role entries j entry) :
    entries.findIdx? (·.role = some role) = some j := by
  obtain ⟨here, plays, others⟩ := first
  obtain ⟨inside, same⟩ := List.getElem?_eq_some_iff.1 here
  refine List.findIdx?_eq_some_iff_getElem.2 ⟨inside, ?_, ?_⟩
  · rw [same]
    exact decide_eq_true plays
  · intro k before
    have earlier := others k before _ (List.getElem?_eq_getElem (Nat.lt_trans before inside))
    simpa using earlier

theorem exists_firstFor_of_mem {entry : PolicyEntry} (member : entry ∈ entries)
    (plays : entry.role = some role) : ∃ j first, FirstFor role entries j first := by
  obtain ⟨j, found⟩ : ∃ j, entries.findIdx? (·.role = some role) = some j := by
    apply Option.isSome_iff_exists.1
    rw [List.findIdx?_isSome, List.any_eq_true]
    exact ⟨entry, member, decide_eq_true plays⟩
  obtain ⟨inside, first, others⟩ := List.findIdx?_eq_some_iff_getElem.1 found
  refine ⟨j, entries[j], List.getElem?_eq_getElem inside, of_decide_eq_true first, ?_⟩
  intro k before earlier here
  obtain ⟨_, rfl⟩ := List.getElem?_eq_some_iff.1 here
  simpa using others k before

theorem FirstFor.roleShare_eq {j : Nat} {entry : PolicyEntry} (first : FirstFor role entries j entry) :
    roleShare entries shares role = shares[j]? := by
  rw [roleShare, first.findIdx?_eq, Option.bind_some]

theorem roleShare_eq_none_iff {replicas : Nat} (allots : Allots replicas entries shares) :
    roleShare entries shares role = none ↔ ∀ entry ∈ entries, entry.role ≠ some role := by
  constructor
  · intro unshared entry member plays
    obtain ⟨j, first, found⟩ := exists_firstFor_of_mem member plays
    obtain ⟨count, share, _⟩ := allots.share_of_entry found.1
    rw [found.roleShare_eq, share] at unshared
    cases unshared
  · intro unnamed
    have absent : entries.findIdx? (·.role = some role) = none := by
      rw [List.findIdx?_eq_none_iff]
      intro entry member
      exact decide_eq_false (unnamed entry member)
    rw [roleShare, absent, Option.bind_none]

/-- The replica counts that a strategy gives to targets with these seats. -/
def CountsFor (spec : PolicySpec) (seats : List (Nat × Option String)) (counts : List (Option Nat)) :
    Strategy → Prop
  | .duplicated | .selectorDuplicated => counts = seats.map fun _ => some spec.replicas.toNat
  | .weightedByCluster => ∃ shares, Share.weighted spec.replicas.toNat spec.entries = .ok shares ∧
      counts = seats.map fun seat => shares[seat.1]?
  | .weightedByRole => ∃ shares, Share.weighted spec.replicas.toNat spec.entries = .ok shares ∧
      counts = seats.map fun seat => roleShare spec.entries shares (seat.2.getD "")

theorem countsFor_of_distribute {source : PrimarySource} {targets : List Target}
    {strategy : Strategy} {placements : List Placement}
    (distributed : distribute spec source targets = .ok (strategy, placements)) :
    strategy = Strategy.choose source spec.mode ∧
      CountsFor spec (targets.map Target.seat) (placements.map (·.replicas)) strategy := by
  unfold distribute at distributed
  cases chosen : Strategy.choose source spec.mode with
  | duplicated | selectorDuplicated =>
    simp only [chosen, Except.pure_eq_ok_iff, Prod.mk.injEq] at distributed
    obtain ⟨rfl, rfl⟩ := distributed
    constructor
    · rfl
    · simp only [CountsFor, List.map_map]
      rfl
  | weightedByCluster | weightedByRole =>
    simp only [chosen, Except.bind_eq_ok_iff, Except.pure_eq_ok_iff, Prod.mk.injEq] at distributed
    obtain ⟨shares, shared, rfl, rfl⟩ := distributed
    refine ⟨rfl, shares, shared, ?_⟩
    simp only [List.map_map]
    rfl

end Placement

theorem Strategy.choose_eq_weightedByCluster {source : PrimarySource} {mode : ScheduleMode}
    (chosen : choose source mode = .weightedByCluster) : source = .assign := by
  cases source <;> cases mode <;> first | rfl | cases chosen

theorem Strategy.choose_eq_weightedByRole {source : PrimarySource} {mode : ScheduleMode}
    (chosen : choose source mode = .weightedByRole) : source = .roleSet := by
  cases source <;> cases mode <;> first | rfl | cases chosen

namespace Plan

open Placement (FirstFor)

variable {a : Availability} {targets : List Target}

theorem Stages.getElem?_seats (stages : Stages s p plan a targets) (i : Nat) :
    (targets.map Target.seat)[i]? = a.primaries[i]?.map fun primary => (i, primary.role) := by
  rw [stages.targets_eq]
  exact Target.getElem?_seats stages.reports.enough i

/-- By clusters, the counts of a plan are the shares of the entries, in the same order. -/
theorem Stages.replicas_by_cluster (stages : Stages s p plan a targets)
    (weighted : plan.strategy = .weightedByCluster) :
    ∃ shares, Allots p.spec.replicas.toNat p.spec.entries shares ∧
      plan.placements.map (·.replicas) = shares.map some := by
  obtain ⟨chosen, counts⟩ := Placement.countsFor_of_distribute stages.distributed
  rw [weighted] at chosen counts
  obtain ⟨shares, shared, counts⟩ := counts
  have allots := Share.allots_of_weighted shared
  have assigned := stages.reports.primaries_eq
  rw [Strategy.choose_eq_weightedByCluster chosen.symm] at assigned
  have many := (Store.length_primaries_of_assign assigned).trans allots.fits.length_eq.symm
  refine ⟨shares, allots, ?_⟩
  rw [counts]
  apply List.ext_getElem?
  intro i
  rw [List.getElem?_map, stages.getElem?_seats, List.getElem?_map, Option.map_map]
  by_cases inside : i < shares.length
  · rw [List.getElem?_eq_getElem inside, List.getElem?_eq_getElem (many ▸ inside)]
    simp only [Option.map_some, Function.comp_apply, List.getElem?_eq_getElem inside]
  · have outside := Nat.not_lt.1 inside
    rw [List.getElem?_eq_none outside, List.getElem?_eq_none (many ▸ outside)]
    rfl

/-- By roles, the count of a position is the share of the role that the member there plays. -/
theorem Stages.replicas_by_role (stages : Stages s p plan a targets)
    (weighted : plan.strategy = .weightedByRole) :
    ∃ members shares, s.ListsRoles p.spec members ∧
      Share.weighted p.spec.replicas.toNat p.spec.entries = .ok shares ∧
      plan.placements.map (·.replicas) =
        members.map fun m => Placement.roleShare p.spec.entries shares m.role := by
  obtain ⟨chosen, counts⟩ := Placement.countsFor_of_distribute stages.distributed
  rw [weighted] at chosen counts
  obtain ⟨shares, shared, counts⟩ := counts
  have listed := stages.reports.primaries_eq
  rw [Strategy.choose_eq_weightedByRole chosen.symm] at listed
  obtain ⟨members, lists, roles⟩ := Store.listsRoles_of_primaries listed
  refine ⟨members, shares, lists, shared, ?_⟩
  rw [counts]
  apply List.ext_getElem?
  intro i
  have role := congrArg (·[i]?) roles
  simp only [List.getElem?_map] at role
  calc ((targets.map Target.seat).map fun seat =>
          Placement.roleShare p.spec.entries shares (seat.2.getD ""))[i]?
    _ = (a.primaries[i]?.map (·.role)).map fun role =>
          Placement.roleShare p.spec.entries shares (role.getD "") := by
      rw [List.getElem?_map, stages.getElem?_seats, Option.map_map, Option.map_map]
      rfl
    _ = (members.map fun m => Placement.roleShare p.spec.entries shares m.role)[i]? := by
      rw [role, List.getElem?_map, Option.map_map]
      rfl

theorem exists_placed {α : Type} {xs : List α} {count : α → Option Nat} {i : Nat} {x : α}
    (counts : plan.placements.map (·.replicas) = xs.map count) (here : xs[i]? = some x) :
    ∃ placed, plan.placements[i]? = some placed ∧ placed.replicas = count x := by
  have counted := congrArg (·[i]?) counts
  simp only [List.getElem?_map, here, Option.map_some] at counted
  exact Option.map_eq_some_iff.1 counted

/-- A plan that shares by weight gives each position the share of its entry, within the bounds of that entry
and, by clusters, as much in sum as the bounds allow. By roles only a member whose role no entry names
has no count, and members of one role have the same. -/
theorem shares_of_entries (computed : compute s p = .ok plan) :
    (plan.strategy = .weightedByCluster →
      plan.placements.length = p.spec.entries.length ∧
      (∀ (i : Nat) (entry : PolicyEntry), p.spec.entries[i]? = some entry →
        ∃ placed count, plan.placements[i]? = some placed ∧ placed.replicas = some count ∧
          WithinBounds count entry) ∧
      total (plan.placements.filterMap (·.replicas)) =
        max (leastTotal p.spec.entries) (min p.spec.replicas.toNat (greatestTotal p.spec.entries))) ∧
    (plan.strategy = .weightedByRole →
      ∃ members shares, s.ListsRoles p.spec members ∧
        Share.weighted p.spec.replicas.toNat p.spec.entries = .ok shares ∧
        plan.placements.length = members.length ∧
        ∀ (i : Nat) (m : SetMember), members[i]? = some m →
          ∃ placed, plan.placements[i]? = some placed ∧
          (placed.replicas = none ↔ ∀ entry ∈ p.spec.entries, entry.role ≠ some m.role) ∧
          (∀ j entry, FirstFor m.role p.spec.entries j entry →
            ∃ count, placed.replicas = some count ∧ shares[j]? = some count ∧
              WithinBounds count entry) ∧
          ∀ (i' : Nat) (m' : SetMember) (placed' : Placement), members[i']? = some m' →
            m'.role = m.role → plan.placements[i']? = some placed' →
            placed'.replicas = placed.replicas) := by
  obtain ⟨a, targets, stages⟩ := compute_eq_ok_iff.1 computed
  constructor
  · intro weighted
    obtain ⟨shares, allots, counts⟩ := stages.replicas_by_cluster weighted
    refine ⟨?_, ?_, ?_⟩
    · have many := congrArg List.length counts
      rw [List.length_map, List.length_map] at many
      exact many.trans allots.fits.length_eq
    · intro i entry here
      obtain ⟨count, share, within⟩ := allots.share_of_entry here
      obtain ⟨placed, found, replicas⟩ := exists_placed counts share
      exact ⟨placed, count, found, replicas, within⟩
    · have all : plan.placements.filterMap (·.replicas) = shares := by
        have kept := congrArg (List.filterMap id) counts
        rw [List.filterMap_map, List.filterMap_map] at kept
        exact kept.trans List.filterMap_some
      rw [all]
      exact allots.clamped
  · intro weighted
    obtain ⟨members, shares, lists, shared, counts⟩ := stages.replicas_by_role weighted
    have allots := Share.allots_of_weighted shared
    refine ⟨members, shares, lists, shared, ?_, ?_⟩
    · simpa using congrArg List.length counts
    · intro i m here
      obtain ⟨placed, found, replicas⟩ := exists_placed counts here
      refine ⟨placed, found, ?_, ?_, ?_⟩
      · rw [replicas]
        exact Placement.roleShare_eq_none_iff allots
      · intro j entry first
        obtain ⟨count, counted, within⟩ := allots.share_of_entry first.1
        refine ⟨count, ?_, counted, within⟩
        rw [replicas, first.roleShare_eq, counted]
      · intro i' m' placed' there same found'
        obtain ⟨_, other, replicas'⟩ := exists_placed counts there
        obtain rfl := Option.some.inj (other.symm.trans found')
        rw [replicas, replicas', same]

/-- A policy by weight, of whose two clusters the first is not online. The bounds keep both of them from
their proportions. -/
def bounded : Policy :=
  { sample with
    spec := { sample.spec with
      mode := .weighted
      replicas := 9
      entries := [⟨some "a", none, 7, none, some 4⟩, ⟨some "b", none, 1, some 2, none⟩] } }

theorem shares_of_entries_bounded :
    (∃ plan, compute Availability.threeClusters bounded = .ok plan ∧
      plan.strategy = .weightedByCluster ∧ plan.clusters = ["c", "b"] ∧
      (∃ placed count, plan.placements[0]? = some placed ∧ placed.replicas = some count ∧ count ≤ 4) ∧
      total (plan.placements.filterMap (·.replicas)) = 9) ∧
    ∃ plan, compute siteDown bySite = .ok plan ∧ plan.strategy = .weightedByRole ∧
      plan.clusters = ["c", "b"] ∧ ∃ shares placed, Share.weighted 8 bySite.spec.entries = .ok shares ∧
        plan.placements[0]? = some placed ∧ placed.replicas ≠ none ∧ placed.replicas = shares[1]? := by
  constructor
  · have planned : (compute Availability.threeClusters bounded).toOption.map (fun plan =>
        (plan.strategy, plan.clusters)) = some (.weightedByCluster, ["c", "b"]) := by
      rw [compute_of_check rfl]
      decide +kernel
    obtain ⟨plan, computed, known⟩ := Except.toOption_map_eq_some_iff.1 planned
    obtain ⟨weighted, clusters⟩ := Prod.mk.inj known
    obtain ⟨_, entries, sum⟩ := (shares_of_entries computed).1 weighted
    obtain ⟨placed, count, found, replicas, _, most⟩ := entries 0 _ rfl
    exact ⟨plan, computed, weighted, clusters, ⟨placed, count, found, replicas, most⟩, sum⟩
  · have planned : (compute siteDown bySite).toOption.map (fun plan =>
        (plan.strategy, plan.clusters)) = some (.weightedByRole, ["c", "b"]) := by
      rw [compute_of_check rfl]
      decide +kernel
    obtain ⟨plan, computed, known⟩ := Except.toOption_map_eq_some_iff.1 planned
    obtain ⟨weighted, clusters⟩ := Prod.mk.inj known
    obtain ⟨members, shares, ⟨_, _, _, named, stored, listed⟩, shared, _, positions⟩ :=
      (shares_of_entries computed).2 weighted
    obtain rfl := Option.some.inj named
    obtain rfl := Option.some.inj stored
    obtain rfl := Membership.roles.inj (Option.some.inj listed)
    obtain ⟨placed, found, uncounted, first, _⟩ := positions 0 _ rfl
    have edge : FirstFor "edge" bySite.spec.entries 1 ⟨none, some "edge", 3, none, none⟩ := by
      refine ⟨rfl, rfl, ?_⟩
      intro k before earlier here
      obtain rfl : k = 0 := by omega
      obtain rfl := Option.some.inj here
      decide
    obtain ⟨count, replicas, share, _⟩ := first 1 _ edge
    refine ⟨plan, computed, weighted, clusters, shares, placed, shared, found, ?_, ?_⟩
    · rw [replicas]
      nofun
    · rw [replicas, share]

end Plan

end ClusterPlacement
