import ClusterPlacement.Failover
import ClusterPlacement.Proofs.Except
/-! What a pool holds. The entries of a failover policy are expanded one after another while the names
met so far are remembered, so the members of the whole pool are what a single walk over all expansions
keeps: every name at its first place, and none that was seen before the walk. -/

namespace ClusterPlacement.Pool

variable {s : Store} {seen : List String} {walk : List PoolMember} {pool : Pool}

def namesOf (members : List PoolMember) : List String := members.map (·.name)

/-- Two walks one after the other are one walk, if the second starts with what the first has seen. -/
theorem keepFresh_append (first second : List PoolMember) :
    keepFresh seen (first ++ second) =
      ((keepFresh seen first).1 ++ (keepFresh (keepFresh seen first).2 second).1,
        (keepFresh (keepFresh seen first).2 second).2) := by
  induction first generalizing seen with
  | nil => rfl
  | cons m first ih =>
    simp only [List.cons_append, keepFresh]
    split
    · exact ih
    · rw [ih]
      rfl

theorem keepFresh_sublist : (keepFresh seen walk).1.Sublist walk := by
  induction walk generalizing seen with
  | nil => exact .slnil
  | cons m walk ih =>
    unfold keepFresh
    split
    · exact ih.cons m
    · exact ih.cons_cons m

theorem name_notMem_seen {m : PoolMember} (kept : m ∈ (keepFresh seen walk).1) :
    m.name ∉ seen := by
  induction walk generalizing seen with
  | nil => simp [keepFresh] at kept
  | cons first walk ih =>
    unfold keepFresh at kept
    split at kept
    case isTrue => exact ih kept
    case isFalse new =>
      rcases List.mem_cons.1 kept with rfl | later
      · exact new
      · exact fun before => ih later (List.mem_cons_of_mem _ before)

theorem nodup_keepFresh : (namesOf (keepFresh seen walk).1).Nodup := by
  induction walk generalizing seen with
  | nil => exact List.nodup_nil
  | cons m walk ih =>
    unfold keepFresh
    split
    · exact ih
    · refine List.nodup_cons.2 ⟨fun again => ?_, ih⟩
      obtain ⟨other, kept, same⟩ := List.mem_map.1 again
      exact name_notMem_seen kept (same ▸ List.mem_cons_self)

/-- Every new name is kept once, with the member that has it first. -/
theorem mem_keepFresh_iff {m : PoolMember} :
    m ∈ (keepFresh seen walk).1 ↔
      m.name ∉ seen ∧ walk.find? (·.name = m.name) = some m := by
  induction walk generalizing seen with
  | nil => simp [keepFresh]
  | cons first walk ih =>
    unfold keepFresh
    split
    case isTrue old =>
      rw [ih, List.find?_cons]
      by_cases same : first.name = m.name
      · simp [← same, old]
      · simp [same]
    case isFalse new =>
      rw [List.mem_cons, ih, List.find?_cons]
      by_cases same : first.name = m.name
      · simp only [same, List.mem_cons, true_or, not_true_eq_false, false_and, or_false,
          decide_true, Option.some.injEq]
        exact ⟨fun h => ⟨h ▸ new, h.symm⟩, fun h => h.2.symm⟩
      · have different : m ≠ first := fun h => same (h ▸ rfl)
        simp [same, different, Ne.symm same]

theorem keepFresh_eq_eraseDupsBy (seen : List String) (walk : List PoolMember) :
    (keepFresh seen walk).1 =
      (walk.filter (·.name ∉ seen)).eraseDupsBy fun a b => a.name == b.name := by
  induction walk generalizing seen with
  | nil => rfl
  | cons m walk ih =>
    unfold keepFresh
    by_cases old : m.name ∈ seen
    · rw [if_pos old, ih, List.filter_cons_of_neg (by simpa using old)]
    · rw [if_neg old, List.filter_cons_of_pos (by simpa using old), List.eraseDupsBy_cons,
        List.filter_filter]
      simp only [ih]
      congr 3
      funext other
      by_cases same : other.name = m.name <;> simp [same]

/-- All members, in the order in which a walk meets them. -/
def members (p : Pool) : List PoolMember := p.entries.flatMap (·.members)

/-- What holds of a pool at every stage of its making. -/
structure WellFormed (p : Pool) : Prop where
  capacity_eq : p.capacity = p.members.countP (·.online)
  unavailable_eq : p.unavailable = namesOf (p.members.filter (!·.online))
  single : ∀ entry ∈ p.entries, entry.kind = .cluster → entry.members.length ≤ 1

theorem WellFormed.capacity_eq_length (wellFormed : pool.WellFormed) :
    pool.capacity = (namesOf (pool.members.filter (·.online))).length := by
  rw [wellFormed.capacity_eq, List.countP_eq_length_filter, namesOf, List.length_map]

theorem members_add (p : Pool) (entry : PoolEntry) :
    (p.add entry).members = p.members ++ entry.members := by
  simp [members, add]

theorem wellFormed_empty : empty.WellFormed := ⟨rfl, rfl, by simp [empty]⟩

theorem WellFormed.add (wellFormed : pool.WellFormed) {entry : PoolEntry}
    (single : entry.kind = .cluster → entry.members.length ≤ 1) : (pool.add entry).WellFormed := by
  refine ⟨?_, ?_, ?_⟩
  · rw [members_add, List.countP_append, ← wellFormed.capacity_eq]
    rfl
  · rw [members_add, List.filter_append, namesOf, List.map_append, ← namesOf,
      ← wellFormed.unavailable_eq]
    rfl
  · intro other member
    rcases List.mem_append.1 member with before | here
    · exact wellFormed.single other before
    · obtain rfl := List.mem_singleton.1 here
      exact single

theorem length_expand_le {entry : FailoverEntry} (h : expand s entry = .ok walk)
    (cluster : entry.kind = .cluster) : walk.length ≤ 1 := by
  simp only [expand, cluster, Except.bind_eq_ok_iff, Except.pure_eq_ok_iff] at h
  obtain ⟨_, _, rfl⟩ := h
  exact Nat.le_refl 1

theorem addExpanded_eq_ok_iff {entry : FailoverEntry} {next : Pool × List String} :
    addExpanded s (pool, seen) entry = .ok next ↔
      ∃ walk, expand s entry = .ok walk ∧
        next = (pool.add ⟨entry.kind, entry.name, (keepFresh seen walk).1⟩,
          (keepFresh seen walk).2) := by
  simp only [addExpanded, Except.bind_eq_ok_iff, Except.pure_eq_ok_iff]
  exact exists_congr fun _ => and_congr_right fun _ => eq_comm

/-- The pool after a run over some entries, and what was seen by then. -/
theorem foldlM_addExpanded {entries : List FailoverEntry} {last : Pool × List String}
    (wellFormed : pool.WellFormed) (h : entries.foldlM (addExpanded s) (pool, seen) = .ok last) :
    last.1.WellFormed ∧ ∃ walks, entries.mapM (expand s) = .ok walks ∧
      last.1.members = pool.members ++ (keepFresh seen walks.flatten).1 := by
  induction entries generalizing pool seen with
  | nil =>
    obtain rfl := Except.pure_eq_ok_iff.1 h
    exact ⟨wellFormed, [], rfl, by simp [keepFresh]⟩
  | cons entry entries ih =>
    simp only [List.foldlM_cons, Except.bind_eq_ok_iff] at h
    obtain ⟨_, first, rest⟩ := h
    obtain ⟨walk, expanded, rfl⟩ := addExpanded_eq_ok_iff.1 first
    have single (cluster : entry.kind = .cluster) : (keepFresh seen walk).1.length ≤ 1 :=
      Nat.le_trans keepFresh_sublist.length_le (length_expand_le expanded cluster)
    obtain ⟨built, walks, found, same⟩ := ih (wellFormed.add single) rest
    refine ⟨built, walk :: walks, ?_, ?_⟩
    · rw [Except.mapM_eq_ok_iff] at found ⊢
      exact .cons expanded found
    · rw [same, members_add, List.flatten_cons, keepFresh_append, List.append_assoc]

theorem exists_foldlM_addExpanded {entries : List FailoverEntry}
    (expands : ∀ entry ∈ entries, ∃ walk, expand s entry = .ok walk) :
    ∃ last, entries.foldlM (addExpanded s) (pool, seen) = .ok last := by
  induction entries generalizing pool seen with
  | nil => exact ⟨_, rfl⟩
  | cons entry entries ih =>
    obtain ⟨walk, expanded⟩ := expands entry List.mem_cons_self
    obtain ⟨last, rest⟩ := ih fun other member => expands other (List.mem_cons_of_mem _ member)
    refine ⟨last, ?_⟩
    rw [List.foldlM_cons, Except.bind_eq_ok_iff]
    exact ⟨_, addExpanded_eq_ok_iff.2 ⟨walk, expanded, rfl⟩, rest⟩

/-- The names of the primaries that are online. -/
def onlineNames (primaries : List Primary) : List String :=
  (primaries.filter (·.online)).map (·.name)

theorem build_members {entries : List FailoverEntry} {primaries : List Primary}
    (h : build s entries primaries = .ok pool) :
    pool.WellFormed ∧ ∃ walks, entries.mapM (expand s) = .ok walks ∧
      pool.members = (keepFresh (onlineNames primaries) walks.flatten).1 := by
  simp only [build, Except.bind_eq_ok_iff, Except.pure_eq_ok_iff] at h
  obtain ⟨last, run, rfl⟩ := h
  exact foldlM_addExpanded wellFormed_empty run

theorem exists_build {entries : List FailoverEntry} (primaries : List Primary)
    (expands : ∀ entry ∈ entries, ∃ walk, expand s entry = .ok walk) :
    ∃ pool, build s entries primaries = .ok pool := by
  obtain ⟨last, run⟩ := exists_foldlM_addExpanded expands
  refine ⟨last.1, ?_⟩
  simp only [build, Except.bind_eq_ok_iff, Except.pure_eq_ok_iff]
  exact ⟨last, run, rfl⟩

end ClusterPlacement.Pool
