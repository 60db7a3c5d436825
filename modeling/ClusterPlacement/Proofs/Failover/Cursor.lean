import ClusterPlacement.Proofs.Failover.Pool
/-! What a cursor hands out. Of the four counters the entry and the member say which part of the pool
still lies ahead; a look takes the first member off that part, so the substitutes come in the order of
the pool, each once, and none of those that are online is passed over. -/

namespace ClusterPlacement.Cursor

variable {pool : Pool} {c next : Cursor} {met : Option PoolMember}

/-- The members of an entry that a walk looks at. -/
def visible (e : PoolEntry) : List PoolMember :=
  match e.kind with
  | .cluster => e.members.head?.toList
  | .clusterSet => e.members

/-- The members that a walk has still to look at. -/
def ahead (pool : Pool) (c : Cursor) : List PoolMember :=
  match pool.entries.drop c.entry with
  | [] => []
  | e :: rest =>
    (match e.kind with
      | .cluster => e.members.head?.toList
      | .clusterSet => e.members.drop c.member) ++ rest.flatMap visible

/-- Only within a set entry can a cursor stand behind some of the members. -/
def Placed (pool : Pool) (c : Cursor) : Prop :=
  c.member = 0 ∨ ∃ e, pool.entries[c.entry]? = some e ∧ e.kind = .clusterSet

theorem drop_of_getElem? {e : PoolEntry} {entries : List PoolEntry} {i : Nat}
    (here : entries[i]? = some e) : entries.drop i = e :: entries.drop (i + 1) := by
  obtain ⟨inside, rfl⟩ := List.getElem?_eq_some_iff.1 here
  exact List.drop_eq_getElem_cons inside

/-- Before an entry is begun all of it lies ahead. -/
theorem ahead_of_member_eq_zero (begins : c.member = 0) :
    ahead pool c = (pool.entries.drop c.entry).flatMap visible := by
  unfold ahead
  split
  case h_1 done => simp [done]
  case h_2 e rest here =>
    simp only [here, begins, List.drop_zero, List.flatMap_cons, visible]

theorem ahead_start (wellFormed : pool.WellFormed) : ahead pool start = pool.members := by
  rw [ahead_of_member_eq_zero rfl]
  change pool.entries.flatMap visible = pool.entries.flatMap (·.members)
  refine List.flatMap_congr fun e member => ?_
  unfold visible
  split
  case h_1 cluster =>
    have single := wellFormed.single e member cluster
    match e.members, single with
    | [], _ => rfl
    | [_], _ => rfl
  case h_2 => rfl

theorem ahead_of_look_eq_none (h : look pool c = none) : ahead pool c = [] := by
  unfold look at h
  split at h
  case h_1 past =>
    simp only [ahead, List.drop_eq_nil_of_le (List.getElem?_eq_none_iff.1 past)]
  case h_2 => split at h <;> [skip; split at h <;> [skip; split at h]] <;> simp at h

theorem look_spec (placed : Placed pool c) (h : look pool c = some (met, next)) :
    Placed pool next ∧ ahead pool c = met.toList ++ ahead pool next ∧
      next.offline = c.offline ∧ next.done = c.done := by
  unfold look at h
  split at h
  case h_1 => simp at h
  case h_2 e here =>
    have rest := drop_of_getElem? here
    split at h
    case h_1 cluster =>
      obtain ⟨rfl, rfl⟩ := by simpa using h
      have begins : c.member = 0 := by
        rcases placed with zero | ⟨other, there, isSet⟩
        · exact zero
        · obtain rfl := Option.some.inj (here.symm.trans there)
          simp [cluster] at isSet
      have behind : ahead pool { c with entry := c.entry + 1 } =
          (pool.entries.drop (c.entry + 1)).flatMap visible := ahead_of_member_eq_zero begins
      refine ⟨.inl begins, ?_, rfl, rfl⟩
      rw [ahead_of_member_eq_zero begins, rest, List.flatMap_cons, behind]
      simp only [visible, cluster]
    case h_2 isSet =>
      have all : ahead pool c =
          e.members.drop c.member ++ (pool.entries.drop (c.entry + 1)).flatMap visible := by
        simp only [ahead, rest, isSet]
      split at h
      case h_1 past =>
        obtain ⟨rfl, rfl⟩ := by simpa using h
        refine ⟨.inl rfl, ?_, rfl, rfl⟩
        rw [all, ahead_of_member_eq_zero rfl, List.drop_eq_nil_of_le (List.getElem?_eq_none_iff.1 past)]
        rfl
      case h_2 m there =>
        obtain ⟨inside, rfl⟩ := List.getElem?_eq_some_iff.1 there
        have first := List.drop_eq_getElem_cons inside
        split at h
        case isTrue last =>
          obtain ⟨rfl, rfl⟩ := by simpa using h
          refine ⟨.inl rfl, ?_, rfl, rfl⟩
          rw [all, ahead_of_member_eq_zero rfl, first, List.drop_eq_nil_of_le (by omega)]
          rfl
        case isFalse =>
          obtain ⟨rfl, rfl⟩ := by simpa using h
          refine ⟨.inr ⟨e, here, isSet⟩, ?_, rfl, rfl⟩
          rw [all, first]
          simp only [ahead, rest, isSet]
          rfl

@[simp] theorem ahead_passOffline : ahead pool (c.passOffline pool) = ahead pool c := by
  unfold passOffline
  split <;> rfl

theorem placed_passOffline (placed : Placed pool c) : Placed pool (c.passOffline pool) := by
  unfold passOffline
  split <;> exact placed

theorem placed_start : Placed pool start := .inl rfl

/-- The substitutes that a cursor can still hand out. -/
def spares (pool : Pool) (c : Cursor) : List String :=
  Pool.namesOf ((ahead pool c).filter (·.online))

/-- The next substitute is the first of those ahead, and the others stay ahead. -/
theorem next_spec (placed : Placed pool c) :
    (c.next pool).1 = (spares pool c).head? ∧
      spares pool (c.next pool).2 = (spares pool c).tail ∧ Placed pool (c.next pool).2 := by
  fun_induction Cursor.next c pool with
  | case1 c stops =>
    simp [spares, ahead_of_look_eq_none stops, Pool.namesOf, placed]
  | case2 c c' looks ih =>
    obtain ⟨placed', split, _⟩ := look_spec placed looks
    have same : spares pool c = spares pool c' := by simp only [spares, split]; rfl
    rw [same]
    exact ih placed'
  | case3 c m c' looks online =>
    obtain ⟨placed', split, _⟩ := look_spec placed looks
    have first : spares pool c = m.name :: spares pool c' := by
      simp only [spares, split, Option.toList_some, List.singleton_append, List.filter_cons, online,
        if_true, Pool.namesOf, List.map_cons]
    rw [first]
    exact ⟨rfl, rfl, placed'⟩
  | case4 c m c' looks offline ih =>
    obtain ⟨placed', split, _⟩ := look_spec placed looks
    have same : spares pool c = spares pool (c'.passOffline pool) := by
      simp only [spares, split, ahead_passOffline, Option.toList_some, List.singleton_append,
        List.filter_cons, offline, Bool.false_eq_true, if_false]
    rw [same]
    exact ih (placed_passOffline placed')

end ClusterPlacement.Cursor
