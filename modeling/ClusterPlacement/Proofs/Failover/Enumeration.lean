import ClusterPlacement.Proofs.Failover.Cursor
/-! One cursor, called again and again, hands out the online members of a pool in their order, each once,
and then nothing for ever after. Every member that it passes over on the way is the one that its place
among the unavailable members points at. -/

namespace ClusterPlacement.Cursor

open Pool (namesOf)

variable {pool : Pool} {c c' : Cursor} {m : PoolMember}

/-- The next substitute as `next` gives it, but nothing at all if a member that is passed over is not
the one that the place among the unavailable members points at. -/
def nextChecked (c : Cursor) (pool : Pool) : Option (Option String × Cursor) :=
  match _ : look pool c with
  | none => some (none, c)
  | some (none, c') => nextChecked c' pool
  | some (some m, c') =>
    if m.online then some (some m.name, { c' with done := c'.done + 1 })
    else if pool.unavailable[c'.offline]? = some m.name then nextChecked (c'.passOffline pool) pool
    else none
termination_by (pool.entries.length - c.entry, left pool c)
decreasing_by
  · exact look_descends ‹_›
  · simpa using look_descends ‹_›

theorem nextChecked_of_look_eq_none (stops : look pool c = none) :
    c.nextChecked pool = some (none, c) := by
  rw [nextChecked]
  split
  case h_1 => rfl
  case h_2 found => cases stops.symm.trans found
  case h_3 found => cases stops.symm.trans found

theorem nextChecked_of_look_eq_nobody (looks : look pool c = some (none, c')) :
    c.nextChecked pool = c'.nextChecked pool := by
  rw [nextChecked]
  split
  case h_1 found => cases looks.symm.trans found
  case h_2 found =>
    cases looks.symm.trans found
    rfl
  case h_3 found => cases looks.symm.trans found

theorem nextChecked_of_look_eq_member (looks : look pool c = some (some m, c')) :
    c.nextChecked pool =
      if m.online then some (some m.name, { c' with done := c'.done + 1 })
      else if pool.unavailable[c'.offline]? = some m.name then
        nextChecked (c'.passOffline pool) pool
      else none := by
  rw [nextChecked]
  split
  case h_1 found => cases looks.symm.trans found
  case h_2 found => cases looks.symm.trans found
  case h_3 found =>
    cases looks.symm.trans found
    rfl

/-- The members ahead that are not online. -/
def offlineAhead (pool : Pool) (c : Cursor) : List String :=
  namesOf ((ahead pool c).filter (!·.online))

/-- The place among the unavailable members is that of the first one ahead. Behind the last one it
stays where it is, so it says nothing once there is none ahead. -/
def Marks (pool : Pool) (c : Cursor) : Prop :=
  offlineAhead pool c = [] ∨ pool.unavailable.drop c.offline = offlineAhead pool c

theorem marks_start (wellFormed : pool.WellFormed) : Marks pool start := by
  right
  rw [offlineAhead, ahead_start wellFormed, ← wellFormed.unavailable_eq]
  rfl

/-- What stands at the place when a member is passed over, and that the place is right afterwards. -/
theorem Marks.passOffline (marks : Marks pool c) (split : offlineAhead pool c = m.name :: offlineAhead pool c')
    (same : c'.offline = c.offline) :
    pool.unavailable[c'.offline]? = some m.name ∧ Marks pool (c'.passOffline pool) := by
  have rest : pool.unavailable.drop c'.offline = m.name :: offlineAhead pool c' := by
    rcases marks with none | here
    · rw [none] at split
      cases split
    · rw [same, here, split]
  have behind : pool.unavailable.drop (c'.offline + 1) = offlineAhead pool c' := by
    rw [← List.tail_drop, rest, List.tail_cons]
  have ahead' : offlineAhead pool (c'.passOffline pool) = offlineAhead pool c' := by
    simp only [offlineAhead, ahead_passOffline]
  constructor
  · rw [← List.head?_drop, rest, List.head?_cons]
  · unfold Marks
    rw [ahead']
    unfold Cursor.passOffline
    split
    case isTrue => exact .inr behind
    case isFalse last =>
      left
      rw [← behind]
      exact List.drop_eq_nil_of_le (Nat.not_lt.1 last)

/-- Where the place is right, no check fails on the way to the next substitute, and it is right again. -/
theorem nextChecked_eq (placed : Placed pool c) (marks : Marks pool c) :
    c.nextChecked pool = some (c.next pool) ∧ Marks pool (c.next pool).2 := by
  fun_induction Cursor.next c pool with
  | case1 c stops => exact ⟨nextChecked_of_look_eq_none stops, marks⟩
  | case2 c c' looks ih =>
    obtain ⟨placed', split, same, _⟩ := look_spec placed looks
    rw [nextChecked_of_look_eq_nobody looks]
    apply ih placed'
    unfold Marks offlineAhead at *
    rw [same]
    rwa [split] at marks
  | case3 c m c' looks online =>
    obtain ⟨_, split, same, _⟩ := look_spec placed looks
    rw [nextChecked_of_look_eq_member looks, if_pos online]
    refine ⟨rfl, ?_⟩
    have offlineSame : offlineAhead pool c = offlineAhead pool c' := by
      simp [offlineAhead, split, online]
    unfold Marks at *
    rw [offlineSame, ← same] at marks
    exact marks
  | case4 c m c' looks offline ih =>
    obtain ⟨placed', split, same, _⟩ := look_spec placed looks
    have first : offlineAhead pool c = m.name :: offlineAhead pool c' := by
      simp [offlineAhead, split, offline, namesOf]
    obtain ⟨stands, marks'⟩ := marks.passOffline first same
    rw [nextChecked_of_look_eq_member looks, if_neg offline, if_pos stands]
    exact ih (placed_passOffline placed') marks'

/-- The answers of so many calls one after the other, and the cursor after them. -/
def calls (pool : Pool) : Nat → Cursor → List (Option String) × Cursor
  | 0, c => ([], c)
  | k + 1, c =>
    let (answers, last) := calls pool k (c.next pool).2
    ((c.next pool).1 :: answers, last)

@[simp] theorem done_passOffline : (c.passOffline pool).done = c.done := by
  unfold passOffline
  split <;> rfl

/-- A call counts one more if it hands something out. -/
theorem done_next (placed : Placed pool c) :
    (c.next pool).2.done = c.done + if (c.next pool).1.isSome then 1 else 0 := by
  fun_induction Cursor.next c pool with
  | case1 => rfl
  | case2 c c' looks ih =>
    obtain ⟨placed', _, _, same⟩ := look_spec placed looks
    rw [ih placed', same]
  | case3 c m c' looks =>
    obtain ⟨_, _, _, same⟩ := look_spec placed looks
    simp only [Option.isSome_some, if_true, same]
  | case4 c m c' looks _ ih =>
    obtain ⟨placed', _, _, same⟩ := look_spec placed looks
    rw [ih (placed_passOffline placed'), done_passOffline, same]

/-- How a cursor stands between two calls. -/
structure Sound (pool : Pool) (c : Cursor) : Prop where
  placed : Placed pool c
  marks : Marks pool c

theorem Sound.next (sound : Sound pool c) : Sound pool (c.next pool).2 :=
  ⟨(next_spec sound.placed).2.2, (nextChecked_eq sound.placed sound.marks).2⟩

theorem Sound.calls (sound : Sound pool c) (k : Nat) : Sound pool (calls pool k c).2 := by
  induction k generalizing c with
  | zero => exact sound
  | succ k ih => exact ih sound.next

/-- The answers are the substitutes ahead in their order, then nothing. -/
theorem fst_calls (placed : Placed pool c) (k : Nat) :
    (calls pool k c).1 = (List.range k).map fun i => (spares pool c)[i]? := by
  induction k generalizing c with
  | zero => rfl
  | succ k ih =>
    obtain ⟨first, rest, placed'⟩ := next_spec placed
    simp only [calls, ih placed', first, rest, List.range_succ_eq_map, List.map_cons, List.map_map,
      List.head?_eq_getElem?, List.cons.injEq, true_and]
    apply List.map_congr_left
    intro i _
    exact List.getElem?_tail

theorem done_calls (placed : Placed pool c) (k : Nat) :
    (calls pool k c).2.done = c.done + (calls pool k c).1.countP (·.isSome) := by
  induction k generalizing c with
  | zero => rfl
  | succ k ih =>
    have placed' := (next_spec placed).2.2
    simp only [calls, ih placed', done_next placed, List.countP_cons]
    omega

theorem countP_isSome_range (answers : List String) (k : Nat) :
    ((List.range k).map fun i => answers[i]?).countP (·.isSome) = min k answers.length := by
  induction k with
  | zero => simp
  | succ k ih =>
    rw [List.range_succ, List.map_append, List.countP_append, ih]
    by_cases inside : k < answers.length
    · simp [inside]; omega
    · simp [inside]; omega

/-- The calls of a new cursor on a pool that was built: one after the other they give the online members
in order, and nothing from then on. As many are handed out as the capacity says, and counted, and in
no call a check fails. -/
theorem calls_start {s : Store} {entries : List FailoverEntry} {primaries : List Primary}
    (built : Pool.build s entries primaries = .ok pool) (k : Nat) :
    (calls pool k start).1 =
        (List.range k).map (fun i => (namesOf (pool.members.filter (·.online)))[i]?) ∧
      (calls pool k start).1.countP (·.isSome) = min k pool.capacity ∧
      (calls pool k start).2.done = (calls pool k start).1.countP (·.isSome) ∧
      (calls pool k start).2.nextChecked pool = some ((calls pool k start).2.next pool) := by
  obtain ⟨wellFormed, _⟩ := Pool.build_members built
  have sound : Sound pool start := ⟨placed_start, marks_start wellFormed⟩
  have all : spares pool start = namesOf (pool.members.filter (·.online)) := by
    rw [spares, ahead_start wellFormed]
  have answers := fst_calls sound.placed k
  rw [all] at answers
  refine ⟨answers, ?_, ?_, ?_⟩
  · rw [answers, countP_isSome_range, wellFormed.capacity_eq_length]
  · rw [done_calls sound.placed]
    exact Nat.zero_add _
  · have after := sound.calls k
    exact (nextChecked_eq after.placed after.marks).1

/-- Five clusters of which two are not online, and a set that lists four of them. -/
def fiveClusters : Store :=
  let clusters : List Cluster :=
    [⟨"a", .empty, .online⟩, ⟨"b", .empty, .offline⟩, ⟨"c", .empty, .online⟩,
      ⟨"d", .empty, .offline⟩, ⟨"e", .empty, .online⟩]
  (clusters.foldl Store.putCluster .empty).putClusterSet
    ⟨"spare", [⟨"a", ""⟩, ⟨"b", ""⟩, ⟨"c", ""⟩, ⟨"d", ""⟩], none⟩

/-- A failover policy of which one entry is emptied, as the set before it names the same cluster. -/
def overlapping : List FailoverEntry :=
  [⟨"b", .cluster⟩, ⟨"spare", .clusterSet⟩, ⟨"c", .cluster⟩, ⟨"e", .cluster⟩]

theorem calls_start_overlapping : ∃ pool,
    Pool.build fiveClusters overlapping [⟨"a", none, true⟩] = .ok pool ∧
      (calls pool 3 start).1 = [some "c", some "e", none] ∧ (calls pool 3 start).2.done = 2 ∧
      (calls pool 1 start).2.nextChecked pool = some ((calls pool 1 start).2.next pool) := by
  let pool : Pool :=
    ⟨[⟨.cluster, "b", [⟨"b", false⟩]⟩, ⟨.clusterSet, "spare", [⟨"c", true⟩, ⟨"d", false⟩]⟩,
      ⟨.cluster, "c", []⟩, ⟨.cluster, "e", [⟨"e", true⟩]⟩], 2, ["b", "d"]⟩
  have built : Pool.build fiveClusters overlapping [⟨"a", none, true⟩] = .ok pool := rfl
  obtain ⟨answers, handedOut, counted, _⟩ := calls_start built 3
  obtain ⟨_, _, _, checked⟩ := calls_start built 1
  exact ⟨pool, built, answers, counted.trans handedOut, checked⟩

end ClusterPlacement.Cursor
