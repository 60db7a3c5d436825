import ClusterPlacement.Proofs.Failover.Cursor
import ClusterPlacement.Target
/-! Who takes which place. With enough substitutes ahead every primary becomes a target: the ones that
are online stand for themselves, and the others are replaced in order by the members that the cursor
hands out. -/

namespace ClusterPlacement.Target

open Pool (onlineNames)

variable {a : Availability} {i : Nat} {c : Cursor} {primaries : List Primary} {spares : List String}

def offlineCount (primaries : List Primary) : Nat := primaries.countP (!·.online)

/-- The targets for the primaries from place `i` on, if these are the substitutes. -/
def substitute (i : Nat) : List String → List Primary → List Target
  | _, [] => []
  | spares, p :: rest =>
    if p.online then ⟨p.name, i, p.role, none⟩ :: substitute (i + 1) spares rest
    else
      match spares with
      | [] => []
      | spare :: spares => ⟨spare, i, p.role, some p.name⟩ :: substitute (i + 1) spares rest

/-- The substitutes that are left for a report. Without a pool there are none. -/
def sparesFrom (a : Availability) (c : Cursor) : List String :=
  match a.pool with
  | none => []
  | some pool => c.spares pool

theorem offlineCount_online {p : Primary} {rest : List Primary} (online : p.online) :
    offlineCount (p :: rest) = offlineCount rest := by
  simp [offlineCount, online]

theorem offlineCount_offline {p : Primary} {rest : List Primary} (offline : ¬p.online) :
    offlineCount (p :: rest) = offlineCount rest + 1 := by
  simp [offlineCount, offline]

/-- Up to order, the targets are the primaries that are online and the substitutes that were needed. -/
theorem names_substitute_perm (enough : offlineCount primaries ≤ spares.length) :
    ((substitute i spares primaries).map (·.name)).Perm
      (onlineNames primaries ++ spares.take (offlineCount primaries)) := by
  induction primaries generalizing i spares with
  | nil => simp [substitute, onlineNames, offlineCount]
  | cons p rest ih =>
    unfold substitute
    split
    case isTrue online =>
      rw [offlineCount_online online] at enough ⊢
      simp only [onlineNames, online, List.filter_cons, if_true, List.map_cons, List.cons_append]
      exact (ih enough).cons p.name
    case isFalse offline =>
      rw [offlineCount_offline offline] at enough ⊢
      cases spares with
      | nil => simp at enough
      | cons spare spares =>
        simp only [List.length_cons] at enough
        -- Here the substitute comes first, on the other side it follows all online primaries.
        simp only [onlineNames, offline, List.filter_cons, Bool.false_eq_true, if_false,
          List.map_cons, List.take_succ_cons]
        exact ((ih (by omega)).cons spare).trans List.perm_middle.symm

/-- What a target takes over from its primary. -/
def seat (t : Target) : Nat × Option String := (t.primary, t.role)

/-- The seats depend on nothing but the roles of the primaries, as long as no substitute is missing. -/
theorem seats_substitute (enough : offlineCount primaries ≤ spares.length) :
    (substitute i spares primaries).map seat =
      ((primaries.map (·.role)).zipIdx i).map Prod.swap := by
  induction primaries generalizing i spares with
  | nil => rfl
  | cons p rest ih =>
    unfold substitute
    by_cases online : p.online
    · rw [offlineCount_online online] at enough
      rw [if_pos online, List.map_cons, ih enough]
      rfl
    · rw [offlineCount_offline online] at enough
      rw [if_neg online]
      cases spares with
      | nil => simp at enough
      | cons spare spares =>
        have enough : offlineCount rest ≤ spares.length := Nat.le_of_succ_le_succ enough
        simp only [List.map_cons, ih enough]
        rfl

theorem length_substitute (enough : offlineCount primaries ≤ spares.length) :
    (substitute i spares primaries).length = primaries.length := by
  simpa using congrArg List.length (seats_substitute (i := i) enough)

theorem places_substitute (enough : offlineCount primaries ≤ spares.length) :
    (substitute i spares primaries).map (·.primary) = List.range' i primaries.length := by
  have places := congrArg (List.map Prod.fst) (seats_substitute (i := i) enough)
  rw [List.map_map, List.map_map] at places
  refine places.trans ((List.zipIdx_map_snd _ _).trans ?_)
  rw [List.length_map]

theorem roles_substitute (enough : offlineCount primaries ≤ spares.length) :
    (substitute i spares primaries).map (·.role) = primaries.map (·.role) := by
  have roles := congrArg (List.map Prod.snd) (seats_substitute (i := i) enough)
  rw [List.map_map, List.map_map] at roles
  exact roles.trans (List.zipIdx_map_fst _ _)

/-- A primary that is not online is replaced by as many-th a spare as there are others before it. -/
theorem getElem?_substitute {j : Nat} {p : Primary} (enough : offlineCount primaries ≤ spares.length)
    (here : primaries[j]? = some p) : ∃ t, (substitute i spares primaries)[j]? = some t ∧
      if p.online then t.name = p.name ∧ t.substitutedFor = none
      else spares[offlineCount (primaries.take j)]? = some t.name ∧ t.substitutedFor = some p.name := by
  induction primaries generalizing i j spares with
  | nil => simp at here
  | cons first rest ih =>
    unfold substitute
    by_cases online : first.online
    · rw [offlineCount_online online] at enough
      rw [if_pos online]
      cases j with
      | zero =>
        obtain rfl := Option.some.inj here
        exact ⟨_, rfl, by simp [online]⟩
      | succ j =>
        rw [List.take_succ_cons, offlineCount_online online]
        exact ih enough here
    · rw [offlineCount_offline online] at enough
      rw [if_neg online]
      cases spares with
      | nil => simp at enough
      | cons spare spares =>
        cases j with
        | zero =>
          obtain rfl := Option.some.inj here
          exact ⟨_, rfl, by simp [online, offlineCount]⟩
        | succ j =>
          rw [List.take_succ_cons, offlineCount_offline online, List.getElem?_cons_succ]
          exact ih (by simpa using enough) here

theorem names_substituted (enough : offlineCount primaries ≤ spares.length) :
    ((substitute i spares primaries).filter (·.substitutedFor.isSome)).map (·.name) =
      spares.take (offlineCount primaries) := by
  induction primaries generalizing i spares with
  | nil => rfl
  | cons first rest ih =>
    unfold substitute
    by_cases online : first.online
    · rw [offlineCount_online online] at enough ⊢
      rw [if_pos online, List.filter_cons_of_neg (by simp)]
      exact ih enough
    · rw [offlineCount_offline online] at enough ⊢
      rw [if_neg online]
      cases spares with
      | nil => simp at enough
      | cons spare spares =>
        rw [List.filter_cons_of_pos (by simp), List.map_cons, ih (by simpa using enough)]
        rfl

theorem resolveFrom_eq_ok (placed : ∀ pool, a.pool = some pool → c.Placed pool)
    (enough : offlineCount primaries ≤ (sparesFrom a c).length) :
    resolveFrom a i c primaries = .ok (substitute i (sparesFrom a c) primaries) := by
  induction primaries generalizing i c with
  | nil => rfl
  | cons p rest ih =>
    unfold resolveFrom substitute
    split
    case isTrue online =>
      rw [offlineCount_online online] at enough
      rw [ih placed enough]
      rfl
    case isFalse offline =>
      rw [offlineCount_offline offline] at enough
      cases given : a.pool with
      | none => simp [sparesFrom, given] at enough
      | some pool =>
        obtain ⟨taken, left, placed'⟩ := Cursor.next_spec (placed pool given)
        have here : sparesFrom a c = c.spares pool := by simp only [sparesFrom, given]
        have there : sparesFrom a (c.next pool).2 = (c.next pool).2.spares pool := by
          simp only [sparesFrom, given]
        rw [here] at enough ⊢
        cases ahead : c.spares pool with
        | nil => simp [ahead] at enough
        | cons spare spares =>
          rw [ahead] at taken left enough
          have rest' := ih (i := i + 1) (c := (c.next pool).2)
            (fun other same => Option.some.inj (given.symm.trans same) ▸ placed')
            (by rw [there, left]; simpa using enough)
          rw [there, left] at rest'
          have step : c.next pool = (some spare, (c.next pool).2) := Prod.ext taken rfl
          rw [Option.map_some, step]
          simp only [rest']
          rfl

end ClusterPlacement.Target
