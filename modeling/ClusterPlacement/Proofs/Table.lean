import ClusterPlacement.Table
import Mathlib.Data.List.Nodup
/-! Tables by what they find. Strictly ascending keys leave a table one form for one content, so two
tables that find the same are the same, and writing back what is there changes nothing. -/

namespace ClusterPlacement.Table

variable {α : Type} {key : α → String} {t u : Table α}

theorem nodup_keys (t : Table α) : t.keys.Nodup :=
  List.pairwise_map.2 (t.ascending.imp String.ne_of_lt)

theorem nodup_entries (t : Table α) : t.entries.Nodup := List.Nodup.of_map _ t.nodup_keys

/-- A table is what it finds. -/
theorem ext_find? (same : ∀ k, t.find? k = u.find? k) : t = u := by
  have members (entry : String × α) : entry ∈ t.entries ↔ entry ∈ u.entries := by
    rw [mem_entries_iff, mem_entries_iff, same]
  have perm := (List.perm_ext_iff_of_nodup t.nodup_entries u.nodup_entries).2 members
  have entries : t.entries = u.entries := by
    refine perm.eq_of_pairwise ?_ t.ascending u.ascending
    intro a b _ _ before after
    exact absurd after (String.lt_asymm before)
  cases t
  cases u
  simpa using entries

theorem insert_of_find? {k : String} {v : α} (found : t.find? k = some v) : t.insert k v = t := by
  refine ext_find? fun k' => ?_
  rw [find?_insert]
  split
  case isTrue same => rw [same, found]
  case isFalse => rfl

/-- Entries under different keys do not get into each other's way. -/
theorem insert_comm {k k' : String} (different : k ≠ k') (v v' : α) :
    (t.insert k v).insert k' v' = (t.insert k' v').insert k v := by
  refine ext_find? fun k'' => ?_
  simp only [find?_insert]
  by_cases here : k'' = k
  · have elsewhere : k'' ≠ k' := here ▸ different
    rw [if_neg elsewhere, if_pos here, if_pos here]
  · rw [if_neg here, if_neg here]

theorem entries_insert_perm {key : String} (fresh : t.find? key = none) (v : α) :
    (t.insert key v).entries.Perm ((key, v) :: t.entries) := by
  have absent (w : α) : (key, w) ∉ t.entries := by
    rw [mem_entries_iff, fresh]
    exact nofun
  refine (List.perm_ext_iff_of_nodup (nodup_entries _)
    (List.nodup_cons.2 ⟨absent v, t.nodup_entries⟩)).2 fun (k, w) => ?_
  rw [mem_entries_iff, find?_insert, List.mem_cons, mem_entries_iff]
  by_cases here : k = key
  · simp [here, fresh, eq_comm]
  · simp [here]

/-- Entries with distinct keys are put in order, and none is lost. -/
theorem entries_ofList_perm {entries : List (String × α)}
    (distinct : (entries.map Prod.fst).Nodup) : (ofList entries).entries.Perm entries := by
  have fold (t : Table α) (fresh : ∀ e ∈ entries, t.find? e.1 = none) :
      (entries.foldl (fun t e => t.insert e.1 e.2) t).entries.Perm (entries ++ t.entries) := by
    induction entries generalizing t with
    | nil => exact .refl _
    | cons e rest ih =>
      rw [List.map_cons, List.nodup_cons] at distinct
      have later : ∀ e' ∈ rest, (t.insert e.1 e.2).find? e'.1 = none := by
        intro e' member
        have other : e'.1 ≠ e.1 := fun same => distinct.1 (same ▸ List.mem_map_of_mem member)
        rw [find?_insert, if_neg other]
        exact fresh e' (List.mem_cons_of_mem _ member)
      refine (ih distinct.2 (t.insert e.1 e.2) later).trans ?_
      refine ((entries_insert_perm (fresh e List.mem_cons_self) e.2).append_left rest).trans ?_
      exact List.perm_middle
  have all := fold empty fun _ _ => find?_empty _
  rwa [show (empty : Table α).entries = [] from rfl, List.append_nil] at all

def map {β : Type} (f : α → β) (t : Table α) : Table β :=
  ⟨t.entries.map fun (k, v) => (k, f v), List.pairwise_map.2 t.ascending⟩

theorem find?_map {β : Type} (f : α → β) (k : String) : (t.map f).find? k = (t.find? k).map f := by
  refine Option.ext fun w => ?_
  simp only [← mem_entries_iff, map, List.mem_map, Prod.mk.injEq, Option.map_eq_some_iff]
  constructor
  · rintro ⟨⟨_, v⟩, member, rfl, rfl⟩
    exact ⟨v, member, rfl⟩
  · rintro ⟨v, member, rfl⟩
    exact ⟨(k, v), member, rfl, rfl⟩

theorem values_map {β : Type} (f : α → β) : (t.map f).values = t.values.map f := by
  simp only [values, map, List.map_map]
  rfl

theorem map_insert {β : Type} (f : α → β) (key : String) (v : α) :
    (t.insert key v).map f = (t.map f).insert key (f v) := by
  refine ext_find? fun k => ?_
  rw [find?_map, find?_insert, find?_insert, find?_map]
  split <;> rfl

theorem map_ofList {β : Type} (f : α → β) (entries : List (String × α)) :
    (ofList entries).map f = ofList (entries.map fun e => (e.1, f e.2)) := by
  have fold (t : Table α) : (entries.foldl (fun t e => t.insert e.1 e.2) t).map f =
      (entries.map fun e => (e.1, f e.2)).foldl (fun t e => t.insert e.1 e.2) (t.map f) := by
    induction entries generalizing t with
    | nil => rfl
    | cons e rest ih => rw [List.foldl_cons, ih, map_insert, List.map_cons, List.foldl_cons]
  exact fold empty

theorem find?_filterKeys (keep : String → Bool) (k : String) :
    (t.filterKeys keep).find? k = if keep k then t.find? k else none := by
  refine Option.ext fun v => ?_
  rw [← mem_entries_iff, filterKeys, List.mem_filter, mem_entries_iff]
  by_cases kept : keep k <;> simp [kept]

/-- Every value sits under the key that it gives itself. -/
def KeyedBy (key : α → String) (t : Table α) : Prop := ∀ k v, t.find? k = some v → key v = k

theorem keyedBy_iff_forall_entries :
    t.KeyedBy key ↔ ∀ entry ∈ t.entries, key entry.2 = entry.1 := by
  constructor
  · intro keyed entry member
    exact keyed _ _ ((t.mem_entries_iff _ _).1 member)
  · intro own k v found
    exact own (k, v) ((t.mem_entries_iff k v).2 found)

theorem keyedBy_empty : (empty : Table α).KeyedBy key := by
  intro k v found
  simp at found

theorem KeyedBy.insert (keyed : t.KeyedBy key) {k : String} {v : α} (own : key v = k) :
    (t.insert k v).KeyedBy key := by
  intro k' v' found
  rw [find?_insert] at found
  split at found
  case isTrue same =>
    obtain rfl := Option.some.inj found
    exact own.trans same.symm
  case isFalse => exact keyed k' v' found

theorem KeyedBy.erase (keyed : t.KeyedBy key) (k : String) : (t.erase k).KeyedBy key := by
  intro k' v' found
  rw [find?_erase] at found
  split at found
  case isTrue => simp at found
  case isFalse => exact keyed k' v' found

theorem find?_foldl_erase (ks : List String) (k : String) :
    (ks.foldl Table.erase t).find? k = if k ∈ ks then none else t.find? k := by
  induction ks generalizing t with
  | nil => simp
  | cons k' ks ih =>
    rw [List.foldl_cons, ih, find?_erase]
    by_cases later : k ∈ ks
    · simp [later]
    · by_cases here : k = k' <;> simp [later, here]

theorem KeyedBy.foldl_erase (keyed : t.KeyedBy key) (ks : List String) :
    (ks.foldl Table.erase t).KeyedBy key := by
  intro k v found
  rw [find?_foldl_erase] at found
  split at found
  case isTrue => simp at found
  case isFalse => exact keyed k v found

theorem mem_values_iff {v : α} : v ∈ t.values ↔ ∃ k, t.find? k = some v := by
  simp only [values, List.mem_map, ← mem_entries_iff]
  constructor
  · rintro ⟨⟨k, _⟩, member, rfl⟩
    exact ⟨k, member⟩
  · rintro ⟨k, member⟩
    exact ⟨(k, v), member, rfl⟩

/-- A value that is listed is found under its own key. -/
theorem KeyedBy.find?_of_mem_values (keyed : t.KeyedBy key) {v : α} (listed : v ∈ t.values) :
    t.find? (key v) = some v := by
  obtain ⟨k, found⟩ := mem_values_iff.1 listed
  rw [keyed k v found]
  exact found

/-- Under their own keys, values are told apart by their keys. -/
theorem KeyedBy.nodup_map_values (keyed : t.KeyedBy key) : (t.values.map key).Nodup := by
  have own : t.values.map key = t.keys := by
    rw [values, List.map_map]
    exact List.map_congr_left fun (k, v) member => keyed k v ((t.mem_entries_iff k v).1 member)
  exact own ▸ t.nodup_keys

/-- Under their own keys, values are listed in ascending order of these. -/
theorem KeyedBy.ascending_values (keyed : t.KeyedBy key) :
    t.values.Pairwise fun v w => key v < key w := by
  refine List.pairwise_map.2 (t.ascending.imp_of_mem ?_)
  intro entry entry' member member' before
  have own := keyedBy_iff_forall_entries.1 keyed
  rwa [own entry member, own entry' member']

theorem KeyedBy.filterKeys (keyed : t.KeyedBy key) (keep : String → Bool) :
    (t.filterKeys keep).KeyedBy key := by
  intro k v found
  rw [find?_filterKeys] at found
  split at found
  case isTrue => exact keyed k v found
  case isFalse => cases found

theorem KeyedBy.mem_values_iff_find? (keyed : t.KeyedBy key) {v : α} :
    v ∈ t.values ↔ t.find? (key v) = some v :=
  ⟨keyed.find?_of_mem_values, fun found => mem_values_iff.2 ⟨_, found⟩⟩

end ClusterPlacement.Table
