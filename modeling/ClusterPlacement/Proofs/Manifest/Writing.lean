import ClusterPlacement.Manifest
import ClusterPlacement.Proofs.Table
import Mathlib.Data.List.DropRight
/-! What a store holds once a manifest is written. Under each key the record that is listed last replaces
all others. A policy takes the status over from the one before it if both have the same uid, so its status
may be older than the policies that are listed last. -/

namespace ClusterPlacement

namespace Table

variable {α : Type} (key : α → String)

/-- The values of a list that give themselves a key. -/
def listedUnder (k : String) (values : List α) : List α := values.filter (key · = k)

def lastUnder (k : String) (values : List α) : Option α := (listedUnder key k values).getLast?

/-- Stores values under the keys that they give themselves, each as it is made from what is there before. -/
def storeAll (make : α → Option α → α) (t : Table α) (values : List α) : Table α :=
  values.foldl (fun t v => t.insert (key v) (make v (t.find? (key v)))) t

def putAll (t : Table α) (values : List α) : Table α := t.storeAll key (fun v _ => v) values

theorem listedUnder_concat (k : String) (values : List α) (v : α) :
    listedUnder key k (values ++ [v]) =
      if key v = k then listedUnder key k values ++ [v] else listedUnder key k values := by
  rw [listedUnder, List.filter_append]
  by_cases own : key v = k <;> simp [listedUnder, own]

/-- What is stored under a key comes from the values that give themselves this key. -/
theorem find?_storeAll (make : α → Option α → α) (t : Table α) (values : List α) (k : String) :
    (t.storeAll key make values).find? k =
      (listedUnder key k values).foldl (fun before v => some (make v before)) (t.find? k) := by
  induction values using List.reverseRecOn with
  | nil => rfl
  | append_singleton values v ih =>
    rw [storeAll, List.foldl_append, List.foldl_cons, List.foldl_nil, find?_insert, listedUnder_concat]
    by_cases own : key v = k
    · subst own
      rw [if_pos rfl, if_pos rfl, List.foldl_append, ← ih]
      rfl
    · rw [if_neg (Ne.symm own), if_neg own]
      exact ih

theorem find?_putAll (t : Table α) (values : List α) (k : String) :
    (t.putAll key values).find? k = (lastUnder key k values).or (t.find? k) := by
  rw [putAll, find?_storeAll, lastUnder]
  cases listedUnder key k values using List.reverseRecOn with
  | nil => rfl
  | append_singleton listed v =>
    rw [List.foldl_append, List.getLast?_concat]
    rfl

end Table

namespace Policy

/-- What is stored for a policy, given what is stored before. -/
def storedAfter (p : Policy) : Option Policy → Policy
  | some before => if before.uid = p.uid then { p with status := before.status } else p
  | none => p

/-- Policies that give themselves one key, stored one after the other. -/
def storeEach (before : Option Policy) (listed : List Policy) : Option Policy :=
  listed.foldl (fun before p => some (p.storedAfter before)) before

/-- The policies at the end of a list that share their uid. -/
def lastRun (listed : List Policy) : List Policy :=
  listed.rtakeWhile fun p => listed.getLast?.map uid = some p.uid

/-- The policy whose status stays in the end: the one stored before, if its uid is the only one that is listed,
and else the one that began the last run. -/
def statusSource (before : Option Policy) (listed : List Policy) : Option Policy :=
  (before.filter fun stored => ∀ p ∈ listed, p.uid = stored.uid).or (lastRun listed).head?

variable {before : Option Policy} {listed : List Policy} {p last : Policy}

theorem key_storedAfter (p : Policy) (before : Option Policy) : (p.storedAfter before).key = p.key := by
  unfold storedAfter
  cases before with
  | none => rfl
  | some stored => exact (apply_ite key _ _ _).trans (ite_self _)

theorem storeEach_concat (before : Option Policy) (listed : List Policy) (p : Policy) :
    storeEach before (listed ++ [p]) = some (p.storedAfter (storeEach before listed)) := by
  rw [storeEach, List.foldl_append]
  rfl

theorem lastRun_concat (listed : List Policy) (p : Policy) :
    lastRun (listed ++ [p]) =
      (if listed.getLast?.map uid = some p.uid then lastRun listed else []) ++ [p] := by
  rw [lastRun, List.getLast?_concat, List.rtakeWhile_concat_pos _ _ _ (by simp)]
  congr 1
  split
  case isTrue goesOn =>
    rw [lastRun, goesOn]
    rfl
  case isFalse breaks =>
    rw [List.rtakeWhile_eq_nil_iff]
    intro nonempty
    rw [List.getLast?_eq_getLast_of_ne_nil nonempty] at breaks
    simpa [eq_comm] using breaks

theorem lastRun_ne_nil (ends : listed.getLast? = some last) : lastRun listed ≠ [] := by
  obtain ⟨before, rfl⟩ := List.getLast?_eq_some_iff.1 ends
  rw [lastRun_concat]
  exact List.append_ne_nil_of_right_ne_nil _ (List.cons_ne_nil _ _)

/-- A policy of the last uid adds nothing to where the status comes from. -/
theorem statusSource_concat_of_same (ends : listed.getLast? = some last) (same : last.uid = p.uid) :
    statusSource before (listed ++ [p]) = statusSource before listed := by
  have run : (lastRun (listed ++ [p])).head? = (lastRun listed).head? := by
    rw [lastRun_concat, ends, Option.map_some, same, if_pos rfl]
    exact List.head?_append_of_ne_nil _ (lastRun_ne_nil ends)
  have uids (stored : Policy) : (∀ q ∈ listed ++ [p], q.uid = stored.uid) ↔
      ∀ q ∈ listed, q.uid = stored.uid := by
    rw [List.forall_mem_append, List.forall_mem_singleton, and_iff_left_iff_imp]
    intro shared
    rw [← same]
    exact shared last (List.mem_of_getLast? ends)
  simp only [statusSource, run, uids]

/-- A policy that is not of the uid before it brings its own status. -/
theorem statusSource_concat_of_new (ends : listed.getLast? = some last) (new : last.uid ≠ p.uid) :
    statusSource before (listed ++ [p]) = some p := by
  have uids (stored : Policy) : ¬∀ q ∈ listed ++ [p], q.uid = stored.uid := by
    intro shared
    rw [List.forall_mem_append, List.forall_mem_singleton] at shared
    exact new ((shared.1 last (List.mem_of_getLast? ends)).trans shared.2.symm)
  have stays : before.filter (fun stored => ∀ q ∈ listed ++ [p], q.uid = stored.uid) = none := by
    rw [Option.filter_eq_none_iff]
    intro stored _ shared
    exact uids stored (of_decide_eq_true shared)
  rw [statusSource, stays, Option.none_or, lastRun_concat, ends, Option.map_some,
    if_neg (new <| Option.some.inj ·)]
  rfl

theorem exists_storedAfter_eq (before : Option Policy) (p : Policy) :
    ∃ source, statusSource before [p] = some source ∧
      p.storedAfter before = { p with status := source.status } := by
  have run : lastRun [p] = [p] := lastRun_concat [] p
  cases before with
  | none => exact ⟨p, by rw [statusSource, run]; rfl, rfl⟩
  | some stored =>
    by_cases same : stored.uid = p.uid
    · exact ⟨stored, by simp [statusSource, same], if_pos same⟩
    · exact ⟨p, by simp [statusSource, run, Option.filter, Ne.symm same], if_neg same⟩

/-- In the end the last policy is stored, with a status that may have come down from an earlier one. -/
theorem storeEach_eq_of_getLast? (before : Option Policy) (ends : listed.getLast? = some last) :
    ∃ source, statusSource before listed = some source ∧
      storeEach before listed = some { last with status := source.status } := by
  induction listed using List.reverseRecOn generalizing last with
  | nil => cases ends
  | append_singleton listed p ih =>
    obtain rfl : p = last := by simpa using ends
    rw [storeEach_concat]
    cases earlier : listed.getLast? with
    | none =>
      obtain rfl := List.getLast?_eq_none_iff.1 earlier
      obtain ⟨source, found, stored⟩ := exists_storedAfter_eq before p
      exact ⟨source, found, congrArg some stored⟩
    | some q =>
      obtain ⟨source, found, stored⟩ := ih earlier
      rw [stored]
      by_cases same : q.uid = p.uid
      · exact ⟨source, (statusSource_concat_of_same earlier same).trans found, congrArg some (if_pos same)⟩
      · exact ⟨p, statusSource_concat_of_new earlier same, congrArg some (if_neg same)⟩

end Policy

namespace Manifest

theorem applyPolicy_eq_putPolicy (s : Store) (p : Policy) :
    applyPolicy s p = s.putPolicy (p.storedAfter (s.policy? p.key)) := by
  unfold applyPolicy
  cases s.policy? p.key <;> rfl

theorem applyPolicy_eq_insert (s : Store) (p : Policy) : applyPolicy s p =
    { s with policies := s.policies.insert p.key (p.storedAfter (s.policy? p.key)) } := by
  rw [applyPolicy_eq_putPolicy, Store.putPolicy, Policy.key_storedAfter]

theorem write_eq (m : Manifest) (s : Store) : m.write s =
    { policies := s.policies.storeAll Policy.key Policy.storedAfter m.policies
      clusters := s.clusters.putAll Cluster.name m.clusters
      clusterSets := s.clusterSets.putAll ClusterSet.name m.clusterSets
      bindings := s.bindings
      resources := s.resources.putAll Resource.key m.resources
      namespaces := s.namespaces.putAll Namespace.name m.namespaces } := by
  have clusters (s : Store) : m.clusters.foldl Store.putCluster s =
      { s with clusters := s.clusters.putAll Cluster.name m.clusters } :=
    List.foldl_hom (fun t => { s with clusters := t }) fun _ _ => rfl
  have clusterSets (s : Store) : m.clusterSets.foldl Store.putClusterSet s =
      { s with clusterSets := s.clusterSets.putAll ClusterSet.name m.clusterSets } :=
    List.foldl_hom (fun t => { s with clusterSets := t }) fun _ _ => rfl
  have namespaces (s : Store) : m.namespaces.foldl Store.putNamespace s =
      { s with namespaces := s.namespaces.putAll Namespace.name m.namespaces } :=
    List.foldl_hom (fun t => { s with namespaces := t }) fun _ _ => rfl
  have resources (s : Store) : m.resources.foldl Store.putResource s =
      { s with resources := s.resources.putAll Resource.key m.resources } :=
    List.foldl_hom (fun t => { s with resources := t }) fun _ _ => rfl
  have policies (s : Store) : m.policies.foldl applyPolicy s =
      { s with policies := s.policies.storeAll Policy.key Policy.storedAfter m.policies } :=
    List.foldl_hom (fun t => { s with policies := t }) fun _ _ => applyPolicy_eq_insert _ _
  rw [write, clusters, clusterSets, namespaces, resources, policies]

theorem write_bindings (m : Manifest) (s : Store) : (m.write s).bindings = s.bindings := by
  rw [write_eq]

end Manifest

end ClusterPlacement
