import ClusterPlacement.Proofs.Manifest.Loading
/-! Manifests one after the other. To write two of them is to write one that lists what both list, and a
manifest that was just written changes nothing when it is written again. For policies this is not because
the last one wins, since a status comes down from earlier ones: it is because the same policy is the source
of the status both times. -/

namespace ClusterPlacement

namespace Table

variable {α : Type} (key : α → String) (make : α → Option α → α)

theorem storeAll_append (t : Table α) (values values' : List α) :
    t.storeAll key make (values ++ values') = (t.storeAll key make values).storeAll key make values' :=
  List.foldl_append

theorem putAll_append (t : Table α) (values values' : List α) :
    t.putAll key (values ++ values') = (t.putAll key values).putAll key values' :=
  storeAll_append ..

theorem putAll_again (t : Table α) (values : List α) :
    (t.putAll key values).putAll key values = t.putAll key values := by
  refine ext_find? fun k => ?_
  rw [find?_putAll, find?_putAll, ← Option.or_assoc, Option.or_self]

end Table

namespace Policy

variable {before : Option Policy} {listed : List Policy} {last source : Policy}

/-- Unless all listed policies have one uid, the status comes from one of them, whatever is stored before. -/
theorem statusSource_of_mixed (ends : listed.getLast? = some last)
    (mixed : ¬∀ p ∈ listed, p.uid = last.uid) (before : Option Policy) :
    statusSource before listed = (lastRun listed).head? := by
  have replaced : before.filter (fun stored => ∀ p ∈ listed, p.uid = stored.uid) = none := by
    rw [Option.filter_eq_none_iff]
    intro stored _ shared
    have shared := of_decide_eq_true shared
    have own := shared last (List.mem_of_getLast? ends)
    exact mixed fun p member => (shared p member).trans own.symm
  rw [statusSource, replaced, Option.none_or]

/-- A stored policy of the only uid that is listed keeps its status. -/
theorem statusSource_of_shared {stored : Policy} (shared : ∀ p ∈ listed, p.uid = stored.uid) :
    statusSource (some stored) listed = some stored := by
  rw [statusSource, Option.filter_some, if_pos (decide_eq_true shared), Option.some_or]

/-- What is stored in the end is its own source of status, or has the same source as before. -/
theorem status_of_statusSource_again (ends : listed.getLast? = some last)
    (found : statusSource before listed = some source) : ∃ source',
      statusSource (some { last with status := source.status }) listed = some source' ∧
        source'.status = source.status := by
  by_cases shared : ∀ p ∈ listed, p.uid = last.uid
  · exact ⟨_, statusSource_of_shared shared, rfl⟩
  · rw [statusSource_of_mixed ends shared] at found
    exact ⟨source, (statusSource_of_mixed ends shared _).trans found, rfl⟩

theorem storeEach_again (before : Option Policy) (listed : List Policy) :
    storeEach (storeEach before listed) listed = storeEach before listed := by
  cases ends : listed.getLast? with
  | none =>
    obtain rfl := List.getLast?_eq_none_iff.1 ends
    rfl
  | some last =>
    obtain ⟨source, found, stored⟩ := storeEach_eq_of_getLast? before ends
    obtain ⟨source', found', same⟩ := status_of_statusSource_again ends found
    obtain ⟨again, foundAgain, restored⟩ :=
      storeEach_eq_of_getLast? (some { last with status := source.status }) ends
    obtain rfl := Option.some.inj (foundAgain.symm.trans found')
    rw [stored, restored, same]

theorem storeAll_again (t : Table Policy) (listed : List Policy) :
    (t.storeAll key storedAfter listed).storeAll key storedAfter listed =
      t.storeAll key storedAfter listed := by
  refine Table.ext_find? fun k => ?_
  simp only [Table.find?_storeAll]
  exact storeEach_again _ _

end Policy

namespace ManifestCounts

def add (c c' : ManifestCounts) : ManifestCounts where
  clusters := c.clusters + c'.clusters
  clusterSets := c.clusterSets + c'.clusterSets
  namespaces := c.namespaces + c'.namespaces
  resources := c.resources + c'.resources
  policies := c.policies + c'.policies

instance : Add ManifestCounts := ⟨add⟩

end ManifestCounts

namespace Manifest

variable {m m' : Manifest} {s s' s'' : Store} {counts counts' : ManifestCounts}

/-- The manifest that lists what one lists, and then what another one lists. -/
def append (m m' : Manifest) : Manifest where
  clusters := m.clusters ++ m'.clusters
  clusterSets := m.clusterSets ++ m'.clusterSets
  namespaces := m.namespaces ++ m'.namespaces
  resources := m.resources ++ m'.resources
  policies := m.policies ++ m'.policies

instance : Append Manifest := ⟨append⟩

theorem counts_append (m m' : Manifest) : (m ++ m').counts = m.counts + m'.counts := by
  change (m.append m').counts = m.counts.add m'.counts
  simp only [counts, append, ManifestCounts.add, List.length_append]

theorem error?_append (m m' : Manifest) : (m ++ m').error? = m.error?.or m'.error? :=
  List.findSome?_append

theorem write_append (m m' : Manifest) (s : Store) : (m ++ m').write s = m'.write (m.write s) := by
  change (m.append m').write s = _
  simp only [write_eq, append, Table.putAll_append, Table.storeAll_append]

theorem write_again (m : Manifest) (s : Store) : m.write (m.write s) = m.write s := by
  simp only [write_eq, Table.putAll_again, Policy.storeAll_again]

theorem apply_eq_ok_iff :
    m.apply s = .ok (counts, s') ↔ m.error? = none ∧ counts = m.counts ∧ s' = m.write s := by
  unfold apply
  cases m.error? <;> simp [eq_comm]

/-- Once a manifest is loaded, it can be loaded again and nothing changes, whatever uids and statuses its
policies have. And a manifest that is loaded after it might as well have been appended to it. -/
theorem apply_again_and_append (applied : m.apply s = .ok (counts, s'))
    (appliedNext : m'.apply s' = .ok (counts', s'')) :
    m.apply s' = .ok (counts, s') ∧ (m ++ m').apply s = .ok (counts + counts', s'') := by
  obtain ⟨accepted, rfl, rfl⟩ := apply_eq_ok_iff.1 applied
  obtain ⟨accepted', rfl, rfl⟩ := apply_eq_ok_iff.1 appliedNext
  constructor
  · exact apply_eq_ok_iff.2 ⟨accepted, rfl, (m.write_again s).symm⟩
  · refine apply_eq_ok_iff.2 ⟨?_, (m.counts_append m').symm, (m.write_append m' s).symm⟩
    rw [error?_append, accepted, accepted', Option.none_or]

/-- The two policies of one name again, in the other order and with other statuses. -/
def relistedAgain : Manifest :=
  { Manifest.empty with
    policies := [{ Store.laterWeb with status := ⟨some 9, none⟩ }, { Store.web with status := ⟨some 8, none⟩ }] }

/-- Three policies of one name are loaded over a fourth, and then two more. -/
theorem apply_again_and_append_relisted :
    let stored := Store.empty.putPolicy { Store.web with status := ⟨some 3, some 2⟩ }
    ∃ s' s'', relisted.apply stored = .ok (⟨0, 0, 0, 0, 3⟩, s') ∧
      relistedAgain.apply s' = .ok (⟨0, 0, 0, 0, 2⟩, s'') ∧
      (s'.policies.find? "default/web").map (·.status) = some ⟨some 5, none⟩ ∧
      (s''.policies.find? "default/web").map (·.status) = some ⟨some 8, none⟩ ∧
      relisted.apply s' = .ok (⟨0, 0, 0, 0, 3⟩, s') ∧
      (relisted ++ relistedAgain).apply stored = .ok (⟨0, 0, 0, 0, 5⟩, s'') := by
  intro stored
  have applied : relisted.apply stored = .ok (⟨0, 0, 0, 0, 3⟩, relisted.write stored) := rfl
  have appliedNext : relistedAgain.apply (relisted.write stored) =
      .ok (⟨0, 0, 0, 0, 2⟩, relistedAgain.write (relisted.write stored)) := rfl
  obtain ⟨again, joined⟩ := apply_again_and_append applied appliedNext
  exact ⟨_, _, applied, appliedNext, rfl, rfl, again, joined⟩

end Manifest

end ClusterPlacement
