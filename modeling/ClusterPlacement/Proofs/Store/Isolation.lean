import ClusterPlacement.Proofs.Store.Recording
/-! Which namespaces keep out of each other's way. A store that is changed in namespaces of which none lies
below another one holds the latest record of every namespace and name. Where two of them are nested this
fails, for nothing in a key tells where the namespace ends. -/

namespace ClusterPlacement

variable {inUse : String → Prop} {ns name : String} {s : Store} {log : Changes}

section

variable {α : Type} [Namespaced α] {changes : List (Change α)}

/-- Among changes in namespaces apart from each other, those under one key are about one pair. -/
theorem Table.find?_ofChanges (apart : Apart inUse) (within : ∀ c ∈ changes, inUse c.ns)
    (here : inUse ns) (name : String) :
    (ofChanges changes).find? (objectKey ns name) = latest ns name changes := by
  induction changes using List.reverseRecOn with
  | nil => rfl
  | append_singleton changes c ih =>
    have earlier := ih fun c' member => within c' (List.mem_append_left _ member)
    have there := within c (List.mem_append_right _ List.mem_cons_self)
    have about : objectKey ns name = objectKey c.ns c.name ↔ c.IsAbout ns name := by
      constructor
      · intro same
        obtain ⟨sameNs, sameName⟩ := apart.eq_of_objectKey_eq here there same
        exact ⟨sameNs.symm, sameName.symm⟩
      · rintro ⟨rfl, rfl⟩
        rfl
    rw [ofChanges, List.foldl_append, List.foldl_cons, List.foldl_nil, find?_change,
      latest_append_singleton, ← earlier]
    simp only [about]
    rfl

end

/-- The bindings of a namespace come in the order of their names. -/
theorem Store.bindingList_ascending (apart : Apart inUse) (keyed : s.bindings.KeyedBy Binding.key)
    (within : ∀ key b, s.bindings.find? key = some b → inUse b.ns) (here : inUse ns) :
    (s.bindingList ns).Pairwise (·.name < ·.name) := by
  have own : ∀ entry ∈ (s.bindings.filterKeys (inNamespace ns)).entries,
      entry.1 = objectKey ns entry.2.name := by
    intro entry member
    obtain ⟨stored, inside⟩ := List.mem_filter.1 member
    have found := (Table.mem_entries_iff _ _ _).1 stored
    have key := keyed _ _ found
    rw [← key] at inside
    rw [← key, Binding.key, (apart.inNamespace_objectKey_iff here (within _ _ found)).1 inside]
  refine List.pairwise_map.2 (List.Pairwise.imp_of_mem ?_ (Table.ascending _))
  intro entry entry' member member' before
  rwa [own entry member, own entry' member', objectKey_lt_iff] at before

/-- In the namespaces in use, every namespace and name holds the record that was last written with them, and
every namespace lists its own bindings by name. -/
structure Isolated (inUse : String → Prop) (log : Changes) (s : Store) : Prop where
  policy : ∀ ns name, inUse ns → s.policy? (objectKey ns name) = latest ns name log.policies
  resource : ∀ ns name, inUse ns → s.resource? ns name = latest ns name log.resources
  binding : ∀ ns name, inUse ns → s.binding? ns name = latest ns name log.bindings
  listed : ∀ ns, inUse ns → s.bindingList ns = s.bindings.values.filter (·.ns = ns)
  ascending : ∀ ns, inUse ns → (s.bindingList ns).Pairwise (·.name < ·.name)

theorem Recorded.isolated (apart : Apart inUse) (keyed : s.Keyed)
    (recorded : Recorded inUse .empty log s) : Isolated inUse log s where
  policy ns name here := by
    rw [Store.policy?, recorded.policies]
    exact Table.find?_ofChanges apart recorded.within.policies here name
  resource ns name here := by
    rw [Store.resource?, recorded.resources]
    exact Table.find?_ofChanges apart recorded.within.resources here name
  binding ns name here := by
    rw [Store.binding?, recorded.bindings]
    exact Table.find?_ofChanges apart recorded.within.bindings here name
  listed ns here :=
    Store.bindingList_eq apart keyed.bindings (fun _ _ found => recorded.binding_within found) here
  ascending ns here :=
    Store.bindingList_ascending apart keyed.bindings (fun _ _ found => recorded.binding_within found) here

namespace Store

theorem isolated_run (apart : Apart inUse) {actions : List Action}
    (within : ∀ a ∈ actions, a.Within inUse) :
    Isolated inUse (empty.changes actions) (empty.run actions).1 := by
  have reachable := Reachable.empty.run actions
  have start : Recorded inUse .empty .none .empty := .unchanged rfl rfl rfl
  exact (start.run apart .empty within).isolated apart reachable.keyed

/-- Slashes in names do no harm as long as there are none in namespaces. -/
theorem isolated_of_slashless {actions : List Action}
    (within : ∀ a ∈ actions, a.Within fun ns => '/' ∉ ns.toList) :
    Isolated (fun ns => '/' ∉ ns.toList) (empty.changes actions) (empty.run actions).1 := by
  refine isolated_run ?_ within
  intro ns ns' _ slashless
  exact not_below_of_slashless slashless

/-- Two resources that meet under one key: what ends the namespace of the first one begins the name of the
second. -/
def shadowing (ns rest name : String) : List Action :=
  [.write (.putResource ⟨objectKey ns rest, name, none⟩),
    .write (.putResource ⟨ns, objectKey rest name, none⟩)]

theorem not_isolated_shadowing (ns rest name : String) (here : inUse (objectKey ns rest)) :
    ¬Isolated inUse (empty.changes (shadowing ns rest name)) (empty.run (shadowing ns rest name)).1 := by
  intro isolated
  have law := isolated.resource (objectKey ns rest) name here
  have found : (empty.run (shadowing ns rest name)).1.resource? (objectKey ns rest) name =
      some ⟨ns, objectKey rest name, none⟩ := by
    rw [resource?, objectKey_assoc]
    exact (Table.find?_insert _ _ _ _).trans (if_pos rfl)
  have written : latest (objectKey ns rest) name (empty.changes (shadowing ns rest name)).resources =
      some ⟨objectKey ns rest, name, none⟩ := by
    have other : ¬(Change.put (Resource.mk ns (objectKey rest name) none)).IsAbout
        (objectKey ns rest) name := by
      intro about
      exact not_below_self ns ⟨rest, about.1⟩
    have logged : (empty.changes (shadowing ns rest name)).resources =
        [.put ⟨objectKey ns rest, name, none⟩] ++ [.put ⟨ns, objectKey rest name, none⟩] := rfl
    rw [logged, latest_append_singleton, if_neg other]
    exact (latest_append_singleton _ _ [] _).trans (if_pos ⟨rfl, rfl⟩)
  rw [found, written] at law
  have same := congrArg Resource.ns (Option.some.inj law)
  exact not_below_self ns ⟨rest, same⟩

/-- Records in some namespaces stay isolated, whatever is done to a store in them, exactly if none of the
namespaces lies below another one. -/
theorem isolated_iff_apart (inUse : String → Prop) :
    (∀ actions, (∀ a ∈ actions, a.Within inUse) →
      Isolated inUse (empty.changes actions) (empty.run actions).1) ↔ Apart inUse := by
  constructor
  · rintro isolated ns ns' here there ⟨rest, rfl⟩
    refine not_isolated_shadowing ns rest "" there (isolated _ ?_)
    exact List.forall_mem_cons.2 ⟨there, List.forall_mem_singleton.2 here⟩
  · intro apart actions within
    exact isolated_run apart within

/-- A binding in a namespace below another one. -/
def lowerBinding : Binding := ⟨"a/b", "web-binding", ⟨policyKind, "web", "first"⟩, 0, ⟨[]⟩⟩

def nested : List Action := shadowing "a" "b" "c" ++ [.write (.createBinding lowerBinding)]

/-- The resource `c` of `a/b` is gone, though nothing but `b/c` of `a` was written after it, and the binding
of `a/b` is listed with those of `a`. -/
theorem shadowed_nested :
    (empty.run nested).1.resource? "a/b" "c" = some ⟨"a", "b/c", none⟩ ∧
      latest "a/b" "c" (empty.changes nested).resources = some ⟨"a/b", "c", none⟩ ∧
      (empty.run nested).1.bindingList "a" = [{ lowerBinding with version := 1 }] ∧
      ¬∀ actions, Isolated (fun _ => True) (empty.changes actions) (empty.run actions).1 := by
  refine ⟨rfl, rfl, rfl, ?_⟩
  intro isolated
  exact not_isolated_shadowing "a" "b" "c" trivial (isolated _)

end Store

end ClusterPlacement
