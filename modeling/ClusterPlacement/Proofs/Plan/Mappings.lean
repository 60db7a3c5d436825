import ClusterPlacement.Plan
import ClusterPlacement.Proofs.Naming
/-! The labels that map namespaces, as they are read for one target and one namespace. A label names both
around a dot, and dots may also stand in them, so the label of one pair can be the label of another one.
Where this is not so, what is written for the one is never read for the other. -/

namespace ClusterPlacement

variable {target ns target' ns' : String}

/-- The label of the first pair is also that of the second one, with a dot further behind taken for the one
between its target and its namespace. -/
def Overlaps (target ns target' ns' : String) : Prop :=
  ∃ middle, target' = target ++ "." ++ middle ∧ ns = middle ++ "." ++ ns'

theorem namespaceMappingLabel_eq_joined (target ns : String) :
    namespaceMappingLabel target ns = joined '/' mappingDomain (joined '.' target ns) := by
  simp only [namespaceMappingLabel, joined, String.append_assoc]
  rfl

/-- The pairs of a target and a namespace that share a label. -/
theorem namespaceMappingLabel_eq_iff :
    namespaceMappingLabel target ns = namespaceMappingLabel target' ns' ↔
      (target = target' ∧ ns = ns') ∨ Overlaps target ns target' ns' ∨ Overlaps target' ns' target ns := by
  have tails : namespaceMappingLabel target ns = namespaceMappingLabel target' ns' ↔
      joined '.' target ns = joined '.' target' ns' := by
    rw [namespaceMappingLabel_eq_joined, namespaceMappingLabel_eq_joined, ← String.toList_inj,
      toList_joined '/', toList_joined '/', List.append_cancel_left_eq, List.cons_inj_right, String.toList_inj]
  exact tails.trans joined_eq_iff

theorem not_overlaps_of_dotless (dotless : '.' ∉ ns.toList) : ¬Overlaps target ns target' ns' := by
  rintro ⟨middle, -, rfl⟩
  refine dotless ?_
  simp

/-- Namespaces without dots keep their labels apart, whatever the targets are called. -/
theorem eq_of_namespaceMappingLabel_eq (dotless : '.' ∉ ns.toList) (dotless' : '.' ∉ ns'.toList)
    (same : namespaceMappingLabel target ns = namespaceMappingLabel target' ns') :
    target = target' ∧ ns = ns' := by
  rcases namespaceMappingLabel_eq_iff.1 same with pair | overlaps | overlaps
  · exact pair
  · exact absurd overlaps (not_overlaps_of_dotless dotless)
  · exact absurd overlaps (not_overlaps_of_dotless dotless')

namespace Labels

/-- Two sets of labels that give a namespace the same name for a target, and so the same changes to every
manifest there. -/
structure MapsAlike (ns target : String) (labels labels' : Labels) : Prop where
  name : labels.mappedNamespace? ns target = labels'.mappedNamespace? ns target
  overrides : ∀ (r : Resource) (placed : Placement), placed.mappingKey = target →
    placed.overrides ns labels r = placed.overrides ns labels' r

theorem mapsAlike_iff {labels labels' : Labels} : MapsAlike ns target labels labels' ↔
    labels.mappedNamespace? ns target = labels'.mappedNamespace? ns target := by
  refine ⟨MapsAlike.name, fun same => ⟨same, ?_⟩⟩
  rintro r placed rfl
  rw [Placement.overrides, Placement.overrides, Placement.namespacePatch, Placement.namespacePatch, same]

/-- Whatever the labels of a namespace are, the label of the second pair can be added or removed without any
change for the first one. -/
structure Ignores (target ns target' ns' : String) : Prop where
  added : ∀ (labels : Labels) (mapped : String),
    MapsAlike ns target (labels.insert (namespaceMappingLabel target' ns') mapped) labels
  removed : ∀ labels : Labels,
    MapsAlike ns target (labels.erase (namespaceMappingLabel target' ns')) labels

theorem ignores_of_label_ne (other : namespaceMappingLabel target ns ≠ namespaceMappingLabel target' ns') :
    Ignores target ns target' ns' where
  added labels mapped := by
    rw [mapsAlike_iff, mappedNamespace?, mappedNamespace?, Table.find?_insert, if_neg other]
  removed labels := by
    rw [mapsAlike_iff, mappedNamespace?, mappedNamespace?, Table.find?_erase, if_neg other]

theorem mappedNamespace?_insert_own (labels : Labels) (target ns : String) {mapped : String}
    (named : mapped ≠ "") :
    mappedNamespace? (labels.insert (namespaceMappingLabel target ns) mapped) ns target = some mapped := by
  rw [mappedNamespace?, Table.find?_insert, if_pos rfl, Option.filter_some, if_pos (decide_eq_true named)]

theorem Ignores.label_ne (ignores : Ignores target ns target' ns') :
    namespaceMappingLabel target ns ≠ namespaceMappingLabel target' ns' := by
  intro same
  have unmapped := (ignores.added .empty "mapped").name
  rw [← same, mappedNamespace?_insert_own _ _ _ (by decide)] at unmapped
  cases unmapped

/-- A label is read for no other pair than its own exactly if the dots in it cannot be taken in two ways. -/
theorem ignores_iff_unambiguous (target ns target' ns' : String) :
    Ignores target ns target' ns' ↔ (target, ns) ≠ (target', ns') ∧
      ¬Overlaps target ns target' ns' ∧ ¬Overlaps target' ns' target ns := by
  have labels : Ignores target ns target' ns' ↔
      namespaceMappingLabel target ns ≠ namespaceMappingLabel target' ns' :=
    ⟨Ignores.label_ne, ignores_of_label_ne⟩
  rw [labels, Ne, namespaceMappingLabel_eq_iff, not_or, not_or, Ne, Prod.mk.injEq]

/-- A name that was given to the namespace `b.c` on the target `a` is read for `c` on `a.b`. -/
theorem not_ignores_dotted : ("a.b", "c") ≠ ("a", "b.c") ∧
    mappedNamespace? .empty "c" "a.b" = none ∧
    mappedNamespace? (Table.empty.insert (namespaceMappingLabel "a" "b.c") "mapped") "c" "a.b" =
      some "mapped" ∧
    ¬∀ target ns target' ns', (target, ns) ≠ (target', ns') → Ignores target ns target' ns' := by
  refine ⟨by decide, rfl, by decide, fun claimed => ?_⟩
  have ignores := claimed "a.b" "c" "a" "b.c" (by decide)
  exact ignores.label_ne (by decide)

end Labels

end ClusterPlacement
