import ClusterPlacement.Proofs.Manifest.Writing
import ClusterPlacement.Proofs.Store.Run
/-! What calls change, told record by record. A change puts a record under its own namespace and name, or
removes what has a namespace and a name; a table of records is its changes one after the other. -/

namespace ClusterPlacement

/-- Kinds of records that belong to a namespace. -/
class Namespaced (α : Type) where
  ns : α → String
  name : α → String

instance : Namespaced Policy := ⟨Policy.ns, Policy.name⟩

instance : Namespaced Resource := ⟨Resource.ns, Resource.name⟩

instance : Namespaced Binding := ⟨Binding.ns, Binding.name⟩

variable {α : Type} [Namespaced α]

def Namespaced.key (record : α) : String := objectKey (ns record) (name record)

inductive Change (α : Type) where
  | put (record : α)
  | remove (ns name : String)
deriving DecidableEq

namespace Change

def ns : Change α → String
  | put record => Namespaced.ns record
  | remove ns _ => ns

def name : Change α → String
  | put record => Namespaced.name record
  | remove _ name => name

def record? : Change α → Option α
  | put record => some record
  | remove _ _ => none

/-- Whether the change is about this namespace and this name, both as they are. -/
def IsAbout (ns name : String) (c : Change α) : Prop := c.ns = ns ∧ c.name = name

instance (ns name : String) : DecidablePred (IsAbout ns name : Change α → Prop) :=
  fun _ => inferInstanceAs (Decidable (_ ∧ _))

end Change

/-- The record last written with a namespace and a name; none if it was removed since. -/
def latest (ns name : String) (changes : List (Change α)) : Option α :=
  (changes.reverse.find? (Change.IsAbout ns name ·)).bind Change.record?

theorem latest_append_singleton (ns name : String) (changes : List (Change α)) (c : Change α) :
    latest ns name (changes ++ [c]) =
      if c.IsAbout ns name then c.record? else latest ns name changes := by
  by_cases about : c.IsAbout ns name <;> simp [latest, about]

namespace Table

def change (t : Table α) : Change α → Table α
  | .put record => t.insert (Namespaced.key record) record
  | .remove ns name => t.erase (objectKey ns name)

theorem find?_change (t : Table α) (c : Change α) (key : String) :
    (t.change c).find? key = if key = objectKey c.ns c.name then c.record? else t.find? key := by
  cases c with
  | put record => exact find?_insert _ _ _ _
  | remove ns name => exact find?_erase _ _ _

def ofChanges (changes : List (Change α)) : Table α := changes.foldl change empty

/-- What stands in a table was put there. -/
theorem put_mem_of_find? {changes : List (Change α)} {key : String} {record : α}
    (found : (ofChanges changes).find? key = some record) : Change.put record ∈ changes := by
  induction changes using List.reverseRecOn with
  | nil => cases found
  | append_singleton changes c ih =>
    rw [ofChanges, List.foldl_append, List.foldl_cons, List.foldl_nil, find?_change] at found
    split at found
    case isTrue =>
      cases c with
      | put other =>
        obtain rfl := Option.some.inj found
        exact List.mem_append_right _ List.mem_cons_self
      | remove => cases found
    case isFalse => exact List.mem_append_left _ (ih found)

end Table

/-- Changes of the records that belong to namespaces, by kind, the earliest first. -/
structure Changes where
  policies : List (Change Policy)
  resources : List (Change Resource)
  bindings : List (Change Binding)

namespace Changes

def none : Changes := ⟨[], [], []⟩

def ofPolicies (policies : List (Change Policy)) : Changes := ⟨policies, [], []⟩

def ofResources (resources : List (Change Resource)) : Changes := ⟨[], resources, []⟩

def ofBindings (bindings : List (Change Binding)) : Changes := ⟨[], [], bindings⟩

instance : Append Changes :=
  ⟨fun a b => ⟨a.policies ++ b.policies, a.resources ++ b.resources, a.bindings ++ b.bindings⟩⟩

theorem append_assoc (a b c : Changes) : a ++ b ++ c = a ++ (b ++ c) := by
  change Changes.mk _ _ _ = Changes.mk _ _ _
  congr 1 <;> exact List.append_assoc _ _ _

end Changes

/-- The bindings that a policy takes along when it is deleted. -/
def Policy.takesAlong (p : Policy) (b : Binding) : Bool := b.ns = p.ns && b.isOwnedBy p

/-- What a call changes. One that is refused changes nothing. -/
def Operation.changes (s : Store) : Operation → Changes
  | putPolicy p => .ofPolicies [.put p]
  | putResource r => .ofResources [.put r]
  | createBinding b =>
    match s.createBinding b with
    | .ok (stored, _) => .ofBindings [.put stored]
    | .error _ => .none
  | updateBinding b =>
    match s.updateBinding b with
    | .ok (stored, _) => .ofBindings [.put stored]
    | .error _ => .none
  | deleteBinding ns name => .ofBindings [.remove ns name]
  | deletePolicyCascade key =>
    match s.policy? key with
    | some p =>
      .ofPolicies [.remove p.ns p.name] ++
        .ofBindings ((s.bindings.values.filter p.takesAlong).map fun b => .remove b.ns b.name)
    | none => .none
  | _ => .none

def WriteOutcome.changes (stored : Binding) (outcome : WriteOutcome) : List (Change Binding) :=
  if outcome.wrote then [.put stored] else []

/-- A reconcile writes its binding, and its policy with a new status. -/
def Store.reconcileChanges (s : Store) (time : UInt64) (key : String) : Changes :=
  match s.reconcile time key with
  | .ok (.scheduled out, s') =>
    .ofBindings (out.write.changes out.binding) ++ .ofPolicies ((s'.policy? key).toList.map .put)
  | _ => .none

namespace Manifest

/-- The policy that is written for one of a manifest. -/
def kept (s : Store) (p : Policy) : Policy :=
  match s.policy? p.key with
  | some existing => if existing.uid = p.uid then { p with status := existing.status } else p
  | none => p

theorem applyPolicy_eq (s : Store) (p : Policy) : applyPolicy s p = s.putPolicy (kept s p) :=
  applyPolicy_eq_putPolicy s p

theorem kept_ns (s : Store) (p : Policy) : (kept s p).ns = p.ns := by
  unfold kept
  cases s.policy? p.key with
  | none => rfl
  | some existing => exact (apply_ite Policy.ns _ _ _).trans (ite_self _)

def policyChanges (s : Store) : List Policy → List (Change Policy)
  | [] => []
  | p :: ps => .put (kept s p) :: policyChanges (applyPolicy s p) ps

/-- The policies come last, so the records before them are there already. -/
def changes (s : Store) (m : Manifest) : Changes :=
  match m.error? with
  | none =>
    let fleet := { m with policies := [] }
    .ofResources (m.resources.map .put) ++ .ofPolicies (policyChanges (fleet.write s) m.policies)
  | some _ => .none

end Manifest

namespace Controller

def visitChanges (here : Circumstances) (p : PassState) (key : String) : Changes :=
  if p.controller.isWaiting here.now key then .none else p.store.reconcileChanges (here.time key) key

def workChanges (here : Circumstances) : PassState → List String → Changes
  | _, [] => .none
  | p, key :: keys =>
    visitChanges here p key ++
      match visit here p key with
      | none => .none
      | some next => workChanges here next keys

end Controller

def Action.changes (s : Store) : Action → Changes
  | write op => op.changes s
  | apply m => m.changes s
  | writeBinding candidate =>
    match s.writeBinding candidate with
    | .ok (outcome, stored, _) => .ofBindings (outcome.changes stored)
    | .error _ => .none
  | reconcile time key => s.reconcileChanges time key
  | pass c here => Controller.workChanges here (c.passStart s) (s.policyList.map Policy.key)

/-- All that some actions change, one after the other. -/
def Store.changes (s : Store) : List Action → Changes
  | [] => .none
  | a :: actions => a.changes s ++ (a.perform s).1.changes actions

end ClusterPlacement
