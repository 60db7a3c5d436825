import ClusterPlacement.Proofs.Json.Faithful
import ClusterPlacement.Store.Form
/-! The forms of all records are faithful, each because the forms of its parts are. So a record comes
back from its tree and from its text, and tables that keep the texts of records answer as the tables
of the records do. -/

namespace ClusterPlacement

open Json (Codec compactText textAt)
open Json.Codec (string_faithful boolean_faithful word32_faithful word64_faithful variant_faithful
  record_faithful)

namespace Json.Codec

variable {α : Type} {c : Codec α}

/-- Puts the text of a value under a key. -/
def put (c : Codec α) (texts : Table String) (key : String) (a : α) : Table String :=
  texts.insert key (compactText (c.encode a))

/-- The value of the text under a key, if there is one. -/
def fetch (c : Codec α) (texts : Table String) (key : String) : Except TextError (Option α) :=
  match texts.find? key with
  | some text => (c.decodeText text.toList).map some
  | none => .ok none

/-- The values of all texts, in the order of their keys. -/
def fetchAll (c : Codec α) (texts : Table String) : Except TextError (List α) :=
  texts.values.mapM fun text => c.decodeText text.toList

/-- A table with its values as texts. -/
def kept (c : Codec α) (t : Table α) : Table String := t.map fun a => compactText (c.encode a)

theorem put_kept (t : Table α) (key : String) (a : α) :
    c.put (c.kept t) key a = c.kept (t.insert key a) := (Table.map_insert _ key a).symm

theorem Faithful.fetch_put (faithful : c.Faithful) (texts : Table String) (key : String) (a : α)
    (key' : String) :
    c.fetch (c.put texts key a) key' = if key' = key then .ok (some a) else c.fetch texts key' := by
  rw [fetch, put, Table.find?_insert]
  by_cases here : key' = key
  · rw [if_pos here, if_pos here]
    exact congrArg (Except.map some) (faithful.decodeText_textAt a false 0)
  · rw [if_neg here, if_neg here, fetch]

theorem Faithful.fetch_kept (faithful : c.Faithful) (t : Table α) (key : String) :
    c.fetch (c.kept t) key = .ok (t.find? key) := by
  rw [fetch, kept, Table.find?_map]
  cases t.find? key with
  | none => rfl
  | some a => exact congrArg (Except.map some) (faithful.decodeText_textAt a false 0)

theorem Faithful.fetchAll_kept (faithful : c.Faithful) (t : Table α) :
    c.fetchAll (c.kept t) = .ok t.values := by
  rw [fetchAll, kept, Table.values_map, Except.mapM_eq_ok_iff, List.forall₂_map_left_iff,
    List.forall₂_same]
  exact fun a _ => faithful.decodeText_textAt a false 0

/-- Values come back from their trees and texts, and a store of texts answers as one of values. -/
structure RoundTrips (c : Codec α) : Prop extends c.Faithful where
  tree : ∀ a, c.decodeValue (c.encode a) = .ok a
  text : ∀ a pretty depth, c.decodeText (textAt pretty depth (c.encode a)).toList = .ok a
  returned : ∀ texts key a key', c.fetch (c.put texts key a) key' =
    if key' = key then .ok (some a) else c.fetch texts key'
  put_kept : ∀ t key a, c.put (c.kept t) key a = c.kept (t.insert key a)
  fetch_kept : ∀ t key, c.fetch (c.kept t) key = .ok (t.find? key)
  fetchAll_kept : ∀ t, c.fetchAll (c.kept t) = .ok t.values

theorem Faithful.roundTrips (faithful : c.Faithful) : c.RoundTrips where
  toFaithful := faithful
  tree := faithful.decodeValue_encode
  text := faithful.decodeText_textAt
  returned := faithful.fetch_put
  put_kept := put_kept
  fetch_kept := faithful.fetch_kept
  fetchAll_kept := faithful.fetchAll_kept

end Json.Codec

theorem Labels.form_faithful : Labels.form.Faithful := string_faithful.table

theorem Labels.form_encode_ne_null (labels : Labels) : form.encode labels ≠ .null := nofun

theorem ClusterState.form_faithful : ClusterState.form.Faithful :=
  variant_faithful fun state => by cases state <;> rfl

theorem ClusterState.statusForm_faithful : ClusterState.statusForm.Faithful :=
  record_faithful _ (by decide) form_faithful fun _ => rfl

theorem Cluster.form_faithful : Cluster.form.Faithful :=
  record_faithful _ (by decide)
    ⟨string_faithful, Labels.form_faithful, ClusterState.statusForm_faithful⟩ fun _ => rfl

theorem SetMember.form_faithful : SetMember.form.Faithful :=
  record_faithful _ (by decide) ⟨string_faithful, string_faithful⟩ fun _ => rfl

theorem ClusterSet.form_faithful : ClusterSet.form.Faithful :=
  record_faithful _ (by decide)
    ⟨string_faithful, SetMember.form_faithful.list,
      Labels.form_faithful.optional Labels.form_encode_ne_null⟩ fun _ => rfl

/-- An empty selector is told apart from none. -/
example : [none, some .empty].map (fun selector => ClusterSet.form.encode ⟨"edge", [], selector⟩) =
    [.object [("name", .string "edge"), ("clusters", .array []), ("selector", .null)],
      .object [("name", .string "edge"), ("clusters", .array []), ("selector", .object [])]] := rfl

theorem Namespace.form_faithful : Namespace.form.Faithful :=
  record_faithful _ (by decide) ⟨string_faithful, Labels.form_faithful⟩ fun _ => rfl

theorem ClusterSource.form_faithful : ClusterSource.form.Faithful :=
  variant_faithful fun source => by cases source <;> rfl

theorem ScheduleMode.form_faithful : ScheduleMode.form.Faithful :=
  variant_faithful fun mode => by cases mode <;> rfl

theorem FailoverKind.form_faithful : FailoverKind.form.Faithful :=
  variant_faithful fun kind => by cases kind <;> rfl

theorem optionalString_faithful : Codec.string.optional.Faithful := string_faithful.optional nofun

theorem optionalWord32_faithful : Codec.word32.optional.Faithful := word32_faithful.optional nofun

theorem optionalWord64_faithful : Codec.word64.optional.Faithful := word64_faithful.optional nofun

theorem PolicyEntry.form_faithful : PolicyEntry.form.Faithful :=
  record_faithful _ (by decide)
    ⟨optionalString_faithful, optionalString_faithful, word32_faithful, optionalWord32_faithful,
      optionalWord32_faithful⟩ fun _ => rfl

theorem FailoverEntry.form_faithful : FailoverEntry.form.Faithful :=
  record_faithful _ (by decide) ⟨string_faithful, FailoverKind.form_faithful⟩ fun _ => rfl

theorem PolicySpec.form_faithful : PolicySpec.form.Faithful :=
  record_faithful _ (by decide)
    ⟨string_faithful.list, ClusterSource.form_faithful, optionalString_faithful, word32_faithful,
      ScheduleMode.form_faithful, PolicyEntry.form_faithful.list, FailoverEntry.form_faithful.list,
      boolean_faithful⟩ fun _ => rfl

theorem PolicyStatus.form_faithful : PolicyStatus.form.Faithful :=
  record_faithful _ (by decide) ⟨optionalWord64_faithful, optionalWord64_faithful⟩ fun _ => rfl

theorem Policy.form_faithful : Policy.form.Faithful :=
  record_faithful _ (by decide)
    ⟨string_faithful, string_faithful, string_faithful, PolicySpec.form_faithful,
      PolicyStatus.form_faithful⟩ fun _ => rfl

theorem Owner.form_faithful : Owner.form.Faithful :=
  record_faithful _ (by decide) ⟨string_faithful, string_faithful, string_faithful⟩ fun _ => rfl

theorem Resource.form_faithful : Resource.form.Faithful :=
  record_faithful _ (by decide) ⟨string_faithful, string_faithful, optionalString_faithful⟩
    fun _ => rfl

theorem Patch.form_faithful : Patch.form.Faithful :=
  record_faithful _ (by decide) ⟨variant_faithful fun _ => rfl, string_faithful, string_faithful⟩
    fun _ => rfl

theorem BoundCluster.form_faithful : BoundCluster.form.Faithful :=
  record_faithful _ (by decide) ⟨string_faithful, Patch.form_faithful.list⟩ fun _ => rfl

theorem BoundResource.form_faithful : BoundResource.form.Faithful :=
  record_faithful _ (by decide) ⟨string_faithful, BoundCluster.form_faithful.list⟩ fun _ => rfl

theorem BindingSpec.form_faithful : BindingSpec.form.Faithful :=
  record_faithful _ (by decide) BoundResource.form_faithful.list fun _ => rfl

theorem Binding.form_faithful : Binding.form.Faithful :=
  record_faithful _ (by decide)
    ⟨string_faithful, string_faithful, Owner.form_faithful, word64_faithful,
      BindingSpec.form_faithful⟩ fun _ => rfl

theorem Manifest.form_faithful : Manifest.form.Faithful :=
  record_faithful _ (by decide)
    ⟨Cluster.form_faithful.list, ClusterSet.form_faithful.list, Namespace.form_faithful.list,
      Resource.form_faithful.list, Policy.form_faithful.list⟩ fun _ => rfl

theorem Store.form_faithful : Store.form.Faithful :=
  record_faithful _ (by decide)
    ⟨Policy.form_faithful.table, Cluster.form_faithful.table, ClusterSet.form_faithful.table,
      Binding.form_faithful.table, Resource.form_faithful.table, Namespace.form_faithful.table⟩
    fun _ => rfl

/-- Every record and every part of one comes back from its form, and so does a whole store from the
text of its file. -/
theorem forms_roundTrip :
    (Policy.form.RoundTrips ∧ PolicySpec.form.RoundTrips ∧ PolicyStatus.form.RoundTrips ∧
      PolicyEntry.form.RoundTrips ∧ FailoverEntry.form.RoundTrips ∧ ClusterSource.form.RoundTrips ∧
      ScheduleMode.form.RoundTrips ∧ FailoverKind.form.RoundTrips) ∧
    (Cluster.form.RoundTrips ∧ Labels.form.RoundTrips ∧ ClusterState.statusForm.RoundTrips ∧
      ClusterState.form.RoundTrips) ∧
    (ClusterSet.form.RoundTrips ∧ SetMember.form.RoundTrips) ∧
    Resource.form.RoundTrips ∧ Namespace.form.RoundTrips ∧
    (Binding.form.RoundTrips ∧ Owner.form.RoundTrips ∧ BindingSpec.form.RoundTrips ∧
      BoundResource.form.RoundTrips ∧ BoundCluster.form.RoundTrips ∧ Patch.form.RoundTrips) ∧
    Manifest.form.RoundTrips ∧ Store.form.RoundTrips := by
  refine ⟨⟨?_, ?_, ?_, ?_, ?_, ?_, ?_, ?_⟩, ⟨?_, ?_, ?_, ?_⟩, ⟨?_, ?_⟩, ?_, ?_,
    ⟨?_, ?_, ?_, ?_, ?_, ?_⟩, ?_, ?_⟩
  · exact Policy.form_faithful.roundTrips
  · exact PolicySpec.form_faithful.roundTrips
  · exact PolicyStatus.form_faithful.roundTrips
  · exact PolicyEntry.form_faithful.roundTrips
  · exact FailoverEntry.form_faithful.roundTrips
  · exact ClusterSource.form_faithful.roundTrips
  · exact ScheduleMode.form_faithful.roundTrips
  · exact FailoverKind.form_faithful.roundTrips
  · exact Cluster.form_faithful.roundTrips
  · exact Labels.form_faithful.roundTrips
  · exact ClusterState.statusForm_faithful.roundTrips
  · exact ClusterState.form_faithful.roundTrips
  · exact ClusterSet.form_faithful.roundTrips
  · exact SetMember.form_faithful.roundTrips
  · exact Resource.form_faithful.roundTrips
  · exact Namespace.form_faithful.roundTrips
  · exact Binding.form_faithful.roundTrips
  · exact Owner.form_faithful.roundTrips
  · exact BindingSpec.form_faithful.roundTrips
  · exact BoundResource.form_faithful.roundTrips
  · exact BoundCluster.form_faithful.roundTrips
  · exact Patch.form_faithful.roundTrips
  · exact Manifest.form_faithful.roundTrips
  · exact Store.form_faithful.roundTrips

end ClusterPlacement
