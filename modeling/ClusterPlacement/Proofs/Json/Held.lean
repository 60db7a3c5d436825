import ClusterPlacement.Json.Document
import ClusterPlacement.Proofs.Table
import Mathlib.Data.List.Forall2
/-! JSON values and the complete documents that hold them. A document holds a value if it has the same
scalars, the same items in the same order, and the same keys in any order. The document that is made
of a plain value holds it (`heldBy_ofJson`). -/

namespace ClusterPlacement

namespace Json

/-- A value without floats, in which every number fits 64 bits without a sign and every object has
distinct keys. -/
inductive IsPlain : Json → Prop
  | null : IsPlain .null
  | boolean (b : Bool) : IsPlain (.boolean b)
  | natural (n : Nat) (fits : n < UInt64.size) : IsPlain (natural n)
  | string (s : String) : IsPlain (.string s)
  | array (items : List Json) (each : ∀ v ∈ items, IsPlain v) : IsPlain (.array items)
  | object (fields : List (String × Json)) (distinct : (fields.map Prod.fst).Nodup)
      (each : ∀ f ∈ fields, IsPlain f.2) : IsPlain (.object fields)

/-- A complete document with the content of a value. The keys of an object may come in another
order, `fields'`. -/
inductive HeldBy : Json → Document → Prop
  | null : HeldBy .null .null
  | boolean (b : Bool) : HeldBy (.boolean b) (.boolean b)
  | number (n : Number) : HeldBy (.number n) (.number (.ok n))
  | string (s : String) : HeldBy (.string s) (.string (.ok s))
  | array {items : List Json} {ds : List Document} (each : List.Forall₂ HeldBy items ds) :
      HeldBy (.array items) (.array ds none)
  | object {fields fields' : List (String × Json)}
      {entries : List (Except Fault String × Document)} (order : fields.Perm fields')
      (keys : entries.map Prod.fst = fields'.map fun f => .ok f.1)
      (values : List.Forall₂ HeldBy (fields'.map Prod.snd) (entries.map Prod.snd)) :
      HeldBy (.object fields) (.object entries none)

/-- An entry of an object under its key. -/
def EntryHeldBy (f : String × Json) (entry : Except Fault String × Document) : Prop :=
  entry.1 = .ok f.1 ∧ f.2.HeldBy entry.2

theorem heldBy_object_iff {fields : List (String × Json)} {d : Document} :
    HeldBy (.object fields) d ↔ ∃ fields' entries, fields.Perm fields' ∧ d = .object entries none ∧
      List.Forall₂ EntryHeldBy fields' entries := by
  constructor
  · rintro ⟨⟩
    case object fields' entries keys values order =>
      refine ⟨fields', entries, order, rfl, ?_⟩
      rw [List.forall₂_map_left_iff, List.forall₂_map_right_iff] at values
      clear order
      induction values with
      | nil => exact .nil
      | cons head _ ih =>
        rw [List.map_cons, List.map_cons, List.cons_eq_cons] at keys
        exact .cons ⟨keys.1, head⟩ (ih keys.2)
  · rintro ⟨fields', entries, order, rfl, each⟩
    refine .object order ?_ ?_
    · clear order
      induction each with
      | nil => rfl
      | cons head _ ih => rw [List.map_cons, List.map_cons, head.1, ih]
    · rw [List.forall₂_map_left_iff, List.forall₂_map_right_iff]
      exact each.imp fun f e held => held.2

end Json

namespace Document

theorem ofItems_eq_map (items : List Json) : ofItems items = items.map ofJson := by
  induction items with
  | nil => rfl
  | cons v rest ih => rw [ofItems, ih, List.map_cons]

theorem ofFields_eq_map (fields : List (String × Json)) :
    ofFields fields = fields.map fun f => (f.1, ofJson f.2) := by
  induction fields with
  | nil => rfl
  | cons f rest ih => rw [ofFields, ih, List.map_cons]

theorem heldBy_ofJson {v : Json} (plain : v.IsPlain) : v.HeldBy (ofJson v) := by
  induction plain with
  | null => exact .null
  | boolean b => exact .boolean b
  | natural n _ => exact .number _
  | string s => exact .string s
  | array items _ ih =>
    rw [ofJson, ofItems_eq_map]
    refine .array ?_
    rw [List.forall₂_map_right_iff, List.forall₂_same]
    exact ih
  | object fields distinct _ ih =>
    have order := Table.entries_ofList_perm distinct
    rw [ofJson, ofFields_eq_map, ← Table.map_ofList]
    refine Json.heldBy_object_iff.2 ⟨_, _, order.symm, rfl, ?_⟩
    rw [Table.map, List.map_map, List.forall₂_map_right_iff, List.forall₂_same]
    exact fun f member => ⟨rfl, ih f (order.mem_iff.1 member)⟩

end Document

end ClusterPlacement
