import ClusterPlacement.Json.Codec
import ClusterPlacement.Proofs.Except
import ClusterPlacement.Proofs.Json.Text
/-! Faithful codecs. A codec is faithful if it writes plain values and reads back what it wrote from
every document that holds it, in particular from its own text. Each way to build a codec keeps this:
an option needs a codec that never writes null, a list or a table needs nothing, and a record needs
distinct names for its fields. -/

namespace ClusterPlacement.Json

variable {α β : Type}

/-- Nothing but null is held by null. -/
theorem HeldBy.eq_null {v : Json} (held : v.HeldBy .null) : v = .null := by
  cases held
  rfl

namespace Codec

structure Faithful (c : Codec α) : Prop where
  plain : ∀ a, (c.encode a).IsPlain
  decode : ∀ a d, (c.encode a).HeldBy d → c.decode d = .ok a

variable {c : Codec α}

theorem Faithful.decodeValue_encode (faithful : c.Faithful) (a : α) :
    c.decodeValue (c.encode a) = .ok a :=
  faithful.decode a _ (Document.heldBy_ofJson (faithful.plain a))

theorem Faithful.decodeText_textAt (faithful : c.Faithful) (a : α) (pretty : Bool) (depth : Nat) :
    c.decodeText (textAt pretty depth (c.encode a)).toList = .ok a := by
  obtain ⟨d, read, held⟩ := Document.read_textAt (faithful.plain a) pretty depth
  rw [decodeText, read]
  simp only [faithful.decode a d held]
  rfl

theorem string_faithful : string.Faithful where
  plain s := .string s
  decode := by
    rintro s d ⟨⟩
    rfl

theorem boolean_faithful : boolean.Faithful where
  plain b := .boolean b
  decode := by
    rintro b d ⟨⟩
    rfl

theorem boundedDecoder_natural {n limit : Nat} (below : n < limit) (wanted : String) :
    boundedDecoder wanted limit (.number (.ok (.integer n))) = .ok n := by
  have within : 0 ≤ (n : Int) ∧ (n : Int) < limit := ⟨Int.natCast_nonneg n, Int.ofNat_lt.2 below⟩
  rw [boundedDecoder, if_pos within, Int.toNat_natCast]

theorem word32_faithful : word32.Faithful where
  plain n := .natural _ (Nat.lt_trans n.toNat_lt (by decide))
  decode := by
    rintro n d ⟨⟩
    simp only [word32, boundedDecoder_natural n.toNat_lt_size]
    exact congrArg Except.ok (UInt32.ofNat_toNat)

theorem word64_faithful : word64.Faithful where
  plain n := .natural _ n.toNat_lt_size
  decode := by
    rintro n d ⟨⟩
    simp only [word64, boundedDecoder_natural n.toNat_lt_size]
    exact congrArg Except.ok (UInt64.ofNat_toNat)

/-- Null stands for no value, so it may not stand for a value as well. -/
theorem Faithful.optional (faithful : c.Faithful) (solid : ∀ a, c.encode a ≠ .null) :
    c.optional.Faithful where
  plain
    | none => .null
    | some a => faithful.plain a
  decode
    | none, d, held => by
      cases held
      rfl
    | some a, d, held => by
      have value := faithful.decode a d held
      cases d with
      | null => exact absurd held.eq_null (solid a)
      | _ => exact congrArg (Except.map some) value

theorem variant_faithful {known : List (String × α)} {nameOf : α → String}
    (listed : ∀ a, known.lookup (nameOf a) = some a) : (variant known nameOf).Faithful where
  plain a := .string _
  decode := by
    rintro a d ⟨⟩
    simp only [variant, variantDecoder, variantNamed, listed]

theorem Faithful.list (faithful : c.Faithful) : c.list.Faithful where
  plain values := by
    refine .array _ fun v member => ?_
    obtain ⟨a, -, rfl⟩ := List.mem_map.1 member
    exact faithful.plain a
  decode := by
    rintro values d ⟨⟩
    case array ds each =>
      have read : ds.mapM c.decode = .ok values := by
        rw [Except.mapM_eq_ok_iff]
        refine List.Forall₂.flip ?_
        rw [List.forall₂_map_left_iff] at each
        exact each.imp fun a d held => faithful.decode a d held
      simp only [Codec.list, listDecoder, read]
      rfl

/-- Entries in any order fill a table with what another table has under their keys. -/
theorem Faithful.tableEntries_eq (faithful : c.Faithful) {t : Table α} {fields : List (String × Json)}
    {entries : List (Except Fault String × Document)} (held : List.Forall₂ EntryHeldBy fields entries)
    (own : ∀ f ∈ fields, ∃ a, t.find? f.1 = some a ∧ f.2 = c.encode a) (start : Table α) :
    ∃ u, tableEntries c.decode entries start = .ok u ∧
      ∀ k, u.find? k = if k ∈ fields.map Prod.fst then t.find? k else start.find? k := by
  induction held generalizing start with
  | nil => exact ⟨start, rfl, fun _ => by simp⟩
  | @cons f entry fields entries head _ ih =>
    obtain ⟨a, found, value⟩ := own f List.mem_cons_self
    have decoded : c.decode entry.2 = .ok a := faithful.decode a _ (value ▸ head.2)
    obtain ⟨u, rest, finds⟩ :=
      ih (fun f' member => own f' (List.mem_cons_of_mem _ member)) (start.insert f.1 a)
    refine ⟨u, ?_, fun k => ?_⟩
    · rw [← rest, tableEntries, head.1, decoded]
      rfl
    · rw [finds, List.map_cons, Table.find?_insert]
      by_cases here : k = f.1
      · simp [here, found]
      · have other : k ∈ f.1 :: fields.map Prod.fst ↔ k ∈ fields.map Prod.fst := by simp [here]
        simp only [other, here, if_false]

theorem Faithful.table (faithful : c.Faithful) : c.table.Faithful where
  plain t := by
    refine .object _ ?_ fun f member => ?_
    · rw [List.map_map]
      exact t.nodup_keys
    · obtain ⟨entry, -, rfl⟩ := List.mem_map.1 member
      exact faithful.plain entry.2
  decode t d held := by
    obtain ⟨fields, entries, order, rfl, each⟩ := heldBy_object_iff.1 held
    have own : ∀ f ∈ fields, ∃ a, t.find? f.1 = some a ∧ f.2 = c.encode a := by
      intro f member
      obtain ⟨entry, stored, rfl⟩ := List.mem_map.1 (order.mem_iff.2 member)
      exact ⟨entry.2, (t.mem_entries_iff _ _).1 stored, rfl⟩
    obtain ⟨u, read, finds⟩ := faithful.tableEntries_eq each own .empty
    have same : u = t := by
      refine Table.ext_find? fun k => ?_
      have keys : k ∈ fields.map Prod.fst ↔ (t.find? k).isSome := by
        rw [← (order.map Prod.fst).mem_iff, List.map_map, Option.isSome_iff_exists]
        simp [← Table.mem_entries_iff]
      rw [finds]
      split
      case isTrue => rfl
      case isFalse absent =>
        rw [keys, Option.not_isSome_iff_eq_none] at absent
        rw [absent, Table.find?_empty]
    simp only [Codec.table, tableDecoder, read, same]
    rfl

end Codec

namespace Record

variable {fields : List Field} {keep keep' : String → Bool}

/-- The cells in which some fields of a row have been met. -/
def given (keep : String → Bool) : (fields : List Field) → Row fields → Cells fields
  | [], _ => ()
  | f :: fields, (v, row) => (if keep f.name then some v else none, given keep fields row)

theorem given_congr (same : ∀ f ∈ fields, keep f.name = keep' f.name) (row : Row fields) :
    given keep fields row = given keep' fields row := by
  induction fields with
  | nil => rfl
  | cons f fields ih =>
    rw [given, given, same f List.mem_cons_self, ih fun f member => same f (List.mem_cons_of_mem _ member)]

theorem given_none (row : Row fields) : given (fun _ => false) fields row = noCells fields := by
  induction fields with
  | nil => rfl
  | cons f fields ih =>
    rw [given, ih]
    rfl

theorem complete_given (all : ∀ f ∈ fields, keep f.name = true) (row : Row fields) :
    complete fields (given keep fields row) = .ok row := by
  induction fields with
  | nil => rfl
  | cons f fields ih =>
    rw [given, all f List.mem_cons_self, if_pos rfl, complete,
      ih fun f member => all f (List.mem_cons_of_mem _ member)]
    rfl

theorem names_encode (row : Row fields) : (encode fields row).map Prod.fst = fields.map Field.name := by
  induction fields with
  | nil => rfl
  | cons f fields ih => rw [encode, List.map_cons, List.map_cons, ih]

variable (faithful : fields.Forall fun f => f.codec.Faithful)
  (distinct : (fields.map Field.name).Nodup)
include faithful

theorem plain_encode (row : Row fields) : ∀ f ∈ encode fields row, f.2.IsPlain := by
  induction fields with
  | nil => exact nofun
  | cons f fields ih =>
    obtain ⟨head, tail⟩ := List.forall_cons _ _ _ |>.1 faithful
    exact List.forall_mem_cons.2 ⟨head.plain row.1, ih tail row.2⟩

include distinct

/-- The value of a field that has not been met goes into its cell. -/
theorem accept_given {row : Row fields} {f : String × Json} (written : f ∈ encode fields row)
    {d : Document} (held : f.2.HeldBy d) (fresh : keep f.1 = false) :
    accept f.1 d fields (given keep fields row) =
      some (.ok (given (fun k => keep k || k == f.1) fields row)) := by
  induction fields with
  | nil => exact absurd written List.not_mem_nil
  | cons field fields ih =>
    obtain ⟨head, tail⟩ := List.forall_cons _ _ _ |>.1 faithful
    obtain ⟨v, row⟩ := row
    rw [List.map_cons, List.nodup_cons] at distinct
    rcases List.mem_cons.1 written with rfl | later
    · have others : given keep fields row = given (fun k => keep k || k == field.name) fields row := by
        refine given_congr (fun f member => ?_) row
        have other : f.name ≠ field.name := fun same =>
          distinct.1 (same ▸ List.mem_map_of_mem member)
        simp [other]
      have value := head.decode v d held
      simp [accept, given, fresh, value, others, Except.map]
    · have other : f.1 ≠ field.name := by
        intro same
        refine distinct.1 ?_
        rw [← same, ← names_encode row]
        exact List.mem_map_of_mem later
      simp [accept, given, other, other.symm, ih tail distinct.2 later, Except.map]

theorem acceptAll_given {row : Row fields} {written : List (String × Json)}
    {entries : List (Except Fault String × Document)} (held : List.Forall₂ EntryHeldBy written entries)
    (own : ∀ f ∈ written, f ∈ encode fields row) (once : (written.map Prod.fst).Nodup)
    (keep : String → Bool) (fresh : ∀ f ∈ written, keep f.1 = false) :
    acceptAll fields entries (given keep fields row) =
      .ok (given (fun k => keep k || (written.map Prod.fst).contains k) fields row) := by
  induction held generalizing keep with
  | nil => simp [acceptAll]
  | @cons f entry written entries head _ ih =>
    rw [List.map_cons, List.nodup_cons] at once
    have accepted := accept_given faithful distinct (own f List.mem_cons_self) head.2
      (fresh f List.mem_cons_self)
    have rest := ih (fun f member => own f (List.mem_cons_of_mem _ member)) once.2
      (fun k => keep k || k == f.1) (by
        intro f' member
        have other : f'.1 ≠ f.1 := fun same => once.1 (same ▸ List.mem_map_of_mem member)
        simp [fresh f' (List.mem_cons_of_mem _ member), other])
    obtain ⟨key, d⟩ := entry
    obtain ⟨rfl, -⟩ := head
    simp only [acceptAll, keyText, Except.mapError, bind, Except.bind, accepted, rest,
      Bool.or_assoc, List.map_cons, List.contains_cons]

/-- The keys of a written row may come back in any order. -/
theorem decoder_object {row : Row fields} {written : List (String × Json)}
    {entries : List (Except Fault String × Document)} (order : (encode fields row).Perm written)
    (held : List.Forall₂ EntryHeldBy written entries) (name : String) :
    decoder name fields (.object entries none) = .ok row := by
  have keys : (written.map Prod.fst).Perm (fields.map Field.name) :=
    names_encode row ▸ (order.map Prod.fst).symm
  have accepted := acceptAll_given faithful distinct held (fun f member => order.mem_iff.2 member)
    (keys.nodup_iff.2 distinct) (fun _ => false) fun _ _ => rfl
  rw [given_none] at accepted
  have all : ∀ f ∈ fields, (false || (written.map Prod.fst).contains f.name) = true := by
    intro f member
    simpa using keys.mem_iff.2 (List.mem_map_of_mem member)
  simp only [decoder, accepted, close, bind, Except.bind]
  exact complete_given all row

end Record

/-- A record is faithful if its fields are and if it is made of the row of its values. -/
theorem Codec.record_faithful (name : String) {fields : List Field} {build : Row fields → α}
    {row : α → Row fields} (distinct : (fields.map Field.name).Nodup)
    (faithful : fields.Forall fun f => f.codec.Faithful) (whole : ∀ a, build (row a) = a) :
    (Codec.record name fields build row).Faithful where
  plain a := by
    refine .object _ ?_ (Record.plain_encode faithful (row a))
    rw [Record.names_encode]
    exact distinct
  decode a d held := by
    obtain ⟨written, entries, order, rfl, each⟩ := heldBy_object_iff.1 held
    simp only [Codec.record, Record.decoder_object faithful distinct order each]
    exact congrArg Except.ok (whole a)

end ClusterPlacement.Json
