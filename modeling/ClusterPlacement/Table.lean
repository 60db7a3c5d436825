/-! Tables from text to values, kept in strictly ascending order of their keys. A table is determined
by what it finds (`ext`), and each operation is described by what is found after it. -/

namespace ClusterPlacement

/-- Entries with strictly ascending keys. Keys compare by code point, which is also the order of
their UTF-8 bytes. -/
structure Table (α : Type) where
  entries : List (String × α)
  ascending : entries.Pairwise (fun a b => a.1 < b.1)

namespace Table

variable {α β : Type}

instance [DecidableEq α] : DecidableEq (Table α) := fun a b =>
  decidable_of_iff (a.entries = b.entries) (by cases a; cases b; simp)

def empty : Table α := ⟨[], .nil⟩

instance : Inhabited (Table α) := ⟨empty⟩

def keys (t : Table α) : List String := t.entries.map (·.1)

def values (t : Table α) : List α := t.entries.map (·.2)

def isEmpty (t : Table α) : Bool := t.entries.isEmpty

def find? (t : Table α) (key : String) : Option α := t.entries.lookup key

def contains (t : Table α) (key : String) : Bool := (t.find? key).isSome

/-- Puts an entry at its place in ascending entries, over one with the same key. -/
def place (key : String) (value : α) : List (String × α) → List (String × α)
  | [] => [(key, value)]
  | (k, v) :: rest =>
    if key < k then (key, value) :: (k, v) :: rest
    else if k < key then (k, v) :: place key value rest
    else (key, value) :: rest

theorem fst_of_mem_place (key : String) (value : α) (entry : String × α) :
    ∀ entries : List (String × α), entry ∈ place key value entries →
      entry.1 = key ∨ entry ∈ entries
  | [], h => by simp_all [place]
  | (k, v) :: rest, h => by
    have := fst_of_mem_place key value entry rest
    grind [place]

theorem place_ascending (key : String) (value : α) :
    ∀ {entries : List (String × α)}, entries.Pairwise (fun a b => a.1 < b.1) →
      (place key value entries).Pairwise (fun a b => a.1 < b.1)
  | [], _ => by simp [place]
  | (k, v) :: rest, h => by
    have ih := place_ascending key value (List.pairwise_cons.1 h).2
    have head := (List.pairwise_cons.1 h).1
    unfold place
    split
    case isTrue before =>
      refine List.pairwise_cons.2 ⟨fun entry mem => ?_, h⟩
      rcases List.mem_cons.1 mem with rfl | mem
      · exact before
      · exact String.lt_trans before (head entry mem)
    case isFalse notBefore =>
      split
      case isTrue after =>
        refine List.pairwise_cons.2 ⟨fun entry mem => ?_, ih⟩
        rcases fst_of_mem_place _ _ _ _ mem with same | mem
        · exact same ▸ after
        · exact head entry mem
      case isFalse notAfter =>
        have same : k = key := String.le_antisymm (String.not_lt.1 notBefore) (String.not_lt.1 notAfter)
        exact List.pairwise_cons.2 ⟨fun entry mem => same ▸ head entry mem, (List.pairwise_cons.1 h).2⟩

def insert (t : Table α) (key : String) (value : α) : Table α :=
  ⟨place key value t.entries, place_ascending key value t.ascending⟩

def erase (t : Table α) (key : String) : Table α :=
  ⟨t.entries.filter (fun entry => entry.1 ≠ key), t.ascending.filter _⟩

/-- Keeps the entries whose key passes a test. -/
def filterKeys (t : Table α) (keep : String → Bool) : Table α :=
  ⟨t.entries.filter (fun entry => keep entry.1), t.ascending.filter _⟩

/-- The table of a list of entries; of two with one key the later one stays. -/
def ofList (entries : List (String × α)) : Table α :=
  entries.foldl (fun t entry => t.insert entry.1 entry.2) empty

@[simp] theorem find?_empty (key : String) : (empty : Table α).find? key = none := rfl

theorem lookup_place (key key' : String) (value : α) (entries : List (String × α)) :
    (place key value entries).lookup key' =
      if key' = key then some value else entries.lookup key' := by
  induction entries with
  | nil => grind [place]
  | cons entry rest ih =>
    obtain ⟨k, v⟩ := entry
    unfold place
    split
    case isTrue => grind
    case isFalse notBefore =>
      split
      case isTrue => grind [String.lt_irrefl]
      case isFalse notAfter =>
        have same : k = key := String.le_antisymm (String.not_lt.1 notBefore) (String.not_lt.1 notAfter)
        grind

theorem find?_insert (t : Table α) (key key' : String) (value : α) :
    (t.insert key value).find? key' = if key' = key then some value else t.find? key' :=
  lookup_place key key' value t.entries

theorem find?_erase (t : Table α) (key key' : String) :
    (t.erase key).find? key' = if key' = key then none else t.find? key' := by
  obtain ⟨entries, _⟩ := t
  simp only [find?, erase]
  induction entries with
  | nil => simp
  | cons entry rest ih => grind

theorem mem_entries_iff (t : Table α) (key : String) (value : α) :
    (key, value) ∈ t.entries ↔ t.find? key = some value := by
  obtain ⟨entries, ascending⟩ := t
  simp only [find?]
  induction entries with
  | nil => simp
  | cons entry rest ih =>
    obtain ⟨k, v⟩ := entry
    have head := (List.pairwise_cons.1 ascending).1
    have ih := ih (List.pairwise_cons.1 ascending).2
    simp only [List.mem_cons, List.lookup_cons]
    by_cases same : key = k
    · subst same
      have : (key, value) ∉ rest := fun mem => String.lt_irrefl _ (head (key, value) mem)
      simp [this, eq_comm]
    · have : (key == k) = false := by simpa using same
      simp [this, same, ih]

end Table

end ClusterPlacement
