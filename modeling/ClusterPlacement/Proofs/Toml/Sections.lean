import ClusterPlacement.Proofs.Toml.Lines
/-! Sections are read back as tables. If no name is given twice, the header of a section opens a new table at the
end of the document, and each entry under it goes to the end of that table. -/

namespace ClusterPlacement.Toml

variable {key name : String} {entries inner root : Entries} {path : List String}

namespace Entries

theorem set_append (fresh : entries.lookup key = none) (node : Node) (rest : Entries) :
    set key node (entries ++ rest) = entries ++ set key node rest := by
  induction entries with
  | nil => rfl
  | cons entry entries ih =>
    obtain ⟨k, old⟩ := entry
    rw [List.lookup_cons] at fresh
    split at fresh
    case h_1 => cases fresh
    case h_2 other =>
      have differ : k ≠ key := fun same => by simp [same] at other
      rw [List.cons_append, set, if_neg differ, ih fresh, List.cons_append]

theorem set_of_lookup (fresh : entries.lookup key = none) (node : Node) :
    set key node entries = entries ++ [(key, node)] := by
  have added := set_append fresh node []
  rwa [List.append_nil] at added

theorem set_last (fresh : entries.lookup key = none) (old node : Node) :
    set key node (entries ++ [(key, old)]) = entries ++ [(key, node)] := by
  rw [set_append fresh, set, if_pos rfl]

theorem lookup_append (fresh : entries.lookup key = none) (node : Node) :
    (entries ++ [(key, node)]).lookup key = some node := by
  rw [List.lookup_append, fresh, Option.none_or, List.lookup_cons_self]

end Entries

namespace Assembly

theorem add_table (fresh : root.lookup name = none) : add ⟨root, path⟩ (.table [name]) =
    some ⟨root ++ [(name, .table .explicit [])], [name]⟩ := by
  simp [add, openAt, Entries.modify, Entries.openTable, fresh, Entries.set_of_lookup fresh]

theorem add_entry (fresh : root.lookup name = none) (new : inner.lookup key = none) (v : Toml) :
    add ⟨root ++ [(name, .table .explicit inner)], [name]⟩ (.entry [key] (.plain v)) =
      some ⟨root ++ [(name, .table .explicit (inner ++ [(key, .value v)]))], [name]⟩ := by
  simp [add, Expr.value?, Entries.modify, Entries.lookup_append fresh, Entries.assign, new,
    Entries.set_of_lookup new, Entries.set_last fresh]

end Assembly

/-- A table under a header of its own. -/
structure Section where
  name : String
  entries : List (String × Toml)

namespace Section

def entryStatement (entry : String × Toml) : Statement := .entry [entry.1] (.plain entry.2)

def statements (s : Section) : List Statement := .table [s.name] :: s.entries.map entryStatement

/-- The section as it is read. -/
def table (s : Section) : String × Toml := (s.name, .table s.entries)

def entryNode (entry : String × Toml) : String × Node := (entry.1, .value entry.2)

/-- The section as it is put together. -/
def node (s : Section) : String × Node := (s.name, .table .explicit (s.entries.map entryNode))

/-- No two sections have one name, and no key of a section is given twice. -/
structure Distinct (sections : List Section) : Prop where
  names : (sections.map (·.name)).Nodup
  keys : ∀ s ∈ sections, (s.entries.map (·.1)).Nodup

theorem lookup_eq_none {α : Type} {f : α → String × Node} {items : List α}
    (new : key ∉ items.map fun item => (f item).1) : (items.map f).lookup key = none := by
  rw [List.lookup_eq_none_iff]
  intro entry member
  obtain ⟨item, inside, rfl⟩ := List.mem_map.1 member
  have differ : key ≠ (f item).1 := by
    rintro rfl
    exact new (List.mem_map.2 ⟨item, inside, rfl⟩)
  simpa using differ

theorem not_mem_of_nodup {α : Type} {f : α → String} {earlier later : List α} {item : α}
    (distinct : ((earlier ++ item :: later).map f).Nodup) : f item ∉ earlier.map f := by
  rw [List.map_append, List.map_cons, List.nodup_middle] at distinct
  exact fun member => (List.nodup_cons.1 distinct).1 (List.mem_append_left _ member)

theorem add_entries (fresh : root.lookup name = none) (earlier entries : List (String × Toml))
    (distinct : ((earlier ++ entries).map (·.1)).Nodup) :
    (entries.map entryStatement).foldlM Assembly.add
        ⟨root ++ [(name, .table .explicit (earlier.map entryNode))], [name]⟩ =
      some ⟨root ++ [(name, .table .explicit ((earlier ++ entries).map entryNode))], [name]⟩ := by
  induction entries generalizing earlier with
  | nil =>
    rw [List.append_nil]
    rfl
  | cons entry entries ih =>
    have new : (earlier.map entryNode).lookup entry.1 = none := lookup_eq_none (not_mem_of_nodup distinct)
    have split : earlier ++ entry :: entries = earlier ++ [entry] ++ entries := List.append_cons _ _ _
    have step := Assembly.add_entry fresh new entry.2
    rw [split] at distinct ⊢
    rw [List.map_cons, List.foldlM_cons, entryStatement, step, Option.bind_eq_bind, Option.bind_some,
      ← ih _ distinct, List.map_append]
    rfl

/-- A section goes to the end of the document. -/
theorem add_section {s : Section} (fresh : root.lookup s.name = none) (keys : (s.entries.map (·.1)).Nodup) :
    s.statements.foldlM Assembly.add ⟨root, path⟩ = some ⟨root ++ [s.node], [s.name]⟩ := by
  rw [statements, List.foldlM_cons, Assembly.add_table fresh, Option.bind_eq_bind, Option.bind_some]
  exact add_entries fresh [] s.entries keys

theorem add_sections (path : List String) (earlier sections : List Section)
    (distinct : Distinct (earlier ++ sections)) :
    ∃ path', (sections.flatMap statements).foldlM Assembly.add ⟨earlier.map node, path⟩ =
      some ⟨(earlier ++ sections).map node, path'⟩ := by
  induction sections generalizing earlier path with
  | nil => exact ⟨path, by rw [List.append_nil]; rfl⟩
  | cons s sections ih =>
    have fresh := lookup_eq_none (f := node) (not_mem_of_nodup distinct.names)
    have split : earlier ++ s :: sections = earlier ++ [s] ++ sections := List.append_cons _ _ _
    have keys := distinct.keys s (List.mem_append_right _ List.mem_cons_self)
    rw [split] at distinct ⊢
    rw [List.flatMap_cons, List.foldlM_append, add_section fresh keys, Option.bind_eq_bind,
      Option.bind_some]
    have next := ih [s.name] (earlier ++ [s]) distinct
    rwa [List.map_append] at next

theorem finish_entryNode (entries : List (String × Toml)) :
    Node.finishEntries (entries.map entryNode) = entries := by
  induction entries with
  | nil => rfl
  | cons entry entries ih => rw [List.map_cons, entryNode, Node.finishEntries, Node.finish, ih]

theorem finish_node (sections : List Section) : Node.finishEntries (sections.map node) = sections.map table := by
  induction sections with
  | nil => rfl
  | cons s sections ih =>
    rw [List.map_cons, List.map_cons, node, Node.finishEntries, Node.finish, ih, finish_entryNode, table]

/-- A text of sections is read as their tables. -/
theorem read?_of_spells {sections : List Section} {text : List Char} (distinct : Distinct sections)
    (spells : Spells (sections.flatMap statements) text) : read? text = some (sections.map table) := by
  obtain ⟨path, assembled⟩ := add_sections [] [] sections distinct
  have start : Assembly.start = ⟨([] : List Section).map node, []⟩ := rfl
  rw [read?, readDocument_eq spells, Option.bind_eq_bind, Option.bind_some, start, assembled]
  exact congrArg some (finish_node sections)

end Section

end ClusterPlacement.Toml
