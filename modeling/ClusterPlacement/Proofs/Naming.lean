import ClusterPlacement.Store
/-! Composite keys. Nothing keeps a separator out of the parts that it stands between, so a text can be read
in as many ways as it has separators: two pairs share a key exactly if one namespace lies below the other
and the names make up for the difference. -/

namespace ClusterPlacement

section

variable {separator : Char} {a a' b b' : String}

/-- Two texts around a separator. -/
def joined (separator : Char) (a b : String) : String := a ++ String.singleton separator ++ b

theorem toList_joined (separator : Char) (a b : String) :
    (joined separator a b).toList = a.toList ++ separator :: b.toList := by
  simp [joined]

theorem joined_assoc (separator : Char) (a middle b : String) :
    joined separator (joined separator a middle) b = joined separator a (joined separator middle b) := by
  simp only [joined, String.append_assoc]

/-- A text read twice, with the separator at one place or further behind. -/
theorem joined_eq_of_toList_eq {more : List Char} (longer : a'.toList = a.toList ++ more)
    (tail : separator :: b.toList = more ++ separator :: b'.toList) :
    (a = a' ∧ b = b') ∨ ∃ rest, a' = joined separator a rest ∧ b = joined separator rest b' := by
  cases more with
  | nil =>
    obtain ⟨-, behind⟩ := List.cons.inj tail
    rw [List.append_nil] at longer
    exact .inl ⟨String.toList_injective longer.symm, String.toList_injective behind⟩
  | cons first rest =>
    obtain ⟨rfl, behind⟩ := List.cons.inj tail
    refine .inr ⟨String.ofList rest, String.toList_injective ?_, String.toList_injective ?_⟩
    · rw [toList_joined, String.toList_ofList, longer]
    · rw [toList_joined, String.toList_ofList, behind, List.append_eq]

/-- The ways in which two pairs can make up one text. -/
theorem joined_eq_iff : joined separator a b = joined separator a' b' ↔
    (a = a' ∧ b = b') ∨
    (∃ rest, a' = joined separator a rest ∧ b = joined separator rest b') ∨
    ∃ rest, a = joined separator a' rest ∧ b' = joined separator rest b := by
  constructor
  · intro same
    have lists := congrArg String.toList same
    rw [toList_joined, toList_joined, List.append_eq_append_iff] at lists
    rcases lists with ⟨more, longer, tail⟩ | ⟨more, longer, tail⟩
    · rcases joined_eq_of_toList_eq longer tail with pair | further
      · exact .inl pair
      · exact .inr (.inl further)
    · rcases joined_eq_of_toList_eq longer tail with ⟨rfl, rfl⟩ | further
      · exact .inl ⟨rfl, rfl⟩
      · exact .inr (.inr further)
  · rintro (⟨rfl, rfl⟩ | ⟨rest, rfl, rfl⟩ | ⟨rest, rfl, rfl⟩)
    · rfl
    · exact (joined_assoc separator a rest b').symm
    · exact joined_assoc separator a' rest b

end

variable {ns ns' name name' key : String}

theorem objectKey_eq_joined (ns name : String) : objectKey ns name = joined '/' ns name := rfl

theorem objectKey_toList (ns name : String) :
    (objectKey ns name).toList = ns.toList ++ '/' :: name.toList := toList_joined '/' ns name

theorem objectKey_assoc (ns middle name : String) :
    objectKey (objectKey ns middle) name = objectKey ns (objectKey middle name) :=
  joined_assoc '/' ns middle name

/-- A namespace lies below another one if it is called like a key in it. -/
def Below (ns' ns : String) : Prop := ∃ rest, ns' = objectKey ns rest

theorem not_below_self (ns : String) : ¬Below ns ns := by
  rintro ⟨rest, same⟩
  have longer := congrArg (List.length ∘ String.toList) same
  simp only [Function.comp_apply, objectKey_toList, List.length_append, List.length_cons] at longer
  omega

/-- Without slashes no namespace lies below another one. -/
theorem not_below_of_slashless (slashless : '/' ∉ ns'.toList) : ¬Below ns' ns := by
  rintro ⟨rest, rfl⟩
  refine slashless ?_
  rw [objectKey_toList]
  exact List.mem_append_right _ List.mem_cons_self

/-- The ways in which two pairs can share a key. -/
theorem objectKey_eq_iff : objectKey ns name = objectKey ns' name' ↔
    (ns = ns' ∧ name = name') ∨
    (∃ rest, ns' = objectKey ns rest ∧ name = objectKey rest name') ∨
    ∃ rest, ns = objectKey ns' rest ∧ name' = objectKey rest name := by
  simp only [objectKey_eq_joined]
  exact joined_eq_iff

theorem inNamespace_iff : Store.inNamespace ns key ↔ ∃ name, key = objectKey ns name := by
  rw [Store.inNamespace, List.isPrefixOf_iff_prefix]
  constructor
  · rintro ⟨rest, split⟩
    refine ⟨String.ofList rest, String.toList_injective ?_⟩
    rw [← split, objectKey_toList, objectKey_toList, String.toList_ofList]
    simp
  · rintro ⟨name, rfl⟩
    exact ⟨name.toList, by simp [objectKey_toList]⟩

/-- Inside a namespace, keys are in the order of the names. -/
theorem objectKey_lt_iff : objectKey ns name < objectKey ns name' ↔ name < name' := by
  rw [String.lt_iff, String.lt_iff, objectKey_toList, objectKey_toList]
  induction ns.toList with
  | nil => simp
  | cons c rest ih => simpa [List.cons_lt_cons_iff] using ih

/-- Namespaces of which none lies below another one. -/
def Apart (inUse : String → Prop) : Prop := ∀ ns ns', inUse ns → inUse ns' → ¬Below ns' ns

variable {inUse : String → Prop}

theorem Apart.eq_of_objectKey_eq (apart : Apart inUse) (here : inUse ns) (there : inUse ns')
    (same : objectKey ns name = objectKey ns' name') : ns = ns' ∧ name = name' := by
  rcases objectKey_eq_iff.1 same with pair | ⟨rest, below, _⟩ | ⟨rest, below, _⟩
  · exact pair
  · exact absurd ⟨rest, below⟩ (apart ns ns' here there)
  · exact absurd ⟨rest, below⟩ (apart ns' ns there here)

theorem Apart.inNamespace_objectKey_iff (apart : Apart inUse) (here : inUse ns) (there : inUse ns') :
    Store.inNamespace ns (objectKey ns' name) ↔ ns' = ns := by
  rw [inNamespace_iff]
  constructor
  · rintro ⟨name', same⟩
    exact (apart.eq_of_objectKey_eq there here same).1
  · rintro rfl
    exact ⟨name, rfl⟩

end ClusterPlacement
