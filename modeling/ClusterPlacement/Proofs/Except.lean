import Mathlib.Data.List.Forall2
/-! Computations that may fail, taken apart: a chain that succeeds has succeeded in each of its
parts. -/

namespace ClusterPlacement.Except

variable {α β ε φ : Type}

theorem bind_eq_ok_iff {x : Except ε α} {f : α → Except ε β} {b : β} :
    x >>= f = .ok b ↔ ∃ a, x = .ok a ∧ f a = .ok b := by
  cases x <;> simp [bind, Except.bind]

theorem pure_eq_ok_iff {a b : α} : (pure a : Except ε α) = .ok b ↔ a = b := by
  simp [pure, Except.pure]

theorem mapError_eq_ok_iff {x : Except ε α} {f : ε → φ} {a : α} :
    x.mapError f = .ok a ↔ x = .ok a := by
  cases x <;> simp [Except.mapError]

/-- The error of a computation that fails. -/
def error? : Except ε α → Option ε
  | .ok _ => none
  | .error e => some e

theorem toOption_map_eq_some_iff {x : Except ε α} {f : α → β} {b : β} :
    x.toOption.map f = some b ↔ ∃ a, x = .ok a ∧ f a = b := by
  cases x <;> simp [Except.toOption]

theorem toOption_map_fst_eq_some_iff {x : Except ε (α × β)} {a : α} :
    x.toOption.map Prod.fst = some a ↔ ∃ b, x = .ok (a, b) := by
  cases x <;> simp [Except.toOption, Prod.ext_iff]

theorem mapM_eq_ok_iff {f : α → Except ε β} {xs : List α} {ys : List β} :
    xs.mapM f = .ok ys ↔ List.Forall₂ (fun x y => f x = .ok y) xs ys := by
  induction xs generalizing ys with
  | nil => rw [List.mapM_nil, pure_eq_ok_iff, List.forall₂_nil_left_iff, eq_comm]
  | cons x xs ih =>
    simp only [List.mapM_cons, bind_eq_ok_iff, pure_eq_ok_iff, List.forall₂_cons_left_iff, ih]
    constructor
    · rintro ⟨y, head, rest, tail, rfl⟩
      exact ⟨y, rest, head, tail, rfl⟩
    · rintro ⟨y, rest, head, tail, rfl⟩
      exact ⟨y, head, rest, tail, rfl⟩

/-- What each step gives can be told from its input, and so can what all of them give. -/
theorem map_eq_of_mapM {γ : Type} {f : α → Except ε β} {g : β → γ} {h : α → γ} {xs : List α}
    {ys : List β} (ran : xs.mapM f = .ok ys) (each : ∀ x y, f x = .ok y → g y = h x) :
    ys.map g = xs.map h := by
  have related := mapM_eq_ok_iff.1 ran
  clear ran
  induction related with
  | nil => rfl
  | cons head _ ih => simp only [List.map_cons, each _ _ head, ih]

theorem exists_mapM_eq_ok_iff {f : α → Except ε β} {xs : List α} :
    (∃ ys, xs.mapM f = .ok ys) ↔ ∀ x ∈ xs, ∃ y, f x = .ok y := by
  simp only [mapM_eq_ok_iff]
  constructor
  · rintro ⟨ys, related⟩ x member
    induction related with
    | nil => simp at member
    | cons head _ ih =>
      rcases List.mem_cons.1 member with rfl | member
      · exact ⟨_, head⟩
      · exact ih member
  · intro total
    induction xs with
    | nil => exact ⟨[], .nil⟩
    | cons x xs ih =>
      obtain ⟨y, head⟩ := total x List.mem_cons_self
      obtain ⟨ys, tail⟩ := ih fun x member => total x (List.mem_cons_of_mem _ member)
      exact ⟨y :: ys, .cons head tail⟩

theorem exists_of_mem_mapM {f : α → Except ε β} {xs : List α} {ys : List β}
    (h : xs.mapM f = .ok ys) {y : β} (member : y ∈ ys) : ∃ x ∈ xs, f x = .ok y := by
  have related := mapM_eq_ok_iff.1 h
  clear h
  induction related with
  | nil => simp at member
  | cons head _ ih =>
    rcases List.mem_cons.1 member with rfl | member
    · exact ⟨_, List.mem_cons_self, head⟩
    · obtain ⟨x, inside, here⟩ := ih member
      exact ⟨x, List.mem_cons_of_mem _ inside, here⟩

end ClusterPlacement.Except
