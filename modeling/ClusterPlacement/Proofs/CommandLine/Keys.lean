import ClusterPlacement.CommandLine.Execution
import ClusterPlacement.Proofs.Naming
import Mathlib.Data.List.TakeDrop
/-! Keys that the command line takes. A text with several slashes is the key of several pairs; of these it is
read as the one whose namespace has no slash, and it is refused where a part of that pair is empty. -/

namespace ClusterPlacement

variable {key ns ns' name name' : String}

/-- A key that is well formed around its first slash. -/
structure SplitsInto (key ns name : String) : Prop where
  joins : objectKey ns name = key
  namespaced : ns ≠ ""
  slashless : '/' ∉ ns.toList
  named : name ≠ ""

/-- Of two namespaces that a key can begin with, one lies below the other and so has a slash. -/
theorem SplitsInto.unique (splits : SplitsInto key ns name) (splits' : SplitsInto key ns' name') :
    ns = ns' ∧ name = name' := by
  have apart : Apart fun ns => '/' ∉ ns.toList := fun _ _ _ => not_below_of_slashless
  exact apart.eq_of_objectKey_eq splits.slashless splits'.slashless (splits.joins.trans splits'.joins.symm)

theorem span_slash {before : List Char} (slashless : '/' ∉ before) (behind : List Char) :
    (before ++ '/' :: behind).span (· ≠ '/') = (before, '/' :: behind) := by
  have each : ∀ c ∈ before, decide (c ≠ '/') = true := by
    intro c member
    exact decide_eq_true (ne_of_mem_of_not_mem member slashless)
  rw [List.span_eq_takeWhile_dropWhile, List.takeWhile_append_of_pos each,
    List.dropWhile_append_of_pos each]
  simp

theorem SplitsInto.splitObjectKey?_eq (splits : SplitsInto key ns name) :
    splitObjectKey? key = some (ns, name) := by
  obtain ⟨rfl, namespaced, slashless, named⟩ := splits
  rw [splitObjectKey?, objectKey_toList, span_slash slashless]
  cases front : ns.toList with
  | nil => exact absurd (String.toList_eq_nil_iff.1 front) namespaced
  | cons c cs =>
    cases back : name.toList with
    | nil => exact absurd (String.toList_eq_nil_iff.1 back) named
    | cons d ds =>
      change some (String.ofList (c :: cs), String.ofList (d :: ds)) = some (ns, name)
      rw [← front, ← back, String.ofList_toList, String.ofList_toList]

theorem splitsInto_of_splitObjectKey?_eq (split : splitObjectKey? key = some (ns, name)) :
    SplitsInto key ns name := by
  have whole := List.takeWhile_append_dropWhile (p := fun c => decide (c ≠ '/')) (l := key.toList)
  have before := List.all_takeWhile (p := fun c => decide (c ≠ '/')) (l := key.toList)
  rw [splitObjectKey?, List.span_eq_takeWhile_dropWhile] at split
  split at split
  case h_1 => simp at split
  case h_3 => simp at split
  case h_2 c cs behind solid cut =>
    obtain ⟨front, back⟩ := Prod.mk.inj cut
    rw [front, back] at whole
    rw [front] at before
    obtain ⟨rfl, rfl⟩ := Prod.mk.inj (Option.some.inj split)
    refine ⟨?_, ?_, ?_, ?_⟩
    · refine String.toList_injective ?_
      rw [objectKey_toList, String.toList_ofList, String.toList_ofList, whole]
    · intro empty
      simpa using congrArg String.toList empty
    · rw [String.toList_ofList]
      intro slash
      simpa using List.all_eq_true.1 before _ slash
    · intro empty
      have nothing : behind = [] := by simpa using congrArg String.toList empty
      exact solid nothing

theorem splitObjectKey?_eq_some_iff :
    splitObjectKey? key = some (ns, name) ↔ SplitsInto key ns name :=
  ⟨splitsInto_of_splitObjectKey?_eq, SplitsInto.splitObjectKey?_eq⟩

theorem splitObjectKey?_isSome_iff :
    (splitObjectKey? key).isSome ↔ ∃ ns name, SplitsInto key ns name := by
  simp only [Option.isSome_iff_exists, Prod.exists, splitObjectKey?_eq_some_iff]

namespace CommandLine

theorem checkKey_eq_ok_iff : checkKey key = .ok () ↔ ∃ ns name, SplitsInto key ns name := by
  rw [← splitObjectKey?_isSome_iff, checkKey]
  split <;> simp [*]

theorem checkKey_eq_error_iff : checkKey key =
      .error ("expected a policy key of the form namespace/name, got " ++ Text.quoted key) ↔
    ¬∃ ns name, SplitsInto key ns name := by
  rw [← splitObjectKey?_isSome_iff, checkKey]
  split <;> simp [*]

/-- A key is taken exactly if it can be split into a namespace without slashes and a name, neither of them
empty. There is one such pair at most, it is what the key is split into, and it makes up the key again. -/
theorem checkKey_splits (key : String) :
    (∀ ns name, splitObjectKey? key = some (ns, name) ↔ SplitsInto key ns name) ∧
      (∀ pair, splitObjectKey? key = some pair → objectKey pair.1 pair.2 = key) ∧
      (checkKey key = .ok () ↔ ∃! pair : String × String, SplitsInto key pair.1 pair.2) ∧
      (checkKey key =
          .error ("expected a policy key of the form namespace/name, got " ++ Text.quoted key) ↔
        ¬∃ ns name, SplitsInto key ns name) := by
  refine ⟨fun _ _ => splitObjectKey?_eq_some_iff, ?_, ?_, checkKey_eq_error_iff⟩
  · rintro ⟨ns, name⟩ split
    exact (splitObjectKey?_eq_some_iff.1 split).joins
  · rw [checkKey_eq_ok_iff]
    constructor
    · rintro ⟨ns, name, splits⟩
      refine ⟨(ns, name), splits, ?_⟩
      rintro ⟨ns', name'⟩ splits'
      exact Prod.ext_iff.2 (splits'.unique splits)
    · rintro ⟨⟨ns, name⟩, splits, -⟩
      exact ⟨ns, name, splits⟩

/-- The namespace ends at the first slash, and there may be more slashes behind it. -/
example : splitObjectKey? "prod/web/2" = some ("prod", "web/2") := by decide

end CommandLine

end ClusterPlacement
