import ClusterPlacement.Text.Numeral
import Mathlib.Tactic.Ring
/-! The shape of positional numerals: their digits lie below the base, and only zero starts with a
zero. In base ten they are the library's own. -/

namespace ClusterPlacement.Numeral

variable {base n d : Nat}

theorem digits_ne_nil : digits base n ≠ [] := by
  unfold digits
  split <;> simp

theorem lt_of_mem_digits (two : 2 ≤ base) (member : d ∈ digits base n) : d < base := by
  fun_induction digits base n with
  | case1 n last =>
    have here : d = n := by simpa using member
    omega
  | case2 n more ih =>
    rcases List.mem_append.1 member with before | last
    · exact ih before
    · rw [List.mem_singleton.1 last]
      exact Nat.mod_lt n (by omega)

/-- A numeral of several digits does not start with a zero. -/
theorem head_digits_pos (two : 2 ≤ base) {e : Nat} {rest : List Nat}
    (several : digits base n = d :: e :: rest) : 0 < d := by
  fun_induction digits base n generalizing e rest with
  | case1 n last => simp at several
  | case2 n more ih =>
    cases before : digits base (n / base) with
    | nil => exact absurd before digits_ne_nil
    | cons head tail =>
      rw [before, List.cons_append] at several
      obtain ⟨rfl, -⟩ := List.cons_eq_cons.1 several
      cases tail with
      | cons e' tail => exact ih before
      | nil =>
        -- The number that is left has one digit, and it is not zero as the whole number has two.
        have left : n / base = head := by
          have value := ofDigits_digits base (n / base)
          rw [before] at value
          simpa [ofDigits] using value.symm
        have := Nat.div_pos (show base ≤ n by omega) (by omega)
        omega

theorem lt_pow_length_digits (two : 2 ≤ base) (n : Nat) : n < base ^ (digits base n).length := by
  fun_induction digits base n with
  | case1 n last =>
    rw [List.length_singleton, Nat.pow_one]
    omega
  | case2 n more ih =>
    rw [List.length_append, List.length_singleton, Nat.pow_succ]
    exact (Nat.div_lt_iff_lt_mul (by omega)).1 ih

theorem powerOfTen_pos (n : Nat) : 0 < powerOfTen n := Nat.pow_pos (by decide)

theorem powerOfTen_mono {m : Nat} (le : n ≤ m) : powerOfTen n ≤ powerOfTen m :=
  Nat.pow_le_pow_right (by decide) le

theorem powerOfTen_add (m n : Nat) : powerOfTen (m + n) = powerOfTen m * powerOfTen n := Nat.pow_add 10 m n

theorem digitValue?_lowerDigit (small : d < 16) : digitValue? (lowerDigit d) = some d := by
  revert d
  decide

theorem digitValue?_upperDigit (small : d < 16) : digitValue? (upperDigit d) = some d := by
  revert d
  decide

theorem isDecimalDigit_lowerDigit (small : d < 10) : isDecimalDigit (lowerDigit d) = true := by
  revert d
  decide

theorem toNat_lowerDigit (small : d < 10) : (lowerDigit d).toNat = d + 48 := by
  revert d
  decide

theorem digitBelow?_lowerDigit (small : d < 10) : digitBelow? 10 (lowerDigit d) = some d := by
  rw [digitBelow?, digitValue?_lowerDigit (Nat.lt_trans small (by decide))]
  exact Option.filter_some_pos (decide_eq_true small)

theorem digitBelow?_eq_none {c : Char} (other : isDecimalDigit c = false) : digitBelow? 10 c = none := by
  rw [digitBelow?, Option.filter_eq_none_iff]
  intro d value
  rw [digitValue?, if_neg (by simp [other])] at value
  rw [decide_eq_true_eq, Nat.not_lt]
  -- The letters that are hexadecimal digits are worth ten at least.
  split_ifs at value with lower upper
  · have code : 97 ≤ c.toNat := of_decide_eq_true (Bool.and_eq_true_iff.1 lower).1
    cases value
    omega
  · have code : 65 ≤ c.toNat := of_decide_eq_true (Bool.and_eq_true_iff.1 upper).1
    cases value
    omega

/-- Digits as they are written in a decimal number, without leading zeros. -/
structure Canonical (ds : List Nat) : Prop where
  below : ∀ d ∈ ds, d < 10
  start : ds = [0] ∨ ∃ d rest, ds = d :: rest ∧ 0 < d

theorem Canonical.ne_nil {ds : List Nat} (canonical : Canonical ds) : ds ≠ [] := by
  rcases canonical.start with rfl | ⟨d, rest, rfl, _⟩
  · exact List.cons_ne_nil _ _
  · exact List.cons_ne_nil _ _

theorem canonical_digits (n : Nat) : Canonical (digits 10 n) := by
  refine ⟨fun d member => lt_of_mem_digits (by decide) member, ?_⟩
  cases shape : digits 10 n with
  | nil => exact absurd shape digits_ne_nil
  | cons d rest =>
    cases rest with
    | nil =>
      rcases Nat.eq_zero_or_pos d with rfl | positive
      · exact .inl rfl
      · exact .inr ⟨d, [], rfl, positive⟩
    | cons e rest => exact .inr ⟨d, e :: rest, rfl, head_digits_pos (by decide) shape⟩

theorem Canonical.append {ds es : List Nat} (canonical : Canonical ds) (nonzero : ds ≠ [0])
    (below : ∀ e ∈ es, e < 10) : Canonical (ds ++ es) := by
  refine ⟨fun x member => (List.mem_append.1 member).elim (canonical.below x) (below x), ?_⟩
  obtain ⟨d, rest, rfl, positive⟩ := canonical.start.resolve_left nonzero
  exact .inr ⟨d, rest ++ es, rfl, positive⟩

theorem padded_below {width : Nat} {ds : List Nat} (below : ∀ d ∈ ds, d < 10) :
    ∀ d ∈ padded width ds, d < 10 := by
  intro d member
  rcases List.mem_append.1 member with zero | digit
  · rw [List.eq_of_mem_replicate zero]
    decide
  · exact below d digit

/-- With at least one digit more than the last `places`, the digits before those are a number. -/
theorem Canonical.take_padded {ds : List Nat} (canonical : Canonical ds) (places : Nat) :
    Canonical ((padded (places + 1) ds).take ((padded (places + 1) ds).length - places)) := by
  refine ⟨fun d member => padded_below canonical.below d (List.mem_of_mem_take member), ?_⟩
  rcases Nat.lt_or_ge places ds.length with many | few
  · have unpadded : padded (places + 1) ds = ds := by
      rw [padded, Nat.sub_eq_zero_of_le many]
      rfl
    rw [unpadded]
    obtain ⟨k, length⟩ : ∃ k, ds.length - places = k + 1 := ⟨ds.length - places - 1, by omega⟩
    rw [length]
    rcases canonical.start with rfl | ⟨d, rest, rfl, positive⟩
    · exact .inl (by simp)
    · exact .inr ⟨d, rest.take k, List.take_succ_cons, positive⟩
  · left
    obtain ⟨k, zeros⟩ : ∃ k, places + 1 - ds.length = k + 1 := ⟨places - ds.length, by omega⟩
    have length : (List.replicate k 0 ++ ds).length = places := by
      rw [List.length_append, List.length_replicate]
      omega
    rw [padded, zeros, List.replicate_succ, List.cons_append, List.length_cons, length,
      Nat.add_sub_cancel_left, List.take_succ_cons, List.take_zero]

theorem ofDigits_append (base : Nat) (ds es : List Nat) :
    ofDigits base (ds ++ es) = ofDigits base ds * base ^ es.length + ofDigits base es := by
  have after (n : Nat) : es.foldl (fun n d => n * base + d) n = n * base ^ es.length + ofDigits base es := by
    induction es generalizing n with
    | nil => simp [ofDigits]
    | cons e es ih =>
      have first : ofDigits base (e :: es) = e * base ^ es.length + ofDigits base es := by
        rw [ofDigits, List.foldl_cons, ih, Nat.zero_mul, Nat.zero_add]
      rw [List.foldl_cons, ih, first, List.length_cons, Nat.pow_succ, Nat.add_mul, Nat.mul_assoc,
        Nat.mul_comm base, Nat.add_assoc]
  rw [ofDigits, List.foldl_append]
  exact after _

theorem ofDigits_replicate_zero (base n : Nat) : ofDigits base (List.replicate n 0) = 0 := by
  induction n with
  | zero => rfl
  | succ n ih => rw [List.replicate_succ', ofDigits_append_single, ih, Nat.zero_mul]

theorem ofDigits_padded (base width : Nat) (ds : List Nat) :
    ofDigits base (padded width ds) = ofDigits base ds := by
  rw [padded, ofDigits_append, ofDigits_replicate_zero, Nat.zero_mul, Nat.zero_add]

/-- The four hexadecimal digits of a number below 256. -/
theorem padded_digits_of_lt (small : n < 256) : padded 4 (digits 16 n) = [0, 0, n / 16, n % 16] := by
  unfold digits
  split
  case isTrue one =>
    have single : n < 16 := by omega
    rw [Nat.div_eq_of_lt single, Nat.mod_eq_of_lt single]
    rfl
  case isFalse two =>
    have single : n / 16 < 16 := by omega
    unfold digits
    rw [dif_pos (.inl single)]
    rfl

theorem lowerDigit_eq_digitChar {d : Nat} (small : d < 10) : lowerDigit d = d.digitChar := by
  revert d
  decide

theorem decimalChars_eq_toDigits (n : Nat) : decimalChars n = Nat.toDigits 10 n := by
  unfold decimalChars
  fun_induction digits 10 n with
  | case1 n last =>
    have small : n < 10 := by omega
    rw [Nat.toDigits_of_lt_base small, List.map_singleton, lowerDigit_eq_digitChar small]
  | case2 n more ih =>
    have large : ¬n < 10 := by omega
    have rest : n % 10 < 10 := Nat.mod_lt n (by decide)
    rw [List.map_append, ih, List.map_singleton, lowerDigit_eq_digitChar rest,
      Nat.toDigits_eq_if (n := n) (by decide), if_neg large]

theorem decimal_eq_toString (n : Nat) : decimal n = toString n := by
  rw [decimal, decimalChars_eq_toDigits, Nat.toString_eq_ofList_toDigits]

end ClusterPlacement.Numeral
