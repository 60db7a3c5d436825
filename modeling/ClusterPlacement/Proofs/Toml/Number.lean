import ClusterPlacement.Proofs.Binary64.Decimal
import ClusterPlacement.Toml.Number
/-! Numbers are read back up to the end of their line. An integer is its decimal digits and a float always has
a fraction, so the one is not taken for the other, and neither for a date or a time, which go on with a hyphen
or a colon after their first digits. -/

namespace ClusterPlacement.Toml

variable {c e : Char} {text rest : List Char} {ds : List Nat} {count n : Nat}

/-- Texts differ where their first characters do, as one of them is of a class that the other one is not of. -/
theorem cons_ne {p : Char → Bool} (holds : p c = true) (fails : p e = false) (text rest : List Char) :
    c :: text ≠ e :: rest := by
  intro same
  rw [(List.cons_eq_cons.1 same).1, fails] at holds
  cases holds

/-- Text that digits do not go on in. -/
def EndsDigits : List Char → Prop
  | [] => True
  | c :: _ => Numeral.isDecimalDigit c = false ∧ c ≠ '_'

theorem lowerDigit_ne (small : n < 10) (other : Numeral.isDecimalDigit c = false) : Numeral.lowerDigit n ≠ c := by
  rintro rfl
  rw [Numeral.isDecimalDigit_lowerDigit small] at other
  cases other

theorem moreDigits_append (small : ∀ d ∈ ds, d < 10) (ends : EndsDigits rest) :
    moreDigits 10 (ds.map Numeral.lowerDigit ++ rest) = some (ds, rest) := by
  induction ds with
  | nil =>
    cases rest with
    | nil => rfl
    | cons c rest =>
      rw [List.map_nil, List.nil_append, moreDigits, Numeral.digitBelow?_eq_none ends.1]
      · exact fun same => absurd same ends.2
      · exact fun _ _ same => absurd same ends.2
  | cons d ds ih =>
    obtain ⟨head, others⟩ := List.forall_mem_cons.1 small
    have other : Numeral.lowerDigit d ≠ '_' := lowerDigit_ne head rfl
    rw [List.map_cons, List.cons_append, moreDigits, Numeral.digitBelow?_lowerDigit head, ih others]
    · rfl
    · exact fun same => absurd same other
    · exact fun _ _ same => absurd same other

theorem readDigits_append (nonempty : ds ≠ []) (small : ∀ d ∈ ds, d < 10) (ends : EndsDigits rest) :
    readDigits 10 (ds.map Numeral.lowerDigit ++ rest) = some (ds, rest) := by
  cases ds with
  | nil => exact absurd rfl nonempty
  | cons d ds =>
    obtain ⟨head, others⟩ := List.forall_mem_cons.1 small
    rw [List.map_cons, List.cons_append, readDigits, Numeral.digitBelow?_lowerDigit head]
    simp only [Option.bind_eq_bind, Option.bind_some, moreDigits_append others ends]
    rfl

theorem readWhole_append (canonical : Numeral.Canonical ds) (ends : EndsDigits rest) :
    readWhole (ds.map Numeral.lowerDigit ++ rest) = some (ds, rest) := by
  rcases canonical.start with rfl | ⟨d, tail, rfl, positive⟩
  · rfl
  · have small := canonical.below d List.mem_cons_self
    have nonzero : Numeral.lowerDigit d ≠ '0' := by
      intro zero
      have value := Numeral.toNat_lowerDigit small
      rw [zero, show ('0' : Char).toNat = 48 from rfl] at value
      omega
    have read := readDigits_append (List.cons_ne_nil d tail) canonical.below ends
    rw [List.map_cons, List.cons_append] at read ⊢
    rw [readWhole, read]
    exact fun _ same => nonzero (List.cons_eq_cons.1 same).1

theorem isDecimalDigit_of_mapM {values : List Nat} (read : text.mapM (Numeral.digitBelow? 10) = some values) :
    ∀ c ∈ text, Numeral.isDecimalDigit c = true := by
  induction text generalizing values with
  | nil => exact fun _ member => absurd member List.not_mem_nil
  | cons c text ih =>
    rw [List.mapM_cons] at read
    simp only [Option.bind_eq_bind, Option.bind_eq_some_iff] at read
    obtain ⟨d, value, others, rest, _⟩ := read
    refine List.forall_mem_cons.2 ⟨?_, ih rest⟩
    by_contra other
    rw [Numeral.digitBelow?_eq_none (by simpa using other)] at value
    cases value

theorem readFixed_eq_some {after : List Char} (read : readFixed count text = some (n, after)) :
    (∀ c ∈ text.take count, Numeral.isDecimalDigit c = true) ∧ after = text.drop count := by
  simp only [readFixed, Option.bind_eq_bind, Option.bind_eq_some_iff] at read
  obtain ⟨values, each, read⟩ := read
  split at read
  case isTrue =>
    cases read
    exact ⟨isDecimalDigit_of_mapM each, rfl⟩
  case isFalse => cases read

/-- The character after the digits of a text that more is expected of. -/
theorem head?_of_expect {after : List Char} (read : readFixed count text = some (n, after))
    (other : Numeral.isDecimalDigit e = false) (found : expect e after = some rest) :
    (text.dropWhile Numeral.isDecimalDigit).head? = some e := by
  obtain ⟨digits, rfl⟩ := readFixed_eq_some read
  have here : text.drop count = e :: rest := by
    unfold expect at found
    split at found
    case h_1 => grind
    case h_2 => cases found
  rw [← List.take_append_drop count text, List.dropWhile_append_of_pos digits, here,
    List.dropWhile_cons_of_neg (by simp [other]), List.head?_cons]

theorem readMoment_eq_none (hyphen : (text.dropWhile Numeral.isDecimalDigit).head? ≠ some '-')
    (colon : (text.dropWhile Numeral.isDecimalDigit).head? ≠ some ':') : readMoment text = none := by
  have date : readDate text = none := by
    rw [Option.eq_none_iff_forall_ne_some]
    intro rest read
    simp only [readDate, Option.bind_eq_bind, Option.bind_eq_some_iff] at read
    obtain ⟨_, year, _, hyphen', _⟩ := read
    exact hyphen (head?_of_expect year rfl hyphen')
  have time : readTime text = none := by
    rw [Option.eq_none_iff_forall_ne_some]
    intro rest read
    simp only [readTime, readHourMinute, Option.bind_eq_bind, Option.bind_eq_some_iff] at read
    obtain ⟨_, ⟨_, hour, _, colon', _⟩, _⟩ := read
    exact colon (head?_of_expect hour rfl colon')
  rw [readMoment, date, time]

theorem dropWhile_lowerDigit (small : ∀ d ∈ ds, d < 10) (other : Numeral.isDecimalDigit c = false)
    (rest : List Char) :
    (ds.map Numeral.lowerDigit ++ c :: rest).dropWhile Numeral.isDecimalDigit = c :: rest := by
  have digits : ∀ c ∈ ds.map Numeral.lowerDigit, Numeral.isDecimalDigit c = true := by
    intro c member
    obtain ⟨d, inside, rfl⟩ := List.mem_map.1 member
    exact Numeral.isDecimalDigit_lowerDigit (small d inside)
  rw [List.dropWhile_append_of_pos digits, List.dropWhile_cons_of_neg (by simp [other])]

/-- A number that starts with a digit is decimal, unless the letter after it tells another base. -/
theorem readNumber_of_digit (digit : Numeral.isDecimalDigit c = true) (radix : e ≠ 'x' ∧ e ≠ 'o' ∧ e ≠ 'b')
    (noMoment : readMoment (c :: e :: text) = none) :
    readNumber (c :: e :: text) = readDecimal false (c :: e :: text) := by
  have unsigned : readSign (c :: e :: text) = (false, c :: e :: text) := by
    unfold readSign
    split
    case h_1 same | h_2 same => exact absurd same (cons_ne digit rfl _ _)
    case h_3 => rfl
  unfold readNumber
  rw [noMoment]
  dsimp only
  split
  case h_1 same | h_2 same | h_3 same => simp_all
  case h_4 =>
    rw [unsigned]
    dsimp only
    split
    case h_1 same | h_2 same => exact absurd same (cons_ne digit rfl _ _)
    case h_3 => rfl

theorem readNumber_append (nonempty : ds ≠ []) (small : ∀ d ∈ ds, d < 10)
    (other : Numeral.isDecimalDigit c = false) (moment : c ≠ '-' ∧ c ≠ ':')
    (radix : c ≠ 'x' ∧ c ≠ 'o' ∧ c ≠ 'b') (rest : List Char) :
    readNumber (ds.map Numeral.lowerDigit ++ c :: rest) =
      readDecimal false (ds.map Numeral.lowerDigit ++ c :: rest) := by
  have noMoment : readMoment (ds.map Numeral.lowerDigit ++ c :: rest) = none := by
    refine readMoment_eq_none ?_ ?_
    all_goals rw [dropWhile_lowerDigit small other, List.head?_cons, ne_eq, Option.some.injEq]
    · exact moment.1
    · exact moment.2
  rcases ds with _ | ⟨d, _ | ⟨d', ds⟩⟩
  · exact absurd rfl nonempty
  · have head := small d List.mem_cons_self
    exact readNumber_of_digit (Numeral.isDecimalDigit_lowerDigit head) radix noMoment
  · have head := small d List.mem_cons_self
    have second := small d' (List.mem_cons_of_mem _ List.mem_cons_self)
    refine readNumber_of_digit (Numeral.isDecimalDigit_lowerDigit head) ?_ noMoment
    exact ⟨lowerDigit_ne second rfl, lowerDigit_ne second rfl, lowerDigit_ne second rfl⟩

theorem readDecimal_eq (read : readWhole text = some (ds, rest)) :
    readDecimal false text = readAfterWhole false ds rest := by
  rw [readDecimal, read]
  rfl

theorem endsDigits_break (rest : List Char) : EndsDigits ('\n' :: rest) := ⟨rfl, by decide⟩

/-- An integer is read back from its digits. -/
theorem readNumber_decimalChars (fits : fitsInteger n) (rest : List Char) :
    readNumber (Numeral.decimalChars n ++ '\n' :: rest) = some (.integer (.ofInt n), '\n' :: rest) := by
  have canonical := Numeral.canonical_digits n
  rw [Numeral.decimalChars, readNumber_append Numeral.digits_ne_nil canonical.below rfl
    (by decide) (by decide), readDecimal_eq (readWhole_append canonical (endsDigits_break rest)),
    readAfterWhole, Numeral.ofDigits_digits]
  · simp [integer?, fits]
  all_goals simp

/-- A float is read back from the digits before and after its point. -/
theorem readNumber_point {whole fraction : List Nat} (canonical : Numeral.Canonical whole)
    (nonempty : fraction ≠ []) (small : ∀ d ∈ fraction, d < 10) (rest : List Char) :
    readNumber (whole.map Numeral.lowerDigit ++
        '.' :: (fraction.map Numeral.lowerDigit ++ '\n' :: rest)) =
      (float? false ⟨Numeral.ofDigits 10 (whole ++ fraction), -fraction.length⟩).map
        (·, '\n' :: rest) := by
  have point (text : List Char) : EndsDigits ('.' :: text) := ⟨rfl, by decide⟩
  have noScale : readScale ('\n' :: rest) = some (0, '\n' :: rest) := rfl
  rw [readNumber_append canonical.ne_nil canonical.below rfl (by decide) (by decide),
    readDecimal_eq (readWhole_append canonical (point _)), readAfterWhole,
    readDigits_append nonempty small (endsDigits_break rest)]
  simp only [Option.bind_eq_bind, Option.bind_some, noScale, Int.zero_sub]
  cases float? false ⟨Numeral.ofDigits 10 (whole ++ fraction), -fraction.length⟩ <;> rfl

theorem float?_ofDecimal {x : Binary64} {d : Decimal} (plain : x.Plain) (same : d.toMagnitude = x.magnitude) :
    float? false d = some (.float x) := by
  have finite := plain.magnitude_lt
  have bounded : x.isInfinite = false := decide_eq_false (by omega)
  rw [float?, Binary64.ofDecimal, same, Binary64.ofMagnitude_magnitude plain.unsigned, bounded]
  rfl

/-- A float is written as digits around a point that read as its magnitude. -/
theorem exists_writeFloat {x : Binary64} (plain : x.Plain) : ∃ whole fraction, Numeral.Canonical whole ∧
    fraction ≠ [] ∧ (∀ d ∈ fraction, d < 10) ∧
    Decimal.toMagnitude ⟨Numeral.ofDigits 10 (whole ++ fraction), -fraction.length⟩ = x.magnitude ∧
    writeFloat x = whole.map Numeral.lowerDigit ++ '.' :: fraction.map Numeral.lowerDigit := by
  have finite := plain.magnitude_lt
  have number : x.isNaN = false := decide_eq_false (by omega)
  have bounded : x.isInfinite = false := decide_eq_false (by omega)
  obtain ⟨whole, fraction, places, text⟩ :=
    (Binary64.shortestDecimal .upward x.magnitude).exists_places
  refine ⟨whole, fraction, places.canonical, places.nonempty, places.below, ?_, ?_⟩
  · rw [Decimal.toMagnitude_congr places.value, Binary64.toMagnitude_shortestDecimal .upward finite.le]
  · rw [← text, writeFloat, Binary64.positionalText, number, bounded, plain.unsigned]
    simp [floatSpelling]

theorem readNumber_writeFloat {x : Binary64} (plain : x.Plain) (rest : List Char) :
    readNumber (writeFloat x ++ '\n' :: rest) = some (.float x, '\n' :: rest) := by
  obtain ⟨whole, fraction, canonical, nonempty, small, same, text⟩ := exists_writeFloat plain
  rw [text, List.append_assoc, List.cons_append, readNumber_point canonical nonempty small,
    float?_ofDecimal plain same]
  rfl

end ClusterPlacement.Toml
