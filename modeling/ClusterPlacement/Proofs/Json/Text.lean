import ClusterPlacement.Json.Printing
import ClusterPlacement.Json.Reading
import ClusterPlacement.Proofs.Json.Held
import ClusterPlacement.Proofs.Numeral
/-! Printed values are read back. Each kind of token is read as what it was printed for, whatever text
comes after it, with one exception: a number ends only where no character follows that could go on in
it. Over the tree of a value the reader then finds the same scalars, items and fields, and it leaves
exactly the text after them (`read_textAt`). -/

namespace ClusterPlacement

open Json (IsPlain HeldBy)

namespace Document

variable {rest gap : List Char} {c : Char}

def Blank (gap : List Char) : Prop := ∀ c ∈ gap, isBlank c = true

theorem blank_nil : Blank [] := fun _ member => absurd member List.not_mem_nil

theorem dropBlanks_append (blank : Blank gap) (text : List Char) :
    dropBlanks (gap ++ text) = dropBlanks text := List.dropWhile_append_of_pos blank

theorem dropBlanks_cons (solid : isBlank c = false) (text : List Char) :
    dropBlanks (c :: text) = c :: text := List.dropWhile_cons_of_neg (by simp [solid])

/-- Text that does not go on with a number before it. -/
def EndsNumber : List Char → Prop
  | [] => True
  | c :: _ => Numeral.isDecimalDigit c = false ∧ c ≠ '.' ∧ c ≠ 'e' ∧ c ≠ 'E'

theorem endsNumber_of_blank (blank : Blank gap) (ends : EndsNumber rest) :
    EndsNumber (gap ++ rest) := by
  cases gap with
  | nil => exact ends
  | cons c gap =>
    have head := blank c List.mem_cons_self
    simp only [isBlank, Bool.or_eq_true, decide_eq_true_eq] at head
    rcases head with ((rfl | rfl) | rfl) | rfl <;> exact ⟨by decide, by decide, by decide, by decide⟩

theorem spanDigits_decimalChars (n : Nat) (ends : EndsNumber rest) :
    spanDigits (Numeral.decimalChars n ++ rest) = (Numeral.digits 10 n, rest) := by
  have digit : ∀ c ∈ Numeral.decimalChars n, Numeral.isDecimalDigit c = true := by
    intro c member
    obtain ⟨d, inside, rfl⟩ := List.mem_map.1 member
    exact Numeral.isDecimalDigit_lowerDigit (Numeral.lt_of_mem_digits (by decide) inside)
  have stop : rest.takeWhile Numeral.isDecimalDigit = [] ∧
      rest.dropWhile Numeral.isDecimalDigit = rest := by
    cases rest with
    | nil => exact ⟨rfl, rfl⟩
    | cons c rest => simp [ends.1]
  have values : (Numeral.decimalChars n).map (fun c => c.toNat - 48) = Numeral.digits 10 n := by
    rw [Numeral.decimalChars, List.map_map]
    refine (List.map_congr_left fun d member => ?_).trans (List.map_id _)
    have small := Numeral.lt_of_mem_digits (by decide) member
    rw [Function.comp_apply, Numeral.toNat_lowerDigit small, Nat.add_sub_cancel, id]
  rw [spanDigits, List.takeWhile_append_of_pos digit, List.dropWhile_append_of_pos digit, stop.1,
    stop.2, List.append_nil, values]

/-- Digits are taken in for as long as the number that they make fits. -/
theorem absorb_of_fits {ds : List Nat} {start : Nat}
    (fits : ds.foldl (fun n d => n * 10 + d) start ≤ maxUnsigned) :
    absorb start ds = (ds.foldl (fun n d => n * 10 + d) start, []) := by
  induction ds generalizing start with
  | nil => rfl
  | cons d ds ih =>
    have grows (ds : List Nat) (n : Nat) : n ≤ ds.foldl (fun n d => n * 10 + d) n := by
      induction ds generalizing n with
      | nil => exact Nat.le_refl n
      | cons d ds ih => exact Nat.le_trans (show n ≤ n * 10 + d by omega) (ih _)
    rw [List.foldl_cons] at fits
    rw [absorb, if_pos (Nat.le_trans (grows ds _) fits), ih fits, List.foldl_cons]

theorem value_of_fits {n : Nat} (fits : n < UInt64.size) :
    NumberParts.value ⟨false, Numeral.digits 10 n, none, none⟩ = .ok (.integer n) := by
  have whole : (Numeral.digits 10 n).foldl (fun n d => n * 10 + d) 0 = n :=
    Numeral.ofDigits_digits 10 n
  have absorbed : absorb 0 (Numeral.digits 10 n) = (n, []) := by
    rw [absorb_of_fits (by rw [whole]; exact Nat.le_sub_one_of_lt fits), whole]
  simp [NumberParts.value, absorbed]

theorem readAfterWhole_of_ends (parts : NumberParts) (ends : EndsNumber rest) :
    readAfterWhole parts rest = (.number parts.value, some rest) := by
  cases rest with
  | nil => rfl
  | cons c rest =>
    obtain ⟨-, point, lower, upper⟩ := ends
    unfold readAfterWhole
    split
    case h_1 same => exact absurd (List.cons_eq_cons.1 same).1 point
    case h_2 =>
      unfold readAfterFraction
      split
      case h_1 same => exact absurd (List.cons_eq_cons.1 same).1 lower
      case h_2 same => exact absurd (List.cons_eq_cons.1 same).1 upper
      case h_3 => rfl

theorem readNumber_decimalChars {n : Nat} (fits : n < UInt64.size) (ends : EndsNumber rest) :
    readNumber false (Numeral.decimalChars n ++ rest) =
      (.number (.ok (.integer n)), some rest) := by
  unfold readNumber
  rw [spanDigits_decimalChars n ends]
  split
  case h_1 none => exact absurd (Prod.mk.inj none).1 Numeral.digits_ne_nil
  case h_2 zeros =>
    exact absurd (Numeral.head_digits_pos (by decide) (Prod.mk.inj zeros).1) (Nat.lt_irrefl 0)
  case h_3 same =>
    obtain ⟨rfl, rfl⟩ := Prod.mk.inj same
    rw [readAfterWhole_of_ends _ ends, value_of_fits fits]

theorem hexUnit?_lowerHex {n : Nat} (small : n < 256) {a b c d : Char}
    (text : (Numeral.lowerHex 4 n).toList = [a, b, c, d]) : hexUnit? a b c d = some n := by
  rw [Numeral.lowerHex, String.toList_ofList, Numeral.padded_digits_of_lt small] at text
  obtain ⟨rfl, rfl, rfl, rfl⟩ : Numeral.lowerDigit 0 = a ∧ Numeral.lowerDigit 0 = b ∧
      Numeral.lowerDigit (n / 16) = c ∧ Numeral.lowerDigit (n % 16) = d := by simpa using text
  simp only [hexUnit?, Numeral.digitValue?_lowerDigit (show 0 < 16 by decide),
    Numeral.digitValue?_lowerDigit (show n / 16 < 16 by omega),
    Numeral.digitValue?_lowerDigit (show n % 16 < 16 by omega), Option.bind_eq_bind,
    Option.bind_some, Option.pure_def, Numeral.ofDigits, List.foldl_cons, List.foldl_nil]
  congr 1
  omega

/-- A piece that stands for one character. -/
def Piece.Denotes (p : Piece) (c : Char) : Prop :=
  ∀ (closing : Closing) (ps : List Piece), join closing (p :: ps) = (join closing ps).map (c :: ·)

theorem denotes_unit (low : c < ' ') : (Piece.unit c.toNat).Denotes c := by
  intro closing ps
  have small : c.toNat < 32 := low
  have noLow : isLowSurrogate c.toNat = false := by simp [isLowSurrogate]; omega
  have noHigh : isHighSurrogate c.toNat = false := by simp [isHighSurrogate]; omega
  conv_lhs => unfold join
  simp only [noLow, noHigh, Char.ofNat_toNat, Bool.false_eq_true, if_false]

theorem pieces_cons (quote : c ≠ '"') (backslash : c ≠ '\\') (high : ¬c < ' ') (text : List Char) :
    pieces (c :: text) = (.char c :: (pieces text).1, (pieces text).2) := by
  conv_lhs => unfold pieces
  split
  case h_1 none => exact absurd none nofun
  case h_2 same => exact absurd (List.cons_eq_cons.1 same).1 quote
  case h_3 same | h_4 same | h_5 same | h_6 same => exact absurd (List.cons_eq_cons.1 same).1 backslash
  case h_7 same =>
    obtain ⟨rfl, rfl⟩ := List.cons_eq_cons.1 same
    exact if_neg high

/-- What stands for a character is read as one piece, which denotes it. -/
theorem pieces_escapeChar (c : Char) (text : List Char) : ∃ p : Piece, p.Denotes c ∧
    pieces (Json.escapeChar c ++ text) = (p :: (pieces text).1, (pieces text).2) := by
  unfold Json.escapeChar
  split
  case h_8 quote backslash _ _ _ _ _ =>
    split
    case isTrue low =>
      have small : c.toNat < 256 := Nat.lt_trans (show c.toNat < 32 from low) (by decide)
      obtain ⟨a, b, d, e, digits⟩ : ∃ a b d e, (Numeral.lowerHex 4 c.toNat).toList = [a, b, d, e] := by
        rw [Numeral.lowerHex, String.toList_ofList, Numeral.padded_digits_of_lt small]
        exact ⟨_, _, _, _, rfl⟩
      refine ⟨.unit c.toNat, denotes_unit low, ?_⟩
      rw [digits]
      simp only [List.cons_append, List.nil_append, pieces, hexUnit?_lowerHex small digits]
    case isFalse high =>
      exact ⟨.char c, fun _ _ => rfl, pieces_cons quote backslash high text⟩
  all_goals exact ⟨.escaped _, fun _ _ => rfl, rfl⟩

theorem readString_escaped (s : List Char) (rest : List Char) :
    readString (s.flatMap Json.escapeChar ++ '"' :: rest) =
      (.ok (String.ofList s), .closed rest) := by
  have joined : (pieces (s.flatMap Json.escapeChar ++ '"' :: rest)).2 = .closed rest ∧
      join (.closed rest) (pieces (s.flatMap Json.escapeChar ++ '"' :: rest)).1 = .ok s := by
    induction s with
    | nil => exact ⟨rfl, rfl⟩
    | cons c s ih =>
      rw [List.flatMap_cons, List.append_assoc]
      obtain ⟨p, denotes, found⟩ :=
        pieces_escapeChar c (s.flatMap Json.escapeChar ++ '"' :: rest)
      rw [found]
      refine ⟨ih.1, ?_⟩
      rw [denotes, ih.2]
      rfl
  unfold readString
  simp only [joined.1, joined.2, Except.map]

variable {bound : Nat}

theorem readValue_append (blank : Blank gap) (text : List Char) :
    readValue (bound + 1) (gap ++ text) = readValue (bound + 1) text := by
  simp only [readValue, dropBlanks_append blank]

theorem readFields_append (blank : Blank gap) (text : List Char) :
    readFields (bound + 1) (gap ++ text) = readFields (bound + 1) text := by
  simp only [readFields, dropBlanks_append blank]

/-- A text that is read as a value. It begins with a character of its own, so that no blank or
bracket before it can be mistaken for a part of it. -/
structure Spells (v : Json) (text : List Char) : Prop where
  starts : ∃ c rest, text = c :: rest ∧ isBlank c = false ∧ c ≠ ']'
  reads : ∀ (rest : List Char) (bound : Nat), EndsNumber rest → 2 * (text ++ rest).length < bound →
    ∃ d, readValue bound (text ++ rest) = (d, some rest) ∧ v.HeldBy d

/-- A text that is read as an entry of an object. -/
def SpellsEntry (f : String × Json) (text : List Char) : Prop :=
  ∃ gap value, text = (Json.stringText f.1).toList ++ ':' :: (gap ++ value) ∧ Blank gap ∧
    Spells f.2 value

theorem spells_null : Spells .null ['n', 'u', 'l', 'l'] where
  starts := ⟨_, _, rfl, rfl, by decide⟩
  reads rest bound _ enough := by
    obtain ⟨bound, rfl⟩ := Nat.exists_eq_add_one_of_ne_zero (Nat.ne_zero_of_lt enough)
    exact ⟨_, rfl, .null⟩

theorem spells_boolean (b : Bool) :
    Spells (.boolean b) (if b then ['t', 'r', 'u', 'e'] else ['f', 'a', 'l', 's', 'e']) where
  starts := by cases b <;> exact ⟨_, _, rfl, rfl, by decide⟩
  reads rest bound _ enough := by
    obtain ⟨bound, rfl⟩ := Nat.exists_eq_add_one_of_ne_zero (Nat.ne_zero_of_lt enough)
    cases b <;> exact ⟨_, rfl, .boolean _⟩

theorem isBlank_of_digit (digit : Numeral.isDecimalDigit c = true) : isBlank c = false := by
  by_contra blank
  simp only [isBlank, Bool.or_eq_true, decide_eq_true_eq, Bool.not_eq_false] at blank
  rcases blank with ((rfl | rfl) | rfl) | rfl <;> exact absurd digit (by decide)

theorem readValue_digit (digit : Numeral.isDecimalDigit c = true) (text : List Char) :
    readValue (bound + 1) (c :: text) = readNumber false (c :: text) := by
  simp only [readValue, dropBlanks_cons (isBlank_of_digit digit)]
  split
  case h_1 none => exact absurd none nofun
  case h_9 same =>
    obtain ⟨rfl, rfl⟩ := List.cons_eq_cons.1 same
    exact if_pos digit
  -- The other cases are of characters that are no digits.
  all_goals
    rename_i same
    obtain ⟨rfl, -⟩ := List.cons_eq_cons.1 same
    exact absurd digit (by decide)

theorem spells_natural {n : Nat} (fits : n < UInt64.size) :
    Spells (Json.natural n) (Numeral.decimalChars n) := by
  obtain ⟨c, tail, shape, digit⟩ : ∃ c tail, Numeral.decimalChars n = c :: tail ∧
      Numeral.isDecimalDigit c = true := by
    cases digits : Numeral.digits 10 n with
    | nil => exact absurd digits Numeral.digits_ne_nil
    | cons d ds =>
      have small := Numeral.lt_of_mem_digits (by decide) (digits ▸ List.mem_cons_self)
      refine ⟨_, ds.map Numeral.lowerDigit, ?_, Numeral.isDecimalDigit_lowerDigit small⟩
      rw [Numeral.decimalChars, digits, List.map_cons]
  refine ⟨⟨c, tail, shape, isBlank_of_digit digit, by rintro rfl; exact absurd digit (by decide)⟩, ?_⟩
  intro rest bound ends enough
  obtain ⟨bound, rfl⟩ := Nat.exists_eq_add_one_of_ne_zero (Nat.ne_zero_of_lt enough)
  refine ⟨_, ?_, .number _⟩
  rw [← readNumber_decimalChars fits ends, shape, List.cons_append, readValue_digit digit]

theorem toList_stringText (s : String) :
    (Json.stringText s).toList = '"' :: (s.toList.flatMap Json.escapeChar ++ ['"']) := by
  rw [Json.stringText, String.toList_ofList, List.cons_append]

theorem readString_stringText (s : String) (rest : List Char) : ∃ text,
    (Json.stringText s).toList ++ rest = '"' :: text ∧ readString text = (.ok s, .closed rest) := by
  refine ⟨s.toList.flatMap Json.escapeChar ++ '"' :: rest, ?_, ?_⟩
  · rw [toList_stringText, List.cons_append, List.append_assoc, List.singleton_append]
  · rw [readString_escaped, String.ofList_toList]

theorem spells_string (s : String) : Spells (.string s) (Json.stringText s).toList where
  starts := ⟨'"', _, toList_stringText s, rfl, by decide⟩
  reads rest bound _ enough := by
    obtain ⟨bound, rfl⟩ := Nat.exists_eq_add_one_of_ne_zero (Nat.ne_zero_of_lt enough)
    obtain ⟨text, shape, string⟩ := readString_stringText s rest
    refine ⟨_, ?_, .string s⟩
    rw [shape]
    simp only [readValue, dropBlanks_cons (c := '"') rfl, string]

theorem Spells.readValue_eq {v : Json} {text lead : List Char} (spells : Spells v text)
    (blank : Blank lead) (ends : EndsNumber rest) (bound : Nat)
    (enough : 2 * (lead ++ (text ++ rest)).length < bound) :
    ∃ d, readValue bound (lead ++ (text ++ rest)) = (d, some rest) ∧ v.HeldBy d := by
  obtain ⟨bound, rfl⟩ := Nat.exists_eq_add_one_of_ne_zero (Nat.ne_zero_of_lt enough)
  rw [readValue_append blank]
  refine spells.reads rest (bound + 1) ends ?_
  rw [List.length_append] at enough
  omega

theorem readItems_of_spells {items : List Json} {texts : List (List Char)}
    (spells : List.Forall₂ Spells items texts) (nonempty : items ≠ []) {gap' : List Char}
    (blank : Blank gap) (blank' : Blank gap') (rest lead : List Char) (blankLead : Blank lead)
    (bound : Nat)
    (enough :
      2 * (lead ++ ((',' :: gap).intercalate texts ++ (gap' ++ ']' :: rest))).length + 1 < bound) :
    ∃ ds, readItems bound (lead ++ ((',' :: gap).intercalate texts ++ (gap' ++ ']' :: rest))) =
      (ds, none, some rest) ∧ List.Forall₂ HeldBy items ds := by
  induction spells generalizing lead bound with
  | nil => exact absurd rfl nonempty
  | @cons v text items texts head tail ih =>
    obtain ⟨bound, rfl⟩ := Nat.exists_eq_add_one_of_ne_zero (Nat.ne_zero_of_lt enough)
    cases tail with
    | nil =>
      rw [List.intercalate_singleton] at enough ⊢
      have ends : EndsNumber (gap' ++ ']' :: rest) :=
        endsNumber_of_blank blank' ⟨by decide, by decide, by decide, by decide⟩
      obtain ⟨d, read, held⟩ := head.readValue_eq blankLead ends bound (by omega)
      refine ⟨[d], ?_, .cons held .nil⟩
      simp only [readItems, read, dropBlanks_append blank', dropBlanks_cons (c := ']') rfl]
    | @cons v' text' items texts next tail =>
      rw [List.intercalate_cons_cons, List.append_assoc, List.append_assoc, List.cons_append]
        at enough ⊢
      set later := gap ++ ((',' :: gap).intercalate (text' :: texts) ++ (gap' ++ ']' :: rest))
        with said
      have ends : EndsNumber (',' :: later) := ⟨by decide, by decide, by decide, by decide⟩
      obtain ⟨d, read, held⟩ := head.readValue_eq blankLead ends bound (by omega)
      have shorter : 2 * later.length + 1 < bound := by
        simp only [List.length_append, List.length_cons] at enough
        omega
      obtain ⟨ds, others, heldOthers⟩ := ih nofun gap blank bound shorter
      refine ⟨d :: ds, ?_, .cons held heldOthers⟩
      rw [← said] at others
      simp only [readItems, read, dropBlanks_cons (c := ',') rfl, others]

/-- After an entry comes a comma with another one, or the closing brace. -/
theorem SpellsEntry.readFields_eq {f : String × Json} {text lead : List Char}
    (spells : SpellsEntry f text) (blank : Blank lead) (ends : EndsNumber rest) (bound : Nat)
    (enough : 2 * (lead ++ (text ++ rest)).length < bound) :
    ∃ d, Json.EntryHeldBy f (.ok f.1, d) ∧
      (∀ more, dropBlanks rest = ',' :: more →
        readFields (bound + 1) (lead ++ (text ++ rest)) =
          ((.ok f.1, d) :: (readFields bound more).1, (readFields bound more).2)) ∧
      (∀ more, dropBlanks rest = '\x7d' :: more →
        readFields (bound + 1) (lead ++ (text ++ rest)) = ([(.ok f.1, d)], .closed more)) := by
  obtain ⟨colonGap, value, rfl, blankColon, spelled⟩ := spells
  obtain ⟨quoted, shape, key⟩ :=
    readString_stringText f.1 (':' :: (colonGap ++ (value ++ rest)))
  have whole : (Json.stringText f.1).toList ++ ':' :: (colonGap ++ value) ++ rest = '"' :: quoted := by
    rw [← shape, List.append_assoc, List.cons_append, List.append_assoc]
  have shorter : 2 * (colonGap ++ (value ++ rest)).length < bound := by
    simp only [List.length_append, List.length_cons] at enough ⊢
    omega
  obtain ⟨d, read, held⟩ := spelled.readValue_eq blankColon ends bound shorter
  refine ⟨d, ⟨rfl, held⟩, ?_, ?_⟩
  all_goals
    intro more next
    rw [readFields_append blank, whole]
    simp only [readFields, dropBlanks_cons (c := '"') rfl, key, dropBlanks_cons (c := ':') rfl, read,
      next]

theorem readFields_of_spells {fields : List (String × Json)} {texts : List (List Char)}
    (spells : List.Forall₂ SpellsEntry fields texts) (nonempty : fields ≠ []) {gap' : List Char}
    (blank : Blank gap) (blank' : Blank gap') (rest lead : List Char) (blankLead : Blank lead)
    (bound : Nat)
    (enough :
      2 * (lead ++ ((',' :: gap).intercalate texts ++ (gap' ++ '\x7d' :: rest))).length + 1 < bound) :
    ∃ entries,
      readFields bound (lead ++ ((',' :: gap).intercalate texts ++ (gap' ++ '\x7d' :: rest))) =
        (entries, .closed rest) ∧ List.Forall₂ Json.EntryHeldBy fields entries := by
  induction spells generalizing lead bound with
  | nil => exact absurd rfl nonempty
  | @cons f text fields texts head tail ih =>
    obtain ⟨bound, rfl⟩ := Nat.exists_eq_add_one_of_ne_zero (Nat.ne_zero_of_lt enough)
    cases tail with
    | nil =>
      rw [List.intercalate_singleton] at enough ⊢
      have ends : EndsNumber (gap' ++ '\x7d' :: rest) :=
        endsNumber_of_blank blank' ⟨by decide, by decide, by decide, by decide⟩
      obtain ⟨d, held, -, last⟩ := head.readFields_eq blankLead ends bound (by omega)
      refine ⟨_, last rest ?_, .cons held .nil⟩
      rw [dropBlanks_append blank', dropBlanks_cons (c := '\x7d') rfl]
    | @cons f' text' fields texts next tail =>
      rw [List.intercalate_cons_cons, List.append_assoc, List.append_assoc, List.cons_append]
        at enough ⊢
      set later := gap ++ ((',' :: gap).intercalate (text' :: texts) ++ (gap' ++ '\x7d' :: rest))
        with said
      have ends : EndsNumber (',' :: later) := ⟨by decide, by decide, by decide, by decide⟩
      obtain ⟨d, held, another, -⟩ := head.readFields_eq blankLead ends bound (by omega)
      have shorter : 2 * later.length + 1 < bound := by
        simp only [List.length_append, List.length_cons] at enough
        omega
      obtain ⟨entries, others, heldOthers⟩ := ih nofun gap blank bound shorter
      refine ⟨(.ok f.1, d) :: entries, ?_, .cons held heldOthers⟩
      rw [another later (dropBlanks_cons (c := ',') rfl later), others]

theorem spells_array {items : List Json} {texts : List (List Char)}
    (spells : List.Forall₂ Spells items texts) (nonempty : items ≠ []) {gap' : List Char}
    (blank : Blank gap) (blank' : Blank gap') :
    Spells (.array items)
      ('[' :: (gap ++ ((',' :: gap).intercalate texts ++ (gap' ++ [']'])))) where
  starts := ⟨'[', _, rfl, rfl, by decide⟩
  reads rest bound _ enough := by
    obtain ⟨bound, rfl⟩ := Nat.exists_eq_add_one_of_ne_zero (Nat.ne_zero_of_lt enough)
    -- The first item begins where the blanks after the bracket end.
    obtain ⟨c, more, begins, solid, other⟩ : ∃ c more,
        (',' :: gap).intercalate texts ++ (gap' ++ ']' :: rest) = c :: more ∧
          isBlank c = false ∧ c ≠ ']' := by
      cases spells with
      | nil => exact absurd rfl nonempty
      | @cons v text items texts head tail =>
        obtain ⟨c, text, rfl, solid, other⟩ := head.starts
        cases texts with
        | nil => exact ⟨c, _, rfl, solid, other⟩
        | cons text' texts => exact ⟨c, _, rfl, solid, other⟩
    simp only [List.cons_append, List.append_assoc, List.nil_append, List.length_cons,
      List.length_append] at enough ⊢
    obtain ⟨ds, read, held⟩ := readItems_of_spells spells nonempty blank blank' rest [] nofun
      bound (by
        simp only [List.length_append, List.length_cons, List.length_nil]
        omega)
    refine ⟨.array ds none, ?_, .array held⟩
    rw [List.nil_append, begins] at read
    simp only [readValue, dropBlanks_cons (c := '[') rfl, dropBlanks_append blank, begins,
      dropBlanks_cons solid]
    split
    case h_1 same => exact absurd (List.cons_eq_cons.1 same).1 other
    case h_2 none => exact absurd none nofun
    case h_3 => rw [read]

theorem spells_object {fields : List (String × Json)} {texts : List (List Char)}
    (spells : List.Forall₂ SpellsEntry fields texts) (nonempty : fields ≠ []) {gap' : List Char}
    (blank : Blank gap) (blank' : Blank gap') :
    Spells (.object fields)
      ('\x7b' :: (gap ++ ((',' :: gap).intercalate texts ++ (gap' ++ ['\x7d'])))) where
  starts := ⟨'\x7b', _, rfl, rfl, by decide⟩
  reads rest bound _ enough := by
    obtain ⟨bound, rfl⟩ := Nat.exists_eq_add_one_of_ne_zero (Nat.ne_zero_of_lt enough)
    obtain ⟨more, begins⟩ : ∃ more,
        (',' :: gap).intercalate texts ++ (gap' ++ '\x7d' :: rest) = '"' :: more := by
      cases spells with
      | nil => exact absurd rfl nonempty
      | @cons f text fields texts head tail =>
        obtain ⟨_, _, rfl, _⟩ := head
        rw [toList_stringText]
        cases texts with
        | nil => exact ⟨_, rfl⟩
        | cons text' texts => exact ⟨_, rfl⟩
    simp only [List.cons_append, List.append_assoc, List.nil_append, List.length_cons,
      List.length_append] at enough ⊢
    obtain ⟨entries, read, held⟩ := readFields_of_spells spells nonempty blank blank' rest []
      nofun bound (by
        simp only [List.length_append, List.length_cons, List.length_nil]
        omega)
    refine ⟨.object entries none, ?_, Json.heldBy_object_iff.2 ⟨_, _, .refl _, rfl, held⟩⟩
    rw [List.nil_append, begins] at read
    simp only [readValue, dropBlanks_cons (c := '\x7b') rfl, dropBlanks_append blank, begins,
      dropBlanks_cons (c := '"') rfl]
    split
    case h_1 same => exact absurd (List.cons_eq_cons.1 same).1 (by decide)
    case h_2 none => exact absurd none nofun
    case h_3 =>
      rw [read]
      rfl

theorem spells_empty_array : Spells (.array []) ['[', ']'] := by
  refine ⟨⟨_, _, rfl, rfl, by decide⟩, ?_⟩
  intro rest bound _ enough
  obtain ⟨bound, rfl⟩ := Nat.exists_eq_add_one_of_ne_zero (Nat.ne_zero_of_lt enough)
  exact ⟨_, rfl, .array .nil⟩

theorem spells_empty_object : Spells (.object []) ['\x7b', '\x7d'] := by
  refine ⟨⟨_, _, rfl, rfl, by decide⟩, ?_⟩
  intro rest bound _ enough
  obtain ⟨bound, rfl⟩ := Nat.exists_eq_add_one_of_ne_zero (Nat.ne_zero_of_lt enough)
  exact ⟨_, rfl, .object .nil rfl .nil⟩

/-- The line break and the indentation that a printed value of some depth has before its parts. -/
def lineGap (pretty : Bool) (depth : Nat) : List Char :=
  if pretty then '\n' :: List.replicate (2 * depth) ' ' else []

theorem blank_lineGap (pretty : Bool) (depth : Nat) : Blank (lineGap pretty depth) := by
  unfold lineGap
  cases pretty with
  | false => exact blank_nil
  | true =>
    intro c member
    rcases List.mem_cons.1 member with rfl | member
    · rfl
    · rw [List.eq_of_mem_replicate member]
      rfl

theorem toList_enclose {opening closing : String} {pretty : Bool} {depth : Nat} {parts : List String}
    (nonempty : parts ≠ []) :
    (Json.enclose opening closing pretty depth parts).toList =
      opening.toList ++ (lineGap pretty (depth + 1) ++
        ((',' :: lineGap pretty (depth + 1)).intercalate (parts.map String.toList) ++
          (lineGap pretty depth ++ closing.toList))) := by
  have line (depth : Nat) : (if pretty then "\n" ++ String.ofList (List.replicate (2 * depth) ' ')
      else "").toList = lineGap pretty depth := by
    cases pretty <;> simp [lineGap]
  simp only [Json.enclose, List.isEmpty_iff, nonempty, if_false, String.toList_append,
    String.toList_intercalate, line, List.append_assoc]
  rfl

theorem itemTexts_eq_map (pretty : Bool) (depth : Nat) (items : List Json) :
    Json.itemTexts pretty depth items = items.map (Json.textAt pretty depth) := by
  induction items with
  | nil => rfl
  | cons v rest ih => rw [Json.itemTexts, ih, List.map_cons]

theorem fieldTexts_eq_map (pretty : Bool) (depth : Nat) (fields : List (String × Json)) :
    Json.fieldTexts pretty depth fields = fields.map fun f =>
      Json.stringText f.1 ++ (if pretty then ": " else ":") ++ Json.textAt pretty depth f.2 := by
  induction fields with
  | nil => rfl
  | cons f rest ih => rw [Json.fieldTexts, ih, List.map_cons]

/-- A plain value is read back from its text, whatever text comes after it. -/
theorem spells_textAt {v : Json} (plain : v.IsPlain) (pretty : Bool) (depth : Nat) :
    Spells v (Json.textAt pretty depth v).toList := by
  induction plain generalizing depth with
  | null =>
    rw [Json.textAt]
    exact spells_null
  | boolean b =>
    rw [Json.textAt]
    cases b <;> exact spells_boolean _
  | natural n fits =>
    rw [Json.natural, Json.textAt, Json.numberText, Numeral.integer, if_neg (by omega),
      Numeral.decimal, String.toList_ofList]
    exact spells_natural fits
  | string s =>
    rw [Json.textAt]
    exact spells_string s
  | array items _ ih =>
    rw [Json.textAt, itemTexts_eq_map]
    cases items with
    | nil =>
      have text : (Json.enclose "[" "]" pretty depth []).toList = ['[', ']'] := by
        simp [Json.enclose]
      exact text ▸ spells_empty_array
    | cons v items =>
      rw [toList_enclose (by simp), List.map_map]
      refine spells_array ?_ (List.cons_ne_nil v items) (blank_lineGap _ _) (blank_lineGap _ _)
      rw [List.forall₂_map_right_iff, List.forall₂_same]
      exact fun v member => ih v member (depth + 1)
  | object fields _ _ ih =>
    rw [Json.textAt, fieldTexts_eq_map]
    cases fields with
    | nil =>
      have text : (Json.enclose "\x7b" "\x7d" pretty depth []).toList = ['\x7b', '\x7d'] := by
        simp [Json.enclose]
      exact text ▸ spells_empty_object
    | cons f fields =>
      rw [toList_enclose (by simp), List.map_map]
      refine spells_object ?_ (List.cons_ne_nil f fields) (blank_lineGap _ _) (blank_lineGap _ _)
      rw [List.forall₂_map_right_iff, List.forall₂_same]
      intro f member
      refine ⟨if pretty then [' '] else [], _, ?_, ?_, ih f member (depth + 1)⟩
      · cases pretty <;> simp
      · cases pretty
        · exact blank_nil
        · intro c member
          rw [List.mem_singleton.1 member]
          rfl

/-- The text of a plain value is read as a document that holds it, to its end. -/
theorem read_textAt {v : Json} (plain : v.IsPlain) (pretty : Bool) (depth : Nat) :
    ∃ d, read (Json.textAt pretty depth v).toList = (d, some []) ∧ v.HeldBy d := by
  have found := (spells_textAt plain pretty depth).reads []
  simp only [List.append_nil] at found
  exact found _ trivial (by omega)

end Document

end ClusterPlacement
