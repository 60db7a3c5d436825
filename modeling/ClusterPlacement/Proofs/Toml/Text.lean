import ClusterPlacement.Proofs.Numeral
import ClusterPlacement.Toml.Text
import Mathlib.Tactic.SplitIfs
/-! Strings are read back from every notation that can show them, and the notation that is chosen for a text
can show it. A basic string can show every text, on one line or on several, as whatever cannot stand for
itself is escaped. A literal string has no escapes, so its characters have to stand for themselves, and its
apostrophes must not be taken for its end. -/

namespace ClusterPlacement.Toml

variable {c d : Char} {s text rest : List Char} {run bound : Nat}

/-- What a character can be written as in a string between double quotes. -/
inductive Escape (c : Char) : List Char → Prop where
  | itself (plain : isPlain c) (quote : c ≠ '"') (backslash : c ≠ '\\') : Escape c [c]
  | letter (e : Char) (means : unescape? e = some c) : Escape c ['\\', e]
  | codePoint (x₁ x₂ x₃ x₄ : Char) (means : codePoint? [x₁, x₂, x₃, x₄] = some c) :
      Escape c ['\\', 'u', x₁, x₂, x₃, x₄]

theorem codePoint?_upperHex (low : c.toNat < 256) :
    ∃ x₁ x₂ x₃ x₄, (Numeral.upperHex 4 c.toNat).toList = [x₁, x₂, x₃, x₄] ∧
      codePoint? [x₁, x₂, x₃, x₄] = some c := by
  rw [Numeral.upperHex, String.toList_ofList, Numeral.padded_digits_of_lt low]
  refine ⟨_, _, _, _, rfl, ?_⟩
  have value : Numeral.ofDigits 16 [0, 0, c.toNat / 16, c.toNat % 16] = c.toNat := by
    simp only [Numeral.ofDigits, List.foldl_cons, List.foldl_nil]
    omega
  have digits : [Numeral.upperDigit 0, Numeral.upperDigit 0, Numeral.upperDigit (c.toNat / 16),
      Numeral.upperDigit (c.toNat % 16)].mapM Numeral.digitValue? =
      some [0, 0, c.toNat / 16, c.toNat % 16] := by
    simp [Numeral.digitValue?_upperDigit (show 0 < 16 by decide),
      Numeral.digitValue?_upperDigit (show c.toNat / 16 < 16 by omega),
      Numeral.digitValue?_upperDigit (show c.toNat % 16 < 16 by omega)]
  simp only [codePoint?, digits, Option.bind_eq_bind, Option.bind_some, value, Char.ofNat_toNat]
  exact if_pos c.valid

theorem escape_escapeChar (quote : c ≠ '"') : Escape c (escapeChar c) := by
  unfold escapeChar
  split
  case h_6 backslash =>
    split
    case isTrue hidden =>
      have low : c.toNat < 256 := by
        rcases hidden with control | rfl
        · exact Nat.lt_trans (show c.toNat < 32 from control) (by decide)
        · decide
      obtain ⟨x₁, x₂, x₃, x₄, digits, means⟩ := codePoint?_upperHex low
      rw [digits]
      exact .codePoint x₁ x₂ x₃ x₄ means
    case isFalse shown =>
      refine .itself ?_ quote backslash
      rw [not_or, Char.not_lt] at shown
      simp [isPlain, shown]
  all_goals exact .letter _ rfl

/-- A character that stands for itself does not end a line. -/
theorem not_break_of_isPlain (plain : isPlain c) : c ≠ '\n' ∧ c ≠ '\r' := by
  constructor <;> rintro rfl <;> exact absurd plain (by decide)

/-- No quote and no line break is written for a character, unless after a backslash. -/
theorem Escape.head?_ne {escaped : List Char} (escape : Escape c escaped) (text : List Char) :
    (escaped ++ text).head? ≠ some '"' ∧ (escaped ++ text).head? ≠ some '\n' ∧
      (escaped ++ text).head? ≠ some '\r' := by
  cases escape with
  | itself plain quote _ =>
    obtain ⟨noFeed, noReturn⟩ := not_break_of_isPlain plain
    simp [quote, noFeed, noReturn]
  | letter e _ => simp
  | codePoint x₁ x₂ x₃ x₄ _ => simp

theorem readBasic_escape {escaped : List Char} (escape : Escape c escaped)
    (read : readBasic text = some (s, rest)) : readBasic (escaped ++ text) = some (c :: s, rest) := by
  cases escape with
  | itself plain quote backslash =>
    rw [List.singleton_append, readBasic, if_pos plain, read]
    · rfl
    all_goals grind
  | letter e means =>
    rw [List.cons_append, List.singleton_append, readBasic, means, read]
    · rfl
    -- The letters `u` and `U` are no escapes of their own.
    all_goals
      intros
      subst e
      cases means
  | codePoint x₁ x₂ x₃ x₄ means =>
    simp only [List.cons_append, List.nil_append, readBasic, means, read]
    rfl

theorem escape_basic (c : Char) : Escape c
    (if c = '"' then ['\\', '"'] else if c = '\n' then ['\\', 'n'] else escapeChar c) := by
  split
  case isTrue same => exact same ▸ .letter '"' rfl
  case isFalse quote =>
    split
    case isTrue same => exact same ▸ .letter 'n' rfl
    case isFalse => exact escape_escapeChar quote

theorem readBasic_escapeBasic (s rest : List Char) :
    readBasic (escapeBasic s ++ '"' :: rest) = some (s, rest) := by
  induction s with
  | nil => rfl
  | cons c s ih =>
    rw [escapeBasic, List.flatMap_cons, List.append_assoc]
    exact readBasic_escape (escape_basic c) ih

/-- A reader of strings that end with three quotes in a row, so that fewer stand for themselves. -/
structure EndsWithThree (quote : Char) (read : List Char → Option (List Char × List Char)) : Prop where
  closing : ∀ rest, read (quote :: quote :: quote :: rest) = some (closingQuotes quote rest)
  single : ∀ text s rest, (∀ after, text ≠ quote :: quote :: after) → read text = some (s, rest) →
    read (quote :: text) = some (quote :: s, rest)

theorem closingQuotes_replicate {quote : Char} (few : run ≤ 2) (other : rest.head? ≠ some quote) :
    closingQuotes quote (List.replicate run quote ++ rest) = (List.replicate run quote, rest) := by
  obtain rfl | rfl | rfl : run = 0 ∨ run = 1 ∨ run = 2 := by omega
  all_goals
    rcases rest with _ | ⟨a, _ | ⟨b, rest⟩⟩
    all_goals simp_all [closingQuotes, List.replicate]

/-- Quotes in front of the closing ones are quotes after them just as well. -/
theorem replicate_append_three (quote : Char) (run : Nat) (rest : List Char) :
    List.replicate run quote ++ quote :: quote :: quote :: rest =
      quote :: quote :: quote :: (List.replicate run quote ++ rest) := by
  induction run with
  | zero => rfl
  | succ run ih => rw [List.replicate_succ, List.cons_append, List.cons_append, ih]

namespace EndsWithThree

variable {quote : Char} {read : List Char → Option (List Char × List Char)}

theorem read_closing (ends : EndsWithThree quote read) (few : run ≤ 2) (other : rest.head? ≠ some quote) :
    read (List.replicate run quote ++ quote :: quote :: quote :: rest) =
      some (List.replicate run quote, rest) := by
  rw [replicate_append_three, ends.closing, closingQuotes_replicate few other]

theorem read_quotes (ends : EndsWithThree quote read) (few : run ≤ 2) (other : text.head? ≠ some quote)
    (here : read text = some (s, rest)) :
    read (List.replicate run quote ++ text) = some (List.replicate run quote ++ s, rest) := by
  have one : read (quote :: text) = some (quote :: s, rest) := by
    refine ends.single _ _ _ (fun after same => other ?_) here
    rw [same, List.head?_cons]
  obtain rfl | rfl | rfl : run = 0 ∨ run = 1 ∨ run = 2 := by omega
  · exact here
  · exact one
  · refine ends.single (quote :: text) _ _ (fun after same => other ?_) one
    rw [(List.cons_eq_cons.1 same).2, List.head?_cons]

end EndsWithThree

theorem endsWithThree_readMultiline : EndsWithThree '"' (readMultiline false) where
  closing rest := by rw [readMultiline]
  single text s rest notClosing read := by
    rw [readMultiline, Bool.false_and, if_neg (by decide), if_pos (by decide), read]
    · rfl
    all_goals grind

theorem readMultiline_escape {escaped : List Char} (escape : Escape c escaped)
    (read : readMultiline false text = some (s, rest)) :
    readMultiline false (escaped ++ text) = some (c :: s, rest) := by
  cases escape with
  | itself plain quote backslash =>
    obtain ⟨noFeed, noReturn⟩ := not_break_of_isPlain plain
    rw [List.singleton_append, readMultiline, Bool.false_and, if_neg (by decide), if_pos plain, read]
    · rfl
    all_goals grind
  | letter e means =>
    rw [List.cons_append, List.singleton_append, readMultiline, means, read]
    · rfl
    all_goals
      intros
      subst e
      cases means
  | codePoint x₁ x₂ x₃ x₄ means =>
    simp only [List.cons_append, List.nil_append, readMultiline, means, read]
    rfl

theorem readMultiline_break (read : readMultiline false text = some (s, rest)) :
    readMultiline false ('\n' :: text) = some ('\n' :: s, rest) := by
  rw [readMultiline, if_neg (by decide), read]
  rfl

/-- A text is read back, together with the quotes right before it. -/
theorem readMultiline_escapeMultiline (few : run ≤ 2) (other : rest.head? ≠ some '"') (s : List Char) :
    readMultiline false
        (List.replicate run '"' ++ (escapeMultiline run s ++ '"' :: '"' :: '"' :: rest)) =
      some (List.replicate run '"' ++ s, rest) := by
  have ends := endsWithThree_readMultiline
  -- The writer counts the quotes in a row one by one, and the reader only takes them together: those that
  -- were counted stand in front of what is left to write.
  fun_induction escapeMultiline run s with
  | case1 run => rw [List.nil_append, List.append_nil, ends.read_closing few other]
  | case2 s ih =>
    have escape : Escape '"' ['\\', '"'] := .letter '"' rfl
    have read := readMultiline_escape escape (ih (Nat.zero_le 2))
    exact ends.read_quotes few nofun read
  | case3 run s more ih =>
    have next := ih (by omega)
    rwa [List.replicate_succ', List.append_assoc, List.append_assoc] at next
  | case4 run s ih =>
    exact ends.read_quotes few nofun (readMultiline_break (ih (Nat.zero_le 2)))
  | case5 run c s quote _ ih =>
    have escape := escape_escapeChar quote
    rw [List.append_assoc]
    exact ends.read_quotes few (escape.head?_ne _).1 (readMultiline_escape escape (ih (Nat.zero_le 2)))

theorem readLiteral_append (shown : ∀ c ∈ s, isPlain c ∧ c ≠ '\'') (rest : List Char) :
    readLiteral (s ++ '\'' :: rest) = some (s, rest) := by
  induction s with
  | nil => rfl
  | cons c s ih =>
    obtain ⟨⟨plain, quote⟩, others⟩ := List.forall_mem_cons.1 shown
    rw [List.cons_append, readLiteral, if_pos plain, ih others]
    · rfl
    · exact quote

/-- No more than `bound` occurrences of a character stand in a row, with `run` of them before the text. -/
def RunsWithin (c : Char) (bound : Nat) : Nat → List Char → Prop
  | run, [] => run ≤ bound
  | run, d :: s => run ≤ bound ∧ if d = c then RunsWithin c bound (run + 1) s else RunsWithin c bound 0 s

theorem RunsWithin.le (within : RunsWithin c bound run s) : run ≤ bound := by
  cases s with
  | nil => exact within
  | cons d s => exact within.1

theorem endsWithThree_readMultilineLiteral : EndsWithThree '\'' readMultilineLiteral where
  closing rest := by rw [readMultilineLiteral]
  single text s rest notClosing read := by
    rw [readMultilineLiteral, if_pos (by decide), read]
    · rfl
    all_goals grind

theorem readMultilineLiteral_append (shown : ∀ c ∈ s, c = '\n' ∨ isPlain c)
    (within : RunsWithin '\'' 2 run s) (other : rest.head? ≠ some '\'') :
    readMultilineLiteral (List.replicate run '\'' ++ (s ++ '\'' :: '\'' :: '\'' :: rest)) =
      some (List.replicate run '\'' ++ s, rest) := by
  have ends := endsWithThree_readMultilineLiteral
  induction s generalizing run with
  | nil => rw [List.nil_append, List.append_nil, ends.read_closing within.le other]
  | cons c s ih =>
    obtain ⟨head, others⟩ := List.forall_mem_cons.1 shown
    obtain ⟨few, within⟩ := within
    split at within
    case isTrue quote =>
      have next := ih others within
      rw [List.replicate_succ', List.append_assoc, List.append_assoc] at next
      exact quote ▸ next
    case isFalse quote =>
      refine ends.read_quotes few (fun same => quote (Option.some.inj same)) ?_
      have noReturn : c ≠ '\r' := by
        rcases head with rfl | plain
        · decide
        · exact (not_break_of_isPlain plain).2
      rw [List.cons_append, readMultilineLiteral, if_pos (by simpa using head)]
      · rw [show s ++ _ = List.replicate 0 '\'' ++ (s ++ _) from rfl, ih others within]
        rfl
      all_goals grind

theorem longestRun_le_iff (c : Char) (bound : Nat) (s : List Char) :
    longestRun c s ≤ bound ↔ RunsWithin c bound 0 s := by
  have within (run longest : Nat) (le : run ≤ longest) :
      (s.foldl (countRun c) (run, longest)).2 ≤ bound ↔ longest ≤ bound ∧ RunsWithin c bound run s := by
    induction s generalizing run longest with
    | nil =>
      rw [List.foldl_nil, RunsWithin]
      omega
    | cons d s ih =>
      rw [List.foldl_cons, countRun, RunsWithin]
      dsimp only
      rw [ih _ _ (Nat.le_max_left _ _)]
      split
      case isTrue =>
        constructor
        · rintro ⟨top, within⟩
          exact ⟨by omega, by omega, within⟩
        · rintro ⟨top, _, within⟩
          exact ⟨Nat.max_le.2 ⟨within.le, top⟩, within⟩
      case isFalse =>
        constructor
        · rintro ⟨top, within⟩
          exact ⟨by omega, by omega, within⟩
        · rintro ⟨top, _, within⟩
          exact ⟨by omega, within⟩
  rw [longestRun, within 0 0 (Nat.le_refl 0)]
  simp

theorem not_mem_of_runsWithin (within : RunsWithin c 0 0 s) : c ∉ s := by
  induction s with
  | nil => exact List.not_mem_nil
  | cons d s ih =>
    obtain ⟨_, within⟩ := within
    split at within
    case isTrue => exact absurd within.le (by decide)
    case isFalse other =>
      rw [List.mem_cons, not_or]
      exact ⟨Ne.symm other, ih within⟩

/-- The notations that can show a text. -/
def Notation.Fits : Notation → List Char → Prop
  | .basic, _ | .multiline, _ => True
  | .literal, s => ∀ c ∈ s, isPlain c ∧ c ≠ '\''
  | .multilineLiteral, s => (∀ c ∈ s, c = '\n' ∨ isPlain c) ∧ RunsWithin '\'' 2 0 s

theorem isPlain_of_not_isHidden (shown : ¬isHidden c) : c = '\n' ∨ isPlain c := by
  simp only [isHidden, isPlain, Bool.or_eq_true, Bool.and_eq_true, decide_eq_true_eq] at *
  rw [← Char.not_lt]
  grind

theorem Notation.fits_choose (s : List Char) : (choose s).Fits s := by
  have shown (free : s.any isHidden = false) : ∀ c ∈ s, c = '\n' ∨ isPlain c := by
    intro c member
    exact isPlain_of_not_isHidden (List.any_eq_false.1 free c member)
  unfold choose
  dsimp only
  split_ifs with basic literal multiline multilineLiteral
  · trivial
  · simp only [Bool.and_eq_true, Bool.not_eq_true', decide_eq_true_eq, ← Bool.not_eq_true (s.contains _),
      List.contains_iff_mem] at literal
    obtain ⟨⟨free, none⟩, single⟩ := literal
    have within := (longestRun_le_iff _ _ _).1 (Nat.le_of_eq none)
    intro c member
    refine ⟨(shown free c member).resolve_left ?_, ?_⟩
    · rintro rfl
      exact single member
    · rintro rfl
      exact not_mem_of_runsWithin within member
  · trivial
  · simp only [Bool.and_eq_true, Bool.not_eq_true', decide_eq_true_eq] at multilineLiteral
    exact ⟨shown multilineLiteral.1, (longestRun_le_iff _ _ _).1 multilineLiteral.2⟩
  · trivial
  · trivial

theorem dropLineBreak_of_head? (noFeed : text.head? ≠ some '\n') (noReturn : text.head? ≠ some '\r') :
    dropLineBreak text = text := by
  unfold dropLineBreak
  split
  case h_1 | h_2 => simp at *
  case h_3 => rfl

/-- A text of several lines starts on the line after the quotes, and one of a single line right there. -/
theorem dropLineBreak_leadingBreak (noBreak : '\n' ∉ s → text.head? ≠ some '\n' ∧ text.head? ≠ some '\r') :
    dropLineBreak (leadingBreak s ++ text) = text := by
  unfold leadingBreak
  split
  case isTrue => rfl
  case isFalse single =>
    rw [List.contains_iff_mem] at single
    exact dropLineBreak_of_head? (noBreak single).1 (noBreak single).2

theorem head?_escapeMultiline (single : '\n' ∉ s) (rest : List Char) :
    (escapeMultiline 0 s ++ '"' :: rest).head? ≠ some '\n' ∧
      (escapeMultiline 0 s ++ '"' :: rest).head? ≠ some '\r' := by
  unfold escapeMultiline
  split
  case h_1 => simp
  case h_2 => simp
  case h_3 => exact absurd List.mem_cons_self single
  case h_4 quote _ =>
    rw [List.append_assoc]
    exact ((escape_escapeChar quote).head?_ne _).2

theorem escapeBasic_ne_quotes (s rest : List Char) (other : rest.head? ≠ some '"') :
    ∀ after, escapeBasic s ++ '"' :: rest ≠ '"' :: '"' :: after := by
  intro after same
  cases s with
  | nil =>
    rw [(List.cons_eq_cons.1 same).2] at other
    exact other rfl
  | cons c s =>
    rw [escapeBasic, List.flatMap_cons, List.append_assoc] at same
    exact ((escape_basic c).head?_ne _).1 (congrArg List.head? same)

theorem readString_writeAs (n : Notation) (fits : n.Fits s) (quote : rest.head? ≠ some '"')
    (apostrophe : rest.head? ≠ some '\'') : readString (writeAs n s ++ rest) = some (s, rest) := by
  cases n with
  | basic =>
    rw [writeAs, List.append_assoc, List.cons_append, List.singleton_append, readString]
    · exact readBasic_escapeBasic s rest
    · exact escapeBasic_ne_quotes s rest quote
  | literal =>
    rw [writeAs, List.append_assoc, List.cons_append, List.singleton_append, readString]
    · exact readLiteral_append fits rest
    · intro after same
      cases s with
      | nil =>
        rw [(List.cons_eq_cons.1 same).2] at apostrophe
        exact apostrophe rfl
      | cons c s => exact (fits c List.mem_cons_self).2 (List.cons_eq_cons.1 same).1
  | multiline =>
    have read := readMultiline_escapeMultiline (Nat.zero_le 2) quote s
    simp only [writeAs, List.cons_append, List.append_assoc, List.nil_append, readString]
    rwa [dropLineBreak_leadingBreak]
    intro single
    exact head?_escapeMultiline single _
  | multilineLiteral =>
    have read := readMultilineLiteral_append fits.1 fits.2 apostrophe
    simp only [writeAs, List.cons_append, List.append_assoc, List.nil_append, readString]
    rwa [dropLineBreak_leadingBreak]
    intro single
    cases s with
    | nil => simp
    | cons c s =>
      have plain := (fits.1 c List.mem_cons_self).resolve_left fun same => single (by simp [same])
      simpa using not_break_of_isPlain plain

/-- A text is read back from the notation that is chosen for it. Quotes right after it would be taken for
its own. -/
theorem readString_writeString (s : List Char) (quote : rest.head? ≠ some '"')
    (apostrophe : rest.head? ≠ some '\'') : readString (writeString s ++ rest) = some (s, rest) :=
  readString_writeAs _ (Notation.fits_choose s) quote apostrophe

end ClusterPlacement.Toml
