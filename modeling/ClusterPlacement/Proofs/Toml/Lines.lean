import ClusterPlacement.Config
import ClusterPlacement.Proofs.Toml.Number
import ClusterPlacement.Proofs.Toml.Text
/-! Lines are read back one by one. A line is a header or an entry, and what is on it is read up to its end
whatever lines follow; empty lines are passed over. -/

namespace ClusterPlacement.Toml

variable {c e : Char} {text rest : List Char} {name : String} {bound depth n : Nat}

theorem dropBlanks_cons (solid : isBlank c = false) (text : List Char) :
    dropBlanks (c :: text) = c :: text := List.dropWhile_cons_of_neg (by simp [solid])

/-- A character of a class that the blanks are not of is not blank. -/
theorem isBlank_eq_false {p : Char → Bool} (holds : p c = true) (space : p ' ' = false)
    (tab : p '\t' = false) : isBlank c = false := by
  rw [isBlank, Bool.or_eq_false_iff, decide_eq_false_iff_not, decide_eq_false_iff_not]
  constructor
  · rintro rfl
    simp [space] at holds
  · rintro rfl
    simp [tab] at holds

/-- A text that is read as a value up to the end of its line. -/
structure SpellsValue (v : Toml) (text : List Char) : Prop where
  solid : ∀ rest, dropBlanks (text ++ rest) = text ++ rest
  reads : ∀ bound depth rest, readValue (bound + 1) depth (text ++ '\n' :: rest) =
    some (.plain v, '\n' :: rest)

theorem exists_writeString (s : List Char) :
    ∃ c tail, writeString s = c :: tail ∧ (c = '"' ∨ c = '\'') := by
  unfold writeString
  cases Notation.choose s with
  | basic | multiline => exact ⟨'"', _, rfl, .inl rfl⟩
  | literal | multilineLiteral => exact ⟨'\'', _, rfl, .inr rfl⟩

theorem readValue_string {s : List Char} (quote : c = '"' ∨ c = '\'')
    (read : readString (c :: text) = some (s, rest)) :
    readValue (bound + 1) depth (c :: text) = some (.plain (.string (String.ofList s)), rest) := by
  rcases quote with rfl | rfl
  · rw [readValue, read]
    rfl
  · rw [readValue, read]
    rfl

theorem spells_string (s : String) : SpellsValue (.string s) (writeString s.toList) := by
  have read (rest : List Char) : readString (writeString s.toList ++ '\n' :: rest) = _ :=
    readString_writeString s.toList nofun nofun
  obtain ⟨c, tail, shape, quote⟩ := exists_writeString s.toList
  rw [shape] at read ⊢
  constructor
  · intro rest
    refine dropBlanks_cons ?_ _
    rcases quote with rfl | rfl <;> rfl
  · intro bound depth rest
    exact (readValue_string quote (read rest)).trans (by rw [String.ofList_toList])

theorem readValue_number {v : Toml} (digit : Numeral.isDecimalDigit c = true)
    (read : readNumber (c :: text) = some (v, rest)) :
    readValue (bound + 1) depth (c :: text) = some (.plain v, rest) := by
  rw [readValue, read]
  · rfl
  -- No other value starts with a digit.
  all_goals
    intro _ same
    exact cons_ne digit rfl _ _ same

/-- A number that starts with a digit. -/
theorem spells_number {v : Toml} (digit : Numeral.isDecimalDigit c = true)
    (read : ∀ rest, readNumber (c :: text ++ '\n' :: rest) = some (v, '\n' :: rest)) :
    SpellsValue v (c :: text) where
  solid _ := dropBlanks_cons (isBlank_eq_false digit rfl rfl) _
  reads _ _ rest := readValue_number digit (read rest)

theorem spells_integer (fits : fitsInteger n) : SpellsValue (.integer (.ofInt n)) (Numeral.decimalChars n) := by
  have canonical := Numeral.canonical_digits n
  have read := readNumber_decimalChars fits
  rcases shape : Numeral.digits 10 n with _ | ⟨d, ds⟩
  · exact absurd shape Numeral.digits_ne_nil
  · rw [shape] at canonical
    rw [Numeral.decimalChars, shape] at read ⊢
    exact spells_number (Numeral.isDecimalDigit_lowerDigit (canonical.below d List.mem_cons_self)) read

theorem spells_float {x : Binary64} (plain : x.Plain) : SpellsValue (.float x) (writeFloat x) := by
  have read := readNumber_writeFloat plain
  obtain ⟨whole, fraction, canonical, _, _, _, shape⟩ := exists_writeFloat plain
  rcases whole with _ | ⟨d, whole⟩
  · exact absurd rfl canonical.ne_nil
  · rw [shape] at read ⊢
    exact spells_number (Numeral.isDecimalDigit_lowerDigit (canonical.below d List.mem_cons_self)) read

theorem spells_boolean (b : Bool) : SpellsValue (.boolean b) (Config.writeBoolean b) := by
  cases b with
  | false => exact ⟨fun _ => rfl, fun _ _ _ => rfl⟩
  | true => exact ⟨fun _ => rfl, fun _ _ _ => rfl⟩

/-- A name that needs no quotes as a key. -/
def Bare (name : String) : Prop := !name.toList.isEmpty && name.toList.all isBareKeyChar

theorem Bare.exists_cons (bare : Bare name) :
    ∃ c tail, name.toList = c :: tail ∧ isBareKeyChar c = true := by
  obtain ⟨nonempty, each⟩ := Bool.and_eq_true_iff.1 bare
  cases shape : name.toList with
  | nil => simp [shape] at nonempty
  | cons c tail => exact ⟨c, tail, rfl, List.all_eq_true.1 each c (shape ▸ List.mem_cons_self)⟩

theorem Bare.append_ne (bare : Bare name) (other : isBareKeyChar e = false) (text rest : List Char) :
    name.toList ++ text ≠ e :: rest := by
  obtain ⟨c, tail, shape, head⟩ := bare.exists_cons
  rw [shape]
  exact cons_ne head other _ _

theorem Bare.dropBlanks_append (bare : Bare name) (text : List Char) :
    dropBlanks (name.toList ++ text) = name.toList ++ text := by
  obtain ⟨c, tail, shape, head⟩ := bare.exists_cons
  rw [shape]
  exact dropBlanks_cons (isBlank_eq_false head rfl rfl) _

theorem readKeyPart_bare (bare : Bare name) (stop : isBareKeyChar c = false) (text : List Char) :
    readKeyPart (name.toList ++ c :: text) = some (name, c :: text) := by
  have each := List.all_eq_true.1 (Bool.and_eq_true_iff.1 bare).2
  have part : (name.toList ++ c :: text).takeWhile isBareKeyChar = name.toList := by
    rw [List.takeWhile_append_of_pos each, List.takeWhile_cons_of_neg (by simp [stop]), List.append_nil]
  have left : (name.toList ++ c :: text).dropWhile isBareKeyChar = c :: text := by
    rw [List.dropWhile_append_of_pos each, List.dropWhile_cons_of_neg (by simp [stop])]
  obtain ⟨d, tail, shape, _⟩ := bare.exists_cons
  unfold readKeyPart
  split
  case h_1 same | h_2 same => exact absurd same (bare.append_ne rfl _ _)
  case h_3 =>
    rw [part, left, shape]
    dsimp only
    rw [← shape, String.ofList_toList]

/-- A name is read up to a character that cannot go on with it. -/
theorem readKey_bare (bound : Nat) (bare : Bare name) (stop : isBareKeyChar c = false)
    (after : dropBlanks (c :: text) = e :: rest) (undotted : e ≠ '.') :
    readKey (bound + 1) (name.toList ++ c :: text) = some ([name], e :: rest) := by
  rw [readKey, bare.dropBlanks_append, readKeyPart_bare bare stop, Option.bind_eq_bind, Option.bind_some]
  dsimp only
  rw [after]
  split
  case h_1 same => exact absurd (List.cons_eq_cons.1 same).1 undotted
  case h_2 => rfl

/-- A text that is read as a statement, whatever lines follow. Nothing that is passed over between statements
starts as it does. -/
structure SpellsLine (statement : Statement) (text : List Char) : Prop where
  starts : ∃ c tail, text = c :: tail ∧ c ∉ [' ', '\t', '\n', '\r', '#', '\ufeff']
  reads : ∀ rest, readStatement (text ++ rest) = some (statement, rest)

theorem endLine_break (rest : List Char) : endLine ('\n' :: rest) = some rest := rfl

theorem spells_header (bare : Bare name) : SpellsLine (.table [name]) (Config.header name) where
  starts := ⟨'[', _, rfl, by decide⟩
  reads rest := by
    have text : Config.header name ++ rest = '[' :: (name.toList ++ ']' :: '\n' :: rest) := by
      simp [Config.header]
    have key : readKey (depthLimit - 1) (name.toList ++ ']' :: '\n' :: rest) = _ :=
      readKey_bare (depthLimit - 2) bare rfl rfl (by decide)
    rw [text, readStatement, key]
    · rfl
    · -- A second bracket would start an array of tables.
      exact fun _ => bare.append_ne rfl _ _

theorem spells_entry {v : Toml} {value : List Char} (bare : Bare name) (spells : SpellsValue v value) :
    SpellsLine (.entry [name] (.plain v)) (Config.line name value) where
  starts := by
    obtain ⟨c, tail, shape, head⟩ := bare.exists_cons
    refine ⟨c, _, by rw [Config.line, shape]; rfl, ?_⟩
    intro member
    simp only [List.mem_cons, List.not_mem_nil, or_false] at member
    rcases member with rfl | rfl | rfl | rfl | rfl | rfl <;> cases head
  reads rest := by
    have text : Config.line name value ++ rest =
        name.toList ++ ' ' :: '=' :: ' ' :: (value ++ '\n' :: rest) := by
      simp [Config.line]
    have key : readKey (depthLimit - 1) (name.toList ++ ' ' :: '=' :: ' ' :: (value ++ '\n' :: rest)) = _ :=
      readKey_bare (depthLimit - 2) bare rfl rfl (by decide)
    have blank : dropBlanks (' ' :: (value ++ '\n' :: rest)) = value ++ '\n' :: rest := spells.solid _
    rw [text, readStatement, key]
    · simp only [Option.bind_eq_bind, Option.bind_some, expect, if_true, blank, spells.reads, endLine_break]
      rfl
    all_goals exact fun _ => bare.append_ne rfl _ _

/-- A text of lines and empty lines that are read as these statements. -/
inductive Spells : List Statement → List Char → Prop where
  | nil : Spells [] []
  | blank {statements : List Statement} {text : List Char} (rest : Spells statements text) :
      Spells statements ('\n' :: text)
  | line {statement : Statement} {statements : List Statement} {line text : List Char}
      (here : SpellsLine statement line) (rest : Spells statements text) :
      Spells (statement :: statements) (line ++ text)

variable {statement : Statement} {statements : List Statement} {line : List Char}

theorem readStatements_line (here : SpellsLine statement line) (rest : List Char) :
    readStatements (bound + 1) (line ++ rest) = (readStatements bound rest).map (statement :: ·) := by
  obtain ⟨c, tail, shape, start⟩ := here.starts
  simp only [List.mem_cons, List.not_mem_nil, or_false, not_or] at start
  obtain ⟨space, tab, feed, return', comment, _⟩ := start
  have solid : dropBlanks (line ++ rest) = line ++ rest := by
    rw [shape]
    exact dropBlanks_cons (by simp [isBlank, space, tab]) _
  have noBreak : lineBreak? (line ++ rest) = none := by
    rw [shape]
    unfold lineBreak?
    split
    case h_1 same | h_2 same => grind
    case h_3 => rfl
  rw [readStatements, solid]
  split
  case h_1 none => rw [shape] at none; cases none
  case h_2 same => exact absurd (List.cons_eq_cons.1 (shape ▸ same)).1 comment
  case h_3 =>
    rw [noBreak, here.reads rest, Option.map_eq_bind]
    rfl

/-- A text is read line by line. -/
theorem Spells.readStatements_eq (spells : Spells statements text) (enough : text.length < bound) :
    readStatements bound text = some statements := by
  induction spells generalizing bound with
  | nil =>
    obtain ⟨bound, rfl⟩ := Nat.exists_eq_add_one_of_ne_zero (Nat.ne_zero_of_lt enough)
    rfl
  | blank _ ih =>
    obtain ⟨bound, rfl⟩ := Nat.exists_eq_add_one_of_ne_zero (Nat.ne_zero_of_lt enough)
    exact ih (Nat.lt_of_succ_lt_succ enough)
  | @line statement statements line text here _ ih =>
    obtain ⟨bound, rfl⟩ := Nat.exists_eq_add_one_of_ne_zero (Nat.ne_zero_of_lt enough)
    obtain ⟨c, tail, shape, _⟩ := here.starts
    have less : text.length < bound := by
      rw [shape, List.cons_append, List.length_cons, List.length_append] at enough
      omega
    rw [readStatements_line here, ih less]
    rfl

theorem readDocument_eq (spells : Spells statements text) : readDocument text = some statements := by
  have unmarked : dropMark text = text := by
    cases spells with
    | nil => rfl
    | blank _ => rfl
    | line here _ =>
      obtain ⟨c, tail, rfl, start⟩ := here.starts
      unfold dropMark
      split
      case h_1 same =>
        obtain ⟨rfl, _⟩ := List.cons_eq_cons.1 same
        exact absurd start (by decide)
      case h_2 => rfl
  rw [readDocument, unmarked]
  exact spells.readStatements_eq (Nat.lt_succ_self _)

end ClusterPlacement.Toml
