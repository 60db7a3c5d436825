import ClusterPlacement.Proofs.Toml.Sections
/-! The configuration in effect can be printed, and what is printed is read as the same configuration. What is
read never exceeds the integers of the format, so all of it can be written; the check of the settings leaves
only multipliers that are written as digits; and every text can be written as a string. -/

namespace ClusterPlacement

open Toml

/-- A word that an integer of the format can hold. -/
def FitsInteger (w : UInt64) : Prop := fitsInteger w.toNat

theorem fitsInteger_iff {w : UInt64} : FitsInteger w ↔ w.toNat < 2 ^ 63 := by
  simp only [FitsInteger, fitsInteger, Bool.and_eq_true, decide_eq_true_eq]
  omega

namespace Settings

structure Fits (s : Settings) : Prop where
  interval : FitsInteger s.resyncIntervalSeconds
  initial : FitsInteger s.initialBackoffMilliseconds
  longest : FitsInteger s.maxBackoffSeconds

theorem fits_default : Fits .default where
  interval := show fitsInteger 30 by decide
  initial := show fitsInteger 500 by decide
  longest := show fitsInteger 300 by decide

/-- A multiplier that passes the check is finite and not negative. -/
theorem plain_of_error?_eq_none {s : Settings} (valid : s.error? = none) : s.backoffMultiplier.Plain := by
  unfold error? at valid
  split_ifs at valid with _ _ _ wrong
  simp only [Bool.or_eq_true, Bool.not_eq_true', not_or, Bool.not_eq_false] at wrong
  obtain ⟨finite, notBelow⟩ := wrong
  -- A multiplier that is no number is not below one either, so the check of its size alone says nothing of it.
  have number : s.backoffMultiplier.isNaN = false :=
    decide_eq_false (Nat.not_lt.2 (Nat.le_of_lt (of_decide_eq_true finite)))
  have one : Binary64.AtLeast (Binary64.ofNat 1).magnitude (.ofNat 1) :=
    ⟨by decide +kernel, by decide +kernel⟩
  exact ⟨finite, ((one.of_not_lt number notBelow).positive (by decide +kernel)).1⟩

end Settings

namespace Config

theorem asWord_integer {w : UInt64} (fits : FitsInteger w) : asWord (.integer (.ofInt w.toNat)) = some w := by
  have nonneg : 0 ≤ Int64.ofInt w.toNat := by
    rw [Int64.ofInt_eq_ofNat, Int64.le_iff_toInt_le, Int64.toInt_ofNat_of_lt (fitsInteger_iff.1 fits)]
    exact Int.natCast_nonneg _
  rw [asWord, if_pos nonneg, Int64.ofInt_eq_ofNat]
  exact congrArg some UInt64.ofNat_toNat

theorem fits_of_asWord {v : Toml} {w : UInt64} (read : asWord v = some w) : FitsInteger w := by
  unfold asWord at read
  split at read
  case h_1 n =>
    split at read
    case isTrue nonneg =>
      obtain rfl := Option.some.inj read
      have small := n.toInt_lt
      rw [fitsInteger_iff, Int64.toNat_toUInt64_of_le nonneg, Int64.toNatClampNeg]
      omega
    case isFalse => cases read
  case h_2 => cases read

/-- What holds of the default and of every value that is read holds of a field. -/
theorem field_cases {α : Type} {lookup : String → Option Toml} {name : String} {read : Toml → Option α}
    {default a : α} {p : α → Prop} (given : field lookup name read default = some a) (standard : p default)
    (reads : ∀ v a, read v = some a → p a) : p a := by
  unfold field at given
  split at given
  case h_1 => exact Option.some.inj given ▸ standard
  case h_2 v _ => exact reads v a given

theorem fits_of_settingsOf {v : Toml} {s : Settings} (read : settingsOf v = some s) : s.Fits := by
  simp only [settingsOf, Option.bind_eq_bind, Option.bind_eq_some_iff] at read
  obtain ⟨lookup, _, interval, resync, initial, first, longest, last, multiplier, _, same⟩ := read
  obtain rfl := Option.some.inj same
  have standard := Settings.fits_default
  constructor
  · exact field_cases resync standard.interval fun _ _ => fits_of_asWord
  · exact field_cases first standard.initial fun _ _ => fits_of_asWord
  · exact field_cases last standard.longest fun _ _ => fits_of_asWord

theorem fits_of_ofEntries? {entries : List (String × Toml)} {c : Config} (read : ofEntries? entries = some c) :
    c.settings.Fits := by
  simp only [ofEntries?, Option.bind_eq_bind, Option.bind_eq_some_iff] at read
  obtain ⟨dataDir, _, settings, given, logging, _, same⟩ := read
  obtain rfl := Option.some.inj same
  exact field_cases given Settings.fits_default fun _ _ => fits_of_settingsOf

/-- A configuration as the sections it is written in. -/
def sections (c : Config) : List Section :=
  [⟨"store", [("data_dir", .string c.dataDir)]⟩,
    ⟨"controller", [("resync_interval_secs", .integer (.ofInt c.settings.resyncIntervalSeconds.toNat)),
      ("initial_backoff_ms", .integer (.ofInt c.settings.initialBackoffMilliseconds.toNat)),
      ("max_backoff_secs", .integer (.ofInt c.settings.maxBackoffSeconds.toNat)),
      ("backoff_multiplier", .float c.settings.backoffMultiplier)]⟩,
    ⟨"logging", [("filter", .string c.logging.filter), ("json", .boolean c.logging.json)]⟩]

theorem distinct_sections (c : Config) : Section.Distinct c.sections := by
  constructor
  · simp [sections]
  · simp [sections]

theorem settingsOf_table (interval initial longest multiplier : Toml) :
    settingsOf (.table [("resync_interval_secs", interval), ("initial_backoff_ms", initial),
      ("max_backoff_secs", longest), ("backoff_multiplier", multiplier)]) =
    do return ⟨← asWord interval, ← asWord initial, ← asWord longest, ← asFloat multiplier⟩ := rfl

theorem ofEntries?_tables (store controller logging : Toml) :
    ofEntries? [("store", store), ("controller", controller), ("logging", logging)] =
    do return ⟨← dataDirOf store, ← settingsOf controller, ← loggingOf logging⟩ := rfl

/-- Every field is found in the sections. -/
theorem ofEntries?_sections {c : Config} (fits : c.settings.Fits) :
    ofEntries? (c.sections.map Section.table) = some c := by
  have store : dataDirOf (.table [("data_dir", .string c.dataDir)]) = some c.dataDir := rfl
  have logging : loggingOf (.table [("filter", .string c.logging.filter), ("json", .boolean c.logging.json)]) =
      some c.logging := rfl
  simp only [sections, Section.table, List.map_cons, List.map_nil, ofEntries?_tables, store, logging,
    settingsOf_table, asWord_integer fits.interval, asWord_integer fits.initial, asWord_integer fits.longest]
  rfl

theorem writeInteger?_of_fits {w : UInt64} (fits : FitsInteger w) :
    Toml.writeInteger? w.toNat = some (Numeral.decimalChars w.toNat) := if_pos fits

/-- What is written of a configuration spells its sections. -/
theorem spells_write? {c : Config} (fits : c.settings.Fits) (plain : c.settings.backoffMultiplier.Plain) :
    ∃ printed, c.write? = some printed ∧ Spells (c.sections.flatMap Section.statements) printed := by
  rw [write?, writeInteger?_of_fits fits.interval, writeInteger?_of_fits fits.initial,
    writeInteger?_of_fits fits.longest]
  refine ⟨_, rfl, ?_⟩
  have store : Bare "store" := rfl
  have dataDir : Bare "data_dir" := rfl
  have controller : Bare "controller" := rfl
  have interval : Bare "resync_interval_secs" := rfl
  have initial : Bare "initial_backoff_ms" := rfl
  have longest : Bare "max_backoff_secs" := rfl
  have multiplier : Bare "backoff_multiplier" := rfl
  have logging : Bare "logging" := rfl
  have filter : Bare "filter" := rfl
  have json : Bare "json" := rfl
  simp only [List.append_assoc, List.singleton_append]
  refine .line (spells_header store) (.line (spells_entry dataDir (spells_string _)) (.blank ?_))
  refine .line (spells_header controller) ?_
  refine .line (spells_entry interval (spells_integer fits.interval)) ?_
  refine .line (spells_entry initial (spells_integer fits.initial)) ?_
  refine .line (spells_entry longest (spells_integer fits.longest)) ?_
  refine .line (spells_entry multiplier (spells_float plain)) (.blank ?_)
  refine .line (spells_header logging) (.line (spells_entry filter (spells_string _)) ?_)
  have last := Spells.line (spells_entry json (spells_boolean c.logging.json)) .nil
  rwa [List.append_nil] at last

theorem read_eq_ok_iff {text : List Char} {c : Config} :
    read text = .ok c ↔ (Toml.read? text).bind ofEntries? = some c ∧ c.error? = none := by
  unfold read
  split
  case h_1 none => simp [none]
  case h_2 c' some =>
    rw [some, Option.some.injEq]
    split
    case h_1 valid =>
      constructor
      · rintro ⟨⟩
        exact ⟨rfl, valid⟩
      · rintro ⟨rfl, _⟩
        rfl
    case h_2 e invalid =>
      constructor
      · rintro ⟨⟩
      · rintro ⟨rfl, valid⟩
        rw [invalid] at valid
        cases valid

/-- A configuration that was read can be written, and what is written is read as the same configuration. -/
theorem read_write {text : List Char} {c : Config} (accepted : read text = .ok c) :
    ∃ printed, c.write? = some printed ∧ read printed = .ok c := by
  obtain ⟨given, valid⟩ := read_eq_ok_iff.1 accepted
  obtain ⟨entries, _, given⟩ := Option.bind_eq_some_iff.1 given
  have fits := fits_of_ofEntries? given
  obtain ⟨printed, written, spells⟩ := spells_write? fits (Settings.plain_of_error?_eq_none valid)
  refine ⟨printed, written, read_eq_ok_iff.2 ⟨?_, valid⟩⟩
  rw [Section.read?_of_spells c.distinct_sections spells]
  exact ofEntries?_sections fits

/-- A text that leaves settings out, in which each string needs a notation of its own. -/
def handwritten : String :=
  "[store]\ndata_dir = '/srv/\"fleet\"\\data'\n" ++
  "[controller]\nbackoff_multiplier = 1.1\nmax_backoff_secs = 0x7fff_ffff_ffff_ffff\n" ++
  "[logging]\nfilter = \"\"\"\nit's \\\"info\\\"\\u0007\n\"\"\" # two lines\n"

theorem read_write_handwritten : ∃ c, read handwritten.toList = .ok c ∧
    c.dataDir = "/srv/\"fleet\"\\data" ∧ c.settings.maxBackoffSeconds = 0x7fffffffffffffff ∧
    c.settings.backoffMultiplier = ⟨0x3ff199999999999a⟩ ∧ c.logging.filter = "it's \"info\"\x07\n" ∧
    ∃ printed, c.write? = some printed ∧ read printed = .ok c := by
  have accepted : read handwritten.toList = .ok ⟨"/srv/\"fleet\"\\data",
      ⟨30, 500, 0x7fffffffffffffff, ⟨0x3ff199999999999a⟩⟩, ⟨"it's \"info\"\x07\n", false⟩⟩ := by
    decide +kernel
  exact ⟨_, accepted, rfl, rfl, rfl, rfl, read_write accepted⟩

end Config

end ClusterPlacement
