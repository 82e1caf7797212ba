import Mathlib.Data.List.Basic
import PooledSql.Sqlite.Settings

/-!
# Names of modes

A configuration is accepted if its modes are known once they are in upper case. That is full upper
case, in which a character beyond ASCII may stand for one or several letters, while a database knows
its modes in any letter case of ASCII only, and is given the word as it was configured. So there are
words that are accepted and then mean nothing.

Which words become a given one in upper case can be listed, as far as letter case within ASCII does
not count: at each place stands the letter itself, or a character for this letter and maybe some of
those that follow.

Results:
* `capitals_mem_spellings`: the list of such words is complete.
* `upper_mem_iff`: which words become one of some words in upper case.
* `modes_accepted_iff`: which modes are accepted, and which of those are not understood.
* `accepted_ligature`: not every mode that is accepted is one that there is.
-/

namespace PooledSql

namespace Text

/-- A text with the letters of ASCII as capitals. -/
def capitals (s : String) : String := s.map Char.toUpper

/-- The characters beyond ASCII that stand for some letters in upper case. -/
def standIns (form : List Char) : List Char :=
  (upperExpansions.filter fun e => e.2 == form).map Prod.fst

theorem mem_standIns {c : Char} {form : List Char} :
    c ∈ standIns form ↔ (c, form) ∈ upperExpansions := by
  simp [standIns]

/-- The texts that become a word in upper case, if those letters of theirs that belong to ASCII are
capitals. A character stands for three letters at most. -/
def spellings : List Char → List (List Char)
  | [] => [[]]
  | a :: rest =>
    (a :: standIns [a]).flatMap (fun c => (spellings rest).map (c :: ·)) ++
      match rest with
      | [] => []
      | b :: rest =>
        (standIns [a, b]).flatMap (fun c => (spellings rest).map (c :: ·)) ++
          match rest with
          | [] => []
          | d :: rest => (standIns [a, b, d]).flatMap fun c => (spellings rest).map (c :: ·)

theorem capital_mem_spellings {a : Char} {s word : List Char} (h : s ∈ spellings word) :
    a :: s ∈ spellings (a :: word) := by
  rw [spellings.eq_def]
  exact List.mem_append_left _ (List.mem_flatMap.2 ⟨a, by simp, List.mem_map_of_mem h⟩)

theorem standIn_mem_spellings {c : Char} {form s word : List Char} (stands : c ∈ standIns form)
    (h : s ∈ spellings word) : c :: s ∈ spellings (form ++ word) := by
  have all : ∀ e ∈ upperExpansions, 1 ≤ e.2.length ∧ e.2.length ≤ 3 := by decide
  have size := all _ (mem_standIns.1 stands)
  have longer {letters : List Char} (stands : c ∈ standIns letters) :
      c :: s ∈ (standIns letters).flatMap fun c => (spellings word).map (c :: ·) :=
    List.mem_flatMap.2 ⟨c, stands, List.mem_map_of_mem h⟩
  match form, size with
  | [a], _ =>
    rw [List.singleton_append, spellings.eq_def]
    exact List.mem_append_left _
      (List.mem_flatMap.2 ⟨c, List.mem_cons_of_mem _ stands, List.mem_map_of_mem h⟩)
  | [a, b], _ =>
    rw [List.cons_append, List.singleton_append, spellings.eq_def]
    exact List.mem_append_right _ (List.mem_append_left _ (longer stands))
  | [a, b, d], _ =>
    rw [List.cons_append, List.cons_append, List.singleton_append, spellings.eq_def]
    exact List.mem_append_right _ (List.mem_append_right _ (longer stands))

/-- In upper case a character is its capital, or it stands for some letters. -/
theorem upperChar_cases (c : Char) :
    upperChar c = [c.toUpper] ∨ ∃ form, c ∈ standIns form ∧ upperChar c = form ∧ c.toUpper = c := by
  unfold upperChar
  cases found : upperExpansions.lookup c with
  | none => exact .inl rfl
  | some form =>
    obtain ⟨before, after, split, -⟩ := List.lookup_eq_some_iff.1 found
    have mem : (c, form) ∈ upperExpansions := by
      rw [split]
      exact List.mem_append_right _ List.mem_cons_self
    have same : ∀ e ∈ upperExpansions, e.1.toUpper = e.1 := by decide
    exact .inr ⟨form, mem_standIns.2 mem, rfl, same _ mem⟩

/-- A word in ASCII capitals is among the spellings of what the word is raised to. -/
theorem map_toUpper_mem_spellings (s : List Char) :
    s.map Char.toUpper ∈ spellings (s.flatMap upperChar) := by
  induction s with
  | nil => simp [spellings]
  | cons c rest ih =>
    rw [List.map_cons, List.flatMap_cons]
    rcases upperChar_cases c with plain | ⟨form, stands, upper, same⟩
    · rw [plain]
      exact capital_mem_spellings ih
    · rw [upper, same]
      exact standIn_mem_spellings stands ih

/-- A text that becomes a word in upper case is among those that are listed for the word. -/
theorem capitals_mem_spellings {s word : String} (h : upper s = word) :
    capitals s ∈ (spellings word.toList).map String.ofList := by
  refine List.mem_map.2 ⟨s.toList.map Char.toUpper, ?_, ?_⟩
  · rw [← h, upper, String.toList_ofList]
    exact map_toUpper_mem_spellings s.toList
  · rw [← String.toList_map, String.ofList_toList, capitals]

/-- The letters of ASCII that are no capitals. -/
def smallLetters : List Char := "abcdefghijklmnopqrstuvwxyz".toList

/-- A character is one of these letters, or its own capital. -/
theorem small_or_capital (c : Char) : c ∈ smallLetters ∨ c.toUpper = c := by
  by_cases small : 'a'.val ≤ c.val ∧ c.val ≤ 'z'.val
  · left
    have low : 97 ≤ c.toNat := small.1
    have high : c.toNat ≤ 122 := small.2
    have each : ∀ i : Fin 26, Char.ofNat (97 + i.val) ∈ smallLetters := by decide
    have here := each ⟨c.toNat - 97, by omega⟩
    have same : 97 + (c.toNat - 97) = c.toNat := by omega
    simpa [same] using here
  · exact .inr (dif_neg small)

/-- The capital of a small letter has the same forms in either letter case, and is a letter too. -/
theorem smallLetters_forms :
    ∀ c ∈ smallLetters, upperChar c.toUpper = upperChar c ∧ c.toUpper.toLower = c.toLower ∧
      c.toUpper.isAlpha = c.isAlpha := by
  have each : (smallLetters.all fun c => upperChar c.toUpper == upperChar c &&
      c.toUpper.toLower == c.toLower && c.toUpper.isAlpha == c.isAlpha) = true := by
    decide +kernel
  simpa [and_assoc] using each

theorem upperChar_toUpper (c : Char) : upperChar c.toUpper = upperChar c := by
  rcases small_or_capital c with small | capital
  · exact (smallLetters_forms c small).1
  · rw [capital]

theorem toLower_toUpper (c : Char) : c.toUpper.toLower = c.toLower := by
  rcases small_or_capital c with small | capital
  · exact (smallLetters_forms c small).2.1
  · rw [capital]

theorem isAlpha_toUpper (c : Char) : c.toUpper.isAlpha = c.isAlpha := by
  rcases small_or_capital c with small | capital
  · exact (smallLetters_forms c small).2.2
  · rw [capital]

/-- The ranges of the letters within ASCII. -/
theorem isAlpha_iff_toNat {c : Char} :
    c.isAlpha = true ↔ 65 ≤ c.toNat ∧ c.toNat ≤ 90 ∨ 97 ≤ c.toNat ∧ c.toNat ≤ 122 := by
  have upper : c.isUpper = true ↔ 65 ≤ c.toNat ∧ c.toNat ≤ 90 := decide_eq_true_iff
  have lower : c.isLower = true ↔ 97 ≤ c.toNat ∧ c.toNat ≤ 122 :=
    Bool.and_eq_true_iff.trans (and_congr decide_eq_true_iff decide_eq_true_iff)
  rw [← upper, ← lower]
  exact Bool.or_eq_true_iff

/-- Letter case within ASCII makes no difference in upper case. -/
theorem upper_capitals (s : String) : upper (capitals s) = upper s := by
  simp only [upper, capitals, String.toList_map, List.flatMap_map, upperChar_toUpper]

theorem map_toLower_capitals (s : String) : (capitals s).map Char.toLower = s.map Char.toLower := by
  rw [← String.toList_inj]
  simp only [capitals, String.toList_map, List.map_map, Function.comp_def, toLower_toUpper]

/-- The list of some words and of what looks like them has all spellings of the words, and nothing
else. -/
def areListed (words lookalikes : List String) : Bool :=
  (words.all fun w => (spellings w.toList).all fun t =>
    (words ++ lookalikes).contains (String.ofList t)) &&
    (words ++ lookalikes).all fun t => words.contains (upper t)

/-- The texts that become one of some words in upper case are those words and what looks like them,
in any letter case of ASCII. -/
theorem upper_mem_iff {words lookalikes : List String} (listed : areListed words lookalikes = true)
    {s : String} : upper s ∈ words ↔ capitals s ∈ words ∨ capitals s ∈ lookalikes := by
  simp only [areListed, Bool.and_eq_true, List.all_eq_true, List.contains_iff_mem] at listed
  obtain ⟨complete, sound⟩ := listed
  rw [← List.mem_append]
  constructor
  · intro known
    obtain ⟨t, spelled, same⟩ := List.mem_map.1 (capitals_mem_spellings (s := s) rfl)
    rw [← same]
    exact complete _ known t spelled
  · intro spelled
    rw [← upper_capitals]
    exact sound _ spelled

end Text

namespace Sqlite.Settings

variable {s : Settings} {m : Modes}

theorem journal?_eq (given : s.modes = some m) :
    s.journal? = journalOf (Text.capitals m.journal) := by
  rw [journal?, given, Option.bind_some, journalOf, journalOf, Text.map_toLower_capitals]

theorem synchronousLevel_eq (given : s.modes = some m) :
    s.synchronousLevel = levelOf (Text.capitals m.synchronous) := by
  rw [synchronousLevel, given, Option.elim_some, levelOf, levelOf, Text.map_toLower_capitals]

end Sqlite.Settings

namespace Config

open Text
open Sqlite (Settings)

/-- What becomes a journal mode in upper case and is none, in capitals: `OFF` with both of its last
letters in one character, and `PERSIST` with other characters for its `S`, its `I` or its `ST`. -/
def journalLookalikes : List String :=
  "O\ufb00" ::
    (["S", "\u017f"].flatMap fun s => ["I", "\u0131"].flatMap fun i =>
      ["ST", "\u017fT", "\ufb05", "\ufb06"].map fun st => "PER" ++ s ++ i ++ st).tail

/-- What becomes a synchronous mode in upper case and is none, in capitals. -/
def synchronousLookalikes : List String := ["O\ufb00"]

/-- The modes are listed with what looks like them, and only what is a mode is understood. -/
theorem modes_listed :
    areListed journalModes journalLookalikes = true ∧
      areListed synchronousModes synchronousLookalikes = true ∧
      (∀ w ∈ journalModes, (Settings.journalOf w).isSome = true ∧ w ∉ journalLookalikes) ∧
      (∀ w ∈ journalLookalikes, Settings.journalOf w = none) ∧
      (∀ w ∈ synchronousModes, Settings.levelOf w = synchronousModes.idxOf w) ∧
      ∀ w ∈ synchronousLookalikes, Settings.levelOf w = synchronousModes.idxOf "NORMAL" := by
  decide +kernel

/-- Of the words that are accepted, SQLite refuses just those that only look like a mode. -/
theorem journalOf_eq_none_iff {s : String} (accepted : upper s ∈ journalModes) :
    Settings.journalOf (capitals s) = none ↔ capitals s ∈ journalLookalikes := by
  obtain ⟨listed, -, known, unknown, -⟩ := modes_listed
  rcases (upper_mem_iff listed).1 accepted with mode | lookalike
  · obtain ⟨found, other⟩ := known _ mode
    simp only [Option.isSome_iff_ne_none.1 found, other]
  · simp only [unknown _ lookalike, lookalike]

/-- A configuration is accepted exactly if each of its modes is one that there is, in any letter case
of ASCII, or looks like one, and its other settings are as they have to be. Connections are then set
up with the words as they were configured. Those that only look like modes are not understood: the
journal mode stays what it is, and the synchronous mode is `NORMAL`. -/
theorem modes_accepted_iff (c : Config) :
    (c.validate = none ↔
        (capitals c.journalMode ∈ journalModes ∨ capitals c.journalMode ∈ journalLookalikes) ∧
          (capitals c.synchronous ∈ synchronousModes ∨
            capitals c.synchronous ∈ synchronousLookalikes) ∧
          c.pruneThreshold ≠ 0 ∧ (c.inMemory = true ∨ isBlank c.database = false)) ∧
      (c.validate = none → ∃ s, Settings.ofConfig c = .ok s ∧
        s.modes = some ⟨c.journalMode, c.synchronous, c.cacheSize⟩ ∧
        (s.journal? = none ↔ capitals c.journalMode ∈ journalLookalikes) ∧
        (capitals c.synchronous ∈ synchronousModes →
          s.synchronousLevel = synchronousModes.idxOf (capitals c.synchronous)) ∧
        (capitals c.synchronous ∈ synchronousLookalikes →
          s.synchronousLevel = synchronousModes.idxOf "NORMAL")) := by
  obtain ⟨journal, synchronous, -, -, level, usual⟩ := modes_listed
  refine ⟨(validate_eq_none_iff c).trans
    (and_congr (upper_mem_iff journal) (and_congr_left' (upper_mem_iff synchronous))),
    fun accepted => ?_⟩
  let s : Settings :=
    ⟨c.target, c.busyTimeout.toNat, some ⟨c.journalMode, c.synchronous, c.cacheSize⟩⟩
  have given : s.modes = some ⟨c.journalMode, c.synchronous, c.cacheSize⟩ := rfl
  have opened : Settings.ofConfig c = .ok s := by rw [Settings.ofConfig, accepted]
  refine ⟨s, opened, given, ?_, fun mode => ?_, fun lookalike => ?_⟩
  · rw [Settings.journal?_eq given]
    exact journalOf_eq_none_iff ((validate_eq_none_iff c).1 accepted).1
  · rw [Settings.synchronousLevel_eq given]
    exact level _ mode
  · rw [Settings.synchronousLevel_eq given]
    exact usual _ lookalike

/-- The settings that a program without arguments has. -/
def usual : Config := ⟨"sqlweave.db", false, "info", 64, 5000, "WAL", "NORMAL", -64000⟩

/-- A journal mode with both of its last letters in one character, and a synchronous mode likewise. -/
def ligated : Config := { usual with journalMode := "o\ufb00", synchronous := "o\ufb00" }

/-- What is accepted with such modes or without, and that they are no modes. -/
theorem validate_usual :
    usual.validate = none ∧ ligated.validate = none ∧
      { usual with journalMode := "o\ufb00" }.validate = none ∧
      { usual with synchronous := "o\ufb00" }.validate = none ∧
      capitals "o\ufb00" ∈ journalLookalikes ∧ capitals "o\ufb00" ∈ synchronousLookalikes ∧
      capitals "o\ufb00" ∉ journalModes ∧ capitals "o\ufb00" ∉ synchronousModes := by
  decide +kernel

/-- They are accepted, and neither mode is `OFF`. -/
theorem modes_accepted_iff_ligated : ligated.validate = none ∧
    ∃ s, Settings.ofConfig ligated = .ok s ∧ s.journal? = none ∧ s.synchronousLevel = 1 := by
  obtain ⟨-, accepted, -, -, lookalike, lookalike', -⟩ := validate_usual
  obtain ⟨s, opened, -, journal, -, synchronous⟩ := (modes_accepted_iff ligated).2 accepted
  exact ⟨accepted, s, opened, journal.2 lookalike, synchronous lookalike'⟩

/-- It is not so that, with other settings that are accepted, a mode is accepted exactly if there is
one of its name in any letter case of ASCII. -/
theorem accepted_ligature :
    (¬ ∀ (c : Config) (mode : String), c.validate = none →
      ({ c with journalMode := mode }.validate = none ↔ capitals mode ∈ journalModes)) ∧
    ¬ ∀ (c : Config) (mode : String), c.validate = none →
      ({ c with synchronous := mode }.validate = none ↔ capitals mode ∈ synchronousModes) := by
  obtain ⟨accepted, -, journal, synchronous, -, -, none, none'⟩ := validate_usual
  constructor <;> intro same
  · exact none ((same usual "o\ufb00" accepted).1 journal)
  · exact none' ((same usual "o\ufb00" accepted).1 synchronous)

end Config

end PooledSql
