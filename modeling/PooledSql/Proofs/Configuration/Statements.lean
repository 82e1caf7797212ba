import PooledSql.Proofs.Configuration.Modes
import PooledSql.Proofs.Rendering.Numerals
import PooledSql.Sqlite.Lexeme

/-!
# Statements that set up a connection

The modes of a configuration are put into the text of the statements that set up its connections, as
they were configured. What is checked about them is something else, namely their upper case. Still,
every character of a mode that is accepted is a letter, since what stands for letters in upper case
is one. So each mode is a single word, and the text has the four statements that it should have,
whatever was configured.

Texts are read from their ends: what a text is read as is known once that is known for the rest.

Results:
* `reads_word`, `reads_amount`: a word and an integer are read as what they are.
* `splitOn_setup`: the statements of the text that sets up connections, if its modes are words.
* `letters_of_upper_mem`: a mode that is accepted has letters only.
* `setup_four_statements`: what is read from the text for a configuration, or how it is refused.
-/

namespace PooledSql

namespace Sqlite

/-! ## Reading a text from its end -/

/-- A unit by its kind and its spelling, wherever it stands. -/
abbrev Shape := LexemeKind × String

/-- The kind and the spelling of a unit. -/
def Lexeme.shape (l : Lexeme) : Shape := (l.kind, String.ofList l.spelling)

/-- A word as a unit. -/
def word (s : String) : Shape := (.word, s)

/-- The text is read as the units. -/
def Reads (s : List Char) (shapes : List Shape) : Prop :=
  ∀ start, (lexemesFrom start s).map Lexeme.shape = shapes

theorem reads_nil : Reads [] [] := by
  intro start
  rw [lexemesFrom, List.map_nil]

section Steps

variable {rest : List Char} {shapes : List Shape}

/-- A unit is read with its kind, and reading goes on behind it. -/
theorem reads_unit (c : Char) (cs : List Char) {kind : LexemeKind} (here : c ≠ endMark)
    (unit : extent (c :: cs ++ rest) = (some kind, (c :: cs).length)) (h : Reads rest shapes) :
    Reads (c :: cs ++ rest) ((kind, String.ofList (c :: cs)) :: shapes) := by
  intro start
  rw [List.cons_append] at unit ⊢
  rw [lexemesFrom, if_neg here, unit]
  simp [Lexeme.shape, h _]

theorem reads_gap {c : Char} {cs : List Char} (here : c ≠ endMark)
    (gap : extent (c :: cs ++ rest) = (none, (c :: cs).length)) (h : Reads rest shapes) :
    Reads (c :: cs ++ rest) shapes := by
  intro start
  rw [List.cons_append] at gap ⊢
  rw [lexemesFrom, if_neg here, gap]
  simp [h _]

/-- A run ends where the text goes on with something else. -/
theorem runLength_append {p : Char → Bool} {s : List Char} (all : ∀ x ∈ s, p x = true)
    (stops : rest.head?.any p = false) : runLength p (s ++ rest) = s.length := by
  have nothing : rest.takeWhile p = [] := by
    cases rest with
    | nil => rfl
    | cons x _ => exact List.takeWhile_cons_of_neg (by simpa using stops)
  rw [runLength, List.takeWhile_append_of_pos all, nothing, List.append_nil]

/-- Blanks up to something else are nothing. -/
theorem reads_blanks (c : Char) (cs : List Char) (separates : isSeparator c = true)
    (blank : ∀ x ∈ cs, isBlank x = true) (stops : rest.head?.any isBlank = false)
    (h : Reads rest shapes) : Reads (c :: cs ++ rest) shapes := by
  refine reads_gap ?_ ?_ h
  · rintro rfl
    exact absurd separates (by decide)
  · rw [List.cons_append, extent]
    simp [separates, runLength_append blank stops, Nat.add_comm]

theorem ne_of_class {p : Char → Bool} {c : Char} (h : p c = true) {others : List Char}
    (none : ∀ x ∈ others, p x = false) : ∀ x ∈ others, c ≠ x := by
  rintro x hx rfl
  simp [none _ hx] at h

/-- A name without quotes. -/
def isWord : List Char → Bool
  | [] => false
  | c :: cs => isNameStart c && c != orderMark && cs.all isNameChar

/-- A word extends up to the first character that cannot be in a name. -/
theorem extent_word {c : Char} {cs : List Char} (start : isNameStart c = true)
    (notMark : c ≠ orderMark) (more : ∀ x ∈ cs, isNameChar x = true)
    (stops : rest.head?.any (fun x => isNameChar x || x == '\'') = false) :
    extent (c :: cs ++ rest) = (some .word, (c :: cs).length) := by
  -- a character that starts a name is none of those that start something else
  have other : ∀ x ∈ [' ', '\t', '\n', '\x0c', '\r', '-', '/', '"', '`', '\'', '['], c ≠ x :=
    ne_of_class start (by simp [isNameStart])
  have separates : isSeparator c = false := by
    simp [isSeparator, other]
  have unquoted : (cs ++ rest).head? ≠ some '\'' := by
    cases cs with
    | nil =>
      intro quote
      rw [List.nil_append] at quote
      simp [quote] at stops
    | cons x _ =>
      intro quote
      cases quote
      exact absurd (more '\'' (by simp)) (by decide)
  have run : runLength isNameChar (cs ++ rest) = cs.length := by
    refine runLength_append more ?_
    cases rest with
    | nil => rfl
    | cons x _ =>
      simp only [List.head?_cons, Option.any_some, Bool.or_eq_false_iff] at stops ⊢
      exact stops.1
  rw [List.cons_append, extent, List.length_cons, ← run]
  generalize cs ++ rest = tail at unquoted
  simp [separates, notMark, other, unquoted, start, Nat.add_comm]

theorem begins_word {s : List Char} (word : isWord s = true) :
    (s ++ rest).head?.any isBlank = false := by
  match s with
  | c :: cs =>
    simp only [isWord, Bool.and_eq_true] at word
    have other : ∀ x ∈ [' ', '\t', '\n', '\x0c', '\r', '\x0b'], c ≠ x :=
      ne_of_class word.1.1 (by simp [isNameStart])
    simp [isBlank, isSeparator, other]

/-- A name without quotes is one word, if the text does not go on with more of it. -/
theorem reads_word {s : String} (plain : isWord s.toList = true)
    (stops : rest.head?.any (fun x => isNameChar x || x == '\'') = false) (h : Reads rest shapes) :
    Reads (s.toList ++ rest) (word s :: shapes) := by
  have spelled : s = String.ofList s.toList := String.ofList_toList.symm
  rw [word, spelled, String.toList_ofList]
  generalize s.toList = letters at plain
  match letters with
  | c :: cs =>
    simp only [isWord, Bool.and_eq_true, bne_iff_ne, List.all_eq_true] at plain
    obtain ⟨⟨start, notMark⟩, more⟩ := plain
    refine reads_unit c cs ?_ (extent_word start notMark more stops) h
    rintro rfl
    exact absurd start (by decide)

/-! ## Integers -/

theorem isNameStart_of_isDigit {c : Char} (digit : c.isDigit = true) : isNameStart c = false := by
  have range : 48 ≤ c.toNat ∧ c.toNat ≤ 57 := Char.isDigit_iff_toNat.1 digit
  have letter : c.isAlpha = false := by
    rw [Bool.eq_false_iff, ne_eq, Text.isAlpha_iff_toNat]
    omega
  have mark : c ≠ '_' := by
    rintro rfl
    exact absurd digit (by decide)
  simp [isNameStart, letter, mark]
  omega

/-- Digits in front of a semicolon are a number, if they are not the digits of another base. -/
theorem numberExtent_of_digits {s : List Char} {n : Nat}
    (run : digitsExtent Char.isDigit s = n) (after : s.drop n = ';' :: rest)
    (usual : ∀ x d more, s = '0' :: x :: d :: more → x ≠ 'x' ∧ x ≠ 'X') : numberExtent s = n := by
  have decimal : exponentExtent (';' :: rest) = 0 := by
    cases rest <;> rfl
  unfold numberExtent
  split
  · rename_i x d more
    obtain ⟨lower, upper⟩ := usual x d more rfl
    simp [run, after, decimal, lower, upper]
  · simp [run, after, decimal]

theorem numberExtent_digits {c : Char} {cs : List Char} (digits : ∀ x ∈ c :: cs, x.isDigit = true) :
    numberExtent (c :: cs ++ ';' :: rest) = (c :: cs).length := by
  have run : digitsExtent Char.isDigit (c :: cs ++ ';' :: rest) = (c :: cs).length :=
    runLength_append (fun x hx => by simp [digits x hx]) rfl
  refine numberExtent_of_digits run List.drop_left fun x d more same => ?_
  have second : x.isDigit = true ∨ x = ';' := by
    cases cs with
    | nil =>
      cases same
      exact .inr rfl
    | cons y _ =>
      simp only [List.cons_append, List.cons.injEq] at same
      rw [← same.2.1]
      exact .inl (digits y (by simp))
  constructor <;> rintro rfl <;> exact absurd second (by decide)

theorem extent_digits {c : Char} {cs : List Char} (digits : ∀ x ∈ c :: cs, x.isDigit = true) :
    extent (c :: cs ++ ';' :: rest) = (some .constant, (c :: cs).length) := by
  have digit := digits c List.mem_cons_self
  have other : ∀ x ∈ [' ', '\t', '\n', '\x0c', '\r', '-', '/', '"', '`', '\'', '[', orderMark],
      c ≠ x :=
    ne_of_class digit (by simp [orderMark])
  have separates : isSeparator c = false := by
    simp [isSeparator, other]
  have letter : isNameStart c = false := isNameStart_of_isDigit digit
  have notX : c ≠ 'x' ∧ c ≠ 'X' := by
    constructor <;> rintro rfl <;> exact absurd digit (by decide)
  have number : numberExtent (c :: cs ++ ';' :: rest) = (c :: cs).length :=
    numberExtent_digits digits
  have surplus : runLength isNameChar ((cs ++ ';' :: rest).drop cs.length) = 0 := by
    rw [List.drop_left]
    rfl
  rw [List.cons_append] at number ⊢
  rw [extent]
  generalize cs ++ ';' :: rest = tail at number surplus
  simp [separates, other, letter, digit, notX, number, surplus]

theorem reads_digits {s : List Char} (some : s ≠ []) (digits : ∀ x ∈ s, x.isDigit = true)
    (h : Reads (';' :: rest) shapes) :
    Reads (s ++ ';' :: rest) ((.constant, String.ofList s) :: shapes) := by
  obtain ⟨c, cs, rfl⟩ := List.exists_cons_of_ne_nil some
  refine reads_unit c cs ?_ (extent_digits digits) h
  rintro rfl
  exact absurd (digits _ List.mem_cons_self) (by decide)

theorem extent_minus {d : Char} (digit : d.isDigit = true) :
    extent ('-' :: d :: rest) = (some .sign, 1) := by
  have minus : d ≠ '-' := by
    rintro rfl
    exact absurd digit (by decide)
  have arrow : '>' ≠ d := by
    rintro rfl
    exact absurd digit (by decide)
  have short : longSigns.find? (fun t => t.toList.isPrefixOf ('-' :: d :: rest)) = none := by
    simp [longSigns, arrow]
  simp [extent, isSeparator, isNameStart, orderMark, minus, short, shortSigns]

end Steps

/-- The units of an integer: its digits, after a minus if it is negative. -/
def amount (n : Int) : List Shape :=
  if n < 0 then [(.sign, "-"), (.constant, toString n.natAbs)] else [(.constant, toString n.natAbs)]

theorem begins_amount {rest : List Char} (n : Int) :
    ((toString n).toList ++ rest).head?.any isBlank = false := by
  rw [Int.toString_eq_repr, Sql.repr_int]
  split
  · rfl
  · obtain ⟨d, ds, split⟩ :=
      List.exists_cons_of_ne_nil (Nat.toDigits_ne_nil (b := 10) (n := n.natAbs))
    have digit : d.isDigit = true := Sql.allDigits_toDigits n.natAbs d (by simp [split])
    have other : ∀ x ∈ [' ', '\t', '\n', '\x0c', '\r', '\x0b'], d ≠ x :=
      ne_of_class digit (by simp)
    simp [split, isBlank, isSeparator, other]

/-- An integer in front of a semicolon is read as one. -/
theorem reads_amount {rest : List Char} {shapes : List Shape} (n : Int)
    (h : Reads (';' :: rest) shapes) :
    Reads ((toString n).toList ++ ';' :: rest) (amount n ++ shapes) := by
  have digits := reads_digits (s := Nat.toDigits 10 n.natAbs) Nat.toDigits_ne_nil
    (Sql.allDigits_toDigits n.natAbs) h
  have spelled : String.ofList (Nat.toDigits 10 n.natAbs) = toString n.natAbs := by
    rw [← String.toList_inj, String.toList_ofList]
    exact (Nat.toList_repr).symm
  rw [spelled] at digits
  rw [Int.toString_eq_repr, Sql.repr_int, amount]
  split
  · obtain ⟨d, ds, split⟩ :=
      List.exists_cons_of_ne_nil (Nat.toDigits_ne_nil (b := 10) (n := n.natAbs))
    rw [split] at digits ⊢
    refine reads_unit '-' [] (by decide) ?_ digits
    exact extent_minus (Sql.allDigits_toDigits n.natAbs d (by simp [split]))
  · exact digits

/-! ## Assignments -/

/-- The unit that ends a statement. -/
def semicolon : Shape := (.sign, ";")

/-- The units of a statement that gives a setting a value. -/
def assignment (name : String) (value : List Shape) : List Shape :=
  word "PRAGMA" :: word name :: (.sign, "=") :: value

/-- What a statement starts with that gives a setting a value. -/
def keyword : List Char := "PRAGMA".toList

/-- The text of a statement that gives a setting a value, given the text from the value on. -/
def assigning (name : String) (rest : List Char) : List Char :=
  keyword ++ ' ' :: (name.toList ++ ' ' :: '=' :: ' ' :: rest)

/-- The text behind a statement, given the next one. -/
def followedBy (next : List Char) : List Char :=
  ';' :: '\n' :: (List.replicate 13 ' ' ++ next)

section Assignments

variable {name mode : String} {rest : List Char} {shapes : List Shape}

theorem begins_assigning : (assigning name rest).head?.any isBlank = false :=
  begins_word (by decide)

/-- An assignment is read as the name, the equals sign and what is read of the value. -/
theorem reads_assigning (plain : isWord name.toList = true)
    (begins : rest.head?.any isBlank = false) (h : Reads rest shapes) :
    Reads (assigning name rest) (assignment name [] ++ shapes) := by
  have blank {s : List Char} {units : List Shape} (begins : s.head?.any isBlank = false)
      (h : Reads s units) : Reads (' ' :: s) units :=
    reads_blanks ' ' [] rfl (by simp) begins h
  have sign : Reads ('=' :: ' ' :: rest) ((.sign, "=") :: shapes) :=
    reads_unit '=' [] (by decide) rfl (blank begins h)
  have named :
      Reads (name.toList ++ ' ' :: '=' :: ' ' :: rest) (word name :: (.sign, "=") :: shapes) :=
    reads_word plain rfl (blank rfl sign)
  exact reads_word (by decide) rfl (blank (begins_word plain) named)

theorem reads_assigning_word (plain : isWord name.toList = true)
    (single : isWord mode.toList = true) (h : Reads (';' :: rest) shapes) :
    Reads (assigning name (mode.toList ++ ';' :: rest)) (assignment name [word mode] ++ shapes) :=
  reads_assigning plain (begins_word single) (reads_word single rfl h)

theorem reads_assigning_amount (plain : isWord name.toList = true) (n : Int)
    (h : Reads (';' :: rest) shapes) :
    Reads (assigning name ((toString n).toList ++ ';' :: rest))
      (assignment name (amount n) ++ shapes) :=
  reads_assigning plain (begins_amount n) (reads_amount n h)

theorem reads_followedBy (begins : rest.head?.any isBlank = false) (h : Reads rest shapes) :
    Reads (followedBy rest) (semicolon :: shapes) := by
  refine reads_unit ';' [] (by decide) (by cases rest <;> rfl) ?_
  refine reads_blanks '\n' (List.replicate 13 ' ') rfl (fun x hx => ?_) begins h
  rw [List.eq_of_mem_replicate hx]
  rfl

end Assignments

/-! ## The text that sets up connections -/

/-- The statement that gives a setting a value. -/
def pragma (name value : String) : String := "PRAGMA " ++ name ++ " = " ++ value

theorem toList_pragma (name value : String) :
    (pragma name value).toList = assigning name value.toList := by
  have lead : "PRAGMA ".toList = keyword ++ [' '] := by decide
  have sign : " = ".toList = [' ', '=', ' '] := by decide
  simp only [pragma, assigning, String.toList_append, lead, sign, List.append_assoc,
    List.cons_append, List.nil_append]

theorem separator_append (next : List Char) :
    ";\n             ".toList ++ next = followedBy next := by
  have gap : ";\n             ".toList = ';' :: '\n' :: List.replicate 13 ' ' := by decide
  exact congrArg (· ++ next) gap

theorem toList_intercalate_four (separator a b c d : String) :
    (separator.intercalate [a, b, c, d]).toList =
      a.toList ++ (separator.toList ++ (b.toList ++ (separator.toList ++
        (c.toList ++ (separator.toList ++ d.toList))))) := by
  simp

theorem assigning_append (name : String) (value rest : List Char) :
    assigning name value ++ rest = assigning name (value ++ rest) := by
  simp only [assigning, List.append_assoc, List.cons_append]

theorem setup_eq {s : Settings} {m : Modes} (given : s.modes = some m) :
    s.setup = ";\n             ".intercalate
      [pragma "journal_mode" m.journal, pragma "synchronous" m.synchronous,
        pragma "cache_size" (toString m.cacheSize.toInt), pragma "temp_store" "MEMORY;"] := by
  have lead : "PRAGMA journal_mode = " = "PRAGMA " ++ "journal_mode" ++ " = " ∧
    "PRAGMA synchronous = " = "PRAGMA " ++ "synchronous" ++ " = " ∧
    "PRAGMA cache_size = " = "PRAGMA " ++ "cache_size" ++ " = " ∧
    "PRAGMA temp_store = MEMORY;" = pragma "temp_store" "MEMORY;" := by decide
  simp only [Settings.setup, given, lead, pragma]

/-- The text of the set-up, as four assignments that follow each other. -/
theorem toList_setup {s : Settings} {m : Modes} (given : s.modes = some m) :
    s.setup.toList =
      assigning "journal_mode" (m.journal.toList ++ followedBy
        (assigning "synchronous" (m.synchronous.toList ++ followedBy
          (assigning "cache_size" ((toString m.cacheSize.toInt).toList ++ followedBy
            (assigning "temp_store" ("MEMORY".toList ++ [';']))))))) := by
  have last : "MEMORY;".toList = "MEMORY".toList ++ [';'] := by decide
  simp only [setup_eq given, toList_intercalate_four, toList_pragma, separator_append,
    assigning_append, last]

/-- The units of the statements of some modes. -/
def statements (m : Modes) : List (List Shape) :=
  [assignment "journal_mode" [word m.journal], assignment "synchronous" [word m.synchronous],
    assignment "cache_size" (amount m.cacheSize.toInt), assignment "temp_store" [word "MEMORY"]]

/-- The text that sets up connections is read as the statements, each with a semicolon behind it, if
the modes are words. -/
theorem reads_setup {s : Settings} {m : Modes} (given : s.modes = some m)
    (journal : isWord m.journal.toList = true) (synchronous : isWord m.synchronous.toList = true) :
    Reads s.setup.toList ([semicolon].intercalate (statements m ++ [[]])) := by
  have last : Reads [';'] [semicolon] := reads_unit ';' [] (by decide) rfl reads_nil
  have units : [semicolon].intercalate (statements m ++ [[]]) =
      assignment "journal_mode" [word m.journal] ++ semicolon ::
        (assignment "synchronous" [word m.synchronous] ++ semicolon ::
          (assignment "cache_size" (amount m.cacheSize.toInt) ++ semicolon ::
            (assignment "temp_store" [word "MEMORY"] ++ [semicolon]))) := by
    simp [statements]
  rw [toList_setup given, units]
  -- from the last statement back to the first
  refine reads_assigning_word (by decide) journal (reads_followedBy begins_assigning ?_)
  refine reads_assigning_word (by decide) synchronous (reads_followedBy begins_assigning ?_)
  refine reads_assigning_amount (by decide) _ (reads_followedBy begins_assigning ?_)
  exact reads_assigning_word (by decide) (by decide) last

/-- No semicolon is within a statement. -/
theorem semicolon_notMem_statements (m : Modes) :
    ∀ units ∈ statements m ++ [[]], semicolon ∉ units := by
  have plain {name : String} {value : List Shape} (h : semicolon ∉ value) :
      semicolon ∉ assignment name value := by
    simp [assignment, semicolon, word] at h ⊢
    exact h
  have amount : semicolon ∉ amount m.cacheSize.toInt := by
    unfold amount
    split <;> simp [semicolon]
  have single (s : String) : semicolon ∉ [word s] := by simp [semicolon, word]
  simp only [statements, List.cons_append, List.nil_append, List.forall_mem_cons]
  exact ⟨plain (single _), plain (single _), plain amount, plain (single _), by simp⟩

/-- The statements of the text that sets up connections, if its modes are words. -/
theorem splitOn_setup {s : Settings} {m : Modes} (given : s.modes = some m)
    (journal : isWord m.journal.toList = true) (synchronous : isWord m.synchronous.toList = true) :
    ((lexemes s.setup).map Lexeme.shape).splitOn semicolon = statements m ++ [[]] := by
  rw [lexemes, reads_setup given journal synchronous 0]
  exact List.splitOn_intercalate _ (semicolon_notMem_statements m) (by simp)

end Sqlite

namespace Config

open Sqlite

/-! ## Modes that are accepted -/

theorem isAlphabetic_of_isAlpha {c : Char} (letter : c.isAlpha = true) :
    Text.isAlphabetic c = true ∧ Text.isBlankChar c = false := by
  have range : 65 ≤ c.toNat ∧ c.toNat ≤ 122 := by
    have ranges := Text.isAlpha_iff_toNat.1 letter
    omega
  constructor
  · rwa [Text.isAlphabetic_ascii c (by omega)]
  · simp [Text.isBlankChar, Text.blankRanges]
    omega

/-- What stands for letters beyond ASCII is a letter and no blank, and the mark of the order of bytes is
none. -/
theorem expansions_isAlphabetic :
    (∀ e ∈ Text.upperExpansions,
      Text.isAlphabetic e.1 = true ∧ Text.isBlankChar e.1 = false) ∧
      Text.isAlphabetic orderMark = false := by
  decide +kernel

/-- What stands for letters in upper case is a letter, and no blank. -/
theorem isAlphabetic_of_upperChar {c : Char} (letters : ∀ a ∈ Text.upperChar c, a.isAlpha = true) :
    Text.isAlphabetic c = true ∧ Text.isBlankChar c = false := by
  rcases Text.upperChar_cases c with plain | ⟨form, stands, -, -⟩
  · refine isAlphabetic_of_isAlpha ?_
    rw [← Text.isAlpha_toUpper]
    exact letters _ (by simp [plain])
  · exact expansions_isAlphabetic.1 _ (Text.mem_standIns.1 stands)

theorem isNameStart_of_isAlphabetic {c : Char} (letter : Text.isAlphabetic c = true) :
    isNameStart c = true ∧ c ≠ orderMark := by
  constructor
  · by_cases ascii : c.toNat < 128
    · rw [Text.isAlphabetic_ascii c ascii] at letter
      simp [isNameStart, letter]
    · simp [isNameStart, Nat.le_of_not_lt ascii]
  · rintro rfl
    rw [expansions_isAlphabetic.2] at letter
    cases letter

theorem isWord_of_isAlphabetic {s : List Char} (some : s ≠ [])
    (letters : ∀ c ∈ s, Text.isAlphabetic c = true) : isWord s = true := by
  match s with
  | c :: cs =>
    have first := isNameStart_of_isAlphabetic (letters c List.mem_cons_self)
    simp only [isWord, first.1, Bool.true_and, Bool.and_eq_true, bne_iff_ne, List.all_eq_true]
    refine ⟨first.2, fun x hx => ?_⟩
    simp [isNameChar, (isNameStart_of_isAlphabetic (letters x (List.mem_cons_of_mem c hx))).1]

/-- What becomes the name of a mode in upper case has letters only, and has one. -/
theorem letters_of_upper_mem {modes : List String} {s : String} (known : Text.upper s ∈ modes)
    (names : (modes.all fun w => w != "" && w.toList.all Char.isAlpha) = true) :
    s ≠ "" ∧ ∀ c ∈ s.toList, Text.isAlphabetic c = true ∧ Text.isBlankChar c = false := by
  have name := List.all_eq_true.1 names _ known
  simp only [Bool.and_eq_true, bne_iff_ne, List.all_eq_true] at name
  obtain ⟨some, letters⟩ := name
  constructor
  · rintro rfl
    exact some rfl
  · intro c hc
    refine isAlphabetic_of_upperChar fun a ha => letters a ?_
    rw [Text.upper, String.toList_ofList]
    exact List.mem_flatMap.2 ⟨c, hc, ha⟩

theorem isWord_of_letters {s : String} (some : s ≠ "")
    (letters : ∀ c ∈ s.toList, Text.isAlphabetic c = true ∧ Text.isBlankChar c = false) :
    isWord s.toList = true :=
  isWord_of_isAlphabetic (by simpa using some) fun c hc => (letters c hc).1

/-- If a configuration is accepted, then what is read from the text that sets up its connections is
four statements: they give each mode the word that was configured, the cache its size, and the place
of temporary tables. Such a word has letters only, and no blanks, within ASCII and beyond. If it is
not accepted, there is no such text, and the same fault is reported. -/
theorem setup_four_statements (c : Config) :
    (∀ fault, c.validate = some fault → Settings.ofConfig c = .error (.config fault)) ∧
      (c.validate = none → ∃ s, Settings.ofConfig c = .ok s ∧
        ((lexemes s.setup).map Lexeme.shape).splitOn semicolon =
          [assignment "journal_mode" [word c.journalMode],
            assignment "synchronous" [word c.synchronous],
            assignment "cache_size" (amount c.cacheSize.toInt),
            assignment "temp_store" [word "MEMORY"], []] ∧
        ∀ mode ∈ [c.journalMode, c.synchronous], mode ≠ "" ∧
          ∀ ch ∈ mode.toList, Text.isAlphabetic ch = true ∧ Text.isBlankChar ch = false) := by
  refine ⟨fun fault found => by rw [Settings.ofConfig, found], fun accepted => ?_⟩
  obtain ⟨journal, synchronous, -⟩ := (validate_eq_none_iff c).1 accepted
  have journal := letters_of_upper_mem journal (by decide)
  have synchronous := letters_of_upper_mem synchronous (by decide)
  let m : Modes := ⟨c.journalMode, c.synchronous, c.cacheSize⟩
  have split := splitOn_setup (s := ⟨c.target, c.busyTimeout.toNat, some m⟩) (m := m) rfl
    (isWord_of_letters journal.1 journal.2) (isWord_of_letters synchronous.1 synchronous.2)
  refine ⟨_, by rw [Settings.ofConfig, accepted], split, ?_⟩
  simp only [List.forall_mem_cons]
  exact ⟨journal, synchronous, by simp⟩

/-- A mode that only looks like one is put into its statement as a word, and one with a second
statement in it is refused. -/
theorem setup_four_statements_ligated :
    (∃ s, Settings.ofConfig ligated = .ok s ∧
      (((lexemes s.setup).map Lexeme.shape).splitOn semicolon).take 3 =
        [[word "PRAGMA", word "journal_mode", (.sign, "="), word "o\ufb00"],
          [word "PRAGMA", word "synchronous", (.sign, "="), word "o\ufb00"],
          [word "PRAGMA", word "cache_size", (.sign, "="), (.sign, "-"), (.constant, "64000")]]) ∧
      Settings.ofConfig { usual with journalMode := "off; drop table t" } =
        .error (.config (.unknownJournalMode "off; drop table t")) := by
  have accepted : ligated.validate = none := validate_usual.2.1
  obtain ⟨s, opened, units, -⟩ := (setup_four_statements ligated).2 accepted
  refine ⟨⟨s, opened, ?_⟩, (setup_four_statements _).1 _ (by decide)⟩
  rw [units]
  decide

end Config

end PooledSql
