import PooledSql.Proofs.Rendering.Literals
import PooledSql.Sql.Buffer

/-!
# Literals found in a text

A literal is recovered from the characters of a text alone, without splitting the text into tokens
first. It takes all of what was written and nothing of what comes after, as long as that does not go on
with what could belong to the literal: a quote would be part of a text, a letter or a digit of a word or
a number, a point of a number, and a colon could start the name of a type.

Results:
* `recoverLiteral_literal`: a literal is read as its value, up to where it ends.
* `recoverMembers_spellMembers`: members of a list are read up to where the list ends.
* `literals_recovered`: what is written for a value, and for a list of values, is recovered.
-/

namespace PooledSql.Sql

open Number (Layout Decimal)

/-! ## The reader -/

/-- Reads something from the front of a text, and leaves the rest. -/
abbrev TextReader (α : Type) := List Char → Option (α × List Char)

/-- What makes a quoted text a byte string in a dialect that has no byte strings of its own. -/
def castMark : List Char := [':', ':', 'b', 'y', 't', 'e', 'a']

/-- What the digits of such a byte string come after. -/
def hexMark : List Char := ['\\', 'x']

/-- Reads digits up to the closing quote as bytes. -/
def recoverHex : TextReader Value := fun s => do
  let (digits, rest) ← Text.Quoted.unquote '\'' s
  let bytes ← Text.Hex.decode digits
  some (.blob bytes, rest)

/-- Reads on after a quote: a text, or a byte string if it is marked as one. -/
def recoverQuoted (d : Dialect) : TextReader Value := fun s => do
  let (content, rest) ← Text.Quoted.unquote '\'' s
  match d, rest.dropPrefix? castMark with
  | .postgres, some rest =>
    let bytes ← Text.Hex.decode (← content.dropPrefix? hexMark)
    some (.blob bytes, rest)
  | _, _ => some (.text (String.ofList content), rest)

/-- Reads a number without its sign. -/
def recoverUnsigned (negative : Bool) : TextReader Value
  | [] => none
  | c :: s =>
    if c.isDigit then some (readNumber negative (spanNumber (c :: s)).1, (spanNumber (c :: s)).2)
    else none

/-- The value that a word stands for. -/
def keyword? : List Char → Option Value
  | ['N', 'U', 'L', 'L'] => some .null
  | ['T', 'R', 'U', 'E'] => some (.boolean true)
  | ['F', 'A', 'L', 'S', 'E'] => some (.boolean false)
  | _ => none

/-- Reads a literal. -/
def recoverLiteral (d : Dialect) : TextReader Value
  | [] => none
  | c :: s =>
    if c = '\'' then recoverQuoted d s
    else if d = .sqlite ∧ c = 'X' ∧ s.head? = some '\'' then recoverHex s.tail
    else if c = '-' then recoverUnsigned true s
    else if c.isDigit then recoverUnsigned false (c :: s)
    else (keyword? (c :: s.takeWhile Char.isAlpha)).map fun v => (v, s.dropWhile Char.isAlpha)

/-! ## Reading leaves less to read -/

theorem recoverHex_length {s rest : List Char} {v : Value} (h : recoverHex s = some (v, rest)) :
    rest.length < s.length := by
  simp only [recoverHex, Option.bind_eq_bind, Option.bind_eq_some_iff, Option.some.injEq,
    Prod.mk.injEq] at h
  obtain ⟨⟨digits, after⟩, quoted, bytes, -, -, rfl⟩ := h
  exact Text.Quoted.unquote_length quoted

theorem recoverQuoted_length {d : Dialect} {s rest : List Char} {v : Value}
    (h : recoverQuoted d s = some (v, rest)) : rest.length < s.length := by
  simp only [recoverQuoted, Option.bind_eq_bind, Option.bind_eq_some_iff] at h
  obtain ⟨⟨content, after⟩, quoted, read⟩ := h
  have shorter := Text.Quoted.unquote_length quoted
  dsimp only at read
  split at read
  · rename_i marked
    obtain ⟨mark, rfl, -⟩ := List.dropPrefix?_eq_some_iff.1 marked
    simp only [Option.bind_eq_some_iff, Option.some.injEq, Prod.mk.injEq] at read
    obtain ⟨digits, -, bytes, -, -, rfl⟩ := read
    rw [List.length_append] at shorter
    omega
  · cases read
    exact shorter

theorem recoverUnsigned_length {negative : Bool} {s rest : List Char} {v : Value}
    (h : recoverUnsigned negative s = some (v, rest)) : rest.length < s.length := by
  cases s with
  | nil => cases h
  | cons c s =>
    rw [recoverUnsigned] at h
    split at h
    · rename_i digit
      cases h
      exact spanNumber_length s digit
    · cases h

/-- Recovering a literal uses up text. -/
theorem recoverLiteral_length {d : Dialect} {s rest : List Char} {v : Value}
    (h : recoverLiteral d s = some (v, rest)) : rest.length < s.length := by
  cases s with
  | nil => cases h
  | cons c s =>
    rw [recoverLiteral] at h
    split at h
    · exact Nat.lt_succ_of_lt (recoverQuoted_length h)
    split at h
    · have shorter := recoverHex_length h
      rw [List.length_tail] at shorter
      exact Nat.lt_succ_of_lt (Nat.lt_of_lt_of_le shorter (Nat.sub_le _ _))
    split at h
    · exact Nat.lt_succ_of_lt (recoverUnsigned_length h)
    split at h
    · exact recoverUnsigned_length h
    · obtain ⟨w, -, same⟩ := Option.map_eq_some_iff.1 h
      cases same
      exact Nat.lt_succ_of_le (dropWhile_length_le _ s)

/-- Reads members of a list, each after a comma and a blank. -/
def recoverMembers (d : Dialect) : TextReader (List Value)
  | ',' :: ' ' :: s =>
    match h : recoverLiteral d s with
    | some (v, rest) =>
      have : rest.length < s.length := recoverLiteral_length h
      (recoverMembers d rest).map fun p => (v :: p.1, p.2)
    | none => none
  | s => some ([], s)
termination_by s => s.length

/-- Reads a list of literals, which is empty if there is none to start with. -/
def recoverList (d : Dialect) : TextReader (List Value) := fun s =>
  match recoverLiteral d s with
  | some (v, rest) => (recoverMembers d rest).map fun p => (v :: p.1, p.2)
  | none => some ([], s)

/-! ## Where a literal ends -/

/-- The text does not go on with what could belong to a literal. -/
def EndsLiteral (rest : List Char) : Prop :=
  ∀ c, rest.head? = some c → c ≠ '\'' ∧ c.isAlphanum = false ∧ c ≠ '.' ∧ c ≠ ':'

namespace EndsLiteral

variable {rest : List Char}

theorem noQuote (ends : EndsLiteral rest) : rest.head? ≠ some '\'' :=
  fun h => (ends _ h).1 rfl

theorem noLetter (ends : EndsLiteral rest) {c : Char} (h : rest.head? = some c) :
    c.isAlpha = false := by
  have other := (ends c h).2.1
  rw [Char.isAlphanum, Bool.or_eq_false_iff] at other
  exact other.1

theorem noDigit (ends : EndsLiteral rest) {c : Char} (h : rest.head? = some c) :
    c.isDigit = false := by
  have other := (ends c h).2.1
  rw [Char.isAlphanum, Bool.or_eq_false_iff] at other
  exact other.2

theorem endsNumber (ends : EndsLiteral rest) : EndsNumber rest := by
  intro c h
  have letter := ends.noLetter h
  refine ⟨ends.noDigit h, (ends c h).2.2.1, ?_, ?_⟩
  · rintro rfl
    cases letter
  · rintro rfl
    cases letter

theorem dropPrefix?_castMark (ends : EndsLiteral rest) : rest.dropPrefix? castMark = none := by
  cases marked : rest.dropPrefix? castMark with
  | none => rfl
  | some after =>
    obtain ⟨mark, rfl, same⟩ := List.dropPrefix?_eq_some_iff.1 marked
    rw [eq_of_beq same] at ends
    exact absurd rfl (ends ':' rfl).2.2.2

end EndsLiteral

theorem endsLiteral_comma (s : List Char) : EndsLiteral (',' :: s) := by
  intro c h
  cases h
  decide

theorem dropPrefix?_append {α : Type} [BEq α] [LawfulBEq α] (mark s : List α) :
    (mark ++ s).dropPrefix? mark = some s :=
  List.dropPrefix?_eq_some_iff.2 ⟨mark, rfl, beq_self_eq_true mark⟩

/-! ## Each kind of literal -/

section

variable {d : Dialect} {rest : List Char}

theorem recoverLiteral_word (ends : EndsLiteral rest) {first : Char} {more : List Char} {v : Value}
    (known : keyword? (first :: more) = some v) (letters : more.all Char.isAlpha = true)
    (starts : first ∈ ['N', 'T', 'F']) :
    recoverLiteral d (first :: more ++ rest) = some (v, rest) := by
  have ended : rest.takeWhile Char.isAlpha = [] ∧ rest.dropWhile Char.isAlpha = rest := by
    cases rest with
    | nil => exact ⟨rfl, rfl⟩
    | cons c r => simp [ends.noLetter rfl]
  have letters := List.all_eq_true.1 letters
  obtain ⟨noQuote, noBytes, noMinus, noDigit⟩ :
      first ≠ '\'' ∧ first ≠ 'X' ∧ first ≠ '-' ∧ first.isDigit = false := by
    simp only [List.mem_cons, List.not_mem_nil, or_false] at starts
    rcases starts with rfl | rfl | rfl <;> decide
  simp [recoverLiteral, noQuote, noBytes, noMinus, noDigit, List.takeWhile_append_of_pos letters,
    List.dropWhile_append_of_pos letters, ended, known]

theorem recoverLiteral_number (ends : EndsLiteral rest) {digits : List Char}
    (shape : IsNumeral digits) (negative : Bool) :
    recoverLiteral d ((if negative then '-' :: digits else digits) ++ rest) =
      some (readNumber negative digits, rest) := by
  have span := spanNumber_append shape ends.endsNumber
  obtain ⟨c, r, rfl, digit⟩ := shape.exists_cons
  have unsigned : recoverUnsigned negative (c :: r ++ rest) =
      some (readNumber negative (c :: r), rest) := by
    rw [List.cons_append, recoverUnsigned, if_pos digit, ← List.cons_append, span]
  cases negative with
  | true => simpa [recoverLiteral] using unsigned
  | false =>
    have noQuote : c ≠ '\'' := by rintro rfl; exact absurd digit (by decide)
    have noBytes : c ≠ 'X' := by rintro rfl; exact absurd digit (by decide)
    have noMinus : c ≠ '-' := by rintro rfl; exact absurd digit (by decide)
    simpa [recoverLiteral, noQuote, noBytes, noMinus, digit] using unsigned

/-- A string is recovered whatever quotes are in it. -/
theorem recoverLiteral_text (ends : EndsLiteral rest) (s : List Char) :
    recoverLiteral d (Text.Quoted.enclose '\'' s ++ rest) =
      some (.text (String.ofList s), rest) := by
  have quoted := Text.Quoted.unquote_doubled '\'' s rest ends.noQuote
  simp [recoverLiteral, Text.Quoted.enclose, recoverQuoted, quoted, ends.dropPrefix?_castMark]

theorem recoverLiteral_bytes (ends : EndsLiteral rest) (bytes : List UInt8) :
    recoverLiteral .sqlite ('X' :: Text.Quoted.enclose '\'' (Text.Hex.encode bytes) ++ rest) =
      some (.blob bytes, rest) := by
  have quoted := Text.Quoted.unquote_doubled '\'' (Text.Hex.encode bytes) rest ends.noQuote
  simp [recoverLiteral, Text.Quoted.enclose, recoverHex, quoted, Text.Hex.decode_encode]

/-- The name of a type is told from what comes after it by its letters. -/
theorem recoverLiteral_cast (bytes : List UInt8) (rest : List Char) :
    recoverLiteral .postgres
        (Text.Quoted.enclose '\'' (hexMark ++ Text.Hex.encode bytes) ++ castMark ++ rest) =
      some (.blob bytes, rest) := by
  have quoted := Text.Quoted.unquote_doubled '\'' (hexMark ++ Text.Hex.encode bytes)
    (castMark ++ rest) (by simp [castMark])
  simp [recoverLiteral, Text.Quoted.enclose, recoverQuoted, quoted, dropPrefix?_append,
    Text.Hex.decode_encode]

end

theorem spell_number (signed : List Char) : spell (Piece.number signed) = signed := by
  unfold Piece.number
  split <;> simp [Piece.sign, Piece.spell, Token.spell]

/-- A literal is read as its value, up to where it ends. -/
theorem recoverLiteral_literal (d : Dialect) (v : Value) {rest : List Char}
    (ends : EndsLiteral rest) :
    recoverLiteral d (spell (Piece.literal d v) ++ rest) = some (v.stated, rest) := by
  have null : recoverLiteral d (['N', 'U', 'L', 'L'] ++ rest) = some (.null, rest) :=
    recoverLiteral_word ends rfl rfl (by simp)
  have yes : recoverLiteral d (['T', 'R', 'U', 'E'] ++ rest) = some (.boolean true, rest) :=
    recoverLiteral_word ends rfl rfl (by simp)
  have no : recoverLiteral d (['F', 'A', 'L', 'S', 'E'] ++ rest) = some (.boolean false, rest) :=
    recoverLiteral_word ends rfl rfl (by simp)
  cases v with
  | null => exact null
  | boolean b =>
    cases b with
    | true => exact yes
    | false => exact no
  | integer n =>
    rw [Piece.literal, spell_number, toString_int, recoverLiteral_number ends (isNumeral_repr _),
      readNumber_int]
    rfl
  | real x =>
    rw [Piece.literal, Value.stated]
    cases x.isFinite with
    | true =>
      have written : Layout.literal.write x =
          if x.isNegative then '-' :: Layout.literal.digits (Decimal.ofDouble x)
          else Layout.literal.digits (Decimal.ofDouble x) := rfl
      rw [if_pos rfl, if_pos rfl, spell_number, written,
        recoverLiteral_number ends (isNumeral_digits _ _), readNumber_real]
    | false => exact null
  | text s =>
    have written : spell (Piece.literal d (.text s)) = Text.Quoted.enclose '\'' s.toList :=
      List.append_nil _
    rw [written, recoverLiteral_text ends, String.ofList_toList]
    rfl
  | blob bytes =>
    cases d with
    | sqlite =>
      have written : spell (Piece.literal .sqlite (.blob bytes)) =
          'X' :: Text.Quoted.enclose '\'' (Text.Hex.encode bytes) := by
        simp [Piece.literal, Piece.spell, Token.spell]
      rw [written, recoverLiteral_bytes ends]
      rfl
    | postgres =>
      have written : spell (Piece.literal .postgres (.blob bytes)) =
          Text.Quoted.enclose '\'' (hexMark ++ Text.Hex.encode bytes) ++ castMark := by
        simp [Piece.literal, Piece.spell, Token.spell, Piece.sign, Piece.word, hexMark, castMark]
      rw [written, recoverLiteral_cast]
      rfl

/-! ## Lists -/

/-- The text does not go on with what could belong to a list: a comma would come before one more member,
and a minus could start the first. -/
structure EndsList (values : List Value) (rest : List Char) : Prop where
  endsLiteral : EndsLiteral rest
  noComma : rest.head? ≠ some ','
  noMinus : values = [] → rest.head? ≠ some '-'

theorem keyword?_of_noLetter {c : Char} (other : c.isAlpha = false) (s : List Char) :
    keyword? (c :: s) = none := by
  unfold keyword?
  split <;> simp_all

/-- Where nothing could belong to a literal, there is none. -/
theorem recoverLiteral_eq_none {d : Dialect} {rest : List Char} (ends : EndsLiteral rest)
    (noMinus : rest.head? ≠ some '-') : recoverLiteral d rest = none := by
  cases rest with
  | nil => rfl
  | cons c s =>
    have noQuote : c ≠ '\'' := (ends c rfl).1
    have minus : c ≠ '-' := by simpa using noMinus
    have letter : c.isAlpha = false := ends.noLetter rfl
    have noBytes : c ≠ 'X' := by rintro rfl; cases letter
    simp [recoverLiteral, noQuote, noBytes, minus, ends.noDigit rfl, keyword?_of_noLetter letter]

theorem recoverMembers_cons {d : Dialect} {s rest : List Char} {v : Value}
    (read : recoverLiteral d s = some (v, rest)) :
    recoverMembers d (',' :: ' ' :: s) = (recoverMembers d rest).map fun p => (v :: p.1, p.2) := by
  rw [recoverMembers]
  split
  · rename_i read'
    rw [read] at read'
    cases read'
    rfl
  · rename_i failed
    rw [read] at failed
    cases failed

theorem recoverMembers_of_noComma {d : Dialect} {s : List Char} (noComma : s.head? ≠ some ',') :
    recoverMembers d s = some ([], s) := by
  rw [recoverMembers]
  rintro more rfl
  exact noComma rfl

/-- Members of a list, each after a comma and a blank. -/
def spellMembers (d : Dialect) (values : List Value) : List Char :=
  values.flatMap fun v => [',', ' '] ++ spell (Piece.literal d v)

theorem EndsLiteral.spellMembers_append {rest : List Char} (ends : EndsLiteral rest) (d : Dialect)
    (values : List Value) : EndsLiteral (spellMembers d values ++ rest) := by
  cases values with
  | nil => exact ends
  | cons v more => exact endsLiteral_comma _

/-- Members of a list are read up to where the list ends: each ends where the next one's comma is. -/
theorem recoverMembers_spellMembers {d : Dialect} {rest : List Char} (ends : EndsLiteral rest)
    (noComma : rest.head? ≠ some ',') (values : List Value) :
    recoverMembers d (spellMembers d values ++ rest) = some (values.map Value.stated, rest) := by
  induction values with
  | nil => exact recoverMembers_of_noComma noComma
  | cons v more ih =>
    have parts : spellMembers d (v :: more) ++ rest =
        ',' :: ' ' :: (spell (Piece.literal d v) ++ (spellMembers d more ++ rest)) := by
      simp [spellMembers]
    have first := recoverLiteral_literal d v (ends.spellMembers_append d more)
    rw [parts, recoverMembers_cons first, ih]
    rfl

theorem spell_valueList (d : Dialect) (values : List Value) :
    spell (valueList d values) =
      separated [',', ' '] (values.map fun v => spell (Piece.literal d v)) := by
  rw [valueList, map_separated spell_nil spell_append, List.map_map]
  rfl

theorem spell_valueList_cons (d : Dialect) (v : Value) (more : List Value) :
    spell (valueList d (v :: more)) = spell (Piece.literal d v) ++ spellMembers d more := by
  rw [spell_valueList, List.map_cons, separated_cons, List.flatMap_map, spellMembers]

/-- A list is recovered with all its members, and reading stops at its end. -/
theorem recoverList_valueList (d : Dialect) {values : List Value} {rest : List Char}
    (ends : EndsList values rest) :
    recoverList d (spell (valueList d values) ++ rest) = some (values.map Value.stated, rest) := by
  cases values with
  | nil =>
    have nothing : recoverLiteral d rest = none :=
      recoverLiteral_eq_none ends.endsLiteral (ends.noMinus rfl)
    show recoverList d rest = _
    rw [recoverList, nothing]
    rfl
  | cons v more =>
    have first := recoverLiteral_literal d v (ends.endsLiteral.spellMembers_append d more)
    have others := recoverMembers_spellMembers (d := d) ends.endsLiteral ends.noComma more
    rw [spell_valueList_cons, List.append_assoc, recoverList, first]
    dsimp only
    rw [others]
    rfl

/-- What a buffer writes for a value is recovered from the characters, exactly up to where it ends,
whatever the value is and in both dialects: any text, any bytes, any integer, both booleans, any finite
real to the bit, and for a real that is not finite the absent value that is written for it. A list of
values is their texts with a comma and a blank between them, and its members are recovered one by one. -/
theorem literals_recovered (b : Buffer) :
    (∀ (v : Value) (rest : List Char), EndsLiteral rest →
        recoverLiteral b.dialect ((b.write (.value v)).1.toList ++ rest) = some (v.stated, rest)) ∧
      ∀ values : List Value,
        spell (valueList b.dialect values) =
            [',', ' '].intercalate (values.map fun v => (b.write (.value v)).1.toList) ∧
          ∀ rest, EndsList values rest →
            recoverList b.dialect (spell (valueList b.dialect values) ++ rest) =
              some (values.map Value.stated, rest) := by
  have written (v : Value) :
      (b.write (.value v)).1.toList = spell (Piece.literal b.dialect v) :=
    String.toList_ofList
  refine ⟨fun v rest ends => ?_, fun values => ⟨?_, fun rest => recoverList_valueList _⟩⟩
  · rw [written]
    exact recoverLiteral_literal _ v ends
  · simp only [written]
    rw [spell_valueList, intercalate_eq_separated]

/-- A text in front of the sign of a type, and a list with a quote, the least integer and no number. -/
theorem literals_recovered_cast :
    EndsLiteral [')'] ∧
      recoverLiteral .postgres ("'\\xcafe'::bytea".toList ++ [')']) =
        some (.blob [0xca, 0xfe], [')']) ∧
      recoverList .postgres ("'it''s', -9223372036854775808, NULL".toList ++ [')']) =
        some ([.text "it's", .integer (-9223372036854775808), .null], [')']) := by
  have ends : EndsLiteral [')'] := by
    intro c h
    cases h
    decide
  have recovered := literals_recovered ⟨.postgres, 0, ""⟩
  have one := recovered.1 (.blob [0xca, 0xfe]) _ ends
  have all := (recovered.2 [.text "it's", .integer (-9223372036854775808),
    .real ⟨0x7FF8000000000000⟩]).2 _ ⟨ends, by decide, by simp⟩
  exact ⟨ends, one, all⟩

end PooledSql.Sql
