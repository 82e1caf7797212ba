import PooledSql.Proofs.Numbers.Reading
import PooledSql.Proofs.Rendering.Lexing

/-!
# Reading literals back

A reader of the literals of both dialects, from the tokens of a text. It recovers every value that has
a literal, and what follows the literal stays to be read. Reals that have none are written as `NULL`
and read as that.

Results:
* `readNumber_int`, `readNumber_real`: numbers are recovered with their kind and their sign.
* `readValue_literal`: the literal of a value is read as the value.
* `readValues_listed`: the members of a list are recovered one by one.
-/

namespace PooledSql

/-- The value that the literal stands for. -/
def Value.stated : Value → Value
  | .real x => if x.isFinite then .real x else .null
  | .null => .null
  | .boolean b => .boolean b
  | .integer n => .integer n
  | .text s => .text s
  | .blob bytes => .blob bytes

namespace Sql

open Number (numberOf readDouble readDouble_digits not_allDigits_literal Layout Decimal)

/-! ## The reader -/

/-- Reads something from the front of some tokens, and leaves the rest. -/
abbrev TokenReader (α : Type) := List Token → Option (α × List Token)

/-- A number with its sign: an integer if it has only digits. -/
def readNumber (negative : Bool) (s : List Char) : Value :=
  if s.all Char.isDigit then
    .integer (Int64.ofInt (if negative then -(numberOf s : Int) else numberOf s))
  else .real (readDouble negative s)

/-- A byte string by its digits. -/
def readBytes (digits : List Char) (rest : List Token) : Option (Value × List Token) :=
  (Text.Hex.decode digits).map fun bytes => (.blob bytes, rest)

/-- Reads a literal of either dialect. -/
def readValue : TokenReader Value
  | .word "NULL" :: rest => some (.null, rest)
  | .word "TRUE" :: rest => some (.boolean true, rest)
  | .word "FALSE" :: rest => some (.boolean false, rest)
  | .sign "-" :: .number s :: rest => some (readNumber true s.toList, rest)
  | .number s :: rest => some (readNumber false s.toList, rest)
  | .text s :: .sign "::" :: .word "bytea" :: rest => readBytes (s.toList.drop 2) rest
  | .text s :: rest => some (.text s, rest)
  | .bytes digits :: rest => readBytes digits.toList rest
  | _ => none

/-- Reads items with a separator in front of each, as many as there are but at most `n`. -/
def readMore {α : Type} (separator : Token) (item : TokenReader α) : Nat → TokenReader (List α)
  | 0, s => some ([], s)
  | n + 1, s =>
    if s.head? = some separator then do
      let (x, s) ← item s.tail
      let (xs, s) ← readMore separator item n s
      some (x :: xs, s)
    else some ([], s)

/-- Reads literals with commas between them. -/
def readValues : TokenReader (List Value) := fun s => do
  let (v, s) ← readValue s
  let (vs, s) ← readMore (.sign ",") readValue s.length s
  some (v :: vs, s)

/-! ## Numbers -/

theorem all_isDigit_iff {s : List Char} : s.all Char.isDigit = true ↔ AllDigits s := List.all_eq_true

/-- An integer is read back from its digits, the least one included. -/
theorem readNumber_int (n : Int64) :
    readNumber (decide (n.toInt < 0)) (Nat.toDigits 10 n.toInt.natAbs) = .integer n := by
  have digits : numberOf (Nat.toDigits 10 n.toInt.natAbs) = n.toInt.natAbs :=
    Nat.ofDigitChars_ten_toDigits
  have whole : (if decide (n.toInt < 0) then -(n.toInt.natAbs : Int) else n.toInt.natAbs) =
      n.toInt := by
    split
    · rename_i negative
      have := of_decide_eq_true negative
      omega
    · rename_i positive
      have := of_decide_eq_false (Bool.eq_false_iff.2 positive)
      omega
  rw [readNumber, if_pos (all_isDigit_iff.2 (allDigits_toDigits _)), digits, whole, Int64.ofInt_toInt]

/-- A real is read back from its shortest decimal. -/
theorem readNumber_real (x : Double) :
    readNumber x.isNegative (Layout.literal.digits (Decimal.ofDouble x)) = .real x := by
  rw [readNumber, if_neg (mt all_isDigit_iff.1 (not_allDigits_literal _)), readDouble_digits]

/-- The tokens of a number are read with its sign. -/
theorem readValue_number (negative : Bool) (digits : List Char) (rest : List Token) :
    readValue (numberTokens negative digits ++ rest) = some (readNumber negative digits, rest) := by
  cases negative <;> simp [numberTokens, readValue]

/-! ## Literals -/

/-- The tokens that stand for a value are read as the value, where no sign of a type follows. -/
theorem readValue_literal (d : Dialect) (v : Value) {rest : List Token}
    (ends : rest.head? ≠ some (.sign "::")) :
    readValue ((Symbol.literal v).tokens d ++ rest) = some (v.stated, rest) := by
  rw [Symbol.tokens]
  cases v with
  | null => rfl
  | boolean b => cases b <;> rfl
  | integer n =>
    rw [literalTokens, readValue_number, readNumber_int]
    rfl
  | real x =>
    rw [literalTokens, Value.stated]
    cases x.isFinite with
    | true => rw [if_pos rfl, if_pos rfl, readValue_number, readNumber_real]
    | false => rfl
  | text s =>
    show readValue (.text s :: rest) = _
    rw [readValue]
    · rfl
    · rintro more rfl
      exact ends rfl
  | blob bytes =>
    have decoded := Text.Hex.decode_encode bytes
    cases d <;> simp [literalTokens, blobTokens, readValue, readBytes, decoded, Value.stated]

/-! ## Lists -/

theorem separated_cons {α : Type} (separator x : List α) (more : List (List α)) :
    separated separator (x :: more) = x ++ more.flatMap (separator ++ ·) := by
  induction more generalizing x with
  | nil => simp [separated]
  | cons y more ih =>
    rw [separated, ih, List.flatMap_cons, List.append_assoc, List.append_assoc]
    exact List.cons_ne_nil y more

theorem intercalate_eq_separated {α : Type} (separator : List α) (parts : List (List α)) :
    separator.intercalate parts = separated separator parts := by
  induction parts with
  | nil => rfl
  | cons part more ih =>
    cases more with
    | nil => simp [List.intercalate, separated]
    | cons next more =>
      rw [separated, ← ih, List.append_assoc]
      · simp [List.intercalate]
      · simp

/-- The tokens of items with a separator between them: the first item, and the others with the
separator in front. -/
theorem tokens_separated {β : Type} {d : Dialect} {separator : Symbol} {t : Token}
    (one : separator.tokens d = [t]) (f : β → List Symbol) (first : β) (more : List β) :
    tokensOfSymbols d (separated [separator] ((first :: more).map f)) =
      tokensOfSymbols d (f first) ++ more.flatMap fun b => t :: tokensOfSymbols d (f b) := by
  have token : tokensOfSymbols d [separator] = [t] := by
    rw [tokensOfSymbols_cons, one, tokensOfSymbols_nil, List.append_nil]
  rw [map_separated tokensOfSymbols_nil tokensOfSymbols_append, token, List.map_map, List.map_cons,
    separated_cons, List.flatMap_map]
  rfl

/-- Items are read one by one if each is read where the separator or the rest follows it. -/
theorem readMore_flatMap {α β : Type} {separator : Token} {item : TokenReader α}
    {f : β → List Token} {g : β → α} {rest : List Token} {parts : List β}
    (follow : List Token → Prop)
    (each : ∀ p ∈ parts, ∀ s, follow s → item (f p ++ s) = some (g p, s))
    (between : ∀ s, follow (separator :: s)) (after : follow rest)
    (ends : rest.head? ≠ some separator) {n : Nat}
    (enough : (parts.flatMap (fun p => separator :: f p) ++ rest).length ≤ n) :
    readMore separator item n (parts.flatMap (fun p => separator :: f p) ++ rest) =
      some (parts.map g, rest) := by
  induction parts generalizing n with
  | nil =>
    cases n with
    | zero => rfl
    | succ n => simp [readMore, ends]
  | cons p more ih =>
    simp only [List.flatMap_cons, List.cons_append, List.length_cons, List.append_assoc,
      List.length_append] at enough
    obtain ⟨n, rfl⟩ : ∃ m, n = m + 1 := ⟨n - 1, by omega⟩
    have onward := ih (fun q h => each q (List.mem_cons_of_mem _ h)) (n := n)
      (by rw [List.length_append]; omega)
    have following : follow (more.flatMap (fun p => separator :: f p) ++ rest) := by
      cases more with
      | nil => exact after
      | cons q more => exact between _
    have first := each p (by simp) _ following
    simp only [List.flatMap_cons, List.cons_append, List.append_assoc, readMore, List.head?_cons,
      if_true, List.tail_cons, first, onward, Option.bind_eq_bind, Option.bind_some, List.map_cons]

/-- The members of a list are recovered one by one, in order and number. -/
theorem readValues_listed (d : Dialect) {members : List Value} (some' : members ≠ [])
    (rest : List Token) :
    readValues (tokensOfSymbols d (Symbols.listed members) ++ .sign ")" :: rest) =
      some (members.map Value.stated, .sign ")" :: rest) := by
  obtain ⟨first, more, rfl⟩ := List.exists_cons_of_ne_nil some'
  have literal (v : Value) : tokensOfSymbols d [.literal v] = (Symbol.literal v).tokens d :=
    List.append_nil _
  have others : readMore (.sign ",") readValue
      (more.flatMap (fun v => .sign "," :: tokensOfSymbols d [.literal v]) ++ .sign ")" :: rest).length
      (more.flatMap (fun v => .sign "," :: tokensOfSymbols d [.literal v]) ++ .sign ")" :: rest) =
        some (more.map Value.stated, .sign ")" :: rest) := by
    refine readMore_flatMap (fun s => s.head? ≠ some (.sign "::")) (fun v _ s follow => ?_)
      (fun s => by simp) (by simp) (by simp) (Nat.le_refl _)
    rw [literal]
    exact readValue_literal d v follow
  have follow : (more.flatMap (fun v => .sign "," :: tokensOfSymbols d [.literal v]) ++
      .sign ")" :: rest).head? ≠ some (.sign "::") := by
    cases more <;> simp
  rw [Symbols.listed, tokens_separated rfl, List.append_assoc, readValues, literal,
    readValue_literal d first follow]
  simp only [Option.bind_eq_bind, Option.bind_some, others, List.map_cons]

end Sql

end PooledSql
