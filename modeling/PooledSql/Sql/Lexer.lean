import PooledSql.Error
import PooledSql.Sql.Token
import PooledSql.Text.Blank
import PooledSql.Text.Letter

/-!
# Splitting text into tokens

Blanks and comments separate tokens and stand for nothing. A quoted name or string runs to its
closing quote, a quote written twice being part of it. The dialects differ in what a word runs over
beyond the letters, the digits and `_` of ASCII, in whether comments nest, and in what ends one that
ends with its line.

Results:
* `scan_length`: reading one token or separator always leaves a shorter text.
-/

namespace PooledSql.Sql

/-- A token and the place where it starts. -/
structure Located where
  token : Token
  place : Location
deriving DecidableEq, Repr

/-- A character that a word may start with: beyond ASCII letters only, or everything that one unit
of UTF-16 can hold. -/
def isWordStart (d : Dialect) (c : Char) : Bool :=
  match d with
  | .sqlite =>
    c.isAlpha || c == '_' || (decide (0x7F ≤ c.toNat) && decide (c.toNat ≤ 0xFFFF))
  | .postgres => Text.isAlphabetic c || c == '_'

/-- A character that a word may go on with. -/
def isWordChar (d : Dialect) (c : Char) : Bool :=
  isWordStart d c || c.isDigit || (d == .postgres && c == '$')

/-- A character between tokens. -/
def isSpacing (d : Dialect) (c : Char) : Bool := Text.isBlankChar c && !isWordStart d c

/-- A character that ends a comment of one line. -/
def isLineEnd (d : Dialect) (c : Char) : Bool := c == '\n' || (d == .postgres && c == '\r')

/-- The text after the comment that a text is in, given how many more comments are around that one,
or none if they do not all end. -/
def afterComment (d : Dialect) (around : Nat) : List Char → Option (List Char)
  | [] => none
  | '*' :: '/' :: r =>
    match around with
    | 0 => some r
    | n + 1 => afterComment d n r
  | '/' :: rest@('*' :: r) =>
    if d = .postgres then afterComment d (around + 1) r else afterComment d around rest
  | _ :: r => afterComment d around r

/-- The digits that a text starts with, and the rest. -/
def spanDigits (s : List Char) : List Char × List Char :=
  (s.takeWhile Char.isDigit, s.dropWhile Char.isDigit)

/-- A plus or a minus that a text starts with, and the rest. -/
def spanMark : List Char → List Char × List Char
  | m :: r => if m = '+' ∨ m = '-' then ([m], r) else ([], m :: r)
  | [] => ([], [])

/-- An exponent that a text starts with, and the rest: a letter, maybe a mark, and digits. -/
def spanExponent : List Char → List Char × List Char
  | e :: r =>
    let mark := spanMark r
    let digits := spanDigits mark.2
    if (e == 'e' || e == 'E') && !digits.1.isEmpty then (e :: mark.1 ++ digits.1, digits.2)
    else ([], e :: r)
  | [] => ([], [])

/-- A number that a text starts with, and the rest: digits, maybe a fraction, maybe an exponent. -/
def spanNumber (s : List Char) : List Char × List Char :=
  let (whole, r) := spanDigits s
  let (fraction, r') :=
    match r with
    | '.' :: r' => let (digits, rest) := spanDigits r'; ('.' :: digits, rest)
    | _ => ([], r)
  let (exponent, rest) := spanExponent r'
  (whole ++ fraction ++ exponent, rest)

/-- The signs of two characters. -/
def doubleSigns : List (Char × Char) :=
  [('<', '>'), ('<', '='), ('>', '='), ('!', '='), (':', ':'), ('|', '|')]

/-- Reads the first token or separator of a text that starts with `c`, at the place `place`: the
token, if it is one, and the rest. -/
def scan (d : Dialect) (place : Location) (c : Char) (r : List Char) :
    Except ParseFault (Option Token × List Char) :=
  if isSpacing d c then .ok (none, r)
  else if c = '-' ∧ r.head? = some '-' then .ok (none, r.dropWhile fun x => !isLineEnd d x)
  else if c = '/' ∧ r.head? = some '*' then
    match afterComment d 0 r.tail with
    | some rest => .ok (none, rest)
    | none => .error (.unclosedComment ((c :: r).foldl Location.after place))
  else if c = '"' then
    match Text.Quoted.unquote '"' r with
    | some (s, rest) => .ok (some (.name (String.ofList s)), rest)
    | none => .error (.unclosedName place)
  else if c = '\'' then
    match Text.Quoted.unquote '\'' r with
    | some (s, rest) => .ok (some (.text (String.ofList s)), rest)
    | none => .error (.unterminatedString place)
  else if (c = 'X' ∨ c = 'x') ∧ r.head? = some '\'' then
    match Text.Quoted.unquote '\'' r.tail with
    | some (s, rest) => .ok (some (.bytes (String.ofList s)), rest)
    | none => .error (.unterminatedString place)
  else if isWordStart d c then
    let word := c :: r.takeWhile (isWordChar d)
    .ok (some (.word (String.ofList word)), r.dropWhile (isWordChar d))
  else if c.isDigit then
    let (digits, rest) := spanNumber (c :: r)
    .ok (some (.number (String.ofList digits)), rest)
  else
    match r with
    | c' :: r' =>
      if doubleSigns.contains (c, c') then .ok (some (.sign (String.ofList [c, c'])), r')
      else .ok (some (.sign (String.ofList [c])), r)
    | [] => .ok (some (.sign (String.ofList [c])), [])

/-! ## Every step leaves less to read -/

theorem dropWhile_length_le {α : Type} (p : α → Bool) (s : List α) :
    (s.dropWhile p).length ≤ s.length :=
  (List.dropWhile_sublist p).length_le

theorem afterComment_length {d : Dialect} {around : Nat} {s rest : List Char}
    (h : afterComment d around s = some rest) : rest.length ≤ s.length := by
  fun_induction afterComment d around s with
  | case1 => simp at h
  | case2 r => cases h; simp only [List.length_cons]; omega
  | case3 r n ih => have := ih h; simp only [List.length_cons]; omega
  | case4 | case5 | case6 => rename_i ih; have := ih h; simp only [List.length_cons] at *; omega

theorem spanMark_length (s : List Char) : (spanMark s).2.length ≤ s.length := by
  fun_cases spanMark s <;> simp

theorem spanExponent_length (s : List Char) : (spanExponent s).2.length ≤ s.length := by
  cases s with
  | nil => simp [spanExponent]
  | cons e r =>
    have mark := spanMark_length r
    have digits := dropWhile_length_le Char.isDigit (spanMark r).2
    unfold spanExponent
    dsimp only [spanDigits]
    split
    · simp only [List.length_cons]; omega
    · simp

theorem spanNumber_length {c : Char} (r : List Char) (h : c.isDigit = true) :
    (spanNumber (c :: r)).2.length < (c :: r).length := by
  have first : ((c :: r).dropWhile Char.isDigit).length ≤ r.length := by
    rw [List.dropWhile_cons, if_pos h]
    exact dropWhile_length_le _ r
  simp only [spanNumber, spanDigits]
  generalize (c :: r).dropWhile Char.isDigit = t at first ⊢
  split
  · rename_i r' 
    have := spanExponent_length (r'.dropWhile Char.isDigit)
    have := dropWhile_length_le Char.isDigit r'
    simp only [List.length_cons] at *
    omega
  · have := spanExponent_length t
    simp only [List.length_cons] at *
    omega

theorem scan_length {d : Dialect} {place : Location} {c : Char} {r rest : List Char}
    {t : Option Token} (h : scan d place c r = .ok (t, rest)) : rest.length < (c :: r).length := by
  have tail : r.tail.length ≤ r.length := by simp
  simp only [scan] at h
  repeat' split at h
  all_goals
    first
    | (simp at h; done)
    | (simp only [Except.ok.injEq, Prod.mk.injEq] at h; obtain ⟨-, rfl⟩ := h)
  · simp
  · have := dropWhile_length_le (fun x => !isLineEnd d x) r
    simp only [List.length_cons]; omega
  · rename_i hc
    have := afterComment_length hc
    simp only [List.length_cons]; omega
  · rename_i hq
    have := Text.Quoted.unquote_length hq
    simp only [List.length_cons]; omega
  · rename_i hq
    have := Text.Quoted.unquote_length hq
    simp only [List.length_cons]; omega
  · rename_i hq
    have := Text.Quoted.unquote_length hq
    simp only [List.length_cons]; omega
  · have := dropWhile_length_le (isWordChar d) r
    simp only [List.length_cons]; omega
  · rename_i hd
    exact spanNumber_length r hd
  · simp only [List.length_cons]; omega
  · simp
  · simp

/-! ## Whole texts -/

/-- The tokens of a text that starts at `place`, each with its own place. -/
def lexFrom (d : Dialect) (place : Location) (s : List Char) : Except ParseFault (List Located) :=
  match s with
  | [] => .ok []
  | c :: r =>
    match h : scan d place c r with
    | .error fault => .error fault
    | .ok (token, rest) =>
      have : rest.length ≤ r.length := Nat.le_of_lt_succ (scan_length h)
      let consumed := (c :: r).take ((c :: r).length - rest.length)
      match lexFrom d (consumed.foldl Location.after place) rest with
      | .error fault => .error fault
      | .ok more =>
        match token with
        | some t => .ok (⟨t, place⟩ :: more)
        | none => .ok more
termination_by s.length

/-- The tokens of a text, each with its place. -/
def lex (d : Dialect) (s : String) : Except ParseFault (List Located) := lexFrom d .start s.toList

/-- The tokens of a text. -/
def tokens (d : Dialect) (s : String) : Except ParseFault (List Token) :=
  (lex d s).map fun located => located.map Located.token

end PooledSql.Sql
