import PooledSql.Proofs.Rendering.Numerals
import PooledSql.Proofs.Rendering.Symbols

/-!
# Written text splits into what was written

A piece is self-delimiting where it stands: whatever a name or a text contains, and whatever follows
it, the lexer reads that piece and stops where it ends. So the tokens of a written condition are
those of its pieces, and these are the tokens of its symbols.

Results:
* `lexFrom_spell`: if each piece is read where it stands, the text has the tokens of the pieces.
* `splits_condition`: each piece of a condition is.
* `tokens_spell`: so the text of a condition has the tokens of its symbols.
* `tokens_toSql`: and the text of a predicate those that its tree prescribes.
-/

namespace PooledSql.Sql

/-! ## Reading piece by piece -/

/-- Where the piece stands in front of `rest`, the lexer reads it and stops at the rest. -/
def Scans (d : Dialect) (p : Piece) (rest : List Char) : Prop :=
  ∃ c r, p.spell = c :: r ∧ ∀ place, scan d place c (r ++ rest) = .ok (p.token?, rest)

/-- Where the pieces stand in front of `rest`, the lexer reads them one by one. -/
def Splits (d : Dialect) : List Piece → List Char → Prop
  | [], _ => True
  | p :: more, rest => Scans d p (spell more ++ rest) ∧ Splits d more rest

@[simp]
theorem spell_nil : spell [] = [] := rfl

@[simp]
theorem spell_cons (p : Piece) (more : List Piece) : spell (p :: more) = p.spell ++ spell more :=
  rfl

@[simp]
theorem splits_nil {d : Dialect} {rest : List Char} : Splits d [] rest := trivial

theorem splits_cons {d : Dialect} {p : Piece} {more : List Piece} {rest : List Char} :
    Splits d (p :: more) rest ↔ Scans d p (spell more ++ rest) ∧ Splits d more rest :=
  Iff.rfl

theorem splits_append {d : Dialect} {a b : List Piece} {rest : List Char} :
    Splits d (a ++ b) rest ↔ Splits d a (spell b ++ rest) ∧ Splits d b rest := by
  induction a with
  | nil => simp
  | cons p more ih =>
    rw [List.cons_append, splits_cons, splits_cons, ih, spell_append, List.append_assoc, and_assoc]

theorem lexFrom_cons {d : Dialect} {place : Location} {c : Char} {r rest : List Char}
    {token : Option Token} (h : scan d place c r = .ok (token, rest)) :
    ∃ after, (lexFrom d place (c :: r)).map (·.map Located.token) =
      ((lexFrom d after rest).map (·.map Located.token)).map (token.toList ++ ·) := by
  refine ⟨((c :: r).take ((c :: r).length - rest.length)).foldl Location.after place, ?_⟩
  rw [lexFrom]
  split
  · rename_i failed
    rw [h] at failed
    cases failed
  · rename_i read
    rw [h] at read
    cases read
    dsimp only
    generalize lexFrom d _ rest = onward
    cases onward with
    | error fault => rfl
    | ok more => cases token <;> rfl

/-- If each piece is read where it stands, the text has the tokens of the pieces. -/
theorem lexFrom_spell {d : Dialect} {pieces : List Piece} (h : Splits d pieces [])
    (place : Location) :
    (lexFrom d place (spell pieces)).map (·.map Located.token) = .ok (tokensOf pieces) := by
  induction pieces generalizing place with
  | nil =>
    rw [spell_nil, lexFrom]
    rfl
  | cons p more ih =>
    obtain ⟨⟨c, r, spelled, read⟩, onward⟩ := h
    obtain ⟨after, lexed⟩ := lexFrom_cons (read place)
    rw [List.append_nil] at lexed
    rw [spell_cons, spelled, List.cons_append, lexed, ih onward after, tokensOf, tokensOf,
      List.filterMap_cons]
    cases p.token? <;> rfl

/-! ## Pieces are self-delimiting -/

/-- The text ends, or goes on with a blank, a comma or a closing parenthesis. -/
def Stops : List Char → Prop
  | [] => True
  | c :: _ => c = ' ' ∨ c = ',' ∨ c = ')'

section Pieces

variable {d : Dialect} {rest : List Char}

theorem scans_blank : Scans d .blank rest := by
  refine ⟨' ', [], rfl, fun place => ?_⟩
  have spacing : isSpacing d ' ' = true := by cases d <;> decide
  simp only [scan, spacing, if_true]
  rfl

/-- A quoted name ends at its own quote, whatever is in it, if no other quote follows. -/
theorem scans_name (s : String) (h : rest.head? ≠ some '"') : Scans d (.name s) rest := by
  refine ⟨'"', Text.Quoted.doubled '"' s.toList ++ ['"'], rfl, fun place => ?_⟩
  have spacing : isSpacing d '"' = false := by cases d <;> decide
  have read := Text.Quoted.unquote_doubled '"' s.toList rest h
  simp only [scan, spacing, List.append_assoc, List.singleton_append, read]
  simp [Piece.token?, Piece.name]

theorem scans_text (s : String) (h : rest.head? ≠ some '\'') :
    Scans d (.token (.text s)) rest := by
  refine ⟨'\'', Text.Quoted.doubled '\'' s.toList ++ ['\''], rfl, fun place => ?_⟩
  have spacing : isSpacing d '\'' = false := by cases d <;> decide
  have read := Text.Quoted.unquote_doubled '\'' s.toList rest h
  simp only [scan, spacing, List.append_assoc, List.singleton_append, read]
  simp [Piece.token?]

theorem scans_bytes (s : String) (h : rest.head? ≠ some '\'') :
    Scans d (.token (.bytes s)) rest := by
  refine ⟨'X', Text.Quoted.enclose '\'' s.toList, rfl, fun place => ?_⟩
  have spacing : isSpacing d 'X' = false := by cases d <;> decide
  have read := Text.Quoted.unquote_doubled '\'' s.toList rest h
  simp only [scan, spacing, Text.Quoted.enclose, List.cons_append, List.append_assoc,
    List.head?_cons, List.tail_cons]
  simp [Piece.token?, read]

/-- The signs of one character that are written. -/
def marks : List Char := ['(', ')', ',', '.', '=', '<', '>', '-']

/-- Two characters that are read as one sign, or as the start of a comment. -/
def isJoined (c c' : Char) : Bool := (c == '-' && c' == '-') || doubleSigns.contains (c, c')

theorem scans_mark {c : Char} (mark : c ∈ marks)
    (apart : ∀ c', rest.head? = some c' → isJoined c c' = false) :
    Scans d (.sign (String.ofList [c])) rest := by
  refine ⟨c, [], by simp [Piece.spell, Piece.sign, Token.spell], fun place => ?_⟩
  have plain : isSpacing d c = false ∧ isWordStart d c = false ∧ c.isDigit = false ∧
      c ≠ '/' ∧ c ≠ '"' ∧ c ≠ '\'' ∧ c ≠ 'X' ∧ c ≠ 'x' := by
    simp only [marks, List.mem_cons, List.not_mem_nil, or_false] at mark
    rcases mark with rfl | rfl | rfl | rfl | rfl | rfl | rfl | rfl <;> cases d <;> decide
  obtain ⟨spacing, start, digit, slash, quote, apostrophe, upper, lower⟩ := plain
  have single : ¬ (c = '-' ∧ rest.head? = some '-') := by
    rintro ⟨rfl, next⟩
    exact absurd (apart _ next) (by decide)
  simp only [scan, spacing, start, digit, slash, quote, apostrophe, upper, lower, single,
    List.nil_append, Bool.false_eq_true, if_false, false_and, or_self]
  cases rest with
  | nil => rfl
  | cons c' r =>
    have joined : doubleSigns.contains (c, c') = false := by
      have := apart c' rfl
      simp only [isJoined, Bool.or_eq_false_iff] at this
      exact this.2
    simp only [joined]
    rfl

theorem scans_double {c c' : Char} (double : (c, c') ∈ doubleSigns) :
    Scans d (.sign (String.ofList [c, c'])) rest := by
  refine ⟨c, [c'], by simp [Piece.spell, Piece.sign, Token.spell], fun place => ?_⟩
  have plain : isSpacing d c = false ∧ isWordStart d c = false ∧ c.isDigit = false ∧ c ≠ '-' ∧
      c ≠ '/' ∧ c ≠ '"' ∧ c ≠ '\'' ∧ c ≠ 'X' ∧ c ≠ 'x' := by
    simp only [doubleSigns, List.mem_cons, Prod.mk.injEq, List.not_mem_nil, or_false] at double
    rcases double with ⟨rfl, -⟩ | ⟨rfl, -⟩ | ⟨rfl, -⟩ | ⟨rfl, -⟩ | ⟨rfl, -⟩ | ⟨rfl, -⟩ <;>
      cases d <;> decide
  obtain ⟨spacing, start, digit, dash, slash, quote, apostrophe, upper, lower⟩ := plain
  simp only [scan, spacing, start, digit, dash, slash, quote, apostrophe, upper, lower,
    List.singleton_append, List.contains_iff_mem.2 double, if_true, Bool.false_eq_true, if_false,
    false_and, or_self]
  rfl

/-- A word that the lexer cannot take for anything else: letters of ASCII, the first no `X`. -/
def isPlainWord (w : List Char) : Bool :=
  !w.isEmpty && w.all Char.isAlpha && w.head? != some 'X' && w.head? != some 'x'

theorem isWordStart_of_isAlpha {c : Char} (h : c.isAlpha = true) : isWordStart d c = true := by
  cases d with
  | sqlite => simp [isWordStart, h]
  | postgres =>
    have ascii : c.toNat < 128 := by
      rcases Bool.or_eq_true_iff.1 h with upper | lower
      · have last : c.val ≤ 'Z'.val := (of_decide_eq_true upper).2
        exact Nat.lt_of_le_of_lt (UInt32.le_iff_toNat_le.1 last) (by decide)
      · have last : c.val ≤ 'z'.val := of_decide_eq_true (Bool.and_eq_true_iff.1 lower).2
        exact Nat.lt_of_le_of_lt (UInt32.le_iff_toNat_le.1 last) (by decide)
    simp [isWordStart, Text.isAlphabetic, ascii, h]

/-- A plain word ends where a character follows that no word contains. -/
theorem scans_word {w : String} (plain : isPlainWord w.toList = true)
    (h : ∀ c, rest.head? = some c → isWordChar d c = false) : Scans d (.word w) rest := by
  cases spelled : w.toList with
  | nil => simp [isPlainWord, spelled] at plain
  | cons c r =>
    refine ⟨c, r, spelled, fun place => ?_⟩
    simp only [spelled, isPlainWord, List.isEmpty_cons, Bool.not_false, Bool.true_and,
      List.head?_cons, Bool.and_eq_true, List.all_cons, bne_iff_ne, ne_eq, Option.some.injEq]
      at plain
    obtain ⟨⟨⟨letter, letters⟩, upper⟩, lower⟩ := plain
    have start : isWordStart d c = true := isWordStart_of_isAlpha letter
    have spacing : isSpacing d c = false := by simp [isSpacing, start]
    have dash : c ≠ '-' := by rintro rfl; exact absurd letter (by decide)
    have slash : c ≠ '/' := by rintro rfl; exact absurd letter (by decide)
    have quote : c ≠ '"' := by rintro rfl; exact absurd letter (by decide)
    have apostrophe : c ≠ '\'' := by rintro rfl; exact absurd letter (by decide)
    have inside : ∀ x ∈ r, isWordChar d x = true := by
      intro x hx
      simp [isWordChar, isWordStart_of_isAlpha (List.all_eq_true.1 letters x hx)]
    have after : rest.takeWhile (isWordChar d) = [] ∧ rest.dropWhile (isWordChar d) = rest := by
      cases rest with
      | nil => exact ⟨rfl, rfl⟩
      | cons c' r' => simp [h c' rfl]
    have taken : (r ++ rest).takeWhile (isWordChar d) = r := by
      rw [List.takeWhile_append_of_pos inside, after.1, List.append_nil]
    have left : (r ++ rest).dropWhile (isWordChar d) = rest := by
      rw [List.dropWhile_append_of_pos inside, after.2]
    have token : (Piece.word w).token? = some (.word (String.ofList (c :: r))) := by
      rw [← spelled, String.ofList_toList]
      rfl
    simp only [scan, spacing, start, dash, slash, quote, apostrophe, upper, lower, token, taken,
      left, Bool.false_eq_true, if_true, if_false, false_and, or_self]

theorem scans_number {s : List Char} (shape : IsNumeral s) (ends : EndsNumber rest) :
    Scans d (.token (.number (String.ofList s))) rest := by
  obtain ⟨c, r, rfl, digit⟩ := shape.exists_cons
  refine ⟨c, r, by simp [Piece.spell, Token.spell], fun place => ?_⟩
  have range : 48 ≤ c.toNat ∧ c.toNat ≤ 57 := by
    simp only [Char.isDigit, Bool.and_eq_true, decide_eq_true_eq] at digit
    exact ⟨UInt32.le_iff_toNat_le.1 digit.1, UInt32.le_iff_toNat_le.1 digit.2⟩
  have plain : isSpacing d c = false ∧ isWordStart d c = false ∧ c ≠ '-' ∧ c ≠ '/' ∧ c ≠ '"' ∧
      c ≠ '\'' ∧ c ≠ 'X' ∧ c ≠ 'x' := by
    have figures : ∀ n : Fin 10, let c := Char.ofNat (48 + n)
        isSpacing d c = false ∧ isWordStart d c = false ∧ c ≠ '-' ∧ c ≠ '/' ∧ c ≠ '"' ∧
          c ≠ '\'' ∧ c ≠ 'X' ∧ c ≠ 'x' := by
      cases d <;> decide
    have value : Char.ofNat (48 + (c.toNat - 48)) = c := by
      rw [show 48 + (c.toNat - 48) = c.toNat by omega, Char.ofNat_toNat]
    have found := figures ⟨c.toNat - 48, by omega⟩
    rwa [value] at found
  obtain ⟨spacing, start, dash, slash, quote, apostrophe, upper, lower⟩ := plain
  have read := spanNumber_append shape ends
  rw [List.cons_append] at read
  simp only [scan, spacing, start, dash, slash, quote, apostrophe, upper, lower, digit, read,
    Bool.false_eq_true, if_true, if_false, false_and, or_self]
  rfl

/-! ## Parts of a condition -/

theorem stops_blank : Stops (' ' :: rest) := Or.inl rfl

theorem stops_comma : Stops (',' :: rest) := Or.inr (Or.inl rfl)

theorem stops_close : Stops (')' :: rest) := Or.inr (Or.inr rfl)

theorem Stops.of_head? {P : Char → Prop} (stop : Stops rest) (h : P ' ' ∧ P ',' ∧ P ')') :
    ∀ c, rest.head? = some c → P c := by
  intro c next
  cases rest with
  | nil => cases next
  | cons c' r =>
    cases next
    rcases stop with rfl | rfl | rfl
    · exact h.1
    · exact h.2.1
    · exact h.2.2

theorem Stops.head?_ne {c : Char} (stop : Stops rest) (h : ' ' ≠ c ∧ ',' ≠ c ∧ ')' ≠ c) :
    rest.head? ≠ some c :=
  fun next => stop.of_head? (P := (· ≠ c)) h c next rfl

theorem Stops.endsNumber (stop : Stops rest) : EndsNumber rest := stop.of_head? (by decide)

theorem Stops.endsWord (stop : Stops rest) :
    ∀ c, rest.head? = some c → isWordChar d c = false :=
  stop.of_head? (by cases d <;> decide)

theorem scans_open : Scans d (.sign "(") rest :=
  scans_mark (c := '(') (by decide) fun c' _ => by simp [isJoined, doubleSigns]

theorem scans_close : Scans d (.sign ")") rest :=
  scans_mark (c := ')') (by decide) fun c' _ => by simp [isJoined, doubleSigns]

theorem scans_comma : Scans d (.sign ",") rest :=
  scans_mark (c := ',') (by decide) fun c' _ => by simp [isJoined, doubleSigns]

theorem scans_point : Scans d (.sign ".") rest :=
  scans_mark (c := '.') (by decide) fun c' _ => by simp [isJoined, doubleSigns]

theorem scans_plainWord {w : String} (plain : isPlainWord w.toList = true) (stop : Stops rest) :
    Scans d (.word w) rest :=
  scans_word plain stop.endsWord

theorem splits_words {ws : List String} (plain : ∀ w ∈ ws, isPlainWord w.toList = true) :
    Splits d (words ws) rest := by
  induction ws with
  | nil => exact splits_nil
  | cons w more ih =>
    refine ⟨scans_plainWord (plain w (by simp)) stops_blank, scans_blank, ?_⟩
    exact ih fun w' h => plain w' (List.mem_cons_of_mem _ h)

theorem splits_relation (r : Relation) : Splits d (relationPieces r) rest := by
  refine ⟨scans_blank, ?_, scans_blank, splits_nil⟩
  have apart (c : Char) (h : isJoined c ' ' = false) : ∀ c', (spell [Piece.blank] ++ rest).head? =
      some c' → isJoined c c' = false := by
    rintro c' ⟨⟩
    exact h
  cases r with
  | equal => exact scans_mark (c := '=') (by decide) (apart _ rfl)
  | notEqual => exact scans_double (by decide)
  | less => exact scans_mark (c := '<') (by decide) (apart _ rfl)
  | lessOrEqual => exact scans_double (by decide)
  | greater => exact scans_mark (c := '>') (by decide) (apart _ rfl)
  | greaterOrEqual => exact scans_double (by decide)

theorem splits_reference (table column : String) (h : rest.head? ≠ some '"') :
    Splits d (reference table column) rest :=
  ⟨scans_name table (by simp [Piece.spell, Piece.sign, Token.spell]), scans_point,
    scans_name column h, splits_nil⟩

theorem splits_source (t : Table) (stop : Stops rest) : Splits d (sourcePieces t) rest := by
  have last := stop.head?_ne (c := '"') (by decide)
  unfold sourcePieces
  split
  · exact ⟨scans_name _ (by simp [Piece.spell]), scans_blank,
      scans_plainWord (by decide) stops_blank, scans_blank, scans_name _ last, splits_nil⟩
  · exact ⟨scans_name _ last, splits_nil⟩

theorem splits_unsigned {s : List Char} (shape : IsNumeral s) (stop : Stops rest) :
    Splits d (Piece.number s) rest := by
  obtain ⟨c, r, rfl, digit⟩ := shape.exists_cons
  have minus : c ≠ '-' := by rintro rfl; exact absurd digit (by decide)
  have unsigned : Piece.number (c :: r) = [.token (.number (String.ofList (c :: r)))] := by
    simp [Piece.number, minus]
  rw [unsigned]
  exact ⟨scans_number shape stop.endsNumber, splits_nil⟩

theorem splits_negative {s : List Char} (shape : IsNumeral s) (stop : Stops rest) :
    Splits d (Piece.number ('-' :: s)) rest := by
  refine ⟨scans_mark (c := '-') (by decide) fun c' next => ?_,
    scans_number shape stop.endsNumber, splits_nil⟩
  obtain ⟨c, r, rfl, digit⟩ := shape.exists_cons
  have first : c = c' := by simpa [Piece.spell, Token.spell] using next
  subst first
  have minus : c ≠ '-' := by rintro rfl; exact absurd digit (by decide)
  simp [isJoined, doubleSigns, minus]

/-- Every value is split from what follows it. -/
theorem splits_literal (v : Value) (stop : Stops rest) : Splits d (Piece.literal d v) rest := by
  have last := stop.head?_ne (c := '\'') (by decide)
  cases v with
  | null => exact ⟨scans_plainWord (by decide) stop, splits_nil⟩
  | boolean b =>
    cases b with
    | true => exact ⟨scans_plainWord (by decide) stop, splits_nil⟩
    | false => exact ⟨scans_plainWord (by decide) stop, splits_nil⟩
  | integer n =>
    simp only [Piece.literal, Int.toString_eq_repr, repr_int]
    split
    · exact splits_negative (isNumeral_repr _) stop
    · exact splits_unsigned (isNumeral_repr _) stop
  | real x =>
    simp only [Piece.literal, Number.Layout.write]
    split
    · split
      · exact splits_negative (isNumeral_digits _ _) stop
      · exact splits_unsigned (isNumeral_digits _ _) stop
    · exact ⟨scans_plainWord (by decide) stop, splits_nil⟩
  | text s => exact ⟨scans_text s last, splits_nil⟩
  | blob bytes =>
    cases d with
    | sqlite => exact ⟨scans_bytes _ last, splits_nil⟩
    | postgres =>
      refine ⟨scans_text _ ?_, scans_double (by decide), scans_plainWord (by decide) stop,
        splits_nil⟩
      simp [Piece.spell, Piece.sign, Token.spell]

/-- Parts with a separator are split apart if the separator can follow any of them. -/
theorem splits_separated {separator : List Piece} {parts : List (List Piece)}
    (starts : ∀ x, Stops (spell separator ++ x)) (reads : ∀ x, Splits d separator x)
    (each : ∀ part ∈ parts, ∀ x, Stops x → Splits d part x) (stop : Stops rest) :
    Splits d (separated separator parts) rest := by
  induction parts with
  | nil => exact splits_nil
  | cons part more ih =>
    cases more with
    | nil => exact each part (by simp) rest stop
    | cons next more =>
      rw [separated, splits_append, splits_append]
      · refine ⟨⟨each part (by simp) _ (starts _), reads _⟩, ?_⟩
        exact ih fun p h => each p (List.mem_cons_of_mem _ h)
      · simp

theorem splits_valueList (members : List Value) (stop : Stops rest) :
    Splits d (valueList d members) rest := by
  refine splits_separated (fun _ => stops_comma) (fun _ => ⟨scans_comma, scans_blank, splits_nil⟩)
    (fun part hp x hx => ?_) stop
  obtain ⟨v, -, rfl⟩ := List.mem_map.1 hp
  exact splits_literal v hx

theorem splits_connective {w : String} (plain : isPlainWord w.toList = true) :
    Splits d (connective w) rest :=
  ⟨scans_blank, splits_words (by simpa using plain)⟩

theorem splits_parenthesized {x : List Piece} (h : Splits d x (')' :: rest)) :
    Splits d (parenthesized x) rest := by
  refine ⟨scans_open, splits_append.2 ⟨h, scans_close, splits_nil⟩⟩

theorem splits_maybeNot {negated : Bool} {w : String} (plain : isPlainWord w.toList = true) :
    Splits d (maybeNot negated w) rest := by
  unfold maybeNot
  cases negated with
  | true => exact splits_words (by simp [plain]; decide)
  | false => exact splits_words (by simpa using plain)

theorem splits_membership (negated : Bool) : Splits d (membershipPieces negated) rest :=
  ⟨scans_blank, splits_append.2 ⟨splits_maybeNot (by decide), scans_open, splits_nil⟩⟩

theorem splits_existence (negated : Bool) : Splits d (existencePieces negated) rest := by
  have one : IsNumeral ['1'] := isNumeral_of_allDigits (by simp) (by simp [AllDigits])
  simp only [existencePieces, splits_append, splits_cons]
  exact ⟨⟨⟨⟨⟨splits_maybeNot (by decide), scans_open, splits_nil⟩, splits_words (by decide)⟩,
    splits_unsigned one stops_blank⟩, scans_blank, splits_words (by decide)⟩, scans_open,
    splits_nil⟩

theorem splits_label (label : String) : Splits d (labelPieces label) rest := by
  simp only [labelPieces, List.cons_append, splits_append, splits_cons]
  exact ⟨scans_close, scans_blank, splits_words (by decide),
    scans_name _ (by simp [Piece.spell]), scans_blank, splits_words (by decide)⟩

theorem splits_from (label : String) (source : Table) (stop : Stops rest) :
    Splits d (fromPieces label source) rest := by
  simp only [fromPieces, List.cons_append, splits_append, splits_cons]
  exact ⟨scans_blank, ⟨splits_words (by decide), scans_name _ (by simp [Piece.spell]), scans_blank,
    splits_words (by decide)⟩, splits_source source stop⟩

end Pieces

/-! ## Conditions -/

section Conditions

variable {d : Dialect}

theorem splits_operand {o : Operand} (readable : o.isReadable = true) {rest : List Char}
    (stop : Stops rest) : Splits d (o.pieces d) rest := by
  have last := stop.head?_ne (c := '"') (by decide)
  cases o with
  | column c => exact splits_reference c.table c.name last
  | member label => exact splits_reference label valueAlias last
  | literal v => exact splits_literal v stop
  | subquery q => simp [Operand.isReadable] at readable
  | verbatim text => simp [Operand.isReadable] at readable

theorem pieces_quantified (relation : Relation) (quantifier : Quantifier) (lhs : Operand)
    (members : Subquery) :
    (Condition.quantified relation quantifier lhs members).pieces d =
      lhs.pieces d ++ relationPieces relation ++ words [Symbols.quantifierWord quantifier] ++
        parenthesized (members.pieces d) := by
  cases quantifier <;> simp only [Condition.pieces] <;> rfl

/-- Wherever it may stand, each of the pieces is read. -/
def SplitsAlways (d : Dialect) (pieces : List Piece) : Prop :=
  ∀ rest, Stops rest → Splits d pieces rest

mutual

/-- Each piece of a condition is read where it stands. -/
theorem splits_condition : (c : Condition) → c.isReadable = true → SplitsAlways d (c.pieces d)
  | .compare relation lhs rhs, readable, rest, stop => by
    simp only [Condition.isReadable, Bool.and_eq_true] at readable
    rw [Condition.pieces, splits_append, splits_append]
    exact ⟨⟨splits_operand readable.1 stops_blank, splits_relation relation⟩,
      splits_operand readable.2 stop⟩
  | .inValues negated lhs members, readable, rest, stop => by
    simp only [Condition.isReadable, Bool.and_eq_true] at readable
    rw [Condition.pieces, splits_append, splits_append, splits_append]
    exact ⟨⟨⟨splits_operand readable.1 stops_blank, splits_membership negated⟩,
      splits_valueList members stops_close⟩, scans_close, splits_nil⟩
  | .inQuery negated lhs members, readable, rest, stop => by
    simp only [Condition.isReadable, Bool.and_eq_true] at readable
    rw [Condition.pieces, splits_append, splits_append, splits_append]
    exact ⟨⟨⟨splits_operand readable.1 stops_blank, splits_membership negated⟩,
      splits_subquery members readable.2 _ stops_close⟩, scans_close, splits_nil⟩
  | .quantified relation quantifier lhs members, readable, rest, stop => by
    simp only [Condition.isReadable, Bool.and_eq_true] at readable
    have word : isPlainWord (Symbols.quantifierWord quantifier).toList = true := by
      cases quantifier <;> decide
    rw [pieces_quantified, splits_append, splits_append, splits_append]
    exact ⟨⟨⟨splits_operand readable.1 stops_blank, splits_relation relation⟩,
      splits_words (by simpa using word)⟩,
      splits_parenthesized (splits_subquery members readable.2 _ stops_close)⟩
  | .existing negated members label filter, readable, rest, stop => by
    simp only [Condition.isReadable, Bool.and_eq_true] at readable
    rw [Condition.pieces, splits_append, splits_append, splits_append, splits_append]
    exact ⟨⟨⟨⟨splits_existence negated, splits_subquery members readable.1 _ stops_close⟩,
      splits_label label⟩, splits_condition filter readable.2 _ stops_close⟩, scans_close,
      splits_nil⟩
  | .notTrue part, readable, rest, stop => by
    rw [Condition.isReadable] at readable
    rw [Condition.pieces, splits_append, splits_append]
    exact ⟨⟨splits_parenthesized (splits_condition part readable _ stops_close), scans_blank,
      splits_words (by decide)⟩, scans_plainWord (by decide) stop, splits_nil⟩
  | .any parts, readable, rest, stop => by
    simp only [Condition.isReadable, Bool.and_eq_true] at readable
    rw [Condition.pieces]
    exact splits_parenthesized (splits_separated (fun _ => stops_blank)
      (fun _ => splits_connective (by decide)) (splits_list parts readable.2) stops_close)
  | .all parts, readable, rest, stop => by
    simp only [Condition.isReadable, Bool.and_eq_true] at readable
    rw [Condition.pieces]
    exact splits_parenthesized (splits_separated (fun _ => stops_blank)
      (fun _ => splits_connective (by decide)) (splits_list parts readable.2) stops_close)
  | .verbatim _, readable, _, _ => by simp [Condition.isReadable] at readable

theorem splits_list : (parts : List Condition) → Condition.listIsReadable parts = true →
    ∀ part ∈ Condition.listPieces d parts, SplitsAlways d part
  | [], _ => by simp [Condition.listPieces]
  | c :: rest, readable => by
    simp only [Condition.listIsReadable, Bool.and_eq_true] at readable
    rw [Condition.listPieces]
    intro part hp
    rcases List.mem_cons.1 hp with rfl | hp
    · exact splits_condition c readable.1
    · exact splits_list rest readable.2 part hp

theorem splits_where : (filter : Option Condition) → Condition.optionIsReadable filter = true →
    SplitsAlways d (Condition.wherePieces d filter)
  | none, _, rest, _ => by
    rw [Condition.wherePieces]
    exact splits_nil
  | some c, readable, rest, stop => by
    rw [Condition.optionIsReadable] at readable
    rw [Condition.wherePieces, splits_append]
    exact ⟨splits_connective (by decide), splits_condition c readable rest stop⟩

theorem splits_subquery : (q : Subquery) → q.isReadable = true → SplitsAlways d (q.pieces d)
  | .select value label source filter, readable, rest, stop => by
    simp only [Subquery.isReadable, Bool.and_eq_true] at readable
    rw [Subquery.pieces, splits_append, splits_append, splits_append]
    refine ⟨⟨⟨splits_words (by decide), splits_operand readable.1 stops_blank⟩,
      splits_from label source ?_⟩, splits_where filter readable.2 rest stop⟩
    cases filter with
    | none => exact stop
    | some c => exact stops_blank
  | .verbatim _, readable, _, _ => by simp [Subquery.isReadable] at readable

end

end Conditions

/-! ## The tokens are those of the symbols -/

section Tokens

variable {d : Dialect}

@[simp]
theorem tokensOf_nil : tokensOf [] = [] := rfl

@[simp]
theorem tokensOf_append (a b : List Piece) : tokensOf (a ++ b) = tokensOf a ++ tokensOf b :=
  List.filterMap_append

@[simp]
theorem tokensOf_blank (more : List Piece) : tokensOf (.blank :: more) = tokensOf more := rfl

@[simp]
theorem tokensOf_word (w : String) (more : List Piece) :
    tokensOf (.word w :: more) = .word w :: tokensOf more := rfl

@[simp]
theorem tokensOf_sign (s : String) (more : List Piece) :
    tokensOf (.sign s :: more) = .sign s :: tokensOf more := rfl

@[simp]
theorem tokensOf_name (s : String) (more : List Piece) :
    tokensOf (.name s :: more) = .name s :: tokensOf more := rfl

@[simp]
theorem tokensOfSymbols_nil : tokensOfSymbols d [] = [] := rfl

@[simp]
theorem tokensOfSymbols_cons (x : Symbol) (more : List Symbol) :
    tokensOfSymbols d (x :: more) = x.tokens d ++ tokensOfSymbols d more := rfl

@[simp]
theorem tokensOfSymbols_append (a b : List Symbol) :
    tokensOfSymbols d (a ++ b) = tokensOfSymbols d a ++ tokensOfSymbols d b :=
  List.flatMap_append

theorem map_separated {α β : Type} {f : List α → List β} (nil : f [] = [])
    (append : ∀ a b, f (a ++ b) = f a ++ f b) (separator : List α) (parts : List (List α)) :
    f (separated separator parts) = separated (f separator) (parts.map f) := by
  induction parts with
  | nil => exact nil
  | cons part more ih =>
    cases more with
    | nil => rfl
    | cons next more =>
      rw [separated, append, append, ih]
      · rfl
      · simp

theorem tokensOf_words (ws : List String) : tokensOf (words ws) = ws.map Token.word := by
  induction ws with
  | nil => rfl
  | cons w more ih => exact congrArg (Token.word w :: ·) ih

theorem relationSign_eq (relation : Relation) : Symbols.relationSign relation = relation.sign := by
  cases relation <;> rfl

theorem tokensOf_number {digits : List Char} (shape : IsNumeral digits) (negative : Bool) :
    tokensOf (Piece.number (if negative then '-' :: digits else digits)) =
      numberTokens negative digits := by
  cases negative with
  | true => rfl
  | false =>
    obtain ⟨c, r, rfl, digit⟩ := shape.exists_cons
    have minus : c ≠ '-' := by rintro rfl; exact absurd digit (by decide)
    simp [Piece.number, numberTokens, minus, tokensOf, Piece.token?]

/-- A literal is written with the tokens that stand for its value. -/
theorem tokensOf_literal (v : Value) : tokensOf (Piece.literal d v) = literalTokens d v := by
  cases v with
  | null => rfl
  | boolean b => rfl
  | integer n => rw [Piece.literal, toString_int, tokensOf_number (isNumeral_repr _), literalTokens]
  | real x =>
    rw [Piece.literal, literalTokens]
    split
    · rw [Number.Layout.write, tokensOf_number (isNumeral_digits _ _)]
    · rfl
  | text s => rfl
  | blob bytes => cases d <;> rfl

theorem tokensOf_connective (w : String) : tokensOf (connective w) = [.word w] := rfl

theorem tokensOf_parenthesized {x : List Piece} {y : List Symbol}
    (h : tokensOf x = tokensOfSymbols d y) :
    tokensOf (parenthesized x) = tokensOfSymbols d (Symbols.enclosed y) := by
  simp [parenthesized, Symbols.enclosed, Symbol.tokens, h]

theorem tokensOf_maybeNot (negated : Bool) (w : String) :
    tokensOf (maybeNot negated w) = tokensOfSymbols d (Symbols.maybeNot negated w) := by
  cases negated <;> rfl

theorem tokensOf_valueList (members : List Value) :
    tokensOf (valueList d members) = tokensOfSymbols d (Symbols.listed members) := by
  rw [valueList, Symbols.listed, map_separated tokensOf_nil tokensOf_append,
    map_separated tokensOfSymbols_nil tokensOfSymbols_append, List.map_map, List.map_map]
  simp [Symbol.tokens, tokensOf_literal, Function.comp_def]

theorem tokensOf_source (t : Table) :
    tokensOf (sourcePieces t) = tokensOfSymbols d [Symbol.source t] := by
  unfold sourcePieces
  split <;> simp_all [Symbol.tokens]

theorem tokensOf_existence (negated : Bool) :
    tokensOf (existencePieces negated) =
      tokensOfSymbols d (Symbols.maybeNot negated "EXISTS" ++
        [.sign "(", .word "SELECT", .literal (.integer 1), .word "FROM", .sign "("]) := by
  cases negated <;> rfl

theorem tokensOf_label (label : String) :
    tokensOf (labelPieces label) = [.sign ")", .word "AS", .name label, .word "WHERE"] := rfl

theorem tokensOf_operand {o : Operand} (readable : o.isReadable = true) :
    tokensOf (o.pieces d) = tokensOfSymbols d o.symbols := by
  cases o with
  | column c => simp [Operand.pieces, Operand.symbols, reference, Symbol.tokens]
  | member label => simp [Operand.pieces, Operand.symbols, reference, Symbol.tokens]
  | literal v => simp [Operand.pieces, Operand.symbols, Symbol.tokens, tokensOf_literal]
  | subquery q => simp [Operand.isReadable] at readable
  | verbatim text => simp [Operand.isReadable] at readable

mutual

/-- The tokens of a condition's pieces are those of its symbols. -/
theorem tokensOf_condition : (c : Condition) → c.isReadable = true →
    tokensOf (c.pieces d) = tokensOfSymbols d c.symbols
  | .compare relation lhs rhs, readable => by
    simp only [Condition.isReadable, Bool.and_eq_true] at readable
    simp [Condition.pieces, Condition.symbols, Symbols.compared, relationPieces, Symbol.tokens,
      relationSign_eq, tokensOf_operand readable.1, tokensOf_operand readable.2]
  | .inValues negated lhs members, readable => by
    simp only [Condition.isReadable, Bool.and_eq_true] at readable
    simp [Condition.pieces, Condition.symbols, Symbols.membership, membershipPieces,
      Symbols.enclosed, Symbol.tokens, tokensOf_operand readable.1,
      tokensOf_maybeNot (d := d) negated, tokensOf_valueList]
  | .inQuery negated lhs members, readable => by
    simp only [Condition.isReadable, Bool.and_eq_true] at readable
    simp [Condition.pieces, Condition.symbols, Symbols.membership, membershipPieces,
      Symbols.enclosed, Symbol.tokens, tokensOf_operand readable.1,
      tokensOf_maybeNot (d := d) negated, tokensOf_subquery members readable.2]
  | .quantified relation quantifier lhs members, readable => by
    simp only [Condition.isReadable, Bool.and_eq_true] at readable
    have enclosed := tokensOf_parenthesized (tokensOf_subquery members readable.2)
    simp [pieces_quantified, Condition.symbols, Symbols.quantified, Symbols.compared,
      relationPieces, Symbol.tokens, relationSign_eq, tokensOf_words, tokensOf_operand readable.1,
      enclosed]
  | .existing negated members label filter, readable => by
    simp only [Condition.isReadable, Bool.and_eq_true] at readable
    simp [Condition.pieces, Condition.symbols, Symbols.existing, Symbols.enclosed, Symbol.tokens,
      tokensOf_existence (d := d) negated, tokensOf_label, tokensOf_subquery members readable.1,
      tokensOf_condition filter readable.2]
  | .notTrue part, readable => by
    rw [Condition.isReadable] at readable
    have enclosed := tokensOf_parenthesized (tokensOf_condition part readable)
    simp [Condition.pieces, Condition.symbols, Symbols.notTrue, enclosed, tokensOf_words,
      Symbol.tokens]
  | .any parts, readable => by
    simp only [Condition.isReadable, Bool.and_eq_true] at readable
    rw [Condition.pieces, Condition.symbols]
    exact tokensOf_parenthesized (tokensOf_chain .some parts readable.2)
  | .all parts, readable => by
    simp only [Condition.isReadable, Bool.and_eq_true] at readable
    rw [Condition.pieces, Condition.symbols]
    exact tokensOf_parenthesized (tokensOf_chain .all parts readable.2)
  | .verbatim _, readable => by simp [Condition.isReadable] at readable

theorem tokensOf_chain (quantifier : Quantifier) : (parts : List Condition) →
    Condition.listIsReadable parts = true →
    tokensOf (separated (connective (Symbols.connectiveWord quantifier))
        (Condition.listPieces d parts)) =
      tokensOfSymbols d (separated [.word (Symbols.connectiveWord quantifier)]
        (Condition.listSymbols parts))
  | [], _ => by
    rw [Condition.listPieces, Condition.listSymbols]
    rfl
  | [c], readable => by
    simp only [Condition.listIsReadable, Bool.and_eq_true] at readable
    simp only [Condition.listPieces, Condition.listSymbols, separated]
    exact tokensOf_condition c readable.1
  | c :: next :: rest, readable => by
    rw [Condition.listIsReadable, Bool.and_eq_true] at readable
    have onward := tokensOf_chain quantifier (next :: rest) readable.2
    simp only [Condition.listPieces, Condition.listSymbols] at onward ⊢
    simp [separated, tokensOf_connective, onward, tokensOf_condition c readable.1, Symbol.tokens]

theorem tokensOf_subquery : (q : Subquery) → q.isReadable = true →
    tokensOf (q.pieces d) = tokensOfSymbols d q.symbols
  | .select value label source none, readable => by
    simp only [Subquery.isReadable, Bool.and_eq_true] at readable
    simp [Subquery.pieces, Subquery.symbols, Symbols.selection, fromPieces, Condition.wherePieces,
      Condition.optionSymbols, Symbol.tokens, tokensOf_words, tokensOf_operand readable.1,
      tokensOf_source (d := d)]
  | .select value label source (some c), readable => by
    simp only [Subquery.isReadable, Condition.optionIsReadable, Bool.and_eq_true] at readable
    simp [Subquery.pieces, Subquery.symbols, Symbols.selection, fromPieces, Condition.wherePieces,
      Condition.optionSymbols, tokensOf_connective, Symbol.tokens, tokensOf_words,
      tokensOf_operand readable.1, tokensOf_source (d := d), tokensOf_condition c readable.2]
  | .verbatim _, readable => by simp [Subquery.isReadable] at readable

end

/-- The text of a condition has the tokens of its symbols. -/
theorem tokens_spell {c : Condition} (readable : c.isReadable = true) :
    tokens d (String.ofList (spell (c.pieces d))) = .ok (tokensOfSymbols d c.symbols) := by
  rw [tokens, lex, String.toList_ofList, lexFrom_spell (splits_condition c readable [] trivial),
    tokensOf_condition c readable]

/-- The text of a predicate has the tokens that the tree prescribes. -/
theorem tokens_toSql {p : Predicate} (own : p.isOwn = true) :
    tokens d (toSql d p) = .ok (tokensOfSymbols d (symbols d p)) := by
  rw [toSql, tokens_spell (readable_encode d own), symbols_encode d own]

end Tokens

end PooledSql.Sql
