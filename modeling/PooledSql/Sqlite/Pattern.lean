/-!
# Patterns of texts

Two kinds of patterns, over the codes of characters. In the one, `%` stands for any characters and
`_` for one, and the letters of ASCII in either case are the same; in the other, `*` and `?` stand
for these, and brackets for one character out of some.
-/

namespace PooledSql.Sqlite

/-- A part of a pattern. -/
inductive PatternPart
  /-- Any characters. -/
  | rest
  /-- Any one character. -/
  | one
  /-- One character. -/
  | exactly (c : Nat)
  /-- One letter in either case. -/
  | letter (c : Nat)
  /-- One character within some ranges, or in none of them. -/
  | within (negated : Bool) (ranges : List (Nat × Nat))
  /-- No character at all. -/
  | never
deriving DecidableEq, Repr

/-- A pattern. -/
abbrev Pattern := List PatternPart

/-- A letter of ASCII in lower case. -/
def lowerCode (c : Nat) : Nat := if 65 ≤ c ∧ c ≤ 90 then c + 32 else c

/-- A character is one that a part admits. -/
def PatternPart.admits (p : PatternPart) (c : Nat) : Bool :=
  match p with
  | .rest => true
  | .one => true
  | .exactly x => c == x
  | .letter x => lowerCode c == lowerCode x
  | .within negated ranges => negated != ranges.any fun r => r.1 ≤ c && c ≤ r.2
  | .never => false

namespace Pattern

/-- The code of a character. -/
def codeOf (c : Char) : Nat := c.toNat

/-- A pattern admits a text. -/
def admits : Pattern → List Nat → Bool
  | [], s => s.isEmpty
  | .rest :: parts, [] => admits parts []
  | .rest :: parts, c :: s => admits parts (c :: s) || admits (.rest :: parts) s
  | _ :: _, [] => false
  | p :: parts, c :: s => p.admits c && admits parts s
termination_by p s => p.length + s.length

/-- The pattern of a text with `%` and `_`, before which a character may stand that makes the next
one stand for itself. -/
def ofLike (escape : Option Nat) : List Nat → Pattern
  | [] => []
  | [c] => [if escape = some c then .never else ofLikeChar c]
  | c :: d :: rest =>
    if escape = some c then .letter d :: ofLike escape rest
    else ofLikeChar c :: ofLike escape (d :: rest)
where
  /-- The part that a character stands for. -/
  ofLikeChar (c : Nat) : PatternPart :=
    if c = codeOf '%' then .rest else if c = codeOf '_' then .one else .letter c

/-- The ranges that a text in brackets stands for, and what follows the bracket that closes it, if
there is one. A bracket that comes first stands for itself. -/
def brackets (ranges : List (Nat × Nat)) : List Nat → Option (List (Nat × Nat) × List Nat)
  | [] => none
  | [c] => if c = codeOf ']' then some (ranges, []) else none
  | [c, d] =>
    if c = codeOf ']' then some (ranges, [d])
    else if d = codeOf ']' then some ((c, c) :: ranges, [])
    else none
  | c :: d :: e :: rest =>
    if c = codeOf ']' then some (ranges, d :: e :: rest)
    else if d = codeOf '-' ∧ e ≠ codeOf ']' then brackets ((c, e) :: (c, c) :: ranges) rest
    else brackets ((c, c) :: ranges) (d :: e :: rest)

/-- What is in brackets, after the sign that negates it. -/
def bracketed (s : List Nat) : Option (List (Nat × Nat) × List Nat) :=
  match s with
  | c :: rest => if c = codeOf ']' then brackets [(c, c)] rest else brackets [] s
  | [] => none

/-- The pattern of a text with `*`, `?` and brackets. A bracket that is not closed admits nothing.
-/
def ofGlob : Nat → List Nat → Pattern
  | 0, _ => []
  | _, [] => []
  | n + 1, c :: rest =>
    if c = codeOf '*' then .rest :: ofGlob n rest
    else if c = codeOf '?' then .one :: ofGlob n rest
    else if c = codeOf '[' then
      let negated := rest.head? == some (codeOf '^')
      match bracketed (if negated then rest.drop 1 else rest) with
      | some (ranges, rest) => .within negated ranges :: ofGlob n rest
      | none => [.never]
    else .exactly c :: ofGlob n rest

end Pattern

end PooledSql.Sqlite
