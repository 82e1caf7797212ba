import PooledSql.Number.Power

/-!
# Reading bytes as text

Stored text is meant to be UTF-8, but nothing checks it on the way in. Reading repairs it: every
well-formed sequence becomes its character, and every longest stretch that starts a sequence and
cannot be continued (a single byte where none starts) becomes one U+FFFD.
-/

namespace PooledSql.Text.Utf8

/-- How many bytes a text takes. -/
def byteCount : List Char → Nat
  | [] => 0
  | c :: rest => c.utf8Size + byteCount rest

/-- A text without its first bytes, unless they are too many or end within a character. -/
def dropBytes? : Nat → List Char → Option (List Char)
  | 0, s => some s
  | _ + 1, [] => none
  | n + 1, c :: rest => if c.utf8Size ≤ n + 1 then dropBytes? (n + 1 - c.utf8Size) rest else none

/-- The first bytes of a text, unless it has fewer or they end within a character. -/
def takeBytes? : Nat → List Char → Option (List Char)
  | 0, _ => some []
  | _ + 1, [] => none
  | n + 1, c :: rest =>
    if c.utf8Size ≤ n + 1 then (takeBytes? (n + 1 - c.utf8Size) rest).map (c :: ·) else none

/-- The part of a text between two places in bytes, unless one of them is within a character. -/
def slice? (start stop : Nat) (s : List Char) : Option (List Char) :=
  (dropBytes? start s).bind (takeBytes? (stop - start))

/-- What the first byte of a longer sequence announces: how many bytes follow, and the bounds of the
first of them, which rule out overlong forms, surrogates and values above U+10FFFF. -/
structure Lead where
  follow : Nat
  low : Nat
  high : Nat

/-- The announcement of a first byte from 128 on, or none where no sequence starts with it. -/
def lead? (b : Nat) : Option Lead :=
  if 0xC2 ≤ b ∧ b ≤ 0xDF then some ⟨1, 0x80, 0xBF⟩
  else if b = 0xE0 then some ⟨2, 0xA0, 0xBF⟩
  else if b = 0xED then some ⟨2, 0x80, 0x9F⟩
  else if 0xE1 ≤ b ∧ b ≤ 0xEF then some ⟨2, 0x80, 0xBF⟩
  else if b = 0xF0 then some ⟨3, 0x90, 0xBF⟩
  else if 0xF1 ≤ b ∧ b ≤ 0xF3 then some ⟨3, 0x80, 0xBF⟩
  else if b = 0xF4 then some ⟨3, 0x80, 0x8F⟩
  else none

/-- The longest start of the bytes that continues a sequence: at most `n` bytes, the first within
the given bounds and the others within 80–BF. -/
def tails (low high : Nat) : Nat → List UInt8 → List UInt8
  | n + 1, b :: r =>
    if low ≤ b.toNat ∧ b.toNat ≤ high then b :: tails 0x80 0xBF n r else []
  | _, _ => []

/-- The character of a first byte and all the bytes that it announced. -/
def assemble (first : Nat) (rest : List UInt8) : Char :=
  let own := first % Number.twoTo (6 - rest.length)
  Char.ofNat (rest.foldl (fun n b => n * 64 + b.toNat % 64) own)

/-- The characters that the bytes stand for, with U+FFFD for what is not well formed. -/
def repair : List UInt8 → List Char
  | [] => []
  | b :: r =>
    if b.toNat < 0x80 then Char.ofNat b.toNat :: repair r
    else
      match lead? b.toNat with
      | none => '\uFFFD' :: repair r
      | some l =>
        let taken := tails l.low l.high l.follow r
        let c := if taken.length = l.follow then assemble b.toNat taken else '\uFFFD'
        c :: repair (r.drop taken.length)
termination_by s => s.length
decreasing_by all_goals simp; try omega

end PooledSql.Text.Utf8
