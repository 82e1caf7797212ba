import PooledSql.Number.Power

/-!
# Characters of stored texts

The bytes of a stored text need not be well-formed UTF-8, and functions on texts take them as they
come: a byte from C0 on starts a character, which goes on with all bytes from 80 to BF that follow,
and every other byte is one for itself. A zero byte ends the text for most of them.
-/

namespace PooledSql.Sqlite.Characters

open Number (twoTo)

/-- A byte that goes on with a character. -/
def isTail (b : UInt8) : Bool := decide (0x80 ≤ b.toNat) && decide (b.toNat < 0xC0)

/-- A byte that starts a character of several bytes. -/
def isLead (b : UInt8) : Bool := decide (0xC0 ≤ b.toNat)

/-- The characters of a text, each with its bytes. -/
def split : List UInt8 → List (List UInt8)
  | [] => []
  | b :: rest =>
    let tail := if isLead b then rest.takeWhile isTail else []
    (b :: tail) :: split (rest.drop tail.length)
termination_by s => s.length
decreasing_by simp only [List.length_drop, List.length_cons]; omega

/-- The bits that a first byte gives to the code of its character. -/
def leadBits (b : Nat) : Nat :=
  if b < 0xE0 then b % 32
  else if b < 0xF0 then b % 16
  else if b < 0xF8 then b % 8
  else if b < 0xFC then b % 4
  else if b < 0xFE then b % 2
  else 0

/-- What takes the place of a code that no character has. -/
def replacement : Nat := 0xFFFD

/-- The code of a character: U+FFFD for one that is too short, a surrogate or no character. -/
def code : List UInt8 → Nat
  | [] => 0
  | b :: tail =>
    if !isLead b then b.toNat
    else
      let n := tail.foldl (fun n x => (64 * n + x.toNat % 64) % twoTo 32) (leadBits b.toNat)
      if n < 0x80 ∨ n / 2048 = 0xD800 / 2048 ∨ n / 2 = 0xFFFE / 2 then replacement else n

/-- The bytes up to the first zero. -/
def untilZero (s : List UInt8) : List UInt8 := s.takeWhile (· != 0)

/-- The codes of the characters of a text. -/
def codes (s : List UInt8) : List Nat := (split s).map code

/-- The bytes of a code, of which those of surrogates are no text. -/
def encode (n : Nat) : List UInt8 :=
  let tail (shift : Nat) : UInt8 := UInt8.ofNat (0x80 + n / twoTo shift % 64)
  if n < 0x80 then [UInt8.ofNat n]
  else if n < 0x800 then [UInt8.ofNat (0xC0 + n / 64 % 32), tail 0]
  else if n < 0x10000 then [UInt8.ofNat (0xE0 + n / 4096 % 16), tail 6, tail 0]
  else [UInt8.ofNat (0xF0 + n / 262144 % 8), tail 12, tail 6, tail 0]

/-- The bytes of a text in which all characters are of ASCII. -/
def ascii (s : String) : List UInt8 := s.toList.map fun c => UInt8.ofNat c.toNat

end PooledSql.Sqlite.Characters
