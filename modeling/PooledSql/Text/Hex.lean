/-!
# Bytes in hexadecimal

Two lower-case digits a byte, high half first, with no mark around them.

Results:
* `decode_encode`: the digits of a byte string read back as that byte string.
-/

namespace PooledSql.Text.Hex

/-- The digit of a half byte. -/
def digit (n : Nat) : Char :=
  if n < 10 then Char.ofNat (48 + n) else Char.ofNat (87 + n)

/-- The value of a digit, of either letter case. -/
def digit? (c : Char) : Option Nat :=
  let n := c.toNat
  if 48 ≤ n ∧ n ≤ 57 then some (n - 48)
  else if 97 ≤ n ∧ n ≤ 102 then some (n - 87)
  else if 65 ≤ n ∧ n ≤ 70 then some (n - 55)
  else none

/-- The digits of a byte string. -/
def encode : List UInt8 → List Char
  | [] => []
  | b :: r => digit (b.toNat / 16) :: digit (b.toNat % 16) :: encode r

/-- The bytes that pairs of digits stand for; none for an odd count or for another character. -/
def decode : List Char → Option (List UInt8)
  | [] => some []
  | [_] => none
  | h :: l :: r =>
    match digit? h, digit? l, decode r with
    | some high, some low, some rest => some (UInt8.ofNat (16 * high + low) :: rest)
    | _, _, _ => none

theorem digit?_digit (n : Nat) (h : n < 16) : digit? (digit n) = some n := by
  have : ∀ m : Fin 16, digit? (digit m.val) = some m.val := by decide
  exact this ⟨n, h⟩

theorem decode_encode (bytes : List UInt8) : decode (encode bytes) = some bytes := by
  induction bytes with
  | nil => rfl
  | cons b r ih =>
    have hb : b.toNat < 256 := b.toNat_lt
    have halves : 16 * (b.toNat / 16) + b.toNat % 16 = b.toNat := by omega
    simp only [encode, decode, digit?_digit _ (show b.toNat / 16 < 16 by omega),
      digit?_digit _ (show b.toNat % 16 < 16 by omega), ih, halves, UInt8.ofNat_toNat]

end PooledSql.Text.Hex
