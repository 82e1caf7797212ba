/-!
# Powers of two and ten

The units that binary and decimal numbers are counted in.

Results:
* `twoTo_add`: exponents add up.
* `twoTo_pos`, `tenTo_pos`: no unit is zero.
-/

namespace PooledSql.Number

/-- A power of two. -/
def twoTo (n : Nat) : Nat := Nat.pow 2 n

/-- A power of ten. -/
def tenTo (n : Nat) : Nat := Nat.pow 10 n

theorem twoTo_add (m n : Nat) : twoTo (m + n) = twoTo m * twoTo n :=
  Nat.pow_add 2 m n

theorem twoTo_pos (n : Nat) : 0 < twoTo n := Nat.pow_pos (by decide)

theorem tenTo_pos (n : Nat) : 0 < tenTo n := Nat.pow_pos (by decide)

end PooledSql.Number
