/-!
# Blank text

A name counts as missing when it has nothing but white space in it, and white space is the Unicode
property `White_Space`: twenty-five characters, among them the no-break space and the ideographic
space, and not the zero-width ones.
-/

namespace PooledSql.Text

/-- The ranges of the Unicode property `White_Space`, first and last code point of each. -/
def blankRanges : List (Nat × Nat) :=
  [(0x09, 0x0D), (0x20, 0x20), (0x85, 0x85), (0xA0, 0xA0), (0x1680, 0x1680), (0x2000, 0x200A),
    (0x2028, 0x2029), (0x202F, 0x202F), (0x205F, 0x205F), (0x3000, 0x3000)]

/-- A character of the property `White_Space`. -/
def isBlankChar (c : Char) : Bool :=
  blankRanges.any fun r => r.1 ≤ c.toNat && c.toNat ≤ r.2

/-- A text with no other character than white space; the empty text is one. -/
def isBlank (s : String) : Bool :=
  s.toList.all isBlankChar

/-- A text without the white space at its ends. -/
def trimBlank (s : List Char) : List Char :=
  ((s.dropWhile isBlankChar).reverse.dropWhile isBlankChar).reverse

example : (blankRanges.map fun r => r.2 - r.1 + 1).sum = 25 := by decide
example : isBlankChar '\u200b' = false := by decide

end PooledSql.Text
