/-!
# Halves of surrogate pairs

Half of a surrogate pair is no character. Where a text may hold one all the same, it is kept as a character from the end of
the private planes, so that it can be told from all others.
-/

namespace AttrsUpgrade.Text

/-- What is added to half of a surrogate pair to keep it as a character. -/
def halfBase : Nat := 0x102000

def isHalf (c : Char) : Bool := 0x10f800 ≤ c.toNat

/-- The character of a code point or of half of a surrogate pair. -/
def charOf (n : Nat) : Char := if n.isValidChar then Char.ofNat n else Char.ofNat (n + halfBase)

/-- The code point or half of a surrogate pair that a character stands for. -/
def pointOf (c : Char) : Nat := if isHalf c then c.toNat - halfBase else c.toNat

/-- A code point as one or two units of 16 bits. -/
def unitsOf (c : Char) : List Nat :=
  let n := pointOf c
  if n < 0x10000 then [n] else [0xd800 + (n - 0x10000) / 0x400, 0xdc00 + (n - 0x10000) % 0x400]

/-- The characters of units of 16 bits: a pair is one character, and a half without its partner stands alone. -/
def charsOfUnits : List Nat → List Char
  | [] => []
  | [n] => [charOf n]
  | hi :: lo :: rest =>
    if 0xd800 ≤ hi && hi < 0xdc00 && 0xdc00 ≤ lo && lo < 0xe000 then
      charOf (0x10000 + (hi - 0xd800) * 0x400 + (lo - 0xdc00)) :: charsOfUnits rest
    else charOf hi :: charsOfUnits (lo :: rest)

end AttrsUpgrade.Text
