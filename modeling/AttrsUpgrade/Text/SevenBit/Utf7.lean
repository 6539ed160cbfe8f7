import AttrsUpgrade.Text.Charset.Basic
import AttrsUpgrade.Text.Half
/-!
# UTF-7

Unicode in bytes below 128. Most of ASCII stands for itself; the rest is written between a plus sign and a minus sign, in
units of 16 bits that are cut into digits of six.
-/

namespace AttrsUpgrade.Text.Utf7

/-- The digits from 0 to 63. -/
def digits : List Char := "ABCDEFGHIJKLMNOPQRSTUVWXYZabcdefghijklmnopqrstuvwxyz0123456789+/".toList

def isDigit (c : Char) : Bool := digits.contains c

/-- Whether a character is written as itself. -/
def isDirect (c : Char) : Bool :=
  c == '\t' || c == '\n' || c == '\r' || (32 ≤ c.toNat && c.toNat < 127 && c != '+' && c != '\\' && c != '~')

/-- A number in so many digits of a base, the highest first. -/
def inBase (base count n : Nat) : List Nat := (List.range count).reverse.map fun i => n / base.pow i % base

/-- The number that digits of a base stand for. -/
def ofBase (base : Nat) (ds : List Nat) : Nat := ds.foldl (fun n d => n * base + d) 0

/-- The units of 16 bits that digits spell; fewer than six bits may be left over, and they are zero. -/
def readUnits? (ds : List Char) : Option (List Nat) :=
  let n := ofBase 64 (ds.map digits.idxOf)
  let left := 6 * ds.length % 16
  if left < 6 && n % Nat.pow 2 left = 0 then some (inBase 0x10000 (6 * ds.length / 16) (n / Nat.pow 2 left)) else none

/-- The digits that spell units of 16 bits. -/
def writeUnits (units : List Nat) : List Char :=
  let count := (16 * units.length + 5) / 6
  let spare := 6 * count - 16 * units.length
  (inBase 64 count (ofBase 0x10000 units * Nat.pow 2 spare)).filterMap fun d => digits[d]?

/-- The characters that digits spell. At the end of a text the first half of a pair may not be the last. -/
def readDigits? (atEnd : Bool) (ds : List Char) : Option (List Char) :=
  (readUnits? ds).bind fun units =>
    if atEnd && units.getLast?.any fun n => 0xd800 ≤ n && n < 0xdc00 then none else some (charsOfUnits units)

/-- The text of some bytes that stand at a place; the first `skip` of them have been read already. -/
def decode (place skip : Nat) : List UInt8 → Except DecodeError (List Char)
  | [] => .ok []
  | b :: bs =>
    if skip > 0 then decode (place + 1) (skip - 1) bs
    else if 128 ≤ b then .error ⟨"utf7", place, [b], "unexpected special character"⟩
    else if b = 43 then
      let ds := (bs.takeWhile fun b => isDigit (Char.ofNat b.toNat)).map fun b => Char.ofNat b.toNat
      let after := bs.drop ds.length
      if bs.head? = some 45 then (decode (place + 1) 1 bs).map ('+' :: ·)
      else if ds.isEmpty && !bs.isEmpty then .error ⟨"utf7", place, b :: bs.take 1, "ill-formed sequence"⟩
      else
        match readDigits? after.isEmpty ds with
        | some cs => (decode (place + 1) (ds.length + (if after.head? = some 45 then 1 else 0)) bs).map (cs ++ ·)
        | none =>
          .error ⟨"utf7", place, b :: bs.take ds.length,
            if after.isEmpty then "unterminated shift sequence"
            else if 6 ≤ 6 * ds.length % 16 then "partial character in base64 sequence"
            else "non-zero padding bits in base64 sequence"⟩
    else (decode (place + 1) 0 bs).map (Char.ofNat b.toNat :: ·)

/-- A text, of which the first `skip` characters have been written already, in characters of ASCII. -/
def write (skip : Nat) : List Char → List Char
  | [] => []
  | c :: cs =>
    if skip > 0 then write (skip - 1) cs
    else if c = '+' then '+' :: '-' :: write 0 cs
    else if isDirect c then c :: write 0 cs
    else
      let run := c :: cs.takeWhile (!isDirect ·)
      let closes := (cs.drop (run.length - 1)).head?.all fun c => isDigit c || c == '-'
      '+' :: writeUnits (run.flatMap unitsOf) ++ (if closes then ['-'] else []) ++ write (run.length - 1) cs

def encode (cs : List Char) : List UInt8 := (write 0 cs).map fun c => c.toNat.toUInt8

end AttrsUpgrade.Text.Utf7
