import AttrsUpgrade.Text.Charset.Basic
import AttrsUpgrade.Text.Literal
/-!
# Text in escapes

Encodings that write what one byte cannot hold by the escapes of string literals.
-/

namespace AttrsUpgrade.Text.Escaped

/-- A number in so many hexadecimal digits. -/
def padded (count n : Nat) : List Char :=
  let ds := Nat.toDigits 16 n
  List.replicate (count - ds.length) '0' ++ ds

/-- The escape by number of a character that does not fit into one byte. -/
def longEscape (c : Char) : List Char :=
  let n := pointOf c
  if n < 0x10000 then '\\' :: 'u' :: padded 4 n else '\\' :: 'U' :: padded 8 n

def escapeFault (name : String) (bytes : List UInt8) (e : EscapeError) (first last : Nat) : DecodeError :=
  ⟨name, first, (bytes.drop first).take (last + 1 - first), e.message⟩

/-! ## All escapes -/

/-- Whether a text ends within an escape; `escaped` tells that its first character is escaped. -/
def endsOpen (escaped : Bool) : List Char → Bool
  | [] => escaped
  | c :: cs => endsOpen (c == '\\' && !escaped) cs

def decode (bytes : List UInt8) : Except DecodeError (List Char) :=
  let cs := bytes.map fun b => Char.ofNat b.toNat
  if endsOpen false cs then .error ⟨"unicodeescape", bytes.length - 1, [92], "\\ at end of string"⟩
  else
    match unescape false 0 0 cs with
    | .ok ns => .ok (ns.map charOf)
    | .error (e, first, last) => .error (escapeFault "unicodeescape" bytes e first last)

/-- A character in ASCII: every control character and all above ASCII as an escape. -/
def spell (c : Char) : List Char :=
  if c = '\\' then ['\\', '\\']
  else if c = '\n' then ['\\', 'n']
  else if c = '\r' then ['\\', 'r']
  else if c = '\t' then ['\\', 't']
  else if 32 ≤ c.toNat && c.toNat < 127 then [c]
  else if c.toNat < 256 then '\\' :: 'x' :: padded 2 c.toNat
  else longEscape c

def encode (cs : List Char) : List UInt8 := (cs.flatMap spell).map fun c => c.toNat.toUInt8

/-! ## Escapes by number only -/

/-- The text of characters that stand at a place; the first `skip` of them have been read already, or stand for themselves if
they are `kept`. -/
def decodeRawFrom (place skip : Nat) (kept : Bool) : List Char → Except (EscapeError × Nat × Nat) (List Char)
  | [] => .ok []
  | c :: cs =>
    if skip > 0 then
      (decodeRawFrom (place + 1) (skip - 1) kept cs).map fun r => if kept then c :: r else r
    else if c = '\\' then
      match cs with
      | [] => .ok ['\\']
      | d :: ds =>
        if d = 'u' || d = 'U' then
          match hexEscape d (if d = 'u' then 4 else 8) ds with
          | .ok (ns, used) => (decodeRawFrom (place + 1) used false cs).map (ns.map charOf ++ ·)
          | .error (e, count) => .error (e, place, place + count - 1)
        else (decodeRawFrom (place + 1) 1 true cs).map ('\\' :: ·)
    else (decodeRawFrom (place + 1) 0 false cs).map (c :: ·)

def decodeRaw (bytes : List UInt8) : Except DecodeError (List Char) :=
  match decodeRawFrom 0 0 false (bytes.map fun b => Char.ofNat b.toNat) with
  | .ok cs => .ok cs
  | .error (e, first, last) => .error (escapeFault "rawunicodeescape" bytes e first last)

def encodeRaw (cs : List Char) : List UInt8 :=
  (cs.flatMap fun c => if c.toNat < 256 then [c] else longEscape c).map fun c => c.toNat.toUInt8

end AttrsUpgrade.Text.Escaped
