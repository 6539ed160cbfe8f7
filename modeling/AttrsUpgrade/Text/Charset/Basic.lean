/-!
# Character sets

Encodings that are given by tables. A character set agrees with ASCII on the bytes below its first own byte; above, its rows
list which character a code of one, two or three bytes stands for. Of two rows that cover a code the earlier one decides, so
that a set is another set with a few rows put in front.
-/

namespace AttrsUpgrade.Text

/-- Neighbouring codes: the bytes `lead` and then one byte, from `first` on, for each character. -/
structure CodeRow where
  lead : List UInt8
  first : Nat
  /-- U+FFFD marks a code that stands for nothing. -/
  chars : List Char
deriving DecidableEq, Repr

namespace CodeRow

def of (lead : List UInt8) (first : Nat) (chars : String) : CodeRow := ⟨lead, first, chars.toList⟩

/-- Codes for so many characters from a code point on. -/
def run (lead : List UInt8) (first codePoint count : Nat) : CodeRow :=
  ⟨lead, first, (List.range count).map fun i => Char.ofNat (codePoint + i)⟩

/-- The character of the code at the front, if the row covers that code. -/
def charAt? (r : CodeRow) (bytes : List UInt8) : Option Char :=
  if r.lead.isPrefixOf bytes then
    match bytes.drop r.lead.length with
    | b :: _ => if b.toNat < r.first then none else r.chars[b.toNat - r.first]?
    | [] => none
  else none

/-- The first code of a character in the row. -/
def codeOf? (r : CodeRow) (c : Char) : Option (List UInt8) :=
  (r.chars.findIdx? (· == c)).map fun i => r.lead ++ [(r.first + i).toUInt8]

/-- The number of bytes of a code. -/
def width (r : CodeRow) : Nat := r.lead.length + 1

end CodeRow

/-- Neighbouring codes of four bytes, by the number that they spell (`fourByteNumber?`). -/
structure FourByteRun where
  number : Nat
  codePoint : Nat
  count : Nat
deriving DecidableEq, Repr

/-- The number that four bytes spell, the second and the fourth with ten values and the others with 126. -/
def fourByteNumber? : List UInt8 → Option Nat
  | a :: b :: c :: d :: _ =>
    let wide (x : UInt8) : Bool := 0x81 ≤ x && x ≤ 0xfe
    let digit (x : UInt8) : Bool := 0x30 ≤ x && x ≤ 0x39
    if wide a && digit b && wide c && digit d then
      some ((((a.toNat - 0x81) * 10 + (b.toNat - 0x30)) * 126 + (c.toNat - 0x81)) * 10 + (d.toNat - 0x30))
    else none
  | _ => none

/-- The four bytes that spell a number. -/
def fourByteCode (n : Nat) : List UInt8 :=
  [(0x81 + n / 12600).toUInt8, (0x30 + n / 1260 % 10).toUInt8, (0x81 + n / 10 % 126).toUInt8, (0x30 + n % 10).toUInt8]

namespace FourByteRun

def charAt? (r : FourByteRun) (n : Nat) : Option Char :=
  if r.number ≤ n && n < r.number + r.count then some (Char.ofNat (r.codePoint + (n - r.number))) else none

def codeOf? (r : FourByteRun) (c : Char) : Option (List UInt8) :=
  if r.codePoint ≤ c.toNat && c.toNat < r.codePoint + r.count then
    some (fourByteCode (r.number + (c.toNat - r.codePoint)))
  else none

end FourByteRun

structure Charset where
  /-- The name of the set, in lower case and with underscores, and the other names it goes by. -/
  name : String
  aliases : List String
  /-- The bytes below it stand for the character of the same number. -/
  first : Nat
  rows : List CodeRow
  /-- Whether the rows list characters below `first` once more, which are then written by the codes there. -/
  repeats : Bool := false
  fourByteRuns : List FourByteRun := []
  /-- Codes that stand for a letter together with the mark after it. -/
  clusters : List (List UInt8 × List Char) := []
deriving DecidableEq, Repr

/-- Bytes of a file that stand for nothing in its encoding. -/
structure DecodeError where
  encoding : String
  /-- Where the bytes stand. -/
  place : Nat
  bytes : List UInt8
  reason : String
deriving DecidableEq, Repr

def DecodeError.message (e : DecodeError) : String :=
  let digit (n : Nat) : Char := Nat.digitChar n
  let what :=
    match e.bytes with
    | [b] => "byte 0x" ++ String.ofList [digit (b.toNat / 16), digit (b.toNat % 16)] ++ " in position " ++ toString e.place
    | bs => "bytes in position " ++ toString e.place ++ "-" ++ toString (e.place + bs.length - 1)
  "'" ++ e.encoding ++ "' codec can't decode " ++ what ++ ": " ++ e.reason

namespace Charset

/-- What the rows have for the code at the front: its character, or U+FFFD for none, and its number of bytes. -/
def rowChar? (s : Charset) (bytes : List UInt8) : Option (Char × Nat) :=
  s.rows.findSome? fun r => (r.charAt? bytes).map fun c => (c, r.width)

/-- The characters of the code at the front, and its number of bytes. -/
def charsAt? (s : Charset) (bytes : List UInt8) : Option (List Char × Nat) :=
  match s.clusters.find? fun p => p.1.isPrefixOf bytes with
  | some (code, chars) => some (chars, code.length)
  | none =>
    match s.rowChar? bytes with
    | some (c, width) => if c = '\ufffd' then none else some ([c], width)
    | none =>
      (fourByteNumber? bytes).bind fun n => (s.fourByteRuns.findSome? fun r => r.charAt? n).map fun c => ([c], 4)

/-- The fault in bytes that start with no code. -/
def faultAt (s : Charset) (place : Nat) (bytes : List UInt8) : DecodeError :=
  if s.rows.isEmpty then ⟨s.name, place, bytes.take 1, "ordinal not in range(128)"⟩
  else if s.rows.all fun r => r.width = 1 then ⟨"charmap", place, bytes.take 1, "character maps to <undefined>"⟩
  else
    let kind := if bytes.length = 1 then "incomplete" else "illegal"
    ⟨s.name, place, bytes.take 1, kind ++ " multibyte sequence"⟩

/-- The text of some bytes that stand at a place; the first `skip` of them have been read already. -/
def decode (s : Charset) (place skip : Nat) : List UInt8 → Except DecodeError (List Char)
  | [] => .ok []
  | b :: bs =>
    if skip > 0 then s.decode (place + 1) (skip - 1) bs
    else if b.toNat < s.first then (s.decode (place + 1) 0 bs).map (Char.ofNat b.toNat :: ·)
    else
      match s.charsAt? (b :: bs) with
      | some (cs, width) => (s.decode (place + 1) (width - 1) bs).map (cs ++ ·)
      | none => .error (s.faultAt place (b :: bs))

/-- The code of a character that is not written as in ASCII: the first in the rows that is read as the character. -/
def ownCode? (s : Charset) (c : Char) : Option (List UInt8) :=
  match s.rows.findSome? fun r => (r.codeOf? c).filter fun code => s.rowChar? code = some (c, r.width) with
  | some code => some code
  | none => s.fourByteRuns.findSome? fun r => r.codeOf? c

def codeOf? (s : Charset) (c : Char) : Option (List UInt8) :=
  let plain := if c.toNat < s.first then some [c.toNat.toUInt8] else none
  if plain.isNone || s.repeats then if c = '\ufffd' then none else (s.ownCode? c).or plain else plain

/-- The bytes of a text of which the first `skip` characters have been written already. -/
def encode? (s : Charset) (skip : Nat) : List Char → Option (List UInt8)
  | [] => some []
  | c :: cs =>
    if skip > 0 then s.encode? (skip - 1) cs
    else
      match s.clusters.find? fun p => p.2.isPrefixOf (c :: cs) with
      | some (code, chars) => (s.encode? (chars.length - 1) cs).map (code ++ ·)
      | none => (s.codeOf? c).bind fun code => (s.encode? 0 cs).map (code ++ ·)

end Charset
end AttrsUpgrade.Text
