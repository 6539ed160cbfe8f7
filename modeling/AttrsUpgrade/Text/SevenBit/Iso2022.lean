import AttrsUpgrade.Text.Charset.Gb2312
import AttrsUpgrade.Text.Charset.Iso8859
import AttrsUpgrade.Text.Charset.JisX0213
import AttrsUpgrade.Text.Charset.KsX1001
/-!
# ISO 2022

Encodings in bytes below 128 that switch between sets of characters. An escape sequence names a set; its codes are then those
of the set without their highest bits, until another sequence names another one.
-/

namespace AttrsUpgrade.Text

/-- A set of characters that an escape sequence names. -/
structure GraphicSet where
  /-- The last byte of the sequence; for a set with codes of two bytes its highest bit is set. -/
  mark : UInt8
  rows : List CodeRow
  /-- The bytes that stand in front of the codes in the rows only. -/
  lead : List UInt8 := []
  clusters : List (List UInt8 × List Char) := []
  /-- Whether the set takes turns with ASCII by shifts, without another sequence. -/
  shifts : Bool := false
deriving DecidableEq, Repr

namespace GraphicSet

def width (s : GraphicSet) : Nat := if 128 ≤ s.mark then 2 else 1

/-- The characters of the code at the front. -/
def charsAt? (s : GraphicSet) (bytes : List UInt8) : Option (List Char) :=
  let code := s.lead ++ (bytes.take s.width).map (· + 128)
  if bytes.length < s.width then none
  else
    match s.clusters.find? fun p => p.1 == code with
    | some (_, chars) => some chars
    | none => (s.rows.findSome? fun r => r.charAt? code).bind fun c => if c = '\ufffd' then none else some [c]

/-- The code of a character. -/
def codeOf? (s : GraphicSet) (c : Char) : Option (List UInt8) :=
  if c = '\ufffd' then none
  else
    (s.rows.findSome? fun r =>
      (r.codeOf? c).filter fun code => s.lead.isPrefixOf code && (s.rows.findSome? fun r => r.charAt? code) == some c).map
      fun code => (code.drop s.lead.length).map (· - 128)

end GraphicSet

/-! ## Sets -/

def jisRomanSet : GraphicSet where
  mark := 0x4a
  rows :=
    [.of [] 0xa1 ("!\"#$%&'()*+,-./0123456789:;<=>?@ABCDEFGHIJKLMNOPQRSTUVWXYZ[¥]^_`abcdefghijklmnopqrstuvwxyz" ++
       "\x7b|\x7d‾\x7f")]

def jisKatakanaSet : GraphicSet where
  mark := 0x49
  rows := [.run [] 0xa1 0xff61 63]

def jis0208Set : GraphicSet where
  mark := 0xc2
  rows := jis0208Rows

/-- The same under its former sequence. -/
def jis0208FormerSet : GraphicSet where
  mark := 0xc0
  rows := jis0208Rows

def jis0212Set : GraphicSet where
  mark := 0xc4
  rows := jis0212Rows
  lead := [0x8f]

def jisX0213FirstSet : GraphicSet where
  mark := 0xd1
  rows := jisX0213Rows ++ jis0208Rows
  clusters := jisX0213Clusters

def jisX0213SecondSet : GraphicSet where
  mark := 0xd0
  rows := jisX0213SecondRows
  lead := [0x8f]

/-- The first plane in the edition of the year 2000. -/
def jisX0213FormerSet : GraphicSet where
  mark := 0xcf
  rows := jisX0213Retracted ++ jisX0213Rows ++ jis0208Rows
  clusters := jisX0213Clusters

/-- The second plane in the edition of the year 2000. -/
def jisX0213FormerSecondSet : GraphicSet where
  mark := 0xd0
  rows := jisX0213SecondRetracted ++ jisX0213SecondRows
  lead := [0x8f]

def gb2312Set : GraphicSet where
  mark := 0xc1
  rows := gb2312Rows

def ksX1001Set : GraphicSet where
  mark := 0xc3
  rows := ksX1001Filler :: ksX1001Rows

/-! ## Encodings -/

structure Iso2022 where
  name : String
  aliases : List String
  sets : List GraphicSet
  /-- One-byte sets of which single characters are taken, by the mark of their sequence. -/
  singles : List (UInt8 × List CodeRow) := []
  /-- Whether shifts are used; otherwise their bytes stand for themselves. -/
  shifts : Bool := false
deriving DecidableEq, Repr

namespace Iso2022

/-- The mark of ASCII. -/
def asciiMark : UInt8 := 0x42

/-- The sets in force. -/
structure State where
  main : UInt8 := asciiMark
  /-- The set that a shift turns to, and whether it has. -/
  other : UInt8 := asciiMark
  shifted : Bool := false
  /-- The set of which single characters are taken. -/
  single : UInt8 := asciiMark
  /-- Whether an escape sequence of another kind is being passed over. -/
  passing : Bool := false
deriving DecidableEq, Repr

def isFinal (b : UInt8) : Bool := (0x41 ≤ b && b ≤ 0x5a) || b = 0x40

/-- The state after an escape sequence at the front, and the length of the sequence. -/
def escape? (e : Iso2022) (s : State) (bytes : List UInt8) : Option (State × Nat) :=
  let known (mark : UInt8) : Bool := mark = asciiMark || e.sets.any (·.mark = mark) || e.singles.any (·.1 = mark)
  let use (final mark : UInt8) (s : State) (length : Nat) : Option (State × Nat) :=
    if isFinal final && known mark then some (s, length) else none
  match bytes with
  | 0x1b :: 0x26 :: 0x40 :: 0x1b :: 0x24 :: 0x42 :: _ =>
    if e.shifts then none else use 0x42 0xc2 { s with main := 0xc2 } 6
  | 0x1b :: 0x24 :: 0x28 :: m :: _ => use m (m ||| 0x80) { s with main := m ||| 0x80 } 4
  | 0x1b :: 0x24 :: 0x29 :: m :: _ => use m (m ||| 0x80) { s with other := m ||| 0x80 } 4
  | 0x1b :: 0x24 :: m :: _ => use m (m ||| 0x80) { s with main := m ||| 0x80 } 3
  | 0x1b :: 0x28 :: m :: _ => use m m { s with main := m } 3
  | 0x1b :: 0x29 :: m :: _ => use m m { s with other := m } 3
  | 0x1b :: 0x2e :: m :: _ => if e.singles.isEmpty then none else use m m { s with single := m } 3
  | _ => none

/-- The single character after its own escape sequence. -/
def single? (e : Iso2022) (mark b : UInt8) : Option Char :=
  if 128 ≤ b then none
  else if mark = asciiMark then some (Char.ofNat b.toNat)
  else
    (e.singles.find? (·.1 = mark)).bind fun p =>
      (p.2.findSome? fun r => r.charAt? [b + 128]).filter (· != '\ufffd')

/-- What stands at the front: the characters, the state after it, and how many bytes it takes. -/
def take? (e : Iso2022) (s : State) (b : UInt8) (bs : List UInt8) : Option (List Char × State × Nat) :=
  let itself := some ([Char.ofNat b.toNat], s, 1)
  if s.passing then some ([Char.ofNat b.toNat], { s with passing := !isFinal b }, 1)
  else if b = 0x1b then
    match bs with
    | [] => none
    | b2 :: rest =>
      if b2 = 0x28 || b2 = 0x29 || b2 = 0x24 || b2 = 0x2e || b2 = 0x26 then
        (e.escape? s (b :: bs)).map fun (s, n) => ([], s, n)
      else if b2 = 0x4e && !e.singles.isEmpty then
        rest.head?.bind fun c => (e.single? s.single c).map fun c => ([c], s, 3)
      else some (['\x1b'], { s with passing := true }, 1)
  else if (b = 0x0e || b = 0x0f) && e.shifts then some ([], { s with shifted := b = 0x0e }, 1)
  else if b = 0x0a then some (['\n'], { s with shifted := false }, 1)
  else if b < 0x20 then itself
  else if 128 ≤ b then none
  else
    let mark := if s.shifted then s.other else s.main
    if mark = asciiMark then itself
    else
      (e.sets.find? (·.mark = mark)).bind fun g => (g.charsAt? (b :: bs)).map fun cs => (cs, s, g.width)

/-- The text of some bytes that stand at a place; the first `skip` of them have been read already. -/
def decode (e : Iso2022) (s : State) (place skip : Nat) : List UInt8 → Except DecodeError (List Char)
  | [] => .ok []
  | b :: bs =>
    if skip > 0 then e.decode s (place + 1) (skip - 1) bs
    else
      match e.take? s b bs with
      | some (cs, s, used) => (e.decode s (place + 1) (used - 1) bs).map (cs ++ ·)
      | none =>
        let kind := if bs.isEmpty then "incomplete" else "illegal"
        .error ⟨e.name, place, [b], kind ++ " multibyte sequence"⟩

/-- The escape sequence and the shift that put a set in force, and the state after them. -/
def switch (g : GraphicSet) (s : State) : List UInt8 × State :=
  let mark := g.mark &&& 0x7f
  if g.shifts then
    ((if s.other = g.mark then [] else [0x1b, 0x24, 0x29, mark]) ++ (if s.shifted then [] else [0x0e]),
      { s with other := g.mark, shifted := true })
  else if s.main = g.mark then ([], s)
  else if g.width = 1 then ([0x1b, 0x28, mark], { s with main := g.mark })
  else ((if g.mark = 0xc2 then [0x1b, 0x24, mark] else [0x1b, 0x24, 0x28, mark]), { s with main := g.mark })

/-- The bytes that return to ASCII. -/
def leave (s : State) : List UInt8 :=
  (if s.main = asciiMark then [] else [0x1b, 0x28, asciiMark]) ++ (if s.shifted then [0x0f] else [])

/-- The set that has what stands at the front of a text, the code and the number of characters. -/
def find? (e : Iso2022) (cs : List Char) : Option (GraphicSet × List UInt8 × Nat) :=
  let cluster := e.sets.findSome? fun g => (g.clusters.find? fun p => p.2.isPrefixOf cs).map fun p =>
    (g, p.1.map (· - 128), p.2.length)
  cluster.or (cs.head?.bind fun c => e.sets.findSome? fun g => (g.codeOf? c).map fun code => (g, code, 1))

/-- The bytes of a text of which the first `skip` characters have been written already. -/
def encode? (e : Iso2022) (s : State) (skip : Nat) : List Char → Option (List UInt8)
  | [] => some (Iso2022.leave s)
  | c :: cs =>
    if skip > 0 then e.encode? s (skip - 1) cs
    else if c.toNat < 128 then
      (e.encode? { s with main := asciiMark, shifted := false } 0 cs).map fun bs =>
        Iso2022.leave s ++ c.toNat.toUInt8 :: bs
    else
      match e.find? (c :: cs) with
      | some (g, code, used) =>
        let (lead, s) := switch g s
        (e.encode? s (used - 1) cs).map fun bs => lead ++ code ++ bs
      | none => none

end Iso2022

def iso2022Jp : Iso2022 where
  name := "iso2022_jp"
  aliases := ["csiso2022jp", "iso2022jp", "iso_2022_jp"]
  sets := [jis0208Set, jisRomanSet, jis0208FormerSet]

def iso2022Jp1 : Iso2022 where
  name := "iso2022_jp_1"
  aliases := ["iso2022jp_1", "iso_2022_jp_1"]
  sets := [jis0208Set, jis0212Set, jisRomanSet, jis0208FormerSet]

def iso2022Jp2 : Iso2022 where
  name := "iso2022_jp_2"
  aliases := ["iso2022jp_2", "iso_2022_jp_2"]
  sets := [jis0208Set, jis0212Set, ksX1001Set, gb2312Set, jisRomanSet, jis0208FormerSet]
  singles := [(0x41, [.run [] 0x80 0x80 128]), (0x46, .run [] 0x80 0x80 32 :: iso8859N7.rows)]

def iso2022Jp2004 : Iso2022 where
  name := "iso2022_jp_2004"
  aliases := ["iso2022jp_2004", "iso_2022_jp_2004"]
  sets := [jis0208Set, jisX0213FirstSet, jisX0213SecondSet]

def iso2022Jp3 : Iso2022 where
  name := "iso2022_jp_3"
  aliases := ["iso2022jp_3", "iso_2022_jp_3"]
  sets := [jis0208Set, jisX0213FormerSet, jisX0213FormerSecondSet]

def iso2022JpExt : Iso2022 where
  name := "iso2022_jp_ext"
  aliases := ["iso2022jp_ext", "iso_2022_jp_ext"]
  sets := [jis0208Set, jis0212Set, jisRomanSet, jisKatakanaSet, jis0208FormerSet]

def iso2022Kr : Iso2022 where
  name := "iso2022_kr"
  aliases := ["csiso2022kr", "iso2022kr", "iso_2022_kr"]
  sets := [{ ksX1001Set with shifts := true }]
  shifts := true

/-- The known encodings of this kind. -/
def iso2022Encodings : List Iso2022 :=
  [iso2022Jp, iso2022Jp1, iso2022Jp2, iso2022Jp2004, iso2022Jp3, iso2022JpExt, iso2022Kr]

end AttrsUpgrade.Text
