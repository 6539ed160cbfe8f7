import AttrsUpgrade.Text.Charset.All
import AttrsUpgrade.Text.Escaped
import AttrsUpgrade.Text.SevenBit.Hz
import AttrsUpgrade.Text.SevenBit.Iso2022
import AttrsUpgrade.Text.SevenBit.Utf7
/-!
# Source encodings

How the bytes of a source file are read as text and written back. A file is UTF-8 unless one of its first two lines declares
otherwise in a comment such as `# coding: latin-1`; a UTF-8 byte order mark is kept.
-/

namespace AttrsUpgrade.Text

inductive Encoding where
  | utf8
  /-- UTF-8 after a byte order mark. -/
  | utf8Marked
  | utf7
  | latin1
  | charset (s : Charset)
  | iso2022 (e : Iso2022)
  | hz
  /-- The escapes of string literals. -/
  | escaped
  /-- The escapes of string literals by number. -/
  | rawEscaped
  /-- ASCII in short labels with dots between them. -/
  | labels
deriving DecidableEq, Repr

/-- Why the bytes of a file are no text. -/
inductive SourceError where
  /-- A line that could declare an encoding is no text itself. -/
  | noText
  | unknown (name : String)
  /-- The file declares an encoding that its byte order mark contradicts. -/
  | contradiction
  | undecodable (e : DecodeError)
deriving DecidableEq, Repr

def SourceError.message : SourceError → String
  | .noText => "invalid or missing encoding declaration"
  | .unknown name => "unknown encoding: " ++ name
  | .contradiction => "encoding problem: utf-8"
  | .undecodable e => e.message

def byteOrderMark : List UInt8 := [0xef, 0xbb, 0xbf]

/-! ## UTF-8 -/

/-- How many bytes follow the first byte of a UTF-8 code, and the least and the greatest value of the next of them. -/
def utf8Tail? (b : UInt8) : Option (Nat × UInt8 × UInt8) :=
  if b < 0x80 then some (0, 0x80, 0xbf)
  else if b < 0xc2 then none
  else if b < 0xe0 then some (1, 0x80, 0xbf)
  else if b < 0xf0 then some (2, if b = 0xe0 then 0xa0 else 0x80, if b = 0xed then 0x9f else 0xbf)
  else if b < 0xf5 then some (3, if b = 0xf0 then 0x90 else 0x80, if b = 0xf4 then 0x8f else 0xbf)
  else none

/-- How many of the bytes that should follow the first byte of a UTF-8 code do. -/
def utf8TailLength (count : Nat) (least greatest : UInt8) : List UInt8 → Nat
  | [] => 0
  | b :: bs =>
    if count = 0 || b < least || greatest < b then 0 else 1 + utf8TailLength (count - 1) 0x80 0xbf bs

/-- The first fault in bytes that should be UTF-8 and stand at a place; the first `skip` of them are in order. -/
def utf8Fault? (place skip : Nat) : List UInt8 → Option DecodeError
  | [] => none
  | b :: bs =>
    if skip > 0 then utf8Fault? (place + 1) (skip - 1) bs
    else
      match utf8Tail? b with
      | none => some ⟨"utf-8", place, [b], "invalid start byte"⟩
      | some (count, least, greatest) =>
        let found := utf8TailLength count least greatest bs
        if found = count then utf8Fault? (place + 1) count bs
        else if found = bs.length then some ⟨"utf-8", place, b :: bs, "unexpected end of data"⟩
        else some ⟨"utf-8", place, b :: bs.take found, "invalid continuation byte"⟩

def decodeUtf8 (bytes : ByteArray) : Except DecodeError String :=
  match String.fromUTF8? bytes with
  | some s => .ok s
  | none => .error ((utf8Fault? 0 0 bytes.toList).getD ⟨"utf-8", 0, bytes.toList, "invalid start byte"⟩)

namespace Encoding

/-- Whether a text has labels with fewer than 64 characters between its dots, and none but the last is empty. -/
def hasLabels (cs : List Char) : Bool :=
  let labels := (cs.splitOn '.').map List.length
  labels.all (· < 64) && labels.dropLast.all (0 < ·)

def decode (e : Encoding) (bytes : ByteArray) : Except DecodeError String :=
  match e with
  | .utf8 => decodeUtf8 bytes
  | .utf8Marked => decodeUtf8 (bytes.extract 3 bytes.size)
  | .utf7 => (Utf7.decode 0 0 bytes.toList).map String.ofList
  | .latin1 => .ok (String.ofList (bytes.toList.map fun b => Char.ofNat b.toNat))
  | .charset s => (s.decode 0 0 bytes.toList).map String.ofList
  | .iso2022 i => (i.decode {} 0 0 bytes.toList).map String.ofList
  | .hz => (Hz.decode 0 false bytes.toList).map String.ofList
  | .escaped => (Escaped.decode bytes.toList).map String.ofList
  | .rawEscaped => (Escaped.decodeRaw bytes.toList).map String.ofList
  | .labels => (usAscii.decode 0 0 bytes.toList).map String.ofList

def encode? (e : Encoding) (s : String) : Option ByteArray :=
  match e with
  | .utf8 => some s.toUTF8
  | .utf8Marked => some (byteOrderMark.toByteArray ++ s.toUTF8)
  | .utf7 => some (Utf7.encode s.toList).toByteArray
  | .latin1 => if s.toList.all fun c => c.toNat < 256 then some (s.toList.map fun c => c.toNat.toUInt8).toByteArray else none
  | .charset c => (c.encode? 0 s.toList).map List.toByteArray
  | .iso2022 i => (i.encode? {} 0 s.toList).map List.toByteArray
  | .hz => (Hz.encode? false s.toList).map List.toByteArray
  | .escaped => some (Escaped.encode s.toList).toByteArray
  | .rawEscaped => some (Escaped.encodeRaw s.toList).toByteArray
  | .labels => if hasLabels s.toList then (usAscii.encode? 0 s.toList).map List.toByteArray else none

/-! ## Declarations -/

def isLineBlank (c : Char) : Bool := c == ' ' || c == '\t' || c == '\x0c'

/-- The name after `coding:` or `coding=` at the front. -/
def declaredAt? (cs : List Char) : Option (List Char) :=
  let word := "coding".toList
  if word.isPrefixOf cs then
    match cs.drop word.length with
    | c :: r =>
      if c == ':' || c == '=' then
        let name := (r.dropWhile fun c => c == ' ' || c == '\t').takeWhile fun c =>
          c.isAlphanum || c == '_' || c == '-' || c == '.'
        if name.isEmpty then none else some name
      else none
    | [] => none
  else none

/-- The first declaration in a comment. -/
def declaredIn? : List Char → Option (List Char)
  | [] => none
  | c :: cs =>
    if c == '\n' then none
    else
      match declaredAt? (c :: cs) with
      | some name => some name
      | none => declaredIn? cs

/-- The encoding name that a line declares. -/
def declared? (line : List Char) : Option (List Char) :=
  match line.dropWhile isLineBlank with
  | '#' :: r => declaredIn? r
  | _ => none

/-- Whether a line is blank or a comment, so that the next one may declare an encoding. -/
def isEmptyLine (line : List Char) : Bool :=
  match line.dropWhile isLineBlank with
  | [] => true
  | c :: _ => c == '#' || c == '\r' || c == '\n'

/-! ## Names of encodings -/

/-- A name in lower case with an underscore for every run of other signs between two parts of it. -/
def normalName (cs : List Char) : List Char :=
  let keeps (c : Char) : Bool := c.isAlphanum || c == '.'
  let parts := (cs.splitBy fun a b => keeps a == keeps b).filter fun part => part.any keeps
  ['_'].intercalate (parts.map fun part => part.map Char.toLower)

/-- The encodings that are known, each with its name and the other names it goes by. -/
def known : List (String × List String × Encoding) :=
  [("utf_8", ["cp65001", "u8", "utf", "utf8", "utf8_ucs2", "utf8_ucs4"], .utf8),
    ("utf_7", ["u7", "unicode_1_1_utf_7", "utf7"], .utf7),
    ("latin_1",
      ["8859", "cp819", "csisolatin1", "ibm819", "iso8859", "iso8859_1", "iso_8859_1", "iso_8859_1_1987", "iso_ir_100", "l1",
        "latin", "latin1"],
      .latin1),
    ("charmap", [], .latin1),
    ("hz", ["hz_gb", "hz_gb_2312", "hzgb"], .hz),
    ("unicode_escape", [], .escaped),
    ("raw_unicode_escape", [], .rawEscaped),
    ("idna", [], .labels)] ++
  charsets.map (fun s => (s.name, s.aliases, .charset s)) ++
  iso2022Encodings.map (fun i => (i.name, i.aliases, .iso2022 i))

/-- The encoding of a normal name; in another name than its first a dot may stand for an underscore. -/
def ofNormalName? (normal : List Char) : Option Encoding :=
  let name := String.ofList normal
  let undotted := String.ofList (normal.map fun c => if c = '.' then '_' else c)
  (known.find? fun (first, others, _) => first = name || others.contains name || others.contains undotted).map (·.2.2)

/-- The short form that the two commonest names are reduced to, or the name itself. -/
def shortName (name : List Char) : List Char :=
  let short := (name.take 12).map fun c => if c == '_' then '-' else c.toLower
  let is (base : String) : Bool := short == base.toList || (base ++ "-").toList.isPrefixOf short
  if is "utf-8" then "utf-8".toList
  else if is "latin-1" || is "iso-8859-1" || is "iso-latin-1" then "iso-8859-1".toList
  else name

/-- The encoding of a declared name; a byte order mark allows only `utf-8`. -/
def ofName (marked : Bool) (name : List Char) : Except SourceError Encoding :=
  let short := shortName name
  if marked then if short = "utf-8".toList then .ok .utf8Marked else .error .contradiction
  else
    match ofNormalName? (normalName short) with
    | some e => .ok e
    | none => .error (.unknown (String.ofList short))

/-- The first line of a list of bytes with its `\n`, and the rest. -/
def takeLine : List UInt8 → List UInt8 × List UInt8
  | [] => ([], [])
  | b :: bs =>
    if b = 10 then ([b], bs)
    else
      let (l, r) := takeLine bs
      (b :: l, r)

/-- A line that declares no encoding must be UTF-8; gives its text. -/
def lineText? (line : List UInt8) : Option (List Char) := (String.fromUTF8? line.toByteArray).map String.toList

/-- The encoding that a line declares, if it declares one. -/
def ofLine (marked : Bool) (line : List UInt8) : Except SourceError (List Char × Option Encoding) :=
  match lineText? line with
  | none => .error .noText
  | some line =>
    match declared? line with
    | none => .ok (line, none)
    | some name => (ofName marked name).map fun e => (line, some e)

/-- The encoding of a file. -/
def detect (bytes : ByteArray) : Except SourceError Encoding := do
  let all := bytes.toList
  let marked := byteOrderMark.isPrefixOf all
  let default := if marked then Encoding.utf8Marked else .utf8
  let (first, rest) := takeLine (if marked then all.drop 3 else all)
  match ← ofLine marked first with
  | (_, some e) => return e
  | (line, none) =>
    if isEmptyLine line then
      match ← ofLine marked (takeLine rest).1 with
      | (_, some e) => return e
      | (_, none) => return default
    else return default

end Encoding

/-- The text of a file and the encoding it is in. -/
def decodeSource (bytes : ByteArray) : Except SourceError (Encoding × String) := do
  let e ← Encoding.detect bytes
  match e.decode bytes with
  | .ok s => return (e, s)
  | .error err => .error (.undecodable err)

end AttrsUpgrade.Text
