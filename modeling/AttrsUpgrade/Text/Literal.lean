import AttrsUpgrade.Text.CharName
import AttrsUpgrade.Text.Half
import AttrsUpgrade.Token.Lexeme
/-!
# Values of string literals

`literalValue` reads a string or bytes literal, prefix and quotes included, as the text or the bytes it stands for, or says
why it stands for nothing.

An escape may stand for half of a surrogate pair, which is kept as `charOf` does.
-/

namespace AttrsUpgrade.Text

/-- What a literal stands for. -/
inductive LiteralValue where
  | text (s : String)
  | bytes (b : List UInt8)
deriving DecidableEq, Repr

/-- Why an escape stands for no character. -/
inductive EscapeError where
  /-- Fewer hexadecimal digits than the letter asks for. -/
  | truncated (letter : Char) (digits : Nat)
  /-- A number beyond the last code point. -/
  | beyond
  | malformedName
  | unknownName
deriving DecidableEq, Repr

def EscapeError.message : EscapeError → String
  | .truncated letter digits => "truncated \\" ++ String.ofList (letter :: List.replicate digits 'X') ++ " escape"
  | .beyond => "illegal Unicode character"
  | .malformedName => "malformed \\N character escape"
  | .unknownName => "unknown Unicode character name"

/-- Why a literal stands for nothing. -/
inductive LiteralError where
  /-- An escape in the body, by its first and last place, in a literal that ends on the given line. -/
  | badEscape (e : EscapeError) (first last line : Nat)
  | badByteEscape (place line : Nat)
  | nonAsciiBytes
  | nullChar
  /-- Halves of surrogate pairs, so many from a place of the literal on. -/
  | halves (first : Char) (place count : Nat)
  /-- Bytes literals side by side. -/
  | bytesJoined
deriving DecidableEq, Repr

/-- A number in hexadecimal digits. -/
def hexDigits (n : Nat) : String := String.ofList (Nat.toDigits 16 n)

/-! ## Messages -/

def LiteralError.message : LiteralError → String
  | .badEscape e first last line =>
    "(unicode error) 'unicodeescape' codec can't decode bytes in position " ++ toString first ++ "-" ++ toString last ++
      ": " ++ e.message ++ " (<unknown>, line " ++ toString line ++ ")"
  | .badByteEscape place line =>
    "(value error) invalid \\x escape at position " ++ toString place ++ " (<unknown>, line " ++ toString line ++ ")"
  | .nonAsciiBytes => "bytes can only contain ASCII literal characters (<unknown>, line 1)"
  | .nullChar => "source code string cannot contain null bytes"
  | .halves first place 1 =>
    "'utf-8' codec can't encode character '\\u" ++ hexDigits (first.toNat - halfBase) ++ "' in position " ++
      toString place ++ ": surrogates not allowed"
  | .halves _ place count =>
    "'utf-8' codec can't encode characters in position " ++ toString place ++ "-" ++ toString (place + count - 1) ++
      ": surrogates not allowed"
  | .bytesJoined => "sequence item 0: expected str instance, bytes found"

def LiteralValue.append : LiteralValue → LiteralValue → Except LiteralError LiteralValue
  | .text a, .text b => .ok (.text (a ++ b))
  | _, _ => .error .bytesJoined

/-! ## Escapes -/

/-- Every line end as `\n`. -/
def normalizeNewlines : List Char → List Char
  | [] => []
  | c :: cs =>
    if c = '\r' then
      if cs.head? = some '\n' then normalizeNewlines cs else '\n' :: normalizeNewlines cs
    else c :: normalizeNewlines cs

def hexValue (c : Char) : Nat :=
  if c.isDigit then c.toNat - '0'.toNat
  else if 'a' ≤ c && c ≤ 'f' then c.toNat - 'a'.toNat + 10
  else c.toNat - 'A'.toNat + 10

/-- The number written by digits in a base. -/
def numberOf (base : Nat) (digits : List Char) : Nat := digits.foldl (fun n c => n * base + hexValue c) 0

def isAscii (c : Char) : Bool := c.toNat < 128

/-- The places that a text takes up, where a character outside ASCII takes ten and a backslash before one six; `escaped`
tells that a backslash takes the first character. -/
def placesOf (escaped : Bool) : List Char → Nat
  | [] => 0
  | c :: cs =>
    let escapes := c == '\\' && !escaped
    (if !isAscii c then 10 else if escapes && cs.head?.any (!isAscii ·) then 6 else 1) + placesOf escapes cs

/-- What an escape stands for: code points, and how many characters after the backslash it takes; or why it stands for none,
and how many places it takes with its backslash. -/
abbrev Escape := Except (EscapeError × Nat) (List Nat × Nat)

/-- The number in exactly `count` hexadecimal digits at the front. -/
def hexEscape (letter : Char) (count : Nat) (cs : List Char) : Escape :=
  let ds := (cs.take count).takeWhile Lexeme.isHexDigit
  if ds.length < count then .error (.truncated letter count, ds.length + 2)
  else if numberOf 16 ds < 0x110000 then .ok ([numberOf 16 ds], count + 1)
  else .error (.beyond, count + 2)

/-- A character by its name in braces. -/
def namedEscape (cs : List Char) : Escape :=
  match cs with
  | '\x7b' :: r =>
    let name := r.takeWhile (· != '\x7d')
    if name.length = r.length then .error (.malformedName, 3 + placesOf false name)
    else if name.isEmpty then .error (.malformedName, 3)
    else
      match charNamed? name with
      | some n => .ok ([n], name.length + 3)
      | none => .error (.unknownName, 4 + placesOf false name)
  | _ => .error (.malformedName, 2)

/-- The escapes of one letter. -/
def letterEscape? (c : Char) : Option Nat :=
  match c with
  | '\\' => some 92
  | '\'' => some 39
  | '"' => some 34
  | 'a' => some 7
  | 'b' => some 8
  | 'f' => some 12
  | 'n' => some 10
  | 'r' => some 13
  | 't' => some 9
  | 'v' => some 11
  | _ => none

/-- The escape whose characters follow a backslash. A backslash that begins none stands for itself. -/
def escape (bytes : Bool) : List Char → Escape
  | [] => .ok ([92], 0)
  | c :: cs =>
    if c = '\n' then .ok ([], 1)
    else
      match letterEscape? c with
      | some n => .ok ([n], 1)
      | none =>
        if c = 'x' then hexEscape c 2 cs
        else if Lexeme.isOctDigit c then
          let ds := ((c :: cs).take 3).takeWhile Lexeme.isOctDigit
          .ok ([numberOf 8 ds], ds.length)
        else if bytes then .ok ([92], 0)
        else if c = 'u' then hexEscape c 4 cs
        else if c = 'U' then hexEscape c 8 cs
        else if c = 'N' then namedEscape cs
        else .ok ([92], 0)

/-- The code points of a literal's body from the given place on, or the escape that stands for none with its first and last
place; `skip` characters have been read already. -/
def unescape (bytes : Bool) (place skip : Nat) : List Char → Except (EscapeError × Nat × Nat) (List Nat)
  | [] => .ok []
  | c :: cs =>
    if skip > 0 then unescape bytes (place + placesOf true [c]) (skip - 1) cs
    else if c = '\\' then
      match escape bytes cs with
      | .ok (out, used) =>
        (unescape bytes (place + (if cs.head?.any (!isAscii ·) then 6 else 1)) used cs).map (out ++ ·)
      | .error (e, count) => .error (e, place, place + count - 1)
    else (unescape bytes (place + placesOf true [c]) 0 cs).map (c.toNat :: ·)

/-! ## Literals -/

/-- The first half of a surrogate pair in a text, where it stands and how many follow one another there. -/
def firstHalves? (place : Nat) : List Char → Option LiteralError
  | [] => none
  | c :: cs =>
    if isHalf c then some (.halves c place (1 + (cs.takeWhile isHalf).length)) else firstHalves? (place + 1) cs

/-- The value of a string or bytes literal. -/
def literalValue (literal : String) : Except LiteralError LiteralValue :=
  match firstHalves? 0 literal.toList, Lexeme.takeStringStart? literal.toList with
  | some e, _ => .error e
  | none, none => .ok (.text "")
  | none, some (_, p, quote, rest) =>
    let body := normalizeNewlines (rest.take (rest.length - quote.length))
    let line := 1 + (body.filter (· == '\n')).length
    if literal.toList.contains '\x00' then .error .nullChar
    else if p.bytes && body.any (!isAscii ·) then .error .nonAsciiBytes
    else
      match if p.raw then .ok (body.map Char.toNat) else unescape p.bytes 0 0 body with
      | .ok ns => .ok (if p.bytes then .bytes (ns.map Nat.toUInt8) else .text (String.ofList (ns.map charOf)))
      | .error (e, first, last) =>
        .error (if p.bytes then .badByteEscape first line else .badEscape e first last line)

end AttrsUpgrade.Text
