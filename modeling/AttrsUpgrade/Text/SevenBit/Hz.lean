import AttrsUpgrade.Text.Charset.Gb2312
/-!
# HZ

GB 2312 in bytes below 128: between `~` with an opening and `~` with a closing brace stand codes of two bytes, and `~~` is the
tilde itself.
-/

namespace AttrsUpgrade.Text.Hz

/-- The character of a code of two bytes. -/
def pairChar? (a b : UInt8) : Option Char :=
  ((gb2312.rowChar? [a + 128, b + 128]).map Prod.fst).filter (· != '\ufffd')

/-- The fault in bytes that start with no code. -/
def faultAt (place : Nat) (bytes : List UInt8) : DecodeError :=
  ⟨"hz", place, bytes.take 1, (if bytes.length = 1 then "incomplete" else "illegal") ++ " multibyte sequence"⟩

/-- The text of some bytes that stand at a place; `wide` tells that codes have two bytes there. -/
def decode (place : Nat) (wide : Bool) : List UInt8 → Except DecodeError (List Char)
  | [] => .ok []
  | [a] => if a = 126 || 128 ≤ a || wide then .error (faultAt place [a]) else .ok [Char.ofNat a.toNat]
  | a :: b :: bs =>
    if a = 126 then
      if b = 126 && !wide then (decode (place + 2) wide bs).map ('~' :: ·)
      else if b = 123 && !wide then decode (place + 2) true bs
      else if b = 10 && !wide then decode (place + 2) wide bs
      else if b = 125 && wide then decode (place + 2) false bs
      else .error (faultAt place (a :: b :: bs))
    else if 128 ≤ a then .error (faultAt place (a :: b :: bs))
    else if wide then
      match pairChar? a b with
      | some c => (decode (place + 2) wide bs).map (c :: ·)
      | none => .error (faultAt place (a :: b :: bs))
    else (decode (place + 1) wide (b :: bs)).map (Char.ofNat a.toNat :: ·)

/-- The bytes of a text; `wide` tells that codes have two bytes. -/
def encode? (wide : Bool) : List Char → Option (List UInt8)
  | [] => some (if wide then [126, 125] else [])
  | c :: cs =>
    if c.toNat < 128 then
      (encode? false cs).map fun bs =>
        (if wide then [126, 125] else []) ++ (if c = '~' then [126, 126] else [c.toNat.toUInt8]) ++ bs
    else
      (gb2312.ownCode? c).bind fun code =>
        (encode? true cs).map fun bs => (if wide then [] else [126, 123]) ++ code.map (· - 128) ++ bs

end AttrsUpgrade.Text.Hz
