import AttrsUpgrade.Text.Charset.Jis0208
/-!
# Shift JIS

Japanese in codes of two bytes whose second byte may be a letter, beside the narrow katakana in one byte.
-/

namespace AttrsUpgrade.Text

/-- A row of JIS X 0208 in shifted codes, as the row of the given number. Two rows share a first byte: of the second bytes the
one with the even number takes those below 0x9f without 0x7f, the other one those from 0x9f on. -/
def CodeRow.shiftedAs (r : CodeRow) (number : Nat) : List CodeRow :=
  let cell := r.first - 0xa1
  let lead := [((if number < 62 then 0x81 else 0xc1) + number / 2).toUInt8]
  if number % 2 = 1 then [⟨lead, 0x9f + cell, r.chars⟩]
  else [⟨lead, 0x40 + cell, r.chars.take (63 - cell)⟩, ⟨lead, 0x80 + (cell - 63), r.chars.drop (63 - cell)⟩]

/-- A row of JIS X 0208 in shifted codes. -/
def CodeRow.shifted (r : CodeRow) : List CodeRow :=
  match r.lead with
  | [a] => r.shiftedAs (a.toNat - 0xa1)
  | _ => []

/-- The narrow katakana and JIS X 0208 in shifted codes. -/
def shiftJisRows : List CodeRow := .run [] 0xa1 0xff61 63 :: jis0208Rows.flatMap CodeRow.shifted

def shiftJis : Charset where
  name := "shift_jis"
  aliases := ["csshiftjis", "s_jis", "shiftjis", "sjis", "x_mac_japanese"]
  first := 128
  rows := shiftJisRows

end AttrsUpgrade.Text
