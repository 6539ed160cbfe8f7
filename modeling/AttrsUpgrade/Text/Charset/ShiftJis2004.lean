import AttrsUpgrade.Text.Charset.JisX0213
import AttrsUpgrade.Text.Charset.ShiftJis
/-!
# Shift JIS for JIS X 0213

Japanese in codes of two bytes whose second byte may be a letter, with both planes of JIS X 0213.
-/

namespace AttrsUpgrade.Text

/-- The rows of the second plane in the order in which shifted codes have them. -/
def secondPlaneOrder : List Nat := [1, 8, 3, 4, 5, 12, 13, 14, 15] ++ (List.range 17).map (· + 78)

/-- A row of the second plane in shifted codes, as if it followed the last row of the first. -/
def CodeRow.shiftedSecond (r : CodeRow) : List CodeRow :=
  match r.lead with
  | [_, a] => r.shiftedAs (94 + secondPlaneOrder.idxOf (a.toNat - 0xa0))
  | _ => []

/-- A code that stands for a letter with a mark in shifted codes. -/
def shiftedCluster (p : List UInt8 × List Char) : List (List UInt8 × List Char) :=
  match p.1 with
  | [a, b] =>
    (CodeRow.shifted ⟨[a], b.toNat, [' ']⟩).flatMap fun r => if r.chars.isEmpty then [] else [(r.lead ++ [r.first.toUInt8], p.2)]
  | _ => []

/-- The signs in place of the backslash and the tilde, which stand elsewhere. -/
def romanRows : List CodeRow :=
  [.of [] 0x5c "\u00a5]^_`abcdefghijklmnopqrstuvwxyz\x7b|\x7d\u203e\x7f",
   .of [0x81] 0x5f "\\",
   .of [0x81] 0xb0 "~"]

/-- JIS X 0213 in shifted codes. -/
def shiftedJisX0213 : List CodeRow :=
  .run [] 0xa1 0xff61 63 ::
    ((jisX0213Rows ++ jis0208Rows).flatMap CodeRow.shifted ++ jisX0213SecondRows.flatMap CodeRow.shiftedSecond)

def shiftJis2004 : Charset where
  name := "shift_jis_2004"
  aliases := ["s_jis_2004", "shiftjis2004", "sjis_2004"]
  first := 0x5c
  rows := romanRows ++ shiftedJisX0213
  clusters := jisX0213Clusters.flatMap shiftedCluster

def shiftJisX0213 : Charset where
  name := "shift_jisx0213"
  aliases := ["s_jisx0213", "shiftjisx0213", "sjisx0213"]
  first := 0x5c
  rows :=
    romanRows ++ jisX0213Retracted.flatMap CodeRow.shifted ++ jisX0213SecondRetracted.flatMap CodeRow.shiftedSecond ++
      shiftedJisX0213
  clusters := jisX0213Clusters.flatMap shiftedCluster

end AttrsUpgrade.Text
