import AttrsUpgrade.Text.CharName.Alias
import AttrsUpgrade.Text.CharName.From0000
import AttrsUpgrade.Text.CharName.From0900
import AttrsUpgrade.Text.CharName.From1400
import AttrsUpgrade.Text.CharName.From2000
import AttrsUpgrade.Text.CharName.From3000
import AttrsUpgrade.Text.CharName.From10000
import AttrsUpgrade.Text.CharName.From12000
import AttrsUpgrade.Text.CharName.From13000
import AttrsUpgrade.Text.CharName.From16000
import AttrsUpgrade.Text.CharName.From1D000
import AttrsUpgrade.Text.CharName.From1F000
import AttrsUpgrade.Text.Identifier
/-!
# Names of characters

`charNamed?` gives the character of a name. Ideographs are named by their number and Hangul syllables by their sound, in
capitals only; all other names are listed and are read without regard to case.

The lists are in a short form: a run gives the names of consecutive characters, and every name as a small letter, which counts
the characters taken from the name before it (`a` for none), and the rest of the name.
-/

namespace AttrsUpgrade.Text

/-! ## Listed names -/

/-- The number of a name in a run of which `current` is the beginning of the name with number `i`. -/
def nameIndex? (name : Array Char) (i : Nat) (current : Array Char) : List Char → Option Nat
  | [] => if current == name then some i else none
  | c :: cs =>
    if c.isLower then
      if current == name then some i else nameIndex? name (i + 1) (current.take (c.toNat - 'a'.toNat)) cs
    else nameIndex? name i (current.push c) cs

/-- All lists of names. -/
def nameRuns : List (List (Nat × String)) :=
  [nameRuns0000, nameRuns0900, nameRuns1400, nameRuns2000, nameRuns3000, nameRuns10000, nameRuns12000, nameRuns13000,
    nameRuns16000, nameRuns1D000, nameRuns1F000, aliasRuns]

/-- The character of a listed name, in capitals. -/
def listedChar? (name : List Char) : Option Nat :=
  nameRuns.findSome? fun runs => runs.findSome? fun (first, names) =>
    (nameIndex? name.toArray 0 #[] (names.toList.drop 1)).map (first + ·)

/-! ## Names by number -/

/-- A number in capital hexadecimal digits. -/
def capitalHex? (cs : List Char) : Option Nat :=
  if !cs.isEmpty && cs.all fun c => c.isDigit || ('A' ≤ c && c ≤ 'F') then
    some (cs.foldl (fun n c => n * 16 + (if c.isDigit then c.toNat - '0'.toNat else c.toNat - 'A'.toNat + 10)) 0)
  else none

/-- What follows a front. -/
def afterFront? (front : String) (cs : List Char) : Option (List Char) :=
  if front.toList.isPrefixOf cs then some (cs.drop front.length) else none

def ideographRanges : List (Nat × Nat) :=
  [(0x3400, 0x4dbf), (0x4e00, 0x9fff), (0x20000, 0x2a6df), (0x2a700, 0x2b738), (0x2b740, 0x2b81d), (0x2b820, 0x2cea1),
    (0x2ceb0, 0x2ebe0), (0x30000, 0x3134a)]

/-- The ideograph whose number is spelled in four or five digits. -/
def ideograph? (digits : List Char) : Option Nat :=
  if digits.length = 4 || digits.length = 5 then (capitalHex? digits).filter (inRanges · ideographRanges) else none

/-- Other characters that are named by their number: the front of the name and the ranges of the numbers. -/
def numberedRanges : List (String × List (Nat × Nat)) :=
  [("CJK COMPATIBILITY IDEOGRAPH-", [(0xf900, 0xfa6d), (0xfa70, 0xfad9), (0x2f800, 0x2fa1d)]),
    ("NUSHU CHARACTER-", [(0x1b170, 0x1b2fb)]),
    ("KHITAN SMALL SCRIPT CHARACTER-", [(0x18b00, 0x18cd5)])]

/-- The character whose number ends its name, in capitals and without needless zeros. -/
def numberedChar? (name : List Char) : Option Nat :=
  numberedRanges.findSome? fun (front, ranges) =>
    (afterFront? front name).bind fun digits =>
      if digits.head? = some '0' then none else (capitalHex? digits).filter (inRanges · ranges)

/-! ## Hangul syllables -/

def initialSounds : List String :=
  ["G", "GG", "N", "D", "DD", "R", "M", "B", "BB", "S", "SS", "", "J", "JJ", "C", "K", "T", "P", "H"]

def vowelSounds : List String :=
  ["A", "AE", "YA", "YAE", "EO", "E", "YEO", "YE", "O", "WA", "WAE", "OE", "YO", "U", "WEO", "WE", "WI", "YU", "EU", "YI", "I"]

def finalSounds : List String :=
  ["", "G", "GG", "GS", "N", "NJ", "NH", "D", "L", "LG", "LM", "LB", "LS", "LT", "LP", "LH", "M", "B", "BS", "S", "SS", "NG",
    "J", "C", "K", "T", "P", "H"]

/-- The longest of some sounds at the front, by its number, and what follows it. -/
def takeSound? (sounds : List String) (cs : List Char) : Option (Nat × List Char) :=
  let best := sounds.zipIdx.foldl (fun (best : Option (String × Nat)) (sound, i) =>
    if sound.toList.isPrefixOf cs && best.all (·.1.length < sound.length) then some (sound, i) else best) none
  best.map fun (sound, i) => (i, cs.drop sound.length)

/-- The syllable that sounds so. -/
def syllable? (sound : List Char) : Option Nat := do
  let (initial, rest) ← takeSound? initialSounds sound
  let (vowel, rest) ← takeSound? vowelSounds rest
  let (final, rest) ← takeSound? finalSounds rest
  if rest.isEmpty then some (0xac00 + (initial * 21 + vowel) * 28 + final) else none

/-- The code point of the character with a name. -/
def charNamed? (name : List Char) : Option Nat :=
  match afterFront? "HANGUL SYLLABLE " name, afterFront? "CJK UNIFIED IDEOGRAPH-" name with
  | some sound, _ => syllable? sound
  | none, some digits => ideograph? digits
  | none, none =>
    let capitals := name.map Char.toUpper
    (numberedChar? capitals).or (listedChar? capitals)

end AttrsUpgrade.Text
