import AttrsUpgrade.Text.Charset.Big5
/-!
# Windows code page 950

Traditional Chinese as on Windows.
-/

namespace AttrsUpgrade.Text

/-- What the page has besides Big5 or instead. -/
def windows950Rows : List CodeRow :=
  [.of [0xa2] 0x7e "╭",
   .of [0xa2] 0xa1 "╮╰╯═╞╪╡",
   .of [0xa1] 0x45 "‧",
   .of [0xa1] 0x4e "﹑",
   .of [0xa1] 0xc2 "\u00af",
   .of [0xa1] 0xe3 "～",
   .of [0xa1] 0xf2 "⊕⊙",
   .of [0xa2] 0x41 "∕﹨",
   .of [0xa2] 0x44 "￥",
   .of [0xa2] 0x46 "￠￡",
   .of [0xa3] 0xe1 "€",
   .of [0xf9] 0xd6 "碁銹裏墻恒粧嫺╔╦╗╠╬╣╚╩╝╒╤╕╞╪╡╘╧╛╓╥╖╟╫╢╙╨╜║═╭╮╰╯▓"]

def windows950 : Charset where
  name := "cp950"
  aliases := ["950", "ms950"]
  first := 128
  rows := windows950Rows ++ big5Rows

end AttrsUpgrade.Text
