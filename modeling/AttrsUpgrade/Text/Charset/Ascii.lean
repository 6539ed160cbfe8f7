import AttrsUpgrade.Text.Charset.Basic
/-!
# ASCII

The character set that all others extend.
-/

namespace AttrsUpgrade.Text

def usAscii : Charset where
  name := "ascii"
  aliases := ["646", "ansi_x3.4_1968", "ansi_x3.4_1986", "ansi_x3_4_1968", "cp367", "csascii", "ibm367", "iso646_us",
    "iso_646.irv_1991", "iso_ir_6", "us", "us_ascii"]
  first := 128
  rows := []

end AttrsUpgrade.Text
