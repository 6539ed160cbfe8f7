import AttrsUpgrade.Text.Charset.Ascii
import AttrsUpgrade.Text.Charset.Dos
import AttrsUpgrade.Text.Charset.Gb18030
import AttrsUpgrade.Text.Charset.Hkscs
import AttrsUpgrade.Text.Charset.Iso8859
import AttrsUpgrade.Text.Charset.Johab
import AttrsUpgrade.Text.Charset.Macintosh
import AttrsUpgrade.Text.Charset.Regional
import AttrsUpgrade.Text.Charset.ShiftJis2004
import AttrsUpgrade.Text.Charset.Windows
import AttrsUpgrade.Text.Charset.Windows932
import AttrsUpgrade.Text.Charset.Windows949
import AttrsUpgrade.Text.Charset.Windows950
/-!
# The known character sets

All character sets of the library, each of which knows the names it goes by.
-/

namespace AttrsUpgrade.Text

/-- All character sets that are known. -/
def charsets : List Charset :=
  [windows874, windows1250, windows1251, windows1252, windows1253, windows1254, windows1255, windows1256,
    windows1257, windows1258, dos437, dos720, dos737, dos775, dos850, dos852, dos855, dos856, dos857, dos858,
    dos860, dos861, dos862, dos863, dos864, dos865, dos866, dos869, dos1125, iso8859N2, iso8859N3, iso8859N4,
    iso8859N5, iso8859N6, iso8859N7, iso8859N8, iso8859N9, iso8859N10, iso8859N11, iso8859N13, iso8859N14,
    iso8859N15, iso8859N16, macArabic, macCroatian, macCyrillic, macFarsi, macGreek, macIceland, macLatin2,
    macRoman, macRomanian, macTurkish, urdu1006, hpRoman8, koi8R, koi8T, koi8U, kz1048, palmOs, ptcp154,
    tis620, gb2312, gbk, gb18030, big5, windows950, hkscs, eucKr, windows949, eucJp, shiftJis, windows932,
    johab, eucJis2004, eucJisX0213, shiftJis2004, shiftJisX0213, usAscii]

end AttrsUpgrade.Text
