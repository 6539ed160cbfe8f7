import AttrsUpgrade.Text.Charset.Gbk
/-!
# GB 18030

GBK with the rest of Unicode in codes of four bytes.
-/

namespace AttrsUpgrade.Text

/-- What GB 18030 has in codes of two bytes besides GBK or instead. -/
def gb18030Rows : List CodeRow :=
  [.run [0xa1] 0x40 0xe4c6 63,
   .run [0xa1] 0x80 0xe505 33,
   .run [0xa2] 0x40 0xe526 63,
   .run [0xa2] 0x80 0xe565 33,
   .of [0xa2] 0xab "\ue766\ue767\ue768\ue769\ue76a\ue76b",
   .of [0xa2] 0xe3 "€\ue76d",
   .of [0xa2] 0xef "\ue76e\ue76f",
   .of [0xa2] 0xfd "\ue770\ue771",
   .run [0xa3] 0x40 0xe586 63,
   .run [0xa3] 0x80 0xe5c5 33,
   .run [0xa4] 0x40 0xe5e6 63,
   .run [0xa4] 0x80 0xe625 33,
   .run [0xa4] 0xf4 0xe772 11,
   .run [0xa5] 0x40 0xe646 63,
   .run [0xa5] 0x80 0xe685 33,
   .run [0xa5] 0xf7 0xe77d 8,
   .run [0xa6] 0x40 0xe6a6 63,
   .run [0xa6] 0x80 0xe6e5 33,
   .run [0xa6] 0xb9 0xe785 8,
   .of [0xa6] 0xd9 "\ue78d\ue78e\ue78f\ue790\ue791\ue792\ue793",
   .of [0xa6] 0xec "\ue794\ue795",
   .of [0xa6] 0xf3 "\ue796",
   .run [0xa6] 0xf6 0xe797 9,
   .run [0xa7] 0x40 0xe706 63,
   .run [0xa7] 0x80 0xe745 33,
   .run [0xa7] 0xc2 0xe7a0 15,
   .run [0xa7] 0xf2 0xe7af 13,
   .run [0xa8] 0x96 0xe7bc 11,
   .of [0xa8] 0xbc "\ue7c7",
   .of [0xa8] 0xbf "ǹ",
   .of [0xa8] 0xc1 "\ue7c9\ue7ca\ue7cb\ue7cc",
   .run [0xa8] 0xea 0xe7cd 21,
   .of [0xa9] 0x58 "\ue7e2",
   .of [0xa9] 0x5b "\ue7e3",
   .of [0xa9] 0x5d "\ue7e4\ue7e5\ue7e6",
   .of [0xa9] 0x89 "〾⿰⿱⿲⿳⿴⿵⿶⿷⿸⿹⿺⿻",
   .run [0xa9] 0x97 0xe7f4 13,
   .run [0xa9] 0xf0 0xe801 15,
   .run [0xaa] 0xa1 0xe000 94,
   .run [0xab] 0xa1 0xe05e 94,
   .run [0xac] 0xa1 0xe0bc 94,
   .run [0xad] 0xa1 0xe11a 94,
   .run [0xae] 0xa1 0xe178 94,
   .run [0xaf] 0xa1 0xe1d6 94,
   .of [0xd7] 0xfa "\ue810\ue811\ue812\ue813\ue814",
   .run [0xf8] 0xa1 0xe234 94,
   .run [0xf9] 0xa1 0xe292 94,
   .run [0xfa] 0xa1 0xe2f0 94,
   .run [0xfb] 0xa1 0xe34e 94,
   .run [0xfc] 0xa1 0xe3ac 94,
   .run [0xfd] 0xa1 0xe40a 94,
   .of [0xfe] 0x50 ("⺁\ue816\ue817\ue818⺄㑳㑇⺈⺋\ue81e㖞㘚㘎⺌⺗㥮㤘\ue826㧏㧟㩳㧐\ue82b\ue82c㭎㱮㳠⺧" ++
     "\ue831\ue832⺪䁖䅟⺮䌷⺳⺶⺷\ue83b䎱䎬⺻䏝䓖䙡䙌\ue843"),
   .of [0xfe] 0x80 ("䜣䜩䝼䞍⻊䥇䥺䥽䦂䦃䦅䦆䦟䦛䦷䦶\ue854\ue855䲣䲟䲠䲡䱷䲢䴓䴔䴕䴖䴗䴘䴙䶮\ue864\ue468" ++
     "\ue469\ue46a\ue46b\ue46c\ue46d\ue46e\ue46f\ue470\ue471\ue472\ue473\ue474\ue475\ue476\ue477\ue478\ue479\ue47a" ++
     "\ue47b\ue47c\ue47d\ue47e\ue47f\ue480\ue481\ue482\ue483\ue484\ue485\ue486\ue487\ue488\ue489\ue48a\ue48b\ue48c" ++
     "\ue48d\ue48e\ue48f\ue490\ue491\ue492\ue493\ue494\ue495\ue496\ue497\ue498\ue499\ue49a\ue49b\ue49c\ue49d\ue49e" ++
     "\ue49f\ue4a0\ue4a1\ue4a2\ue4a3\ue4a4\ue4a5\ue4a6\ue4a7\ue4a8\ue4a9\ue4aa\ue4ab\ue4ac\ue4ad\ue4ae\ue4af\ue4b0" ++
     "\ue4b1\ue4b2\ue4b3\ue4b4\ue4b5\ue4b6\ue4b7\ue4b8\ue4b9\ue4ba\ue4bb\ue4bc\ue4bd\ue4be\ue4bf\ue4c0\ue4c1\ue4c2" ++
     "\ue4c3\ue4c4\ue4c5")]

/-- The codes of four bytes. -/
def gb18030Runs : List FourByteRun :=
  [⟨0, 0x80, 36⟩, ⟨36, 0xa5, 2⟩, ⟨38, 0xa9, 7⟩, ⟨45, 0xb2, 5⟩, ⟨50, 0xb8, 31⟩, ⟨81, 0xd8, 8⟩, ⟨89, 0xe2, 6⟩,
   ⟨95, 0xeb, 1⟩, ⟨96, 0xee, 4⟩, ⟨100, 0xf4, 3⟩, ⟨103, 0xf8, 1⟩, ⟨104, 0xfb, 1⟩, ⟨105, 0xfd, 4⟩,
   ⟨109, 0x102, 17⟩, ⟨126, 0x114, 7⟩, ⟨133, 0x11c, 15⟩, ⟨148, 0x12c, 24⟩, ⟨172, 0x145, 3⟩, ⟨175, 0x149, 4⟩,
   ⟨179, 0x14e, 29⟩, ⟨208, 0x16c, 98⟩, ⟨306, 0x1cf, 1⟩, ⟨307, 0x1d1, 1⟩, ⟨308, 0x1d3, 1⟩, ⟨309, 0x1d5, 1⟩,
   ⟨310, 0x1d7, 1⟩, ⟨311, 0x1d9, 1⟩, ⟨312, 0x1db, 1⟩, ⟨313, 0x1dd, 28⟩, ⟨341, 0x1fa, 87⟩, ⟨428, 0x252, 15⟩,
   ⟨443, 0x262, 101⟩, ⟨544, 0x2c8, 1⟩, ⟨545, 0x2cc, 13⟩, ⟨558, 0x2da, 183⟩, ⟨741, 0x3a2, 1⟩, ⟨742, 0x3aa, 7⟩,
   ⟨749, 0x3c2, 1⟩, ⟨750, 0x3ca, 55⟩, ⟨805, 0x402, 14⟩, ⟨819, 0x450, 1⟩, ⟨820, 0x452, 7102⟩, ⟨7922, 0x2011, 2⟩,
   ⟨7924, 0x2017, 1⟩, ⟨7925, 0x201a, 2⟩, ⟨7927, 0x201e, 7⟩, ⟨7934, 0x2027, 9⟩, ⟨7943, 0x2031, 1⟩,
   ⟨7944, 0x2034, 1⟩, ⟨7945, 0x2036, 5⟩, ⟨7950, 0x203c, 112⟩, ⟨8062, 0x20ad, 86⟩, ⟨8148, 0x2104, 1⟩,
   ⟨8149, 0x2106, 3⟩, ⟨8152, 0x210a, 12⟩, ⟨8164, 0x2117, 10⟩, ⟨8174, 0x2122, 62⟩, ⟨8236, 0x216c, 4⟩,
   ⟨8240, 0x217a, 22⟩, ⟨8262, 0x2194, 2⟩, ⟨8264, 0x219a, 110⟩, ⟨8374, 0x2209, 6⟩, ⟨8380, 0x2210, 1⟩,
   ⟨8381, 0x2212, 3⟩, ⟨8384, 0x2216, 4⟩, ⟨8388, 0x221b, 2⟩, ⟨8390, 0x2221, 2⟩, ⟨8392, 0x2224, 1⟩,
   ⟨8393, 0x2226, 1⟩, ⟨8394, 0x222c, 2⟩, ⟨8396, 0x222f, 5⟩, ⟨8401, 0x2238, 5⟩, ⟨8406, 0x223e, 10⟩,
   ⟨8416, 0x2249, 3⟩, ⟨8419, 0x224d, 5⟩, ⟨8424, 0x2253, 13⟩, ⟨8437, 0x2262, 2⟩, ⟨8439, 0x2268, 6⟩,
   ⟨8445, 0x2270, 37⟩, ⟨8482, 0x2296, 3⟩, ⟨8485, 0x229a, 11⟩, ⟨8496, 0x22a6, 25⟩, ⟨8521, 0x22c0, 82⟩,
   ⟨8603, 0x2313, 333⟩, ⟨8936, 0x246a, 10⟩, ⟨8946, 0x249c, 100⟩, ⟨9046, 0x254c, 4⟩, ⟨9050, 0x2574, 13⟩,
   ⟨9063, 0x2590, 3⟩, ⟨9066, 0x2596, 10⟩, ⟨9076, 0x25a2, 16⟩, ⟨9092, 0x25b4, 8⟩, ⟨9100, 0x25be, 8⟩,
   ⟨9108, 0x25c8, 3⟩, ⟨9111, 0x25cc, 2⟩, ⟨9113, 0x25d0, 18⟩, ⟨9131, 0x25e6, 31⟩, ⟨9162, 0x2607, 2⟩,
   ⟨9164, 0x260a, 54⟩, ⟨9218, 0x2641, 1⟩, ⟨9219, 0x2643, 2110⟩, ⟨11329, 0x2e82, 2⟩, ⟨11331, 0x2e85, 3⟩,
   ⟨11334, 0x2e89, 2⟩, ⟨11336, 0x2e8d, 10⟩, ⟨11346, 0x2e98, 15⟩, ⟨11361, 0x2ea8, 2⟩, ⟨11363, 0x2eab, 3⟩,
   ⟨11366, 0x2eaf, 4⟩, ⟨11370, 0x2eb4, 2⟩, ⟨11372, 0x2eb8, 3⟩, ⟨11375, 0x2ebc, 14⟩, ⟨11389, 0x2ecb, 293⟩,
   ⟨11682, 0x2ffc, 4⟩, ⟨11686, 0x3004, 1⟩, ⟨11687, 0x3018, 5⟩, ⟨11692, 0x301f, 2⟩, ⟨11694, 0x302a, 20⟩,
   ⟨11714, 0x303f, 2⟩, ⟨11716, 0x3094, 7⟩, ⟨11723, 0x309f, 2⟩, ⟨11725, 0x30f7, 5⟩, ⟨11730, 0x30ff, 6⟩,
   ⟨11736, 0x312a, 246⟩, ⟨11982, 0x322a, 7⟩, ⟨11989, 0x3232, 113⟩, ⟨12102, 0x32a4, 234⟩, ⟨12336, 0x3390, 12⟩,
   ⟨12348, 0x339f, 2⟩, ⟨12350, 0x33a2, 34⟩, ⟨12384, 0x33c5, 9⟩, ⟨12393, 0x33cf, 2⟩, ⟨12395, 0x33d3, 2⟩,
   ⟨12397, 0x33d6, 113⟩, ⟨12510, 0x3448, 43⟩, ⟨12553, 0x3474, 298⟩, ⟨12851, 0x359f, 111⟩, ⟨12962, 0x360f, 11⟩,
   ⟨12973, 0x361b, 765⟩, ⟨13738, 0x3919, 85⟩, ⟨13823, 0x396f, 96⟩, ⟨13919, 0x39d1, 14⟩, ⟨13933, 0x39e0, 147⟩,
   ⟨14080, 0x3a74, 218⟩, ⟨14298, 0x3b4f, 287⟩, ⟨14585, 0x3c6f, 113⟩, ⟨14698, 0x3ce1, 885⟩,
   ⟨15583, 0x4057, 264⟩, ⟨15847, 0x4160, 471⟩, ⟨16318, 0x4338, 116⟩, ⟨16434, 0x43ad, 4⟩, ⟨16438, 0x43b2, 43⟩,
   ⟨16481, 0x43de, 248⟩, ⟨16729, 0x44d7, 373⟩, ⟨17102, 0x464d, 20⟩, ⟨17122, 0x4662, 193⟩, ⟨17315, 0x4724, 5⟩,
   ⟨17320, 0x472a, 82⟩, ⟨17402, 0x477d, 16⟩, ⟨17418, 0x478e, 441⟩, ⟨17859, 0x4948, 50⟩, ⟨17909, 0x497b, 2⟩,
   ⟨17911, 0x497e, 4⟩, ⟨17915, 0x4984, 1⟩, ⟨17916, 0x4987, 20⟩, ⟨17936, 0x499c, 3⟩, ⟨17939, 0x49a0, 22⟩,
   ⟨17961, 0x49b8, 703⟩, ⟨18664, 0x4c78, 39⟩, ⟨18703, 0x4ca4, 111⟩, ⟨18814, 0x4d1a, 148⟩, ⟨18962, 0x4daf, 81⟩,
   ⟨19043, 0x9fa6, 14426⟩, ⟨33469, 0xe76c, 1⟩, ⟨33470, 0xe7c8, 1⟩, ⟨33471, 0xe7e7, 13⟩, ⟨33484, 0xe815, 1⟩,
   ⟨33485, 0xe819, 5⟩, ⟨33490, 0xe81f, 7⟩, ⟨33497, 0xe827, 4⟩, ⟨33501, 0xe82d, 4⟩, ⟨33505, 0xe833, 8⟩,
   ⟨33513, 0xe83c, 7⟩, ⟨33520, 0xe844, 16⟩, ⟨33536, 0xe856, 14⟩, ⟨33550, 0xe865, 4295⟩, ⟨37845, 0xf92d, 76⟩,
   ⟨37921, 0xf97a, 27⟩, ⟨37948, 0xf996, 81⟩, ⟨38029, 0xf9e8, 9⟩, ⟨38038, 0xf9f2, 26⟩, ⟨38064, 0xfa10, 1⟩,
   ⟨38065, 0xfa12, 1⟩, ⟨38066, 0xfa15, 3⟩, ⟨38069, 0xfa19, 6⟩, ⟨38075, 0xfa22, 1⟩, ⟨38076, 0xfa25, 2⟩,
   ⟨38078, 0xfa2a, 1030⟩, ⟨39108, 0xfe32, 1⟩, ⟨39109, 0xfe45, 4⟩, ⟨39113, 0xfe53, 1⟩, ⟨39114, 0xfe58, 1⟩,
   ⟨39115, 0xfe67, 1⟩, ⟨39116, 0xfe6c, 149⟩, ⟨39265, 0xff5f, 129⟩, ⟨39394, 0xffe6, 26⟩,
   ⟨189000, 0x10000, 1048576⟩]

def gb18030 : Charset where
  name := "gb18030"
  aliases := ["gb18030_2000"]
  first := 128
  rows := gb18030Rows ++ gbkRows ++ gb2312Rows
  fourByteRuns := gb18030Runs

end AttrsUpgrade.Text
