import AttrsUpgrade.Text.Charset.ShiftJis
/-!
# Windows code page 932

Japanese as on Windows.
-/

namespace AttrsUpgrade.Text

/-- What the page has besides Shift JIS or instead. -/
def windows932Rows : List CodeRow :=
  [.of [0x81] 0xbe "∪∩",
   .of [0x81] 0xda "∠⊥",
   .of [0x81] 0xdf "≡≒",
   .of [0x81] 0xe3 "√",
   .of [0x81] 0xe6 "∵∫",
   .of [] 0x80 "\u0080",
   .of [0x81] 0x60 "～∥",
   .of [0x81] 0x7c "－",
   .of [0x81] 0x91 "￠￡",
   .of [0x81] 0xca "￢",
   .of [0x87] 0x40 "①②③④⑤⑥⑦⑧⑨⑩⑪⑫⑬⑭⑮⑯⑰⑱⑲⑳ⅠⅡⅢⅣⅤⅥⅦⅧⅨⅩ",
   .of [0x87] 0x5f "㍉㌔㌢㍍㌘㌧㌃㌶㍑㍗㌍㌦㌣㌫㍊㌻㎜㎝㎞㎎㎏㏄㎡",
   .of [0x87] 0x7e "㍻",
   .of [0x87] 0x80 "〝〟№㏍℡㊤㊥㊦㊧㊨㈱㈲㈹㍾㍽㍼≒≡∫∮∑√⊥∠∟⊿∵∩∪",
   .of [] 0xa0 "\uf8f0",
   .of [0xed] 0x40 ("纊褜鍈銈蓜俉炻昱棈鋹曻彅丨仡仼伀伃伹佖侒侊侚侔俍偀倢俿倞偆偰偂傔僴僘兊兤冝冾凬刕劜劦勀勛" ++
     "匀匇匤卲厓厲叝﨎咜咊咩哿喆坙坥垬埈埇﨏"),
   .of [0xed] 0x80 ("\ufa10增墲夋奓奛奝奣妤妺孖寀甯寘寬尞岦岺峵崧嵓﨑嵂嵭嶸嶹巐弡弴彧德忞恝悅悊惞惕愠惲愑愷愰" ++
     "憘戓抦揵摠撝擎敎昀昕昻昉昮昞昤晥晗晙\ufa12晳暙暠暲暿曺朎\uf929杦枻桒柀栁桄棏﨓楨﨔榘槢樰橫橆橳橾櫢櫤毖氿汜沆" ++
     "汯泚洄涇浯涖涬淏淸淲淼渹湜渧渼溿澈澵濵瀅瀇瀨炅炫焏焄煜煆煇\ufa15燁燾犱"),
   .of [0xee] 0x40 ("犾猤\ufa16獷玽珉珖珣珒琇珵琦琪琩琮瑢璉璟甁畯皂皜皞皛皦\ufa17睆劯砡硎硤硺礰\ufa18\ufa19" ++
     "\ufa1a禔\ufa1b禛竑竧\ufa1c竫箞\ufa1d絈絜綷綠緖繒罇羡\ufa1e茁荢荿菇菶葈蒴蕓蕙"),
   .of [0xee] 0x80 ("蕫﨟薰\ufa20﨡蠇裵訒訷詹誧誾諟\ufa22諶譓譿賰賴贒赶﨣軏﨤\ufa25遧郞\ufa26鄕鄧釚釗釞釭釮釤" ++
     "釥鈆鈐鈊鈺鉀鈼鉎鉙鉑鈹鉧銧鉷鉸鋧鋗鋙鋐﨧鋕鋠鋓錥錡鋻﨨錞鋿錝錂鍰鍗鎤鏆鏞鏸鐱鑅鑈閒\uf9dc﨩隝隯霳霻靃靍靏靑靕" ++
     "顗顥\ufa2a\ufa2b餧\ufa2c馞驎髙髜魵魲鮏鮱鮻鰀鵰鵫\ufa2d鸙黑"),
   .of [0xee] 0xef "ⅰⅱⅲⅳⅴⅵⅶⅷⅸⅹ￢￤＇＂",
   .run [0xf0] 0x40 0xe000 63,
   .run [0xf0] 0x80 0xe03f 125,
   .run [0xf1] 0x40 0xe0bc 63,
   .run [0xf1] 0x80 0xe0fb 125,
   .run [0xf2] 0x40 0xe178 63,
   .run [0xf2] 0x80 0xe1b7 125,
   .run [0xf3] 0x40 0xe234 63,
   .run [0xf3] 0x80 0xe273 125,
   .run [0xf4] 0x40 0xe2f0 63,
   .run [0xf4] 0x80 0xe32f 125,
   .run [0xf5] 0x40 0xe3ac 63,
   .run [0xf5] 0x80 0xe3eb 125,
   .run [0xf6] 0x40 0xe468 63,
   .run [0xf6] 0x80 0xe4a7 125,
   .run [0xf7] 0x40 0xe524 63,
   .run [0xf7] 0x80 0xe563 125,
   .run [0xf8] 0x40 0xe5e0 63,
   .run [0xf8] 0x80 0xe61f 125,
   .run [0xf9] 0x40 0xe69c 63,
   .run [0xf9] 0x80 0xe6db 125,
   .of [0xfa] 0x40 ("ⅰⅱⅲⅳⅴⅵⅶⅷⅸⅹⅠⅡⅢⅣⅤⅥⅦⅧⅨⅩ￢￤＇＂㈱№℡∵纊褜鍈銈蓜俉炻昱棈鋹曻彅丨仡仼伀" ++
     "伃伹佖侒侊侚侔俍偀倢俿倞偆偰偂傔僴僘兊"),
   .of [0xfa] 0x80 ("兤冝冾凬刕劜劦勀勛匀匇匤卲厓厲叝﨎咜咊咩哿喆坙坥垬埈埇﨏\ufa10增墲夋奓奛奝奣妤妺孖寀甯寘" ++
     "寬尞岦岺峵崧嵓﨑嵂嵭嶸嶹巐弡弴彧德忞恝悅悊惞惕愠惲愑愷愰憘戓抦揵摠撝擎敎昀昕昻昉昮昞昤晥晗晙\ufa12晳暙暠暲暿" ++
     "曺朎\uf929杦枻桒柀栁桄棏﨓楨﨔榘槢樰橫橆橳橾櫢櫤毖氿汜沆汯泚洄涇浯"),
   .of [0xfb] 0x40 ("涖涬淏淸淲淼渹湜渧渼溿澈澵濵瀅瀇瀨炅炫焏焄煜煆煇\ufa15燁燾犱犾猤\ufa16獷玽珉珖珣珒琇珵琦" ++
     "琪琩琮瑢璉璟甁畯皂皜皞皛皦\ufa17睆劯砡硎硤硺礰\ufa18\ufa19"),
   .of [0xfb] 0x80 ("\ufa1a禔\ufa1b禛竑竧\ufa1c竫箞\ufa1d絈絜綷綠緖繒罇羡\ufa1e茁荢荿菇菶葈蒴蕓蕙蕫﨟薰\ufa20" ++
     "﨡蠇裵訒訷詹誧誾諟\ufa22諶譓譿賰賴贒赶﨣軏﨤\ufa25遧郞\ufa26鄕鄧釚釗釞釭釮釤釥鈆鈐鈊鈺鉀鈼鉎鉙鉑鈹鉧銧鉷鉸鋧" ++
     "鋗鋙鋐﨧鋕鋠鋓錥錡鋻﨨錞鋿錝錂鍰鍗鎤鏆鏞鏸鐱鑅鑈閒\uf9dc﨩隝隯霳霻靃靍靏靑靕顗顥\ufa2a\ufa2b餧\ufa2c馞驎髙"),
   .of [0xfc] 0x40 "髜魵魲鮏鮱鮻鰀鵰鵫\ufa2d鸙黑",
   .of [] 0xfd "\uf8f1\uf8f2\uf8f3"]

def windows932 : Charset where
  name := "cp932"
  aliases := ["932", "ms932", "ms_kanji", "mskanji"]
  first := 128
  rows := windows932Rows ++ shiftJisRows

end AttrsUpgrade.Text
