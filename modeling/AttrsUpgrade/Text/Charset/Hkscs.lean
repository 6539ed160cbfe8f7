import AttrsUpgrade.Text.Charset.Big5
/-!
# Big5 for Hong Kong

Traditional Chinese with the supplementary characters of Hong Kong.
-/

namespace AttrsUpgrade.Text

/-- What the set has besides Big5 or instead. -/
def hkscsRows : List CodeRow :=
  [.of [0x87] 0x40 "䏰䰲䘃䖦䕸𧉧䵷䖳𧲱䳢𧳅㮕䜶䝄䱇䱀𤊿𣘗𧍒𦺋𧃒䱗𪍑䝏䗚䲅𧱬䴇䪤䚡𦬣爥𥩔𡩣𣸆𣽡晍囻",
   .of [0x87] 0x67 "綕夝𨮹㷴霴𧯯寛𡵞媤㘥𩺰嫑宷峼杮薓𩥅瑡璝",
   .of [0x88] 0x40 "㇀㇁㇂㇃㇄𠄌㇅𠃑𠃍㇆㇇𠃋𡿨㇈𠃊㇉㇊㇋㇌𠄎㇍㇎ĀÁǍÀĒÉĚÈŌÓǑÒ",
   .of [0x88] 0x63 "Ế",
   .of [0x88] 0x65 "ỀÊāáǎàɑēéěèīíǐìōóǒòūúǔùǖǘǚ",
   .of [0x88] 0xa1 "ǜü",
   .of [0x88] 0xa4 "ế",
   .of [0x88] 0xa6 "ềêɡ⏚⏛",
   .of [0x89] 0x40 "𪎩𡅅",
   .of [0x89] 0x43 "攊",
   .of [0x89] 0x46 "丽滝鵎釟",
   .of [0x89] 0x4c ("𧜵撑会伨侨兖兴农凤务动医华发变团声处备夲头学实実岚庆总斉柾栄桥济炼电纤纬纺织经统缆缷艺苏" ++
     "药视设询车轧轮"),
   .of [0x89] 0xa1 "琑糼緍楆竉刧",
   .of [0x89] 0xab "醌碸酞肼",
   .of [0x89] 0xb0 "贋胶𠧧",
   .of [0x89] 0xb5 "肟黇䳍鷉鸌䰾𩷶𧀎鸊𪄳㗁",
   .of [0x89] 0xc1 "溚舾甙",
   .of [0x89] 0xc5 ("䤑马骏龙禇𨑬𡷊𠗐𢫦两亁亀亇亿仫伷㑌侽㹈倃傈㑽㒓㒥円夅凛凼刅争剹劐匧㗇厩㕑厰㕓参吣㕭㕲㚁咓" ++
     "咣咴咹哐哯唘唣唨㖘唿㖥㖿嗗㗅"),
   .of [0x8a] 0x40 "𧶄唥",
   .of [0x8a] 0x43 "𠱂𠴕𥄫喐𢳆㧬𠍁蹆𤶸𩓥䁓𨂾睺𢰸㨴䟕𨅝𦧲𤷪擝𠵼𠾴𠳕𡃴撍蹾𠺖𠰋𠽤𢲩𨉖𤓓",
   .of [0x8a] 0x64 "𠵆𩩍𨃩䟴𤺧𢳂骲㩧𩗴㿭㔆𥋇𩟔𧣈𢵄鵮頕",
   .of [0x8a] 0x76 "䏙𦂥撴哣𢵌𢯊𡁷㧻𡁯",
   .of [0x8a] 0xa1 "𦛚𦜖𧦠擪𥁒𠱃蹨𢆡𨭌𠜱",
   .of [0x8a] 0xac "䠋𠆩㿺塳𢶍",
   .of [0x8a] 0xb2 "𤗈𠓼𦂗𠽌𠶖啹䂻䎺",
   .of [0x8a] 0xbb "䪴𢩦𡂝膪飵𠶜捹㧾𢝵跀嚡摼㹃",
   .of [0x8a] 0xc9 "𪘁𠸉𢫏𢳉",
   .of [0x8a] 0xce "𡃈𣧂㦒㨆𨊛㕸𥹉𢃇噒𠼱𢲲𩜠㒼氽𤸻",
   .of [0x8a] 0xdf "𧕴𢺋𢈈𪙛𨳍𠹺𠰴𦠜羓𡃏𢠃𢤹㗻𥇣𠺌𠾍𠺪㾓𠼰𠵇𡅏𠹌",
   .of [0x8a] 0xf6 "𠺫𠮩𠵈𡃀𡄽㿹𢚖搲𠾭",
   .of [0x8b] 0x40 "𣏴𧘹𢯎𠵾𠵿𢱑𢱕㨘𠺘𡃇𠼮𪘲𦭐𨳒𨶙𨳊閪哌苄喹",
   .of [0x8b] 0x55 "𩻃鰦骶𧝞𢷮煀腭胬尜𦕲脴㞗卟𨂽醶𠻺𠸏𠹷𠻻㗝𤷫㘉𠳖嚯𢞵𡃉𠸐𠹸𡁸𡅈𨈇𡑕𠹹𤹐𢶤婔𡀝𡀞𡃵𡃶垜𠸑",
   .of [0x8b] 0xa1 ("𧚔𨋍𠾵𠹻𥅾㜃𠾶𡆀𥋘𪊽𤧚𡠺𤅷𨉼墙剨㘚𥜽箲孨䠀䬬鼧䧧鰟鮍𥭴𣄽嗻㗲嚉丨夂𡯁屮靑𠂆乛亻㔾尣彑忄㣺" ++
     "扌攵歺氵氺灬爫丬犭𤣩罒礻糹罓𦉪㓁"),
   .of [0x8b] 0xde "𦍋耂肀𦘒𦥑卝衤见𧢲讠贝钅镸长门𨸏韦页风飞饣𩠐鱼鸟黄歯\uf907丷𠂇阝户钢",
   .of [0x8c] 0x40 ("倻淾𩱳龦㷉袏𤅎灷峵䬠𥇍㕙𥴰愢𨨲辧釶熑朙玺𣊁𪄇㲋𡦀䬐磤琂冮𨜏䀉橣𪊺䈣蘏𠩯稪𩥇𨫪靕灍匤𢁾鏴盙" ++
     "𨧣龧矝亣俰傼丯众龨吴綋墒壐𡶶庒庙忂𢜒斋"),
   .of [0x8c] 0xa1 "𣏹椙橃𣱣泿",
   .of [0x8c] 0xa7 "爀𤔅玌㻛𤨓嬕璹讃𥲤𥚕窓篬糃繬苸薗龩袐龪躹龫迏蕟駠鈡龬𨶹𡐿䁱䊢娚",
   .of [0x8c] 0xc9 "顨杫䉶圽",
   .of [0x8c] 0xce "藖𤥻芿𧄍䲁𦵴嵻𦬕𦾾龭龮宖龯曧繛湗秊㶈䓃𣉖𢞖䎚䔶",
   .of [0x8c] 0xe6 "峕𣬚諹屸㴒𣕑嵸龲煗䕘𤃬𡸣䱷㥸㑊𠆤𦱁諌侴𠈹妿腬顖𩣺弻",
   .of [0x8d] 0x40 "𠮟",
   .of [0x8d] 0x42 ("𢇁𨥭䄂䚻𩁹㼇龳𪆵䃸㟖䛷𦱆䅼𨚲𧏿䕭㣔𥒚䕡䔛䶉䱻䵶䗪㿈𤬏㙡䓞䒽䇭崾嵈嵖㷼㠏嶤嶹㠠㠸幂庽弥徃㤈" ++
     "㤔㤿㥍惗愽峥㦉憷憹懏㦸戬抐拥挘㧸嚱"),
   .of [0x8d] 0xa1 ("㨃揢揻搇摚㩋擀崕嘡龟㪗斆㪽旿晓㫲暒㬢朖㭂枤栀㭘桊梄㭲㭱㭻椉楃牜楤榟榅㮼槖㯝橥橴橱檂㯬檙㯲" ++
     "檫檵櫔櫶殁毁毪汵沪㳋洂洆洦涁㳯涤涱渕渘温溆𨧀溻滢滚齿滨滩漤漴㵆𣽁澁澾㵪㵵熷岙㶊瀬㶑灐灔灯灿炉𠌥䏁㗱𠻘"),
   .of [0x8e] 0x40 "𣻗垾𦻓焾𥟠㙎榢𨯩孴穉𥣡𩓙穥穽𥦬窻窰竂竃燑𦒍䇊竚竝竪䇯咲𥰁笋筕笩𥌎𥳾箢筯莜𥮴𦱿篐萡箒",
   .of [0x8e] 0x6a "𥴠㶭𥱥蒒篺",
   .of [0x8e] 0x70 "簵𥳁籄粃𤢂粦晽𤕸糉糇糦籴糳糵",
   .of [0x8e] 0xa1 "繧䔝𦹄絝𦻖璍綉綫焵綳",
   .of [0x8e] 0xac "𤁗𦀩緤㴓緵𡟹緥𨍭",
   .of [0x8e] 0xb5 "𦄡𦅚繮纒䌫鑬縧罀罁罇礶𦋐駡羗𦍑羣𡙡𠁨䕜𣝦䔃𨌺翺𦒉",
   .of [0x8e] 0xce "耈耝",
   .of [0x8e] 0xd1 "耯𪂇𦳃耻耼聡𢜔䦉𦘦𣷣𦛨朥肧𨩈脇脚墰𢛶汿𦒘𤾸擧𡒊舘𡡞橓𤩥𤪕䑺舩𠬍𦩒𣵾俹𡓽蓢荢𦬊𤦧𣔰𡝳𣷸芪椛芳䇛",
   .of [0x8f] 0x40 "蕋苐茚𠸖𡞴㛁𣅽𣕚艻苢茘𣺋𦶣𦬅𦮗𣗎㶿茝嗬莅䔋𦶥莬",
   .of [0x8f] 0x58 "菓㑾𦻔橗蕚㒖𦹂𢻯葘𥯤葱㷓䓤檧葊𣲵祘",
   .of [0x8f] 0x6a "𦮖𦹷𦹃蓞",
   .of [0x8f] 0x6f "莑䒠蒓蓤𥲑䉀𥳀䕃蔴嫲𦺙䔧蕳䔖枿蘖",
   .of [0x8f] 0xa1 "𨘥𨘻藁𧂈蘂𡖂𧃍䕫䕪蘨㙈𡢢号𧎚虾蝱𪃸蟮𢰧螱蟚蠏噡虬桖䘏衅衆𧗠𣶹𧗤衞袜䙛袴袵揁装睷𧜏覇覊",
   .of [0x8f] 0xcd ("覧覼𨨥觧𧤤𧪽誜瞓釾誐𧩙竩𧬺𣾏䜓𧬸煼謌謟𥐰𥕥謿譌譍誩𤩺讐讛誯𡛟䘕衏貛𧵔𧶏貫㜥𧵓賖𧶘𧶽贒贃𡤐" ++
     "賛灜贑𤳉㻐"),
   .of [0x90] 0x40 "趩𨀂𡀔𤦊㭼𨆼𧄌竧躭躶軃鋔輙輭𨍥𨐒辥錃𪊟𠩐辳䤪𨧞𨔽𣶻廸𣉢迹𪀔𨚼𨔁𢌥㦀𦻗逷𨔼𧪾遡𨕬𨘋邨𨜓郄𨛦邮",
   .of [0x90] 0x6e "酧㫰醩釄粬𨤳𡺉鈎沟鉁鉢𥖹",
   .of [0x90] 0x7b "𨫆𣲛𨬌𥗛",
   .of [0x90] 0xa1 ("𠴱錬鍫𨫡𨯫炏嫃𨫢𨫥䥥鉄𨯬𨰹𨯿鍳鑛躼閅閦鐦閠濶䊹𢙺𨛘𡉼𣸮䧟氜陻隖䅬隣𦻕懚隶磵𨫠隽双䦡𦲸𠉴𦐐" ++
     "𩂯𩃥𤫑𡤕𣌊霱虂霶䨏䔽䖅𤫩灵孁霛"),
   .of [0x90] 0xdd "𩇕靗孊𩇫靟鐥僐𣂷𣂼鞉鞟鞱鞾韀韒韠𥑬韮琜𩐳",
   .of [0x90] 0xf2 "韵𩐝𧥺䫑頴頳顋顦㬎𧅵㵑𠘰𤅜",
   .of [0x91] 0x40 ("𥜆飊颷飈飇䫿𦴧𡛓喰飡飦飬鍸餹𤨩䭲𩡗𩤅駵騌騻騐驘𥜥㛄𩂱𩯕髠髢𩬅髴䰎鬔鬭𨘀倴鬴𦦨㣃𣁽魐魀𩴾婅" ++
     "𡡣鮎𤉋鰂鯿鰌𩹨鷔𩾷𪆒𪆫𪃡𪄣𪇟鵾鶃𪄴鸎梈"),
   .of [0x91] 0xa1 "鷄𢅛𪆓𪈠𡤻𪈳鴹𪂹𪊴麐麕麞麢䴴麪麯𤍤黁㭠㧥㴝伲㞾𨰫鼂鼈䮖鐤𦶢鼗",
   .of [0x91] 0xc0 ("鼹嚟嚊齅馸𩂋韲葿齢齩竜龎爖䮾𤥵𤦻煷𤧸𤍈𤩑玞𨯚𡣺禟𨥾𨸶鍩鏳𨩄鋬鎁鏋𨥬𤒹爗㻫睲穃烐𤑳𤏸煾𡟯炣" ++
     "𡢾𣖙㻇𡢅𥐯𡟸㜢𡛻𡠹㛡𡝴𡣑𥽋㜣𡛀坛𤨥𡏾𡊨"),
   .of [0x92] 0x40 "𡏆𡒶蔃𣚦",
   .of [0x92] 0x45 ("葕𤦔𧅥𣸱𥕜𣻻𧁒䓴𣛮𩦝𦼦柹㜳㰕㷧塬𡤢栐䁗𣜿𤃡𤂋𤄏𦰡哋嚞𦚱嚒𠿟𠮨𠸍鏆𨬓鎜仸儫㠙𤐶亼𠑥𠍿佋侊𥙑" ++
     "婨𠆫𠏋㦙𠌊𠐔㐵伩𠋀𨺳𠉵諚𠈌亘"),
   .of [0x92] 0xa1 "働儍侢伃𤨎𣺊佂倮偬傁俌俥偘僼",
   .of [0x92] 0xb3 "湶𣖕𣸹𣺿浲𡢄𣺉冨凃𠗠䓝𠒣𠒒𠒑赺𨪜𠜎剙劤𠡳勡",
   .of [0x92] 0xc9 "䙺熌𤎌𠰠𤦬𡃤槑𠸝",
   .of [0x92] 0xd2 "㻞璙琔瑖玘䮎𤪼𤂍叐㖄爏𤃉喴𠍅响𠯆圝鉝雴鍦埝垍坿㘾壋媙𨩆𡛺𡝯𡜐娬妸銏婾嫏娒𥥆𡧳𡡡𤊕㛵洅瑃娡𥺃",
   .of [0x93] 0x40 ("媁𨯗𠐓鏠璌𡌃焅䥲鐈𨧻鎽㞠尞岞幞幈𡦖𡥼𣫮廍孏𡤃𡤄㜁𡢠㛝𡛾㛓脪𨩇𡶺𣑲𨦨弌弎𡤧𡞫婫𡜻孄蘔𧗽衠恾" ++
     "𢡠𢘫忛㺸𢖯𢖾𩂈𦽳懀𠀾𠁆𢘛憙憘恵𢲛𢴇𤛔𩅍"),
   .of [0x93] 0xa1 ("摱𤙥𢭪㨩𢬢𣑐𩣪𢹸挷𪑛撶挱揑𤧣𢵧护𢲡搻敫楲㯴𣂎𣊭𤦉𣊫唍𣋠𡣙𩐿曎𣊉𣆳㫠䆐𥖄𨬢𥖏𡛼𥕛𥐥磮𣄃𡠪𣈴" ++
     "㑤𣈏𣆂𤋉暎𦴤晫䮓昰𧡰𡷫晣𣋒𣋡昞𥡲㣑𣠺𣞼㮙𣞢𣏾瓐㮖枏𤘪梶栞㯄檾㡣𣟕𤒇樳橒櫉欅𡤒攑梘橌㯗橺歗𣿀𣲚鎠鋲𨯪𨫋"),
   .of [0x94] 0x40 "銉𨀞𨧜鑧涥漋𤧬",
   .of [0x94] 0x48 ("𣽿㶏渄𤀼娽渊塇洤硂焻𤌚𤉶烱牐犇犔𤞏𤜥兹𤪤𠗫瑺𣻸𣙟𤩊𤤗𥿡㼆㺱𤫟𨰣𣼵悧㻳瓌琼鎇琷䒟𦷪䕑疃㽣𤳙" ++
     "𤴆㽘畕癳𪗆㬙瑨𨫌𤦫𤦎㫻"),
   .of [0x94] 0xa1 "㷍𤩎㻿𤧅𤣳釺圲鍂𨫣𡡤僟𥈡𥇧睸𣈲眎眏睻𤚗𣞁㩞𤣰琸璛㺿𤪺𤫇䃈𤪖𦆮錇𥖁砞碍碈磒珐祙𧝁𥛣䄎",
   .of [0x94] 0xcb ("蒖禥樭𣻺稺秴䅮𡛦䄲鈵秱𠵌𤦌𠊙𣶺𡝮㖗啫㕰㚪𠇔𠰍竢婙𢛵𥪯𥪜娍𠉛磰娪𥯆竾䇹籝籭䈑𥮳𥺼𥺦糍𤧹𡞰粎" ++
     "籼粮檲緜縇緓罎𦉡"),
   .of [0x95] 0x40 ("𦅜𧭈綗𥺂䉪𦭵𠤖柖𠁎𣗏埄𦐒𦏸𤥢翝笧𠠬𥫩𥵃笌𥸎駦虅驣樜𣐿㧢𤧷𦖭騟𦖠蒀𧄧𦳑䓪脷䐂胆脉腂𦞴飃𦩂艢" ++
     "艥𦩑葓𦶧蘐𧈛媆䅿𡡀嬫𡢡嫤𡣘蚠蜨𣶏蠭𧐢娂"),
   .of [0x95] 0xa1 ("衮佅袇袿裦襥襍𥚃襔𧞅𧞄𨯵𨯙𨮜𨧹㺭蒣䛵䛏㟲訽訜𩑈彍鈫𤊄旔焩烄𡡅鵭貟賩𧷜妚矃姰䍮㛔踪躧𤰉輰轊" ++
     "䋴汘澻𢌡䢛潹溋𡟚鯩㚵𤤯邻"),
   .of [0x95] 0xda "啱䤆醻鐄𨩋䁢𨫼鐧𨰝𨰻蓥訫閙閧閗閖𨴴瑅㻂𤣿𤩂𤏪㻧𣈥随𨻧𨹦𨹥㻌𤧭𤩸𣿮琒瑫㻼靁𩂰",
   .of [0x96] 0x40 "桇䨝𩂓𥟟",
   .of [0x96] 0x45 ("鍨𨦉𨰦𨬯𦎾銺嬑譩䤼珹𤈛鞛靱餸𠼦巁𨯅𤪲頟𩓚鋶𩗗釥䓀𨭐𤩧𨭤飜𨩅㼀鈪䤥萔餻饍𧬆㷽馛䭯馪驜𨭥𥣈檏" ++
     "騡嫾騯𩣱䮐𩥈馼䮽䮗鍽塲𡌂堢𤦸"),
   .of [0x96] 0xa1 ("𡓨硄𢜟𣶸棅㵽鑘㤧慐𢞁𢥫愇鱏鱓鱻鰵鰐魿鯏𩸭鮟𪇵𪃾鴡䲮𤄄鸘䲰鴌𪆴𪃭𪃳𩤯鶥蒽𦸒𦿟𦮂藼䔳𦶤𦺄𦷰萠" ++
     "藮𦸀𣟗𦁤秢𣖜𣙀䤭𤧞㵢鏛銾鍈𠊿碹鉷鑍俤㑀遤𥕝砽硔碶硋𡝗𣇉𤥁㚚佲濚濙"),
   .of [0x96] 0xee "瀞吔𤆵垻壳垊鴖埗焴㒯𤆬燫𦱀𤾗",
   .of [0x96] 0xfd "𡞵𨩉",
   .of [0x97] 0x40 ("愌嫎娋䊼𤒈㜬䭻𨧼鎻鎸𡣖𠼝葲𦳀𡐓𤋺𢰦𤏁妔𣶷𦝁綨𦅛𦂤𤦹𤦋𨧺鋥珢㻩璴𨭣𡢟㻡𤪳櫘珳珻㻖𤨾𤪔𡟙𤩦𠎧" ++
     "𡐤𤧥瑈𤤖炥𤥶銄珦鍟𠓾錱𨫎𨨖鎆𨯧𥗕䤵𨪂煫"),
   .of [0x97] 0xa1 ("𤥃𠳿嚤𠘚𠯫𠲸唂秄𡟺緾𡛂𤩐𡡒䔮鐁㜊𨫀𤦭妰𡢿𡢃𧒄媡㛢𣵛㚰鉟婹𨪁𡡢鍴㳍𠪴䪖㦊僴㵩㵌𡎜煵䋻𨈘渏𩃤" ++
     "䓫浗𧹏灧沯㳖𣿭𣸭渂漌㵯𠏵畑㚼㓈䚀㻚䡱姄鉮䤾轁𨰜𦯀堒埈㛖𡑒烾𤍢𤩱𢿣𡊰𢎽梹楧𡎘𣓥𧯴𣛟𨪃𣟖𣏺𤲟樚𣚭𦲷萾䓟䓎"),
   .of [0x98] 0x40 ("𦴦𦵑𦲂𦿞漗𧄉茽𡜺菭𦲀𧁓𡟛妉媂𡞳婡婱𡤅𤇼㜭姯𡜼㛇熎鎐暚𤊥婮娫𤊓樫𣻹𧜶𤑛𤋊焝𤉙𨧡侰𦴨峂𤓎𧹍𤎽" ++
     "樌𤉖𡌄炦焳𤏩㶥泟勇𤩏繥姫崯㷳彜𤩝𡟟綤萦"),
   .of [0x98] 0xa1 ("咅𣫺𣌀𠈔坾𠣕𠘙㿥𡾞𪊶瀃𩅛嵰玏糓𨩙𩐠俈翧狍猐𧫴猸猹𥛶獁獈㺩𧬘遬燵𤣲珡臶㻊県㻑沢国琙琞琟㻢㻰" ++
     "㻴㻺瓓㼎㽓畂畭畲疍㽼痈痜㿀癍㿗癴㿜発𤽜熈嘣覀塩䀝睃䀹条䁅㗛瞘䁪䁯属瞾矋売砘点砜䂨砹硇硑硦葈𥔵礳栃礲䄃"),
   .of [0x99] 0x40 ("䄉禑禙辻稆込䅧窑䆲窼艹䇄竏竛䇏両筢筬筻簒簛䉠䉺类粜䊌粸䊔糭输烀𠳏総緔緐緽羮羴犟䎗耠耥笹耮" ++
     "耱联㷌垴炠肷胩䏭脌猪脎脒畠脔䐁㬹腖腙腚"),
   .of [0x99] 0xa1 ("䐓堺腼膄䐥膓䐭膥埯臁臤艔䒏芦艶苊苘苿䒰荗险榊萅烵葤惣蒈䔄蒾蓡蓸蔐蔸蕒䔻蕯蕰藠䕷虲蚒蚲蛯际" ++
     "螋䘆䘗袮裿褤襇覑𧥧訩訸誔誴豑賔賲贜䞘塟跃䟭仮踺嗘坔蹱嗵躰䠷軎転軤軭軲辷迁迊迌逳駄䢭飠鈓䤞鈨鉘鉫銱銮銿"),
   .of [0x9a] 0x40 ("鋣鋫鋳鋴鋽鍃鎄鎭䥅䥑麿鐗匁鐝鐭鐾䥪鑔鑹锭関䦧间阳䧥枠䨤靀䨵鞲韂噔䫤惨颹䬙飱塄餎餙冴餜餷饂" ++
     "饝饢䭰駅䮝騼鬏窃魩鮁鯝鯱鯴䱭鰠㝯𡯂鵉鰺"),
   .of [0x9a] 0xa1 ("黾噐鶓鶽鷀鷼银辶鹻麬麱麽黆铜黢黱黸竈齄𠂔𠊷𠎠椚铃妬𠓗塀铁㞹𠗕𠘕𠙶𡚺块煳𠫂𠫍𠮿呪吆𠯋咞𠯻𠰻" ++
     "𠱓𠱥𠱼惧𠲍噺𠲵𠳝𠳭𠵯𠶲𠷈楕鰯螥𠸄𠸎𠻗𠾐𠼭𠹳尠𠾼帋𡁜𡁏𡁶朞𡁻𡂈𡂖㙇𡂿𡃓𡄯𡄻卤蒭𡋣𡍵𡌶讁𡕷𡘙𡟃𡟇乸炻𡠭𡥪"),
   .of [0x9b] 0x40 "𡨭𡩅𡰪𡱰𡲬𡻈拃𡻕𡼕熘桕𢁅槩㛈𢉼𢏗𢏺𢜪𢡱𢥏苽𢥧𢦓𢫕覥𢫨辠𢬎鞸𢬿顇骽𢱌",
   .of [0x9b] 0x62 "𢲈𢲷𥯨𢴈𢴒𢶷𢶕𢹂𢽴𢿌𣀳𣁦𣌟𣏞徱晈暿𧩹𣕧𣗳",
   .of [0x9b] 0x77 "𤦺",
   .of [0x9b] 0x79 "𣘚𣜖",
   .of [0x9b] 0x7c "𠍆墵朎",
   .of [0x9b] 0xa1 "椘𣪧𧙗𥿢𣸑𣺹𧗾𢂚䣐䪸𤄙𨪚𤋮𤌍𤀻𤌴𤎖𤩅𠗊凒𠘑妟𡺨㮾𣳿𤐄𤓖垈𤙴㦛𤜯𨗨𩧉㝢𢇃譞𨭎",
   .of [0x9b] 0xc7 "𤠒𤣻𤨕爉𤫀𠱸奥𤺥𤾆𠝹軚𥀬劏圿煱𥊙𥐙𣽊𤪧喼𥑆𥑮𦭒",
   .of [0x9b] 0xdf "㑳𥔿𧘲𥕞䜘𥕢𥕦𥟇𤤿𥡝偦㓻𣏌",
   .of [0x9b] 0xed "𥤃䝼𨥈𥪮𥮉𥰆𡶐垡煑",
   .of [0x9b] 0xf7 "𦄂𧰒遖𦆲𤾚譢𦐂𦑊",
   .of [0x9c] 0x40 "嵛𦯷",
   .of [0x9c] 0x43 "𦒄𡤜諪𤧶𦒈𣿯𦔒䯀𦖿𦚵𢜛鑥𥟡憕娧晉",
   .of [0x9c] 0x54 "嚹𤔡𦛼乪𤤴陖涏𦲽㘘襷𦞙𦡮𦐑𦡞",
   .of [0x9c] 0x63 "𦣇筂𩃀𠨑𦤦",
   .of [0x9c] 0x69 "𦤹穅",
   .of [0x9c] 0x6c "𦧺騦𦨭㙟𦑩𠀡禃𦨴𦭛崬𣔙",
   .of [0x9c] 0x78 "𦮝䛐𦲤画补𦶮墶",
   .of [0x9c] 0xa1 "㜜𢖍𧁋𧇍㱔𧊀𧊅銁𢅺𧊋錰𧋦𤧐氹钟𧑐𠻸蠧裵𢤦𨑳𡞱溸𤨪𡠠㦤㚹",
   .of [0x9c] 0xbe "䔿暶𩲭𩢤襃𧟌𧡘囖䃟𡘊㦡𣜯𨃨𡏅熭荦𧧝𩆨",
   .of [0x9c] 0xd1 "䲷𧂯𨦫𧧽𧨊𧬋𧵦𤅺筃祾𨀉澵𪋟樃𨌘厢𦸇鎿栶靝𨅯𨀣𦦵𡏭𣈯𨁈嶅𨰰𨂃圕頣𨥉嶫𤦈斾槕叒𤪥𣾁㰑朶𨂐𨃴𨄮𡾡𨅏",
   .of [0x9d] 0x40 "𨆉𨆯𨈚𨌆𨌯𨎊㗊𨑨𨚪䣺揦𨥖砈鉕𨦸䏲𨧧䏟𨧨𨭆𨯔姸𨰉",
   .of [0x9d] 0x58 "𨿅𩃬",
   .of [0x9d] 0x5b "𩄐𩄼㷷𩅞𤫊运犏嚋𩓧𩗩𩖰𩖸𩜲𩣑𩥉𩥪𩧃𩨨𩬎𩵚𩶛纟𩻸𩼣䲤镇𪊓熢𪋿䶑递𪗋䶜𠲜达嗁",
   .of [0x9d] 0xa1 "辺𢒰边𤪓䔉繿潖檱仪㓤𨬬𧢝㜺躀𡟵𨀤𨭬𨮙𧨾𦚯㷫𧙕𣲷𥘵𥥖亚𥺁𦉘嚿𠹭踎孭𣺈𤲞揞",
   .of [0x9d] 0xc5 ("𡟶𡡻攰嘭𥱊吚𥌑㷆𩶘䱽嘢嘞罉𥻘奵𣵀蝰东𠿪𠵉𣚺脗鵞贘瘻鱅癎瞹鍅吲腈苷嘥脲萘肽嗪祢噃吖𠺝㗎嘅嗱" ++
     "曱𨋢㘭甴嗰喺咗啲𠱁𠲖廐𥅈𠹶𢱢"),
   .of [0x9e] 0x40 ("𠺢麫絚嗞𡁵抝靭咔賍燶酶揼掹揾啩𢭃鱲𢺳冚㓟𠶧冧呍唞唓癦踭𦢊疱肶蠄螆裇膶萜𡃁䓬猄𤜆宐茋𦢓噻𢛴" ++
     "𧴯𤆣𧵳𦻐𧊶酰𡇙鈈𣳼𪚩𠺬𠻹牦𡲢䝎𤿂𧿹𠿫䃺"),
   .of [0x9e] 0xa1 "鱝攟𢶠䣳𤟠𩵼𠿬𠸊",
   .of [0x9e] 0xaa "𧖣𠿭",
   .of [0x9e] 0xad "𦁈𡆇熣纎鵐业丄㕷嬍沲卧㚬㧜卽㚥𤘘墚𤭮舭呋垪𥪕𠥹",
   .of [0x9e] 0xc5 "㩒𢑥獴𩺬䴉鯭𣳾𩼰䱛𤾩𩖞𩿞葜𣶶𧊲𦞳𣜠挮紥𣻷𣸬㨪逈勌㹴㙺䗩𠒎癀嫰𠺶硺𧼮墧䂿噼鮋嵴癔𪐴麅䳡",
   .of [0x9e] 0xf0 "㟻愙𣃚𤏲",
   .of [0x9e] 0xf5 "噝𡊩垧𤥣𩸆刴𧂮㖭",
   .of [0x9e] 0xfe "鵼",
   .of [0x9f] 0x40 "籖鬹埞𡝬屓擓𩓐𦌵𧅤蚭𠴨𦴢𤫢𠵱",
   .of [0x9f] 0x4f "凾𡼏嶎霃𡷑麁遌笟鬂峑箣扨挵髿篏鬪籾",
   .of [0x9f] 0x61 "籂粆鰕篼鬉",
   .of [0x9f] 0x67 "鰛𤤾齚啳寃俽麘俲剠㸆勑坧偖妷帒韈鶫轜呩鞴饀鞺匬愰",
   .of [0x9f] 0xa1 "椬叚鰊鴂䰻陁榀傦畆𡝭駚剳",
   .of [0x9f] 0xae "酙隁酜",
   .of [0x9f] 0xb2 "酑𨺗捿𦴣櫊嘑醎畺抅𠏼獏籰𥰡𣳽",
   .of [0x9f] 0xc1 "𤤙盖鮝个𠳔莾衂",
   .of [0x9f] 0xc9 "届槀",
   .of [0x9f] 0xcc "坺刟巵从氱𠇲伹咜哚劚趂㗾",
   .of [0x9f] 0xd9 "㗳",
   .of [0x9f] 0xdb "歒酼龥鮗頮颴骺麨麄煺笔",
   .of [0x9f] 0xe7 "毺蠘罸",
   .of [0x9f] 0xeb "嘠𪙊蹷齓",
   .of [0x9f] 0xf0 "跔蹏鸜踁抂𨍽踨蹵竓𤩷稾磘泪詧瘇",
   .of [0xa0] 0x40 "𨩚鼦泎蟖痃𪊲硓咢贌狢獱謭猂瓱賫𤪻蘯徺袠䒷",
   .of [0xa0] 0x55 "𡠻𦸅",
   .of [0xa0] 0x58 "詾𢔛",
   .of [0xa0] 0x5b "惽癧髗鵄鍮鮏蟵",
   .of [0xa0] 0x64 "賷猬霡鮰㗖犲䰇籑饊𦅙慙䰄麖慽",
   .of [0xa0] 0x73 "坟慯抦戹",
   .of [0xa0] 0x78 "㩜懢厪𣏵捤栂㗒",
   .of [0xa0] 0xa1 "嵗𨯂迚𨸹",
   .of [0xa0] 0xa6 "僙𡵆礆匲阸𠼻䁥",
   .of [0xa0] 0xae "矾",
   .of [0xa0] 0xb0 "糂𥼚糚稭聦聣絍甅瓲覔舚朌聢𧒆聛瓰脃眤覉𦟌畓𦻑螩蟎臈螌詉貭譃眫瓸蓚㘵榲趦",
   .of [0xa0] 0xd4 "覩",
   .of [0xa0] 0xd6 "涹蟁𤀑瓧㷛煶悤憜㳑",
   .of [0xa0] 0xe0 "恷",
   .of [0xa0] 0xe2 "罱𨬭",
   .of [0xa0] 0xe5 "惩䭾删㰘𣳇𥻗𧙖𥔱𡥄𡋾𩤃𦷜𧂭峁𦆭𨨏𣙷𠃮𦡆𤼎䕢嬟𦍌齐麦𦉫",
   .of [0xc6] 0xa1 ("①②③④⑤⑥⑦⑧⑨⑩⑴⑵⑶⑷⑸⑹⑺⑻⑼⑽ⅰⅱⅲⅳⅴⅵⅶⅷⅸⅹ丶丿亅亠冂冖冫勹匸卩厶夊宀巛" ++
     "⼳广\ufffd彐彡攴\ufffd疒\ufffd辵\ufffd\u00a8\u02c6\u30fd\u30fe\u309d\u309e\ufffd\ufffd\u3005〆〇\u30fc［］✽" ++
     "ぁあぃいぅうぇえぉおかがきぎくぐけげこごさざしじ"),
   .of [0xc7] 0x40 ("すずせぜそぞただちぢっつづてでとどなにぬねのはばぱひびぴふぶぷへべぺほぼぽまみむめもゃや" ++
     "ゅゆょよらりるれろゎわゐゑをんァアィイ"),
   .of [0xc7] 0xa1 ("ゥウェエォオカガキギクグケゲコゴサザシジスズセゼソゾタダチヂッツヅテデトドナニヌネノハバ" ++
     "パヒビピフブプヘベペホボポマミムメモャヤュユョヨラリルレロヮワヰヱヲンヴヵヶАБВГДЕЁЖЗИЙК"),
   .of [0xc8] 0x40 "ЛМНОПРСТУФХЦЧШЩЪЫЬЭЮЯабвгдеёжзийклмнопрстуфхцчшщъыьэюя⇧↸↹㇏𠃌乚𠂊刂䒑",
   .of [0xc8] 0xa1 "龰冈龱𧘇",
   .of [0xc8] 0xcd "￢￤＇＂㈱№℡\u309b\u309c⺀⺄⺆⺇⺈⺊⺌⺍⺕⺜⺝⺥⺧⺪⺬⺮⺶⺼⺾⻆⻊⻌⻍⻏⻖⻗⻞⻣",
   .of [0xc8] 0xf5 "ʃɐɛɔɵœøŋʊɪ",
   .of [0xf9] 0xd6 "碁銹裏墻恒粧嫺╔╦╗╠╬╣╚╩╝╒╤╕╞╪╡╘╧╛╓╥╖╟╫╢╙╨╜║═╭╮╰╯￭",
   .of [0xfa] 0x40 "𠕇鋛𠗟𣿅蕌䊵珯况㙉𤥂𨧤鍄𡧛苮𣳈砼杄拟𤤳𨦪𠊠𦮳𡌅侫𢓭倈𦴩𧪄𣘀𤪱𢔓",
   .of [0xfa] 0x60 "𠍾徤𠎀𠍇滛𠐟",
   .of [0xfa] 0x67 "儁㑺儎顬㝃萖𤦤𠒇兠𣎴兪𠯿𢃼𠋥𢔰𠖎𣈳𡦃宂蝽𠖳𣲙冲冸",
   .of [0xfa] 0xa1 "鴴凉减凑㳜凓𤪦决凢卂凭菍椾𣜭彻刋刦刼劵剗劔効勅簕蕂勠蘍𦬓",
   .of [0xfa] 0xbe "𨫞啉滙𣾀𠥔𣿬匳",
   .of [0xfa] 0xc6 "𠯢泋𡜦栛珕恊㺪㣌𡛨燝䒢卭却𨚫卾",
   .of [0xfa] 0xd6 "𡖖𡘓矦厓𨪛厠厫厮玧𥝲㽙玜叁叅汉义埾叙㪫𠮏叠𣿫𢶣叶𠱷吓灹唫晗浛呭𦭓𠵴啝咏咤䞦𡜍𠻝㶴𠵍",
   .of [0xfb] 0x40 "𨦼𢚘啇䳭启琗喆喩",
   .of [0xfb] 0x49 ("𡣗𤀺䕒𤐵暳𡂴嘷曍𣊊暤暭噍噏磱囱鞇叾圀囯园𨭦㘣𡉏坆𤆥汮炋坂㚱𦱾埦𡐖堃𡑔𤍣堦𤯵塜墪㕡壠壜𡈼壻" ++
     "寿坃𪅐𤉸鏓㖡够梦㛃湙"),
   .of [0xfb] 0xa1 "𡘾娤啓𡚒蔅姉𠵎𦲁𦴪𡟜姙𡟻𡞲𦶦浱𡠨𡛕姹𦹅媫婣㛦𤦩",
   .of [0xfb] 0xb9 ("㜈媖瑥嫓𦾡𢕔㶅𡤑㜲𡚸広勐孶斈孼𧨎䀄䡝𠈄寕慠𡨴𥧌𠖥寳宝䴐尅𡭄尓珎尔𡲥𦬨屉䣝岅峩峯嶋𡷹𡸷崐崘" ++
     "嵆𡺤岺巗苼㠭𤤁𢁉𢅳芇㠶㯂帮檊"),
   .of [0xfb] 0xf4 "幺𤒼𠳓厦亷",
   .of [0xfb] 0xfa "厨𡝱帉廴𨒂",
   .of [0xfc] 0x40 "廹廻㢠廼栾鐛弍𠇁弢㫞䢮𡌺强𦢈𢏐",
   .of [0xfc] 0x50 "𢑱彣鞽𦹮彲鍀𨨶徧嶶㵟𥉐𡽪𧃸𢙨釖𠊞𨨩怱暅𡡷㥣㷇㘹垐𢞴祱㹀悞",
   .of [0xfc] 0x6d "悳𤦂𤦏𧩓璤僡媠慤萤慂慈𦻒憁凴𠙖憇宪𣾷",
   .of [0xfc] 0xa1 "𢡟懓𨮝𩥝懐㤲𢦀𢣁怣慜攞掋𠄘担𡝰拕𢸍捬𤧟㨗搸揸𡎎𡟼",
   .of [0xfc] 0xba "澊𢸶頔𤂌𥜝擡擥鑻㩦携㩗敍漖𤨨𤨣斅敭敟𣁾斵𤥀䬷旑䃘𡠩无旣忟𣐀昘𣇷𣇸晄𣆤𣆥晋𠹵晧𥇦晳",
   .of [0xfc] 0xe3 "𡸽𣈱𨗴𣇈𥌓矅𢣷馤朂𤎜𤨡㬫槺𣟂",
   .of [0xfc] 0xf2 "杧杢𤇍𩃭柗䓩栢湐鈼栁𣏦𦶠桝",
   .of [0xfd] 0x40 ("𣑯槡樋𨫟楳棃𣗍椁椀㴲㨁𣘼㮀枬楡𨩊䋼椶榘㮡𠏉荣傐槹𣙙𢄪橅𣜃檝㯳枱櫈𩆜㰍欝𠤣惞欵歴𢟍溵𣫛𠎵𡥘" ++
     "㝀吡𣭚毡𣻼毜氷𢒋𤣱𦭑汚舦汹𣶼䓅𣶽𤆤𤤌𤤀"),
   .of [0xfd] 0xa1 "𣳉㛥㳫𠴲鮃𣇹𢒑羏样𦴥𦶡𦷫涖浜湼漄𤥿𤂅𦹲蔳𦽴凇",
   .of [0xfd] 0xb9 "萮𨬡",
   .of [0xfd] 0xbc ("𣸯瑓𣾂秌湏媑𣁋濸㜍澝𣸰滺𡒗𤀽䕕鏰潄潜㵎潴𩅰㴻澟𤅄濓𤂑𤅕𤀹𣿰𣾴𤄿凟𤅖𤅗𤅀𦇝灋灾炧炁烌烕烖烟" ++
     "䄄㷨熴熖𤉷焫煅媈煊"),
   .of [0xfd] 0xf2 "岜𤍥煏鍢𤋁焬𤑚𤨧𤨢熺𨯨炽爎",
   .of [0xfe] 0x40 "鑂爕夑鑃爤鍁𥘅爮牀𤥴梽牕牗㹕𣁄栍漽犂",
   .of [0xfe] 0x53 "猫𤠣𨠫䣭𨠄猨献珏玪𠰺𦨮珉瑉𤇢𡛧𤨤昣㛅𤦷𤦍𤧻珷琕椃𤨦琹𠗃㻗",
   .of [0xfe] 0x70 "𢢭瑠𨺲瑇珤瑶莹瑬㜰瑴鏱樬璂䥓𤪌",
   .of [0xfe] 0xa1 "𤅟𤩹𨮏孆𨰃𡢞瓈𡦈甎",
   .of [0xfe] 0xab ("甞𨻙𡩋寗𨺬鎅畍畊畧畮𤾂㼄𤴓疎瑝疞疴瘂瘬癑癏癯癶𦏵皐臯㟸𦤑𦤎皡皥皷盌𦾟葢𥂝𥅽𡸜眞眦着撯𥈠睘" ++
     "𣊬瞯𨥤𨥨𡛁矴"),
   .of [0xfe] 0xde "𡍶𤨒棊碯磇磓隥礮𥗠磗礴碱𧘌辸袄𨬫𦂃𢘜禆褀椂禀𥡗禝𧬹礼禩渪𧄦㺨秆𩄍秔"]

def hkscs : Charset where
  name := "big5hkscs"
  aliases := ["big5_hkscs", "hkscs"]
  first := 128
  rows := hkscsRows ++ big5Rows
  clusters :=
    [([0x88, 0x62], ['\u00ca', '\u0304']), ([0x88, 0x64], ['\u00ca', '\u030c']),
      ([0x88, 0xa3], ['\u00ea', '\u0304']), ([0x88, 0xa5], ['\u00ea', '\u030c'])]

end AttrsUpgrade.Text
