/-!
# Equivalent characters

Characters that differ from others only in how they look or where they come from: letters in
circles, wide and narrow forms, ligatures, presentation forms, ideographs that were given two codes.
Each stands for one or more plain characters. Composites of a base and a mark are not among them.
The table follows version 3.2 of the Unicode character database.
-/

set_option autoImplicit false

namespace LuaBytecode.Text

/-- The plain characters of consecutive codes, from the code `first` on. -/
structure PlainBlock where
  first : Nat
  rows : List String
  deriving DecidableEq, Repr

/-- The characters that stand for one plain character. Each place of a row is for one code. -/
def plainCharacters : List PlainBlock := [
  ⟨0x00a0, [" "]⟩, ⟨0x00aa, ["a"]⟩, ⟨0x00b2, ["23"]⟩, ⟨0x00b5, ["μ"]⟩, ⟨0x00b9, ["1o"]⟩,
  ⟨0x017f, ["s"]⟩, ⟨0x02b0, ["hɦjrɹɻʁwy"]⟩, ⟨0x02e0, ["ɣlsxʕ"]⟩, ⟨0x0340, ["\u0300\u0301"]⟩,
  ⟨0x0343, ["\u0313"]⟩, ⟨0x0374, ["ʹ"]⟩, ⟨0x037e, [";"]⟩, ⟨0x0387, ["·"]⟩, ⟨0x03d0, ["βθΥ"]⟩,
  ⟨0x03d5, ["φπ"]⟩, ⟨0x03f0, ["κρς"]⟩, ⟨0x03f4, ["Θε"]⟩, ⟨0x0f0c, ["་"]⟩, ⟨0x1fbe, ["ι"]⟩,
  ⟨0x1fef, ["`"]⟩, ⟨0x2000, ["           "]⟩, ⟨0x2011, ["‐"]⟩, ⟨0x2024, ["."]⟩, ⟨0x202f, [" "]⟩,
  ⟨0x205f, [" "]⟩, ⟨0x2070, ["0i"]⟩, ⟨0x2074, ["456789+−=()n0123456789+−=()"]⟩, ⟨0x2102, ["C"]⟩,
  ⟨0x2107, ["Ɛ"]⟩, ⟨0x210a, ["gHHHhħIILl"]⟩, ⟨0x2115, ["N"]⟩, ⟨0x2119, ["PQRRR"]⟩,
  ⟨0x2124, ["Z"]⟩, ⟨0x2126, ["Ω"]⟩, ⟨0x2128, ["Z"]⟩, ⟨0x212a, ["K"]⟩, ⟨0x212c, ["BC"]⟩,
  ⟨0x212f, ["eEF"]⟩, ⟨0x2133, ["Moאבגדi"]⟩, ⟨0x213d, ["γΓΠ∑"]⟩, ⟨0x2145, ["Ddeij"]⟩,
  ⟨0x2160, ["I"]⟩, ⟨0x2164, ["V"]⟩, ⟨0x2169, ["X"]⟩, ⟨0x216c, ["LCDMi"]⟩, ⟨0x2174, ["v"]⟩,
  ⟨0x2179, ["x"]⟩, ⟨0x217c, ["lcdm"]⟩, ⟨0x2329, ["〈〉"]⟩, ⟨0x2460, ["123456789"]⟩,
  ⟨0x24b6, ["ABCDEFGHIJKLMNOPQRSTUVWXYZabcdefghijklmnopqrstuvwxyz0"]⟩, ⟨0x2e9f, ["母"]⟩,
  ⟨0x2ef3, ["龟"]⟩,
  ⟨0x2f00, [
    "一丨丶丿乙亅二亠人儿入八冂冖冫几凵刀力勹匕匚匸十卜卩厂厶又口囗土士夂夊夕大女子宀寸小尢尸屮山巛工己巾干幺广廴廾弋弓彐彡彳心戈戶手支攴文斗斤方无日曰月木欠止歹殳毋比毛氏气水火爪父",
    "爻爿片牙牛犬玄玉瓜瓦甘生用田疋疒癶白皮皿目矛矢石示禸禾穴立竹米糸缶网羊羽老而耒耳聿肉臣自至臼舌舛舟艮色艸虍虫血行衣襾見角言谷豆豕豸貝赤走足身車辛辰辵邑酉釆里金長門阜隶隹雨靑非面",
    "革韋韭音頁風飛食首香馬骨高髟鬥鬯鬲鬼魚鳥鹵鹿麥麻黃黍黑黹黽鼎鼓鼠鼻齊齒龍龜龠"]⟩,
  ⟨0x3000, [" "]⟩, ⟨0x3036, ["〒"]⟩, ⟨0x3038, ["十卄卅"]⟩,
  ⟨0x3131, [
    "ᄀᄁᆪᄂᆬᆭᄃᄄᄅᆰᆱᆲᆳᆴᆵᄚᄆᄇᄈᄡᄉᄊᄋᄌᄍᄎᄏᄐᄑ하ᅢᅣᅤᅥᅦᅧᅨᅩᅪᅫᅬᅭᅮᅯᅰᅱᅲᅳᅴᅵᅠᄔᄕᇇᇈᇌᇎᇓᇗᇙᄜᇝᇟᄝᄞᄠᄢᄣᄧᄩᄫᄬᄭᄮᄯᄲᄶᅀᅇᅌᇱᇲᅗᅘᅙᆄᆅ",
    "ᆈᆑᆒᆔᆞᆡ"]⟩,
  ⟨0x3192, ["一二三四上中下甲乙丙丁天地人"]⟩, ⟨0x3260, ["ᄀᄂᄃᄅᄆᄇᄉᄋᄌᄎᄏᄐᄑᄒ"]⟩,
  ⟨0x3280, ["一二三四五六七八九十月火水木金土日株有社名特財祝労秘男女適優印注項休写正上中下左右医宗学監企資協夜"]⟩,
  ⟨0x32d0, ["アイウエオカキクケコサシスセソタチツテトナニヌネノハヒフヘホマミムメモヤユヨラリルレロワヰヱヲ"]⟩,
  ⟨0xf900, [
    "豈更車賈滑串句龜龜契金喇奈懶癩羅蘿螺裸邏樂洛烙珞落酪駱亂卵欄爛蘭鸞嵐濫藍襤拉臘蠟廊朗浪狼郎來冷勞擄櫓爐盧老蘆虜路露魯鷺碌祿綠菉錄鹿論壟弄籠聾牢磊賂雷壘屢樓淚漏累縷陋勒肋凜凌稜綾",
    "菱陵讀拏樂諾丹寧怒率異北磻便復不泌數索參塞省葉說殺辰沈拾若掠略亮兩凉梁糧良諒量勵呂女廬旅濾礪閭驪麗黎力曆歷轢年憐戀撚漣煉璉秊練聯輦蓮連鍊列劣咽烈裂說廉念捻殮簾獵令囹寧嶺怜玲瑩羚",
    "聆鈴零靈領例禮醴隸惡了僚寮尿料樂燎療蓼遼龍暈阮劉杻柳流溜琉留硫紐類六戮陸倫崙淪輪律慄栗率隆利吏履易李梨泥理痢罹裏裡里離匿溺吝燐璘藺隣鱗麟林淋臨立笠粒狀炙識什茶刺切度拓糖宅洞暴輻",
    "行降見廓兀嗀"]⟩,
  ⟨0xfa10, ["塚"]⟩, ⟨0xfa12, ["晴"]⟩, ⟨0xfa15, ["凞猪益礼神祥福靖精羽"]⟩, ⟨0xfa20, ["蘒"]⟩, ⟨0xfa22, ["諸"]⟩,
  ⟨0xfa25, ["逸都"]⟩, ⟨0xfa2a, ["飯飼館鶴"]⟩,
  ⟨0xfa30, ["侮僧免勉勤卑喝嘆器塀墨層屮悔慨憎懲敏既暑梅海渚漢煮爫琢碑社祉祈祐祖祝禍禎穀突節練縉繁署者臭艹艹著褐視謁謹賓贈辶逸難響頻"]⟩,
  ⟨0xfb20, ["עאדהכלםרת+"]⟩,
  ⟨0xfb50, [
    "ٱٱٻٻٻٻپپپپڀڀڀڀٺٺٺٺٿٿٿٿٹٹٹٹڤڤڤڤڦڦڦڦڄڄڄڄڃڃڃڃچچچچڇڇڇڇڍڍڌڌڎڎڈڈژژڑڑککککگگگگڳڳڳڳڱڱڱڱںںڻڻڻڻ"]⟩,
  ⟨0xfba6, ["ہہہہھھھھےے"]⟩, ⟨0xfbd3, ["ڭڭڭڭۇۇۆۆۈۈ"]⟩, ⟨0xfbde, ["ۋۋۅۅۉۉېېېېىى"]⟩,
  ⟨0xfbfc, ["یییی"]⟩, ⟨0xfe31, ["—–__()\x7b\x7d〔〕【】《》〈〉「」『』"]⟩, ⟨0xfe4d, ["___,、."]⟩,
  ⟨0xfe54, [";:?!—()\x7b\x7d〔〕#&*+-<>="]⟩, ⟨0xfe68, ["\\$%@"]⟩, ⟨0xfe80, ["ء"]⟩,
  ⟨0xfe8d, [
    "ااببببةةتتتتثثثثججججححححخخخخددذذررززسسسسششششصصصصضضضضططططظظظظععععغغغغففففققققككككللللمممم",
    "ننننههههووىىيييي"]⟩,
  ⟨0xff01, [
    "!\"#$%&'()*+,-./0123456789:;<=>?@ABCDEFGHIJKLMNOPQRSTUVWXYZ[\\]^_`abcdefghijklmnopqrstuv",
    "wxyz\x7b|\x7d~⦅⦆。「」、・ヲァィゥェォャュョッーアイウエオカキクケコサシスセソタチツテトナニヌネノハヒフヘホマミムメモヤユヨラリルレロワン\u3099",
    "\u309aᅠᄀᄁᆪᄂᆬᆭᄃᄄᄅᆰᆱᆲᆳᆴᆵᄚᄆᄇᄈᄡᄉᄊᄋᄌᄍᄎᄏᄐᄑᄒ"]⟩,
  ⟨0xffc2, ["ᅡᅢᅣᅤᅥᅦ"]⟩, ⟨0xffca, ["ᅧᅨᅩᅪᅫᅬ"]⟩, ⟨0xffd2, ["ᅭᅮᅯᅰᅱᅲ"]⟩, ⟨0xffda, ["ᅳᅴᅵ"]⟩,
  ⟨0xffe0, ["¢£¬"]⟩, ⟨0xffe4, ["¦¥₩"]⟩, ⟨0xffe8, ["│←↑→↓■○"]⟩,
  ⟨0x1d400, [
    "ABCDEFGHIJKLMNOPQRSTUVWXYZabcdefghijklmnopqrstuvwxyzABCDEFGHIJKLMNOPQRSTUVWXYZabcdefg"]⟩,
  ⟨0x1d456, ["ijklmnopqrstuvwxyzABCDEFGHIJKLMNOPQRSTUVWXYZabcdefghijklmnopqrstuvwxyzA"]⟩,
  ⟨0x1d49e, ["CD"]⟩, ⟨0x1d4a2, ["G"]⟩, ⟨0x1d4a5, ["JK"]⟩, ⟨0x1d4a9, ["NOPQ"]⟩,
  ⟨0x1d4ae, ["STUVWXYZabcd"]⟩, ⟨0x1d4bb, ["f"]⟩, ⟨0x1d4bd, ["hijk"]⟩, ⟨0x1d4c2, ["mn"]⟩,
  ⟨0x1d4c5, ["pqrstuvwxyzABCDEFGHIJKLMNOPQRSTUVWXYZabcdefghijklmnopqrstuvwxyzAB"]⟩,
  ⟨0x1d507, ["DEFG"]⟩, ⟨0x1d50d, ["JKLMNOPQ"]⟩, ⟨0x1d516, ["STUVWXY"]⟩,
  ⟨0x1d51e, ["abcdefghijklmnopqrstuvwxyzAB"]⟩, ⟨0x1d53b, ["DEFG"]⟩, ⟨0x1d540, ["IJKLM"]⟩,
  ⟨0x1d546, ["O"]⟩, ⟨0x1d54a, ["STUVWXY"]⟩,
  ⟨0x1d552, [
    "abcdefghijklmnopqrstuvwxyzABCDEFGHIJKLMNOPQRSTUVWXYZabcdefghijklmnopqrstuvwxyzABCDEFGHIJ",
    "KLMNOPQRSTUVWXYZabcdefghijklmnopqrstuvwxyzABCDEFGHIJKLMNOPQRSTUVWXYZabcdefghijklmnopqrst",
    "uvwxyzABCDEFGHIJKLMNOPQRSTUVWXYZabcdefghijklmnopqrstuvwxyzABCDEFGHIJKLMNOPQRSTUVWXYZabcd",
    "efghijklmnopqrstuvwxyzABCDEFGHIJKLMNOPQRSTUVWXYZabcdefghijklmnopqrstuvwxyz"]⟩,
  ⟨0x1d6a8, [
    "ΑΒΓΔΕΖΗΘΙΚΛΜΝΞΟΠΡΘΣΤΥΦΧΨΩ∇αβγδεζηθικλμνξοπρςστυφχψω∂εθκφρπΑΒΓΔΕΖΗΘΙΚΛΜΝΞΟΠΡΘΣΤΥΦΧΨΩ∇αβγδ",
    "εζηθικλμνξοπρςστυφχψω∂εθκφρπΑΒΓΔΕΖΗΘΙΚΛΜΝΞΟΠΡΘΣΤΥΦΧΨΩ∇αβγδεζηθικλμνξοπρςστυφχψω∂εθκφρπΑΒ",
    "ΓΔΕΖΗΘΙΚΛΜΝΞΟΠΡΘΣΤΥΦΧΨΩ∇αβγδεζηθικλμνξοπρςστυφχψω∂εθκφρπΑΒΓΔΕΖΗΘΙΚΛΜΝΞΟΠΡΘΣΤΥΦΧΨΩ∇αβγδεζ",
    "ηθικλμνξοπρςστυφχψω∂εθκφρπ"]⟩,
  ⟨0x1d7ce, ["01234567890123456789012345678901234567890123456789"]⟩,
  ⟨0x2f800, [
    "丽丸乁𠄢你侮侻倂偺備僧像㒞𠘺免兔兤具𠔜㒹內再𠕋冗冤仌冬况𩇟凵刃㓟刻剆割剷㔕勇勉勤勺包匆北卉卑博即卽卿卿卿𠨬灰及叟𠭣叫叱吆咞吸呈周咢哶唐啓啣善善喙喫喳嗂圖嘆圗噑噴切壮城埴堍型堲報",
    "墬𡓤売壷夆多夢奢𡚨𡛪姬娛娧姘婦㛮𡍪嬈嬾嬾𡧈寃寘寧寳𡬘寿将弳尢㞁屠屮峀岍𡷤嵃𡷦嵮嵫嵼巡巢㠯巽帨帽幩㡢𢆃㡼庰庳庶廊𪎒廾𢌱𢌱舁弢弢㣇𣊸𦇚形彫㣣徚忍志忹悁㤺㤜悔𢛔惇慈慌慎慌慺憎憲憤憯懞",
    "懲懶成戛扝抱拔捐𢬌挽拼捨掃揤𢯱搢揅掩㨮摩摾撝摷㩬敏敬𣀊旣書晉㬙暑㬈㫤冒冕最暜肭䏙朗望朡杞杓𣏃㭉柺枅桒梅𣑭梎栟椔㮝楂榣槪檨𣚣櫛㰘次𣢧歔㱎歲殟殺殻𣪍𡴋𣫺汎𣲼沿泍汧洖派海流浩浸涅𣴞洴",
    "港湮㴳滋滇𣻑淹潮𣽞𣾎濆瀹瀞瀛㶖灊災灷炭𠔥煅𤉣熜䎫爨爵牐𤘈犀犕𤜵𤠔獺王㺬玥㺸㺸瑇瑜瑱璅瓊㼛甤𤰶甾𤲒異𢆟瘐𤾡𤾸𥁄㿼䀈直𥃳𥃲𥄙𥄳眞真真睊䀹瞋䁆䂖𥐝硎碌磌䃣𥘦祖𥚚𥛅福秫䄯穀穊穏𥥼𥪧𥪧窮",
    "䈂𥮫篆築䈧𥲀糒䊠糨糣紀𥾆絣䌁緇縂繅䌴𦈨𦉇䍙𦋙罺𦌾羕翺者𦓚𦔣聠𦖨聰𣍟䏕育脃䐋脾媵𦞧𦞵𣎓𣎜舁舄辞䑫芑芋芝劳花芳芽苦𦬼若茝荣莭茣莽菧著荓菊菌菜𦰶𦵫𦳕䔫蓱蓳蔖𧏊蕤𦼬䕝䕡𦾱𧃒䕫虐虜虧虩蚩",
    "蚈蜎蛢蝹蜨蝫螆䵗蟡蠁䗹衠衣𧙧裗裞䘵裺㒻𧢮𧥦䚾䛇誠諭變豕𧲨貫賁贛起𧼯𠠄跋趼跰𠣞軔輸𨗒𨗭邔郱鄑𨜮鄛鈸鋗鋘鉼鏹鐕𨯺開䦕閷𨵷䧦雃嶲霣𩅅𩈚䩮䩶韠𩐊䪲𩒖頋頋頩𩖶飢䬳餩馧駂駾䯎𩬰鬒鱀鳽䳎䳭鵧",
    "𪃎䳸𪄅𪈎𪊑麻䵖黹黾鼅鼏鼖鼻𪘀"]⟩]

/-- The characters that stand for several plain characters. Each row is for one code. -/
def plainSequences : List PlainBlock := [
  ⟨0x00a8, [" \u0308"]⟩, ⟨0x00af, [" \u0304"]⟩, ⟨0x00b4, [" \u0301"]⟩, ⟨0x00b8, [" \u0327"]⟩,
  ⟨0x00bc, ["1⁄4", "1⁄2", "3⁄4"]⟩, ⟨0x0132, ["IJ", "ij"]⟩, ⟨0x013f, ["L·", "l·"]⟩,
  ⟨0x0149, ["ʼn"]⟩,
  ⟨0x01c4, ["DZ\u030c", "Dz\u030c", "dz\u030c", "LJ", "Lj", "lj", "NJ", "Nj", "nj"]⟩,
  ⟨0x01f1, ["DZ", "Dz", "dz"]⟩,
  ⟨0x02d8, [" \u0306", " \u0307", " \u030a", " \u0328", " \u0303", " \u030b"]⟩,
  ⟨0x0344, ["\u0308\u0301"]⟩, ⟨0x037a, [" \u0345"]⟩, ⟨0x0384, [" \u0301"]⟩, ⟨0x0587, ["եւ"]⟩,
  ⟨0x0675, ["اٴ", "وٴ", "ۇٴ", "يٴ"]⟩,
  ⟨0x0958, [
    "क\u093c", "ख\u093c", "ग\u093c", "ज\u093c", "ड\u093c", "ढ\u093c", "फ\u093c", "य\u093c"]⟩,
  ⟨0x09dc, ["ড\u09bc", "ঢ\u09bc"]⟩, ⟨0x09df, ["য\u09bc"]⟩, ⟨0x0a33, ["ਲ\u0a3c"]⟩,
  ⟨0x0a36, ["ਸ\u0a3c"]⟩, ⟨0x0a59, ["ਖ\u0a3c", "ਗ\u0a3c", "ਜ\u0a3c"]⟩, ⟨0x0a5e, ["ਫ\u0a3c"]⟩,
  ⟨0x0b5c, ["ଡ\u0b3c", "ଢ\u0b3c"]⟩, ⟨0x0e33, ["\u0e4dา"]⟩, ⟨0x0eb3, ["\u0ecdາ"]⟩,
  ⟨0x0edc, ["ຫນ", "ຫມ"]⟩, ⟨0x0f43, ["ག\u0fb7"]⟩, ⟨0x0f4d, ["ཌ\u0fb7"]⟩, ⟨0x0f52, ["ད\u0fb7"]⟩,
  ⟨0x0f57, ["བ\u0fb7"]⟩, ⟨0x0f5c, ["ཛ\u0fb7"]⟩, ⟨0x0f69, ["ཀ\u0fb5"]⟩, ⟨0x0f73, ["\u0f71\u0f72"]⟩,
  ⟨0x0f75, [
    "\u0f71\u0f74", "\u0fb2\u0f80", "\u0fb2\u0f71\u0f80", "\u0fb3\u0f80", "\u0fb3\u0f71\u0f80"]⟩,
  ⟨0x0f81, ["\u0f71\u0f80"]⟩, ⟨0x0f93, ["\u0f92\u0fb7"]⟩, ⟨0x0f9d, ["\u0f9c\u0fb7"]⟩,
  ⟨0x0fa2, ["\u0fa1\u0fb7"]⟩, ⟨0x0fa7, ["\u0fa6\u0fb7"]⟩, ⟨0x0fac, ["\u0fab\u0fb7"]⟩,
  ⟨0x0fb9, ["\u0f90\u0fb5"]⟩, ⟨0x1e9a, ["aʾ"]⟩, ⟨0x1f71, ["α\u0301"]⟩, ⟨0x1f73, ["ε\u0301"]⟩,
  ⟨0x1f75, ["η\u0301"]⟩, ⟨0x1f77, ["ι\u0301"]⟩, ⟨0x1f79, ["ο\u0301"]⟩, ⟨0x1f7b, ["υ\u0301"]⟩,
  ⟨0x1f7d, ["ω\u0301"]⟩, ⟨0x1fbb, ["Α\u0301"]⟩, ⟨0x1fbd, [" \u0313"]⟩,
  ⟨0x1fbf, [" \u0313", " \u0342"]⟩, ⟨0x1fc9, ["Ε\u0301"]⟩, ⟨0x1fcb, ["Η\u0301"]⟩,
  ⟨0x1fd3, ["ι\u0308\u0301"]⟩, ⟨0x1fdb, ["Ι\u0301"]⟩, ⟨0x1fe3, ["υ\u0308\u0301"]⟩,
  ⟨0x1feb, ["Υ\u0301"]⟩, ⟨0x1fee, [" \u0308\u0301"]⟩, ⟨0x1ff9, ["Ο\u0301"]⟩,
  ⟨0x1ffb, ["Ω\u0301"]⟩, ⟨0x1ffd, [" \u0301", " \u0314"]⟩, ⟨0x2017, [" \u0333"]⟩,
  ⟨0x2025, ["..", "..."]⟩, ⟨0x2033, ["′′", "′′′"]⟩, ⟨0x2036, ["‵‵", "‵‵‵"]⟩, ⟨0x203c, ["!!"]⟩,
  ⟨0x203e, [" \u0305"]⟩, ⟨0x2047, ["??", "?!", "!?"]⟩, ⟨0x2057, ["′′′′"]⟩, ⟨0x20a8, ["Rs"]⟩,
  ⟨0x2100, ["a/c", "a/s"]⟩, ⟨0x2103, ["°C"]⟩, ⟨0x2105, ["c/o", "c/u"]⟩, ⟨0x2109, ["°F"]⟩,
  ⟨0x2116, ["No"]⟩, ⟨0x2120, ["SM", "TEL", "TM"]⟩, ⟨0x212b, ["A\u030a"]⟩,
  ⟨0x2153, [
    "1⁄3", "2⁄3", "1⁄5", "2⁄5", "3⁄5", "4⁄5", "1⁄6", "5⁄6", "1⁄8", "3⁄8", "5⁄8", "7⁄8", "1⁄"]⟩,
  ⟨0x2161, ["II", "III", "IV"]⟩, ⟨0x2165, ["VI", "VII", "VIII", "IX"]⟩, ⟨0x216a, ["XI", "XII"]⟩,
  ⟨0x2171, ["ii", "iii", "iv"]⟩, ⟨0x2175, ["vi", "vii", "viii", "ix"]⟩, ⟨0x217a, ["xi", "xii"]⟩,
  ⟨0x222c, ["∫∫", "∫∫∫"]⟩, ⟨0x222f, ["∮∮", "∮∮∮"]⟩,
  ⟨0x2469, [
    "10", "11", "12", "13", "14", "15", "16", "17", "18", "19", "20", "(1)", "(2)", "(3)", "(4)",
    "(5)", "(6)", "(7)", "(8)", "(9)", "(10)", "(11)", "(12)", "(13)", "(14)", "(15)", "(16)",
    "(17)", "(18)", "(19)", "(20)", "1.", "2.", "3.", "4.", "5.", "6.", "7.", "8.", "9.", "10.",
    "11.", "12.", "13.", "14.", "15.", "16.", "17.", "18.", "19.", "20.", "(a)", "(b)", "(c)",
    "(d)", "(e)", "(f)", "(g)", "(h)", "(i)", "(j)", "(k)", "(l)", "(m)", "(n)", "(o)", "(p)",
    "(q)", "(r)", "(s)", "(t)", "(u)", "(v)", "(w)", "(x)", "(y)", "(z)"]⟩,
  ⟨0x2a0c, ["∫∫∫∫"]⟩, ⟨0x2a74, ["::=", "==", "==="]⟩, ⟨0x2adc, ["⫝\u0338"]⟩,
  ⟨0x309b, [" \u3099", " \u309a"]⟩, ⟨0x309f, ["より"]⟩, ⟨0x30ff, ["コト"]⟩,
  ⟨0x3200, [
    "(ᄀ)", "(ᄂ)", "(ᄃ)", "(ᄅ)", "(ᄆ)", "(ᄇ)", "(ᄉ)", "(ᄋ)", "(ᄌ)", "(ᄎ)", "(ᄏ)", "(ᄐ)", "(ᄑ)",
    "(ᄒ)", "(가)", "(나)", "(다)", "(라)", "(마)", "(바)", "(사)", "(아)", "(자)", "(차)", "(카)",
    "(타)", "(파)", "(하)", "(주)"]⟩,
  ⟨0x3220, [
    "(一)", "(二)", "(三)", "(四)", "(五)", "(六)", "(七)", "(八)", "(九)", "(十)", "(月)", "(火)", "(水)",
    "(木)", "(金)", "(土)", "(日)", "(株)", "(有)", "(社)", "(名)", "(特)", "(財)", "(祝)", "(労)", "(代)",
    "(呼)", "(学)", "(監)", "(企)", "(資)", "(協)", "(祭)", "(休)", "(自)", "(至)"]⟩,
  ⟨0x3251, [
    "21", "22", "23", "24", "25", "26", "27", "28", "29", "30", "31", "32", "33", "34", "35"]⟩,
  ⟨0x326e, ["가", "나", "다", "라", "마", "바", "사", "아", "자", "차", "카", "타", "파", "하"]⟩,
  ⟨0x32b1, [
    "36", "37", "38", "39", "40", "41", "42", "43", "44", "45", "46", "47", "48", "49", "50",
    "1月", "2月", "3月", "4月", "5月", "6月", "7月", "8月", "9月", "10月", "11月", "12月"]⟩,
  ⟨0x3300, [
    "アハ\u309aート", "アルファ", "アンヘ\u309aア", "アール", "イニンク\u3099", "インチ", "ウォン", "エスクート\u3099", "エーカー",
    "オンス", "オーム", "カイリ", "カラット", "カロリー", "カ\u3099ロン", "カ\u3099ンマ", "キ\u3099カ\u3099", "キ\u3099ニー",
    "キュリー", "キ\u3099ルタ\u3099ー", "キロ", "キロク\u3099ラム", "キロメートル", "キロワット", "ク\u3099ラム",
    "ク\u3099ラムトン", "クルセ\u3099イロ", "クローネ", "ケース", "コルナ", "コーホ\u309a", "サイクル", "サンチーム",
    "シリンク\u3099", "センチ", "セント", "タ\u3099ース", "テ\u3099シ", "ト\u3099ル", "トン", "ナノ", "ノット", "ハイツ",
    "ハ\u309aーセント", "ハ\u309aーツ", "ハ\u3099ーレル", "ヒ\u309aアストル", "ヒ\u309aクル", "ヒ\u309aコ", "ヒ\u3099ル",
    "ファラット\u3099", "フィート", "フ\u3099ッシェル", "フラン", "ヘクタール", "ヘ\u309aソ", "ヘ\u309aニヒ", "ヘルツ",
    "ヘ\u309aンス", "ヘ\u309aーシ\u3099", "ヘ\u3099ータ", "ホ\u309aイント", "ホ\u3099ルト", "ホン",
    "ホ\u309aント\u3099", "ホール", "ホーン", "マイクロ", "マイル", "マッハ", "マルク", "マンション", "ミクロン", "ミリ",
    "ミリハ\u3099ール", "メカ\u3099", "メカ\u3099トン", "メートル", "ヤート\u3099", "ヤール", "ユアン", "リットル", "リラ",
    "ルヒ\u309aー", "ルーフ\u3099ル", "レム", "レントケ\u3099ン", "ワット", "0点", "1点", "2点", "3点", "4点", "5点",
    "6点", "7点", "8点", "9点", "10点", "11点", "12点", "13点", "14点", "15点", "16点", "17点", "18点", "19点",
    "20点", "21点", "22点", "23点", "24点", "hPa", "da", "AU", "bar", "oV", "pc"]⟩,
  ⟨0x337b, [
    "平成", "昭和", "大正", "明治", "株式会社", "pA", "nA", "μA", "mA", "kA", "KB", "MB", "GB", "cal", "kcal",
    "pF", "nF", "μF", "μg", "mg", "kg", "Hz", "kHz", "MHz", "GHz", "THz", "μl", "ml", "dl", "kl",
    "fm", "nm", "μm", "mm", "cm", "km", "mm2", "cm2", "m2", "km2", "mm3", "cm3", "m3", "km3",
    "m∕s", "m∕s2", "Pa", "kPa", "MPa", "GPa", "rad", "rad∕s", "rad∕s2", "ps", "ns", "μs", "ms",
    "pV", "nV", "μV", "mV", "kV", "MV", "pW", "nW", "μW", "mW", "kW", "MW", "kΩ", "MΩ", "a.m.",
    "Bq", "cc", "cd", "C∕kg", "Co.", "dB", "Gy", "ha", "HP", "in", "KK", "KM", "kt", "lm", "ln",
    "log", "lx", "mb", "mil", "mol", "PH", "p.m.", "PPM", "PR", "sr", "Sv", "Wb"]⟩,
  ⟨0x33e0, [
    "1日", "2日", "3日", "4日", "5日", "6日", "7日", "8日", "9日", "10日", "11日", "12日", "13日", "14日",
    "15日", "16日", "17日", "18日", "19日", "20日", "21日", "22日", "23日", "24日", "25日", "26日", "27日",
    "28日", "29日", "30日", "31日"]⟩,
  ⟨0xfb00, ["ff", "fi", "fl", "ffi", "ffl", "st", "st"]⟩,
  ⟨0xfb13, ["մն", "մե", "մի", "վն", "մխ"]⟩, ⟨0xfb1d, ["י\u05b4"]⟩, ⟨0xfb1f, ["ײ\u05b7"]⟩,
  ⟨0xfb2a, [
    "ש\u05c1", "ש\u05c2", "ש\u05bc\u05c1", "ש\u05bc\u05c2", "א\u05b7", "א\u05b8", "א\u05bc",
    "ב\u05bc", "ג\u05bc", "ד\u05bc", "ה\u05bc", "ו\u05bc", "ז\u05bc"]⟩,
  ⟨0xfb38, ["ט\u05bc", "י\u05bc", "ך\u05bc", "כ\u05bc", "ל\u05bc"]⟩, ⟨0xfb3e, ["מ\u05bc"]⟩,
  ⟨0xfb40, ["נ\u05bc", "ס\u05bc"]⟩, ⟨0xfb43, ["ף\u05bc", "פ\u05bc"]⟩,
  ⟨0xfb46, [
    "צ\u05bc", "ק\u05bc", "ר\u05bc", "ש\u05bc", "ת\u05bc", "ו\u05b9", "ב\u05bf", "כ\u05bf",
    "פ\u05bf", "אל"]⟩,
  ⟨0xfba4, ["ە\u0654", "ە\u0654"]⟩, ⟨0xfbb0, ["ے\u0654", "ے\u0654"]⟩, ⟨0xfbdd, ["ۇٴ"]⟩,
  ⟨0xfbea, [
    "ي\u0654ا", "ي\u0654ا", "ي\u0654ە", "ي\u0654ە", "ي\u0654و", "ي\u0654و", "ي\u0654ۇ",
    "ي\u0654ۇ", "ي\u0654ۆ", "ي\u0654ۆ", "ي\u0654ۈ", "ي\u0654ۈ", "ي\u0654ې", "ي\u0654ې",
    "ي\u0654ې", "ي\u0654ى", "ي\u0654ى", "ي\u0654ى"]⟩,
  ⟨0xfc00, [
    "ي\u0654ج", "ي\u0654ح", "ي\u0654م", "ي\u0654ى", "ي\u0654ي", "بج", "بح", "بخ", "بم", "بى",
    "بي", "تج", "تح", "تخ", "تم", "تى", "تي", "ثج", "ثم", "ثى", "ثي", "جح", "جم", "حج", "حم",
    "خج", "خح", "خم", "سج", "سح", "سخ", "سم", "صح", "صم", "ضج", "ضح", "ضخ", "ضم", "طح", "طم",
    "ظم", "عج", "عم", "غج", "غم", "فج", "فح", "فخ", "فم", "فى", "في", "قح", "قم", "قى", "قي",
    "كا", "كج", "كح", "كخ", "كل", "كم", "كى", "كي", "لج", "لح", "لخ", "لم", "لى", "لي", "مج",
    "مح", "مخ", "مم", "مى", "مي", "نج", "نح", "نخ", "نم", "نى", "ني", "هج", "هم", "هى", "هي",
    "يج", "يح", "يخ", "يم", "يى", "يي", "ذ\u0670", "ر\u0670", "ى\u0670", " \u064c\u0651",
    " \u064d\u0651", " \u064e\u0651", " \u064f\u0651", " \u0650\u0651", " \u0651\u0670",
    "ي\u0654ر", "ي\u0654ز", "ي\u0654م", "ي\u0654ن", "ي\u0654ى", "ي\u0654ي", "بر", "بز", "بم",
    "بن", "بى", "بي", "تر", "تز", "تم", "تن", "تى", "تي", "ثر", "ثز", "ثم", "ثن", "ثى", "ثي",
    "فى", "في", "قى", "قي", "كا", "كل", "كم", "كى", "كي", "لم", "لى", "لي", "ما", "مم", "نر",
    "نز", "نم", "نن", "نى", "ني", "ى\u0670", "ير", "يز", "يم", "ين", "يى", "يي", "ي\u0654ج",
    "ي\u0654ح", "ي\u0654خ", "ي\u0654م", "ي\u0654ه", "بج", "بح", "بخ", "بم", "به", "تج", "تح",
    "تخ", "تم", "ته", "ثم", "جح", "جم", "حج", "حم", "خج", "خم", "سج", "سح", "سخ", "سم", "صح",
    "صخ", "صم", "ضج", "ضح", "ضخ", "ضم", "طح", "ظم", "عج", "عم", "غج", "غم", "فج", "فح", "فخ",
    "فم", "قح", "قم", "كج", "كح", "كخ", "كل", "كم", "لج", "لح", "لخ", "لم", "له", "مج", "مح",
    "مخ", "مم", "نج", "نح", "نخ", "نم", "نه", "هج", "هم", "ه\u0670", "يج", "يح", "يخ", "يم", "يه",
    "ي\u0654م", "ي\u0654ه", "بم", "به", "تم", "ته", "ثم", "ثه", "سم", "سه", "شم", "شه", "كل",
    "كم", "لم", "نم", "نه", "يم", "يه", "ـ\u064e\u0651", "ـ\u064f\u0651", "ـ\u0650\u0651", "طى",
    "طي", "عى", "عي", "غى", "غي", "سى", "سي", "شى", "شي", "حى", "حي", "جى", "جي", "خى", "خي",
    "صى", "صي", "ضى", "ضي", "شج", "شح", "شخ", "شم", "شر", "سر", "صر", "ضر", "طى", "طي", "عى",
    "عي", "غى", "غي", "سى", "سي", "شى", "شي", "حى", "حي", "جى", "جي", "خى", "خي", "صى", "صي",
    "ضى", "ضي", "شج", "شح", "شخ", "شم", "شر", "سر", "صر", "ضر", "شج", "شح", "شخ", "شم", "سه",
    "شه", "طم", "سج", "سح", "سخ", "شج", "شح", "شخ", "طم", "ظم", "ا\u064b", "ا\u064b"]⟩,
  ⟨0xfd50, [
    "تجم", "تحج", "تحج", "تحم", "تخم", "تمج", "تمح", "تمخ", "جمح", "جمح", "حمي", "حمى", "سحج",
    "سجح", "سجى", "سمح", "سمح", "سمج", "سمم", "سمم", "صحح", "صحح", "صمم", "شحم", "شحم", "شجي",
    "شمخ", "شمخ", "شمم", "شمم", "ضحى", "ضخم", "ضخم", "طمح", "طمح", "طمم", "طمي", "عجم", "عمم",
    "عمم", "عمى", "غمم", "غمي", "غمى", "فخم", "فخم", "قمح", "قمم", "لحم", "لحي", "لحى", "لجج",
    "لجج", "لخم", "لخم", "لمح", "لمح", "محج", "محم", "محي", "مجح", "مجم", "مخج", "مخم"]⟩,
  ⟨0xfd92, [
    "مجخ", "همج", "همم", "نحم", "نحى", "نجم", "نجم", "نجى", "نمي", "نمى", "يمم", "يمم", "بخي",
    "تجي", "تجى", "تخي", "تخى", "تمي", "تمى", "جمي", "جحى", "جمى", "سخى", "صحي", "شحي", "ضحي",
    "لجي", "لمي", "يحي", "يجي", "يمي", "ممي", "قمي", "نحي", "قمح", "لحم", "عمي", "كمي", "نجح",
    "مخي", "لجم", "كمم", "لجم", "نجح", "جحي", "حجي", "مجي", "فمي", "بحي", "كمم", "عجم", "صمم",
    "سخي", "نجي"]⟩,
  ⟨0xfdf0, [
    "صلے", "قلے", "الله", "اكبر", "محمد", "صلعم", "رسول", "عليه", "وسلم", "صلى",
    "صلى الله عليه وسلم", "جل جلاله", "ریال"]⟩,
  ⟨0xfe30, [".."]⟩, ⟨0xfe49, [" \u0305", " \u0305", " \u0305", " \u0305"]⟩,
  ⟨0xfe70, [" \u064b", "ـ\u064b", " \u064c"]⟩, ⟨0xfe74, [" \u064d"]⟩,
  ⟨0xfe76, [
    " \u064e", "ـ\u064e", " \u064f", "ـ\u064f", " \u0650", "ـ\u0650", " \u0651", "ـ\u0651",
    " \u0652", "ـ\u0652"]⟩,
  ⟨0xfe81, [
    "ا\u0653", "ا\u0653", "ا\u0654", "ا\u0654", "و\u0654", "و\u0654", "ا\u0655", "ا\u0655",
    "ي\u0654", "ي\u0654", "ي\u0654", "ي\u0654"]⟩,
  ⟨0xfef5, ["لا\u0653", "لا\u0653", "لا\u0654", "لا\u0654", "لا\u0655", "لا\u0655", "لا", "لا"]⟩,
  ⟨0xffe3, [" \u0304"]⟩, ⟨0x1d15e, ["𝅗𝅥", "𝅘𝅥", "𝅘𝅥𝅮", "𝅘𝅥𝅯", "𝅘𝅥𝅰", "𝅘𝅥𝅱", "𝅘𝅥𝅲"]⟩,
  ⟨0x1d1bb, ["𝆹𝅥", "𝆺𝅥", "𝆹𝅥𝅮", "𝆺𝅥𝅮", "𝆹𝅥𝅯", "𝆺𝅥𝅯"]⟩]

/-- The plain characters that a character stands for, if it is not plain itself. -/
def plainForm? (char : Char) : Option (List Char) :=
  let code := char.toNat
  (plainCharacters.findSome? fun block =>
      if block.first ≤ code then
        ((block.rows.flatMap String.toList)[code - block.first]?).map ([·])
      else none)
    <|> (plainSequences.findSome? fun block =>
      if block.first ≤ code then (block.rows[code - block.first]?).map String.toList else none)

end LuaBytecode.Text
