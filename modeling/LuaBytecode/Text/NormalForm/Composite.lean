/-!
# Composite characters

A composite is one character that stands for a base and the mark after it. A base may be a
composite itself. The table follows version 14 of the Unicode character database, without the
composites that are not to be used; those of scripts that came after version 3.2 are kept apart.
-/

set_option autoImplicit false

namespace LuaBytecode.Text

/-- Composites with one mark: each base, and in the same place the composite that it makes. -/
structure MarkedLetters where
  mark : Char
  bases : String
  composites : String
  deriving DecidableEq, Repr

/-- The composites of the scripts that version 3.2 has. -/
def markedLetters : List MarkedLetters := [
  ⟨'\u0300', "AEIOUaeiouÜüNnЕИеиĒēŌōWwÂâĂăÊêÔôƠơƯưYyἀἁἈἉἐἑἘἙἠἡἨἩἰἱἸἹὀὁὈὉὐὑὙὠὡὨὩαεηιουωΑΕΗ᾿ϊΙ῾ϋ",
    "ÀÈÌÒÙàèìòùǛǜǸǹЀЍѐѝḔḕṐṑẀẁẦầẰằỀềỒồỜờỪừỲỳἂἃἊἋἒἓἚἛἢἣἪἫἲἳἺἻὂὃὊὋὒὓὛὢὣὪὫὰὲὴὶὸὺὼᾺῈῊ῍ῒῚ῝ῢ"⟩,
  ⟨'\u0300', "Υ¨ΟΩ",
    "Ὺ῭ῸῺ"⟩,
  ⟨'\u0301', "AEIOUYaeiouyCcLlNnRrSsZzÜüGgÅåÆæØø¨ΑΕΗΙΟΥΩϊαεηιϋουωϒГКгкÇçĒēÏïKkMmÕõŌōPpŨũWwÂâĂă",
    "ÁÉÍÓÚÝáéíóúýĆćĹĺŃńŔŕŚśŹźǗǘǴǵǺǻǼǽǾǿ΅ΆΈΉΊΌΎΏΐάέήίΰόύώϓЃЌѓќḈḉḖḗḮḯḰḱḾḿṌṍṒṓṔṕṸṹẂẃẤấẮắ"⟩,
  ⟨'\u0301', "ÊêÔôƠơƯưἀἁἈἉἐἑἘἙἠἡἨἩἰἱἸἹὀὁὈὉὐὑὙὠὡὨὩ᾿῾",
    "ẾếỐốỚớỨứἄἅἌἍἔἕἜἝἤἥἬἭἴἵἼἽὄὅὌὍὔὕὝὤὥὬὭ῎῞"⟩,
  ⟨'\u0302', "AEIOUaeiouCcGgHhJjSsWwYyZzẠạẸẹỌọ", "ÂÊÎÔÛâêîôûĈĉĜĝĤĥĴĵŜŝŴŵŶŷẐẑẬậỆệỘộ"⟩,
  ⟨'\u0303', "ANOanoIiUuVvÂâĂăEeÊêÔôƠơƯưYy", "ÃÑÕãñõĨĩŨũṼṽẪẫẴẵẼẽỄễỖỗỠỡỮữỸỹ"⟩,
  ⟨'\u0304', "AaEeIiOoUuÜüÄäȦȧÆæǪǫÖöÕõȮȯYyИиУуGgḶḷṚṛαΑιΙυΥ",
    "ĀāĒēĪīŌōŪūǕǖǞǟǠǡǢǣǬǭȪȫȬȭȰȱȲȳӢӣӮӯḠḡḸḹṜṝᾱᾹῑῙῡῩ"⟩,
  ⟨'\u0306', "AaEeGgIiOoUuУИиуЖжАаЕеȨȩẠạαΑιΙυΥ", "ĂăĔĕĞğĬĭŎŏŬŭЎЙйўӁӂӐӑӖӗḜḝẶặᾰᾸῐῘῠῨ"⟩,
  ⟨'\u0307', "CcEeGgIZzAaOoBbDdFfHhMmNnPpRrSsŚśŠšṢṣTtWwXxYyſ",
    "ĊċĖėĠġİŻżȦȧȮȯḂḃḊḋḞḟḢḣṀṁṄṅṖṗṘṙṠṡṤṥṦṧṨṩṪṫẆẇẊẋẎẏẛ"⟩,
  ⟨'\u0308', "AEIOUaeiouyYΙΥιυϒЕІеіАаӘәЖжЗзИиОоӨөЭэУуЧчЫыHhÕõŪūWwXxt",
    "ÄËÏÖÜäëïöüÿŸΪΫϊϋϔЁЇёїӒӓӚӛӜӝӞӟӤӥӦӧӪӫӬӭӰӱӴӵӸӹḦḧṎṏṺṻẄẅẌẍẗ"⟩,
  ⟨'\u0309', "AaÂâĂăEeÊêIiOoÔôƠơUuƯưYy", "ẢảẨẩẲẳẺẻỂểỈỉỎỏỔổỞởỦủỬửỶỷ"⟩,
  ⟨'\u030a', "AaUuwy", "ÅåŮůẘẙ"⟩,
  ⟨'\u030b', "OoUuУу", "ŐőŰűӲӳ"⟩,
  ⟨'\u030c', "CcDdEeLlNnRrSsTtZzAaIiOoUuÜüGgKkƷʒjHh", "ČčĎďĚěĽľŇňŘřŠšŤťŽžǍǎǏǐǑǒǓǔǙǚǦǧǨǩǮǯǰȞȟ"⟩,
  ⟨'\u030f', "AaEeIiOoRrUuѴѵ", "ȀȁȄȅȈȉȌȍȐȑȔȕѶѷ"⟩,
  ⟨'\u0311', "AaEeIiOoRrUu", "ȂȃȆȇȊȋȎȏȒȓȖȗ"⟩,
  ⟨'\u0313', "αΑεΕηΗιΙοΟυωΩρ", "ἀἈἐἘἠἨἰἸὀὈὐὠὨῤ"⟩,
  ⟨'\u0314', "αΑεΕηΗιΙοΟυΥωΩρΡ", "ἁἉἑἙἡἩἱἹὁὉὑὙὡὩῥῬ"⟩,
  ⟨'\u031b', "OoUu", "ƠơƯư"⟩,
  ⟨'\u0323', "BbDdHhKkLlMmNnRrSsTtVvWwZzAaEeIiOoƠơUuƯưYy",
    "ḄḅḌḍḤḥḲḳḶḷṂṃṆṇṚṛṢṣṬṭṾṿẈẉẒẓẠạẸẹỊịỌọỢợỤụỰựỴỵ"⟩,
  ⟨'\u0324', "Uu", "Ṳṳ"⟩,
  ⟨'\u0325', "Aa", "Ḁḁ"⟩,
  ⟨'\u0326', "SsTt", "ȘșȚț"⟩,
  ⟨'\u0327', "CcGgKkLlNnRrSsTtEeDdHh", "ÇçĢģĶķĻļŅņŖŗŞşŢţȨȩḐḑḨḩ"⟩,
  ⟨'\u0328', "AaEeIiUuOo", "ĄąĘęĮįŲųǪǫ"⟩,
  ⟨'\u032d', "DdEeLlNnTtUu", "ḒḓḘḙḼḽṊṋṰṱṶṷ"⟩,
  ⟨'\u032e', "Hh", "Ḫḫ"⟩,
  ⟨'\u0330', "EeIiUu", "ḚḛḬḭṴṵ"⟩,
  ⟨'\u0331', "BbDdKkLlNnRrTtZzh", "ḆḇḎḏḴḵḺḻṈṉṞṟṮṯẔẕẖ"⟩,
  ⟨'\u0338', "←→↔⇐⇔⇒∃∈∋∣∥∼≃≅≈=≡≍<>≤≥≲≳≶≷≺≻⊂⊃⊆⊇⊢⊨⊩⊫≼≽⊑⊒⊲⊳⊴⊵",
    "↚↛↮⇍⇎⇏∄∉∌∤∦≁≄≇≉≠≢≭≮≯≰≱≴≵≸≹⊀⊁⊄⊅⊈⊉⊬⊭⊮⊯⋠⋡⋢⋣⋪⋫⋬⋭"⟩,
  ⟨'\u0342', "ἀἁἈἉἠἡἨἩἰἱἸἹὐὑὙὠὡὨὩα¨η᾿ιϊ῾υϋω", "ἆἇἎἏἦἧἮἯἶἷἾἿὖὗὟὦὧὮὯᾶ῁ῆ῏ῖῗ῟ῦῧῶ"⟩,
  ⟨'\u0345', "ἀἁἂἃἄἅἆἇἈἉἊἋἌἍἎἏἠἡἢἣἤἥἦἧἨἩἪἫἬἭἮἯὠὡὢὣὤὥὦὧὨὩὪὫὬὭὮὯὰαάᾶΑὴηήῆΗὼωώῶΩ",
    "ᾀᾁᾂᾃᾄᾅᾆᾇᾈᾉᾊᾋᾌᾍᾎᾏᾐᾑᾒᾓᾔᾕᾖᾗᾘᾙᾚᾛᾜᾝᾞᾟᾠᾡᾢᾣᾤᾥᾦᾧᾨᾩᾪᾫᾬᾭᾮᾯᾲᾳᾴᾷᾼῂῃῄῇῌῲῳῴῷῼ"⟩,
  ⟨'\u0653', "ا", "آ"⟩,
  ⟨'\u0654', "اويەہے", "أؤئۀۂۓ"⟩,
  ⟨'\u0655', "ا", "إ"⟩,
  ⟨'\u093c', "नरळ", "ऩऱऴ"⟩,
  ⟨'\u09be', "\u09c7", "\u09cb"⟩,
  ⟨'\u09d7', "\u09c7", "\u09cc"⟩,
  ⟨'\u0b3e', "\u0b47", "\u0b4b"⟩,
  ⟨'\u0b56', "\u0b47", "\u0b48"⟩,
  ⟨'\u0b57', "\u0b47", "\u0b4c"⟩,
  ⟨'\u0bbe', "\u0bc6\u0bc7", "\u0bca\u0bcb"⟩,
  ⟨'\u0bd7', "ஒ\u0bc6", "ஔ\u0bcc"⟩,
  ⟨'\u0c56', "\u0c46", "\u0c48"⟩,
  ⟨'\u0cc2', "\u0cc6", "\u0cca"⟩,
  ⟨'\u0cd5', "\u0cbf\u0cc6\u0cca", "\u0cc0\u0cc7\u0ccb"⟩,
  ⟨'\u0cd6', "\u0cc6", "\u0cc8"⟩,
  ⟨'\u0d3e', "\u0d46\u0d47", "\u0d4a\u0d4b"⟩,
  ⟨'\u0d57', "\u0d46", "\u0d4c"⟩,
  ⟨'\u0dca', "\u0dd9\u0ddc", "\u0dda\u0ddd"⟩,
  ⟨'\u0dcf', "\u0dd9", "\u0ddc"⟩,
  ⟨'\u0ddf', "\u0dd9", "\u0dde"⟩,
  ⟨'\u102e', "ဥ", "ဦ"⟩,
  ⟨'\u3099', "かきくけこさしすせそたちつてとはひふへほうゝカキクケコサシスセソタチツテトハヒフヘホウワヰヱヲヽ",
    "がぎぐげござじずぜぞだぢづでどばびぶべぼゔゞガギグゲゴザジズゼゾダヂヅデドバビブベボヴヷヸヹヺヾ"⟩,
  ⟨'\u309a', "はひふへほハヒフヘホ", "ぱぴぷぺぽパピプペポ"⟩]

/-- The composites of the scripts that came later. -/
def laterMarkedLetters : List MarkedLetters := [
  ⟨'\u1b35', "ᬅᬇᬉᬋᬍᬑ\u1b3a\u1b3c\u1b3e\u1b3f\u1b42", "ᬆᬈᬊᬌᬎᬒ\u1b3b\u1b3d\u1b40\u1b41\u1b43"⟩,
  ⟨'𑂺', "𑂙𑂛𑂥", "𑂚𑂜𑂫"⟩,
  ⟨'𑄧', "𑄱𑄲", "𑄮𑄯"⟩,
  ⟨'𑌾', "𑍇", "𑍋"⟩,
  ⟨'𑍗', "𑍇", "𑍌"⟩,
  ⟨'𑒰', "𑒹", "𑒼"⟩,
  ⟨'𑒺', "𑒹", "𑒻"⟩,
  ⟨'𑒽', "𑒹", "𑒾"⟩,
  ⟨'𑖯', "𑖸𑖹", "𑖺𑖻"⟩,
  ⟨'𑤰', "𑤵", "𑤸"⟩]

namespace MarkedLetters

def pairs (letters : MarkedLetters) : List (Char × Char) :=
  letters.bases.toList.zip letters.composites.toList

end MarkedLetters

/-- The composite of a base and a mark. -/
def composite? (base mark : Char) : Option Char :=
  (markedLetters ++ laterMarkedLetters).findSome? fun letters =>
    if letters.mark = mark then letters.pairs.lookup base else none

/-- The base and the mark of a composite. One of the scripts that came later stays whole. -/
def baseAndMark? (composite : Char) : Option (Char × Char) :=
  markedLetters.findSome? fun letters =>
    (letters.pairs.find? fun pair => pair.2 == composite).map fun pair => (pair.1, letters.mark)

end LuaBytecode.Text
