import LuaBytecode.Text.CodePage.Basic

/-!
# Code pages of Windows

The pages of Windows and two that extend its Cyrillic page. Each is named by its number.
-/

set_option autoImplicit false

namespace LuaBytecode.Text.CodePage

/-- Thai. -/
def cp874 : CodePage := .overAscii [
  "€\ufffe\ufffe\ufffe\ufffe…\ufffe\ufffe\ufffe\ufffe\ufffe\ufffe\ufffe\ufffe\ufffe\ufffe",
  "\ufffe‘’“”•–—\ufffe\ufffe\ufffe\ufffe\ufffe\ufffe\ufffe\ufffe\xa0กขฃคฅฆงจฉชซฌญฎฏ",
  "ฐฑฒณดตถทธนบปผฝพฟภมยรฤลฦวศษสหฬอฮฯ",
  "ะ\u0e31าำ\u0e34\u0e35\u0e36\u0e37\u0e38\u0e39\u0e3a\ufffe\ufffe\ufffe\ufffe฿",
  "เแโใไๅ\u0e46\u0e47\u0e48\u0e49\u0e4a\u0e4b\u0e4c\u0e4d\u0e4e๏",
  "๐๑๒๓๔๕๖๗๘๙๚๛\ufffe\ufffe\ufffe\ufffe"]

/-- Central European languages. -/
def cp1250 : CodePage := .overAscii [
  "€\ufffe‚\ufffe„…†‡\ufffe‰Š‹ŚŤŽŹ\ufffe‘’“”•–—\ufffe™š›śťžź",
  "\xa0\u02c7˘Ł¤Ą¦§¨©Ş«¬\xad®Ż°±˛ł´µ¶·¸ąş»Ľ˝ľż",
  "ŔÁÂĂÄĹĆÇČÉĘËĚÍÎĎĐŃŇÓÔŐÖ×ŘŮÚŰÜÝŢß",
  "ŕáâăäĺćçčéęëěíîďđńňóôőö÷řůúűüýţ˙"]

/-- Cyrillic. -/
def cp1251 : CodePage := .overAscii [
  "ЂЃ‚ѓ„…†‡€‰Љ‹ЊЌЋЏђ‘’“”•–—\ufffe™љ›њќћџ",
  "\xa0ЎўЈ¤Ґ¦§Ё©Є«¬\xad®Ї°±Ііґµ¶·ё№є»јЅѕї",
  "АБВГДЕЖЗИЙКЛМНОПРСТУФХЦЧШЩЪЫЬЭЮЯ",
  "абвгдежзийклмнопрстуфхцчшщъыьэюя"]

/-- Western European languages. -/
def cp1252 : CodePage := .overAscii [
  "€\ufffe‚ƒ„…†‡\u02c6‰Š‹Œ\ufffeŽ\ufffe\ufffe‘’“”•–—˜™š›œ\ufffežŸ",
  "\xa0¡¢£¤¥¦§¨©ª«¬\xad®¯°±²³´µ¶·¸¹º»¼½¾¿",
  "ÀÁÂÃÄÅÆÇÈÉÊËÌÍÎÏÐÑÒÓÔÕÖ×ØÙÚÛÜÝÞß",
  "àáâãäåæçèéêëìíîïðñòóôõö÷øùúûüýþÿ"]

/-- Greek. -/
def cp1253 : CodePage := .overAscii [
  "€\ufffe‚ƒ„…†‡\ufffe‰\ufffe‹\ufffe\ufffe\ufffe\ufffe",
  "\ufffe‘’“”•–—\ufffe™\ufffe›\ufffe\ufffe\ufffe\ufffe\xa0΅Ά£¤¥¦§¨©\ufffe«¬\xad®―",
  "°±²³΄µ¶·ΈΉΊ»Ό½ΎΏΐΑΒΓΔΕΖΗΘΙΚΛΜΝΞΟ",
  "ΠΡ\ufffeΣΤΥΦΧΨΩΪΫάέήίΰαβγδεζηθικλμνξο",
  "πρςστυφχψωϊϋόύώ\ufffe"]

/-- Turkish. -/
def cp1254 : CodePage := .overAscii [
  "€\ufffe‚ƒ„…†‡\u02c6‰Š‹Œ\ufffe\ufffe\ufffe\ufffe‘’“”•–—˜™š›œ\ufffe\ufffeŸ",
  "\xa0¡¢£¤¥¦§¨©ª«¬\xad®¯°±²³´µ¶·¸¹º»¼½¾¿",
  "ÀÁÂÃÄÅÆÇÈÉÊËÌÍÎÏĞÑÒÓÔÕÖ×ØÙÚÛÜİŞß",
  "àáâãäåæçèéêëìíîïğñòóôõö÷øùúûüışÿ"]

/-- Hebrew. -/
def cp1255 : CodePage := .overAscii [
  "€\ufffe‚ƒ„…†‡\u02c6‰\ufffe‹\ufffe\ufffe\ufffe\ufffe",
  "\ufffe‘’“”•–—˜™\ufffe›\ufffe\ufffe\ufffe\ufffe\xa0¡¢£₪¥¦§¨©×«¬\xad®¯",
  "°±²³´µ¶·¸¹÷»¼½¾¿",
  "\u05b0\u05b1\u05b2\u05b3\u05b4\u05b5\u05b6\u05b7",
  "\u05b8\u05b9\ufffe\u05bb\u05bc\u05bd\u05be\u05bf",
  "\u05c0\u05c1\u05c2\u05c3\u05f0\u05f1\u05f2\u05f3",
  "\u05f4\ufffe\ufffe\ufffe\ufffe\ufffe\ufffe\ufffe",
  "\u05d0\u05d1\u05d2\u05d3\u05d4\u05d5\u05d6\u05d7",
  "\u05d8\u05d9\u05da\u05db\u05dc\u05dd\u05de\u05df",
  "\u05e0\u05e1\u05e2\u05e3\u05e4\u05e5\u05e6\u05e7",
  "\u05e8\u05e9\u05ea\ufffe\ufffe\u200e\u200f\ufffe"]

/-- Arabic. -/
def cp1256 : CodePage := .overAscii [
  "€\u067e‚ƒ„…†‡\u02c6‰\u0679‹Œ\u0686\u0698\u0688\u06af‘’“”•–—\u06a9™\u0691›œ\u200c\u200d\u06ba",
  "\xa0،¢£¤¥¦§¨©\u06be«¬\xad®¯°±²³´µ¶·¸¹\u061b»¼½¾\u061f",
  "\u06c1\u0621\u0622\u0623\u0624\u0625\u0626\u0627",
  "\u0628\u0629\u062a\u062b\u062c\u062d\u062e\u062f\u0630\u0631\u0632\u0633\u0634\u0635\u0636×",
  "\u0637\u0638\u0639\u063a\u0640\u0641\u0642\u0643à\u0644â\u0645\u0646\u0647\u0648ç",
  "èéêë\u0649\u064aîï\u064b\u064c\u064d\u064eô\u064f\u0650÷\u0651ù\u0652ûü\u200e\u200f\u06d2"]

/-- Baltic languages. -/
def cp1257 : CodePage := .overAscii [
  "€\ufffe‚\ufffe„…†‡\ufffe‰\ufffe‹\ufffe¨\u02c7¸\ufffe‘’“”•–—\ufffe™\ufffe›\ufffe¯˛\ufffe",
  "\xa0\ufffe¢£¤\ufffe¦§Ø©Ŗ«¬\xad®Æ°±²³´µ¶·ø¹ŗ»¼½¾æ",
  "ĄĮĀĆÄÅĘĒČÉŹĖĢĶĪĻŠŃŅÓŌÕÖ×ŲŁŚŪÜŻŽß",
  "ąįāćäåęēčéźėģķīļšńņóōõö÷ųłśūüżž˙"]

/-- Vietnamese. -/
def cp1258 : CodePage := .overAscii [
  "€\ufffe‚ƒ„…†‡\u02c6‰\ufffe‹Œ\ufffe\ufffe\ufffe\ufffe‘’“”•–—˜™\ufffe›œ\ufffe\ufffeŸ",
  "\xa0¡¢£¤¥¦§¨©ª«¬\xad®¯°±²³´µ¶·¸¹º»¼½¾¿",
  "ÀÁÂĂÄÅÆÇÈÉÊË\u0300ÍÎÏĐÑ\u0309ÓÔƠÖ×ØÙÚÛÜƯ\u0303ß",
  "àáâăäåæçèéêë\u0301íîïđñ\u0323óôơö÷øùúûüư₫ÿ"]

/-- Kazakh. -/
def kz1048 : CodePage := .overAscii [
  "ЂЃ‚ѓ„…†‡€‰Љ‹ЊҚҺЏђ‘’“”•–—\ufffe™љ›њқһџ",
  "\xa0ҰұӘ¤Ө¦§Ё©Ғ«¬\xad®Ү°±Ііөµ¶·ё№ғ»әҢңү",
  "АБВГДЕЖЗИЙКЛМНОПРСТУФХЦЧШЩЪЫЬЭЮЯ",
  "абвгдежзийклмнопрстуфхцчшщъыьэюя"]

/-- Cyrillic, of Central Asia. -/
def ptcp154 : CodePage := .overAscii [
  "ҖҒӮғ„…ҶҮҲүҠӢҢҚҺҸҗ‘’“”•–—ҳҷҡӣңқһҹ",
  "\xa0ЎўЈӨҘҰ§Ё©Ә«¬ӯ®Ҝ°ұІіҙө¶·ё№ә»јҪҫҝ",
  "АБВГДЕЖЗИЙКЛМНОПРСТУФХЦЧШЩЪЫЬЭЮЯ",
  "абвгдежзийклмнопрстуфхцчшщъыьэюя"]

/-- Western European languages, as on small computers of the nineties. -/
def palmos : CodePage := .overAscii [
  "€\x81‚ƒ„…†‡\u02c6‰Š‹Œ♦♣♥♠‘’“”•–—˜™š\x9bœ\x9d\x9eŸ",
  "\xa0¡¢£¤¥¦§¨©ª«¬\xad®¯°±²³´µ¶·¸¹º»¼½¾¿",
  "ÀÁÂÃÄÅÆÇÈÉÊËÌÍÎÏÐÑÒÓÔÕÖ×ØÙÚÛÜÝÞß",
  "àáâãäåæçèéêëìíîïðñòóôõö÷øùúûüýþÿ"]

end LuaBytecode.Text.CodePage
