import LuaBytecode.Text.CodePage.Basic

/-!
# Parts of the eight-bit standard

The parts of the standard for eight-bit characters after its first, and the Thai standard. Each is
named by its number.
-/

set_option autoImplicit false

namespace LuaBytecode.Text.CodePage

/-- Central European languages. -/
def iso8859_2 : CodePage := .overAscii [
  "\x80\x81\x82\x83\x84\x85\x86\x87\x88\x89\x8a\x8b\x8c\x8d\x8e\x8f",
  "\x90\x91\x92\x93\x94\x95\x96\x97\x98\x99\x9a\x9b\x9c\x9d\x9e\x9f\xa0Ą˘Ł¤ĽŚ§¨ŠŞŤŹ\xadŽŻ",
  "°ą˛ł´ľś\u02c7¸šşťź˝žżŔÁÂĂÄĹĆÇČÉĘËĚÍÎĎ",
  "ĐŃŇÓÔŐÖ×ŘŮÚŰÜÝŢßŕáâăäĺćçčéęëěíîď",
  "đńňóôőö÷řůúűüýţ˙"]

/-- South European languages. -/
def iso8859_3 : CodePage := .overAscii [
  "\x80\x81\x82\x83\x84\x85\x86\x87\x88\x89\x8a\x8b\x8c\x8d\x8e\x8f",
  "\x90\x91\x92\x93\x94\x95\x96\x97\x98\x99\x9a\x9b\x9c\x9d\x9e\x9f",
  "\xa0Ħ˘£¤\ufffeĤ§¨İŞĞĴ\xad\ufffeŻ°ħ²³´µĥ·¸ışğĵ½\ufffeż",
  "ÀÁÂ\ufffeÄĊĈÇÈÉÊËÌÍÎÏ\ufffeÑÒÓÔĠÖ×ĜÙÚÛÜŬŜß",
  "àáâ\ufffeäċĉçèéêëìíîï\ufffeñòóôġö÷ĝùúûüŭŝ˙"]

/-- North European languages. -/
def iso8859_4 : CodePage := .overAscii [
  "\x80\x81\x82\x83\x84\x85\x86\x87\x88\x89\x8a\x8b\x8c\x8d\x8e\x8f",
  "\x90\x91\x92\x93\x94\x95\x96\x97\x98\x99\x9a\x9b\x9c\x9d\x9e\x9f\xa0ĄĸŖ¤ĨĻ§¨ŠĒĢŦ\xadŽ¯",
  "°ą˛ŗ´ĩļ\u02c7¸šēģŧŊžŋĀÁÂÃÄÅÆĮČÉĘËĖÍÎĪ",
  "ĐŅŌĶÔÕÖ×ØŲÚÛÜŨŪßāáâãäåæįčéęëėíîī",
  "đņōķôõö÷øųúûüũū˙"]

/-- Cyrillic. -/
def iso8859_5 : CodePage := .overAscii [
  "\x80\x81\x82\x83\x84\x85\x86\x87\x88\x89\x8a\x8b\x8c\x8d\x8e\x8f",
  "\x90\x91\x92\x93\x94\x95\x96\x97\x98\x99\x9a\x9b\x9c\x9d\x9e\x9f\xa0ЁЂЃЄЅІЇЈЉЊЋЌ\xadЎЏ",
  "АБВГДЕЖЗИЙКЛМНОПРСТУФХЦЧШЩЪЫЬЭЮЯ",
  "абвгдежзийклмнопрстуфхцчшщъыьэюя",
  "№ёђѓєѕіїјљњћќ§ўџ"]

/-- Arabic. -/
def iso8859_6 : CodePage := .overAscii [
  "\x80\x81\x82\x83\x84\x85\x86\x87\x88\x89\x8a\x8b\x8c\x8d\x8e\x8f",
  "\x90\x91\x92\x93\x94\x95\x96\x97\x98\x99\x9a\x9b\x9c\x9d\x9e\x9f",
  "\xa0\ufffe\ufffe\ufffe¤\ufffe\ufffe\ufffe\ufffe\ufffe\ufffe\ufffe،\xad\ufffe\ufffe",
  "\ufffe\ufffe\ufffe\ufffe\ufffe\ufffe\ufffe\ufffe",
  "\ufffe\ufffe\ufffe\u061b\ufffe\ufffe\ufffe\u061f",
  "\ufffe\u0621\u0622\u0623\u0624\u0625\u0626\u0627",
  "\u0628\u0629\u062a\u062b\u062c\u062d\u062e\u062f",
  "\u0630\u0631\u0632\u0633\u0634\u0635\u0636\u0637",
  "\u0638\u0639\u063a\ufffe\ufffe\ufffe\ufffe\ufffe",
  "\u0640\u0641\u0642\u0643\u0644\u0645\u0646\u0647",
  "\u0648\u0649\u064a\u064b\u064c\u064d\u064e\u064f",
  "\u0650\u0651\u0652\ufffe\ufffe\ufffe\ufffe\ufffe",
  "\ufffe\ufffe\ufffe\ufffe\ufffe\ufffe\ufffe\ufffe"]

/-- Greek. -/
def iso8859_7 : CodePage := .overAscii [
  "\x80\x81\x82\x83\x84\x85\x86\x87\x88\x89\x8a\x8b\x8c\x8d\x8e\x8f",
  "\x90\x91\x92\x93\x94\x95\x96\x97\x98\x99\x9a\x9b\x9c\x9d\x9e\x9f",
  "\xa0‘’£€₯¦§¨©\u037a«¬\xad\ufffe―°±²³΄΅Ά·ΈΉΊ»Ό½ΎΏ",
  "ΐΑΒΓΔΕΖΗΘΙΚΛΜΝΞΟΠΡ\ufffeΣΤΥΦΧΨΩΪΫάέήί",
  "ΰαβγδεζηθικλμνξοπρςστυφχψωϊϋόύώ\ufffe"]

/-- Hebrew. -/
def iso8859_8 : CodePage := .overAscii [
  "\x80\x81\x82\x83\x84\x85\x86\x87\x88\x89\x8a\x8b\x8c\x8d\x8e\x8f",
  "\x90\x91\x92\x93\x94\x95\x96\x97\x98\x99\x9a\x9b\x9c\x9d\x9e\x9f\xa0\ufffe¢£¤¥¦§¨©×«¬\xad®¯",
  "°±²³´µ¶·¸¹÷»¼½¾\ufffe",
  "\ufffe\ufffe\ufffe\ufffe\ufffe\ufffe\ufffe\ufffe",
  "\ufffe\ufffe\ufffe\ufffe\ufffe\ufffe\ufffe\ufffe",
  "\ufffe\ufffe\ufffe\ufffe\ufffe\ufffe\ufffe\ufffe\ufffe\ufffe\ufffe\ufffe\ufffe\ufffe\ufffe‗",
  "\u05d0\u05d1\u05d2\u05d3\u05d4\u05d5\u05d6\u05d7",
  "\u05d8\u05d9\u05da\u05db\u05dc\u05dd\u05de\u05df",
  "\u05e0\u05e1\u05e2\u05e3\u05e4\u05e5\u05e6\u05e7",
  "\u05e8\u05e9\u05ea\ufffe\ufffe\u200e\u200f\ufffe"]

/-- Turkish. -/
def iso8859_9 : CodePage := .overAscii [
  "\x80\x81\x82\x83\x84\x85\x86\x87\x88\x89\x8a\x8b\x8c\x8d\x8e\x8f",
  "\x90\x91\x92\x93\x94\x95\x96\x97\x98\x99\x9a\x9b\x9c\x9d\x9e\x9f\xa0¡¢£¤¥¦§¨©ª«¬\xad®¯",
  "°±²³´µ¶·¸¹º»¼½¾¿ÀÁÂÃÄÅÆÇÈÉÊËÌÍÎÏ",
  "ĞÑÒÓÔÕÖ×ØÙÚÛÜİŞßàáâãäåæçèéêëìíîï",
  "ğñòóôõö÷øùúûüışÿ"]

/-- Nordic languages. -/
def iso8859_10 : CodePage := .overAscii [
  "\x80\x81\x82\x83\x84\x85\x86\x87\x88\x89\x8a\x8b\x8c\x8d\x8e\x8f",
  "\x90\x91\x92\x93\x94\x95\x96\x97\x98\x99\x9a\x9b\x9c\x9d\x9e\x9f\xa0ĄĒĢĪĨĶ§ĻĐŠŦŽ\xadŪŊ",
  "°ąēģīĩķ·ļđšŧž―ūŋĀÁÂÃÄÅÆĮČÉĘËĖÍÎÏ",
  "ÐŅŌÓÔÕÖŨØŲÚÛÜÝÞßāáâãäåæįčéęëėíîï",
  "ðņōóôõöũøųúûüýþĸ"]

/-- Thai, with the hard space. -/
def iso8859_11 : CodePage := .overAscii [
  "\x80\x81\x82\x83\x84\x85\x86\x87\x88\x89\x8a\x8b\x8c\x8d\x8e\x8f",
  "\x90\x91\x92\x93\x94\x95\x96\x97\x98\x99\x9a\x9b\x9c\x9d\x9e\x9f\xa0กขฃคฅฆงจฉชซฌญฎฏ",
  "ฐฑฒณดตถทธนบปผฝพฟภมยรฤลฦวศษสหฬอฮฯ",
  "ะ\u0e31าำ\u0e34\u0e35\u0e36\u0e37\u0e38\u0e39\u0e3a\ufffe\ufffe\ufffe\ufffe฿",
  "เแโใไๅ\u0e46\u0e47\u0e48\u0e49\u0e4a\u0e4b\u0e4c\u0e4d\u0e4e๏",
  "๐๑๒๓๔๕๖๗๘๙๚๛\ufffe\ufffe\ufffe\ufffe"]

/-- Baltic languages. -/
def iso8859_13 : CodePage := .overAscii [
  "\x80\x81\x82\x83\x84\x85\x86\x87\x88\x89\x8a\x8b\x8c\x8d\x8e\x8f",
  "\x90\x91\x92\x93\x94\x95\x96\x97\x98\x99\x9a\x9b\x9c\x9d\x9e\x9f\xa0”¢£¤„¦§Ø©Ŗ«¬\xad®Æ",
  "°±²³“µ¶·ø¹ŗ»¼½¾æĄĮĀĆÄÅĘĒČÉŹĖĢĶĪĻ",
  "ŠŃŅÓŌÕÖ×ŲŁŚŪÜŻŽßąįāćäåęēčéźėģķīļ",
  "šńņóōõö÷ųłśūüżž’"]

/-- Celtic languages. -/
def iso8859_14 : CodePage := .overAscii [
  "\x80\x81\x82\x83\x84\x85\x86\x87\x88\x89\x8a\x8b\x8c\x8d\x8e\x8f",
  "\x90\x91\x92\x93\x94\x95\x96\x97\x98\x99\x9a\x9b\x9c\x9d\x9e\x9f\xa0Ḃḃ£ĊċḊ§Ẁ©ẂḋỲ\xad®Ÿ",
  "ḞḟĠġṀṁ¶ṖẁṗẃṠỳẄẅṡÀÁÂÃÄÅÆÇÈÉÊËÌÍÎÏ",
  "ŴÑÒÓÔÕÖṪØÙÚÛÜÝŶßàáâãäåæçèéêëìíîï",
  "ŵñòóôõöṫøùúûüýŷÿ"]

/-- Western European languages, with the euro sign. -/
def iso8859_15 : CodePage := .overAscii [
  "\x80\x81\x82\x83\x84\x85\x86\x87\x88\x89\x8a\x8b\x8c\x8d\x8e\x8f",
  "\x90\x91\x92\x93\x94\x95\x96\x97\x98\x99\x9a\x9b\x9c\x9d\x9e\x9f\xa0¡¢£€¥Š§š©ª«¬\xad®¯",
  "°±²³Žµ¶·ž¹º»ŒœŸ¿ÀÁÂÃÄÅÆÇÈÉÊËÌÍÎÏ",
  "ÐÑÒÓÔÕÖ×ØÙÚÛÜÝÞßàáâãäåæçèéêëìíîï",
  "ðñòóôõö÷øùúûüýþÿ"]

/-- South-Eastern European languages. -/
def iso8859_16 : CodePage := .overAscii [
  "\x80\x81\x82\x83\x84\x85\x86\x87\x88\x89\x8a\x8b\x8c\x8d\x8e\x8f",
  "\x90\x91\x92\x93\x94\x95\x96\x97\x98\x99\x9a\x9b\x9c\x9d\x9e\x9f\xa0ĄąŁ€„Š§š©Ș«Ź\xadźŻ",
  "°±ČłŽ”¶·žčș»ŒœŸżÀÁÂĂÄĆÆÇÈÉÊËÌÍÎÏ",
  "ĐŃÒÓÔŐÖŚŰÙÚÛÜĘȚßàáâăäćæçèéêëìíîï",
  "đńòóôőöśűùúûüęțÿ"]

/-- Thai. -/
def tis620 : CodePage := .overAscii [
  "\x80\x81\x82\x83\x84\x85\x86\x87\x88\x89\x8a\x8b\x8c\x8d\x8e\x8f",
  "\x90\x91\x92\x93\x94\x95\x96\x97\x98\x99\x9a\x9b\x9c\x9d\x9e\x9f\ufffeกขฃคฅฆงจฉชซฌญฎฏ",
  "ฐฑฒณดตถทธนบปผฝพฟภมยรฤลฦวศษสหฬอฮฯ",
  "ะ\u0e31าำ\u0e34\u0e35\u0e36\u0e37\u0e38\u0e39\u0e3a\ufffe\ufffe\ufffe\ufffe฿",
  "เแโใไๅ\u0e46\u0e47\u0e48\u0e49\u0e4a\u0e4b\u0e4c\u0e4d\u0e4e๏",
  "๐๑๒๓๔๕๖๗๘๙๚๛\ufffe\ufffe\ufffe\ufffe"]

end LuaBytecode.Text.CodePage
