import LuaBytecode.Text.CodePage.Basic

/-!
# Code pages of mainframes

The pages of mainframes, in which not even the letters of ASCII have their usual codes. Each is
named by its number.
-/

set_option autoImplicit false

namespace LuaBytecode.Text.CodePage

/-- English. -/
def cp037 : CodePage := .ofRows [
  "\x00\x01\x02\x03\x9c\t\x86\x7f\x97\x8d\x8e\x0b\x0c\r\x0e\x0f",
  "\x10\x11\x12\x13\x9d\x85\x08\x87\x18\x19\x92\x8f\x1c\x1d\x1e\x1f",
  "\x80\x81\x82\x83\x84\n\x17\x1b\x88\x89\x8a\x8b\x8c\x05\x06\x07",
  "\x90\x91\x16\x93\x94\x95\x96\x04\x98\x99\x9a\x9b\x14\x15\x9e\x1a \xa0âäàáãåçñ¢.<(+|",
  "&éêëèíîïìß!$*);¬-/ÂÄÀÁÃÅÇÑ¦,%_>?",
  "øÉÊËÈÍÎÏÌ`:#@'=\"Øabcdefghi«»ðýþ±",
  "°jklmnopqrªºæ¸Æ¤µ~stuvwxyz¡¿ÐÝÞ®",
  "^£¥·©§¶¼½¾[]¯¨´×\x7bABCDEFGHI\xadôöòóõ",
  "\x7dJKLMNOPQR¹ûüùúÿ\\÷STUVWXYZ²ÔÖÒÓÕ",
  "0123456789³ÛÜÙÚ\x9f"]

/-- German. -/
def cp273 : CodePage := .ofRows [
  "\x00\x01\x02\x03\x9c\t\x86\x7f\x97\x8d\x8e\x0b\x0c\r\x0e\x0f",
  "\x10\x11\x12\x13\x9d\x85\x08\x87\x18\x19\x92\x8f\x1c\x1d\x1e\x1f",
  "\x80\x81\x82\x83\x84\n\x17\x1b\x88\x89\x8a\x8b\x8c\x05\x06\x07",
  "\x90\x91\x16\x93\x94\x95\x96\x04\x98\x99\x9a\x9b\x14\x15\x9e\x1a \xa0â\x7bàáãåçñÄ.<(+!",
  "&éêëèíîïì~Ü$*);^-/Â[ÀÁÃÅÇÑö,%_>?",
  "øÉÊËÈÍÎÏÌ`:#§'=\"Øabcdefghi«»ðýþ±",
  "°jklmnopqrªºæ¸Æ¤µßstuvwxyz¡¿ÐÝÞ®",
  "¢£¥·©@¶¼½¾¬|‾¨´×äABCDEFGHI\xadô¦òóõ",
  "üJKLMNOPQR¹û\x7dùúÿÖ÷STUVWXYZ²Ô\\ÒÓÕ",
  "0123456789³Û]ÙÚ\x9f"]

/-- Hebrew. -/
def cp424 : CodePage := .ofRows [
  "\x00\x01\x02\x03\x9c\t\x86\x7f\x97\x8d\x8e\x0b\x0c\r\x0e\x0f",
  "\x10\x11\x12\x13\x9d\x85\x08\x87\x18\x19\x92\x8f\x1c\x1d\x1e\x1f",
  "\x80\x81\x82\x83\x84\n\x17\x1b\x88\x89\x8a\x8b\x8c\x05\x06\x07",
  "\x90\x91\x16\x93\x94\x95\x96\x04\x98\x99\x9a\x9b\x14\x15\x9e\x1a",
  " \u05d0\u05d1\u05d2\u05d3\u05d4\u05d5\u05d6\u05d7\u05d8¢.<(+|",
  "&\u05d9\u05da\u05db\u05dc\u05dd\u05de\u05df\u05e0\u05e1!$*);¬",
  "-/\u05e2\u05e3\u05e4\u05e5\u05e6\u05e7\u05e8\u05e9¦,%_>?",
  "\ufffe\u05ea\ufffe\ufffe\xa0\ufffe\ufffe\ufffe‗`:#@'=\"\ufffeabcdefghi«»\ufffe\ufffe\ufffe±",
  "°jklmnopqr\ufffe\ufffe\ufffe¸\ufffe¤µ~stuvwxyz\ufffe\ufffe\ufffe\ufffe\ufffe®",
  "^£¥·©§¶¼½¾[]¯¨´×\x7bABCDEFGHI\xad\ufffe\ufffe\ufffe\ufffe\ufffe",
  "\x7dJKLMNOPQR¹\ufffe\ufffe\ufffe\ufffe\ufffe\\÷STUVWXYZ²\ufffe\ufffe\ufffe\ufffe\ufffe",
  "0123456789³\ufffe\ufffe\ufffe\ufffe\x9f"]

/-- Western European languages. -/
def cp500 : CodePage := .ofRows [
  "\x00\x01\x02\x03\x9c\t\x86\x7f\x97\x8d\x8e\x0b\x0c\r\x0e\x0f",
  "\x10\x11\x12\x13\x9d\x85\x08\x87\x18\x19\x92\x8f\x1c\x1d\x1e\x1f",
  "\x80\x81\x82\x83\x84\n\x17\x1b\x88\x89\x8a\x8b\x8c\x05\x06\x07",
  "\x90\x91\x16\x93\x94\x95\x96\x04\x98\x99\x9a\x9b\x14\x15\x9e\x1a \xa0âäàáãåçñ[.<(+!",
  "&éêëèíîïìß]$*);^-/ÂÄÀÁÃÅÇÑ¦,%_>?",
  "øÉÊËÈÍÎÏÌ`:#@'=\"Øabcdefghi«»ðýþ±",
  "°jklmnopqrªºæ¸Æ¤µ~stuvwxyz¡¿ÐÝÞ®",
  "¢£¥·©§¶¼½¾¬|¯¨´×\x7bABCDEFGHI\xadôöòóõ",
  "\x7dJKLMNOPQR¹ûüùúÿ\\÷STUVWXYZ²ÔÖÒÓÕ",
  "0123456789³ÛÜÙÚ\x9f"]

/-- Greek. -/
def cp875 : CodePage := .ofRows [
  "\x00\x01\x02\x03\x9c\t\x86\x7f\x97\x8d\x8e\x0b\x0c\r\x0e\x0f",
  "\x10\x11\x12\x13\x9d\x85\x08\x87\x18\x19\x92\x8f\x1c\x1d\x1e\x1f",
  "\x80\x81\x82\x83\x84\n\x17\x1b\x88\x89\x8a\x8b\x8c\x05\x06\x07",
  "\x90\x91\x16\x93\x94\x95\x96\x04\x98\x99\x9a\x9b\x14\x15\x9e\x1a ΑΒΓΔΕΖΗΘΙ[.<(+!",
  "&ΚΛΜΝΞΟΠΡΣ]$*);^-/ΤΥΦΧΨΩΪΫ|,%_>?",
  "¨ΆΈΉ\xa0ΊΌΎΏ`:#@'=\"΅abcdefghiαβγδεζ",
  "°jklmnopqrηθικλμ´~stuvwxyzνξοπρσ",
  "£άέήϊίόύϋώςτυφχψ\x7bABCDEFGHI\xadωΐΰ‘―",
  "\x7dJKLMNOPQR±½\x1a·’¦\\\x1aSTUVWXYZ²§\x1a\x1a«¬",
  "0123456789³©\x1a\x1a»\x9f"]

/-- Turkish. -/
def cp1026 : CodePage := .ofRows [
  "\x00\x01\x02\x03\x9c\t\x86\x7f\x97\x8d\x8e\x0b\x0c\r\x0e\x0f",
  "\x10\x11\x12\x13\x9d\x85\x08\x87\x18\x19\x92\x8f\x1c\x1d\x1e\x1f",
  "\x80\x81\x82\x83\x84\n\x17\x1b\x88\x89\x8a\x8b\x8c\x05\x06\x07",
  "\x90\x91\x16\x93\x94\x95\x96\x04\x98\x99\x9a\x9b\x14\x15\x9e\x1a \xa0âäàáãå\x7bñÇ.<(+!",
  "&éêëèíîïìßĞİ*);^-/ÂÄÀÁÃÅ[Ñş,%_>?",
  "øÉÊËÈÍÎÏÌı:ÖŞ'=ÜØabcdefghi«»\x7d`¦±",
  "°jklmnopqrªºæ¸Æ¤µöstuvwxyz¡¿]$@®",
  "¢£¥·©§¶¼½¾¬|¯¨´×çABCDEFGHI\xadô~òóõ",
  "ğJKLMNOPQR¹û\\ùúÿü÷STUVWXYZ²Ô#ÒÓÕ",
  "0123456789³Û\"ÙÚ\x9f"]

/-- English, with the euro sign. -/
def cp1140 : CodePage := .ofRows [
  "\x00\x01\x02\x03\x9c\t\x86\x7f\x97\x8d\x8e\x0b\x0c\r\x0e\x0f",
  "\x10\x11\x12\x13\x9d\x85\x08\x87\x18\x19\x92\x8f\x1c\x1d\x1e\x1f",
  "\x80\x81\x82\x83\x84\n\x17\x1b\x88\x89\x8a\x8b\x8c\x05\x06\x07",
  "\x90\x91\x16\x93\x94\x95\x96\x04\x98\x99\x9a\x9b\x14\x15\x9e\x1a \xa0âäàáãåçñ¢.<(+|",
  "&éêëèíîïìß!$*);¬-/ÂÄÀÁÃÅÇÑ¦,%_>?",
  "øÉÊËÈÍÎÏÌ`:#@'=\"Øabcdefghi«»ðýþ±",
  "°jklmnopqrªºæ¸Æ€µ~stuvwxyz¡¿ÐÝÞ®",
  "^£¥·©§¶¼½¾[]¯¨´×\x7bABCDEFGHI\xadôöòóõ",
  "\x7dJKLMNOPQR¹ûüùúÿ\\÷STUVWXYZ²ÔÖÒÓÕ",
  "0123456789³ÛÜÙÚ\x9f"]

end LuaBytecode.Text.CodePage
