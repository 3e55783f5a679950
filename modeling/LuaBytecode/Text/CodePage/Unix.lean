import LuaBytecode.Text.CodePage.Basic

/-!
# Code pages of Unix systems

The pages that came up on Unix systems.
-/

set_option autoImplicit false

namespace LuaBytecode.Text.CodePage

/-- Western European languages, as on workstations. -/
def hpRoman8 : CodePage := .overAscii [
  "\x80\x81\x82\x83\x84\x85\x86\x87\x88\x89\x8a\x8b\x8c\x8d\x8e\x8f",
  "\x90\x91\x92\x93\x94\x95\x96\x97\x98\x99\x9a\x9b\x9c\x9d\x9e\x9f\xa0ÀÂÈÊËÎÏ´\u02cb\u02c6¨˜ÙÛ₤",
  "¯Ýý°ÇçÑñ¡¿¤£¥§ƒ¢âêôûáéóúàèòùäëöü",
  "ÅîØÆåíøæÄìÖÜÉïßÔÁÃãÐðÍÌÓÒÕõŠšÚŸÿ",
  "Þþ·µ¶¾—¼½ªº«■»±\ufffe"]

/-- Cyrillic, of Russia. -/
def koi8R : CodePage := .overAscii [
  "─│┌┐└┘├┤┬┴┼▀▄█▌▐░▒▓⌠■∙√≈≤≥\xa0⌡°²·÷",
  "═║╒ё╓╔╕╖╗╘╙╚╛╜╝╞╟╠╡Ё╢╣╤╥╦╧╨╩╪╫╬©",
  "юабцдефгхийклмнопярстужвьызшэщчъ",
  "ЮАБЦДЕФГХИЙКЛМНОПЯРСТУЖВЬЫЗШЭЩЧЪ"]

/-- Cyrillic, of Tajikistan. -/
def koi8T : CodePage := .overAscii [
  "қғ‚Ғ„…†‡\ufffe‰ҳ‹ҲҷҶ\ufffeҚ‘’“”•–—\ufffe™\ufffe›\ufffe\ufffe\ufffe\ufffe",
  "\ufffeӯӮё¤ӣ¦§\ufffe\ufffe\ufffe«¬\xad®\ufffe°±²Ё\ufffeӢ¶·\ufffe№\ufffe»\ufffe\ufffe\ufffe©",
  "юабцдефгхийклмнопярстужвьызшэщчъ",
  "ЮАБЦДЕФГХИЙКЛМНОПЯРСТУЖВЬЫЗШЭЩЧЪ"]

/-- Cyrillic, of Ukraine. -/
def koi8U : CodePage := .overAscii [
  "─│┌┐└┘├┤┬┴┼▀▄█▌▐░▒▓⌠■∙√≈≤≥\xa0⌡°²·÷",
  "═║╒ёє╔ії╗╘╙╚╛ґ╝╞╟╠╡ЁЄ╣ІЇ╦╧╨╩╪Ґ╬©",
  "юабцдефгхийклмнопярстужвьызшэщчъ",
  "ЮАБЦДЕФГХИЙКЛМНОПЯРСТУЖВЬЫЗШЭЩЧЪ"]

end LuaBytecode.Text.CodePage
