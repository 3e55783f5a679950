import LuaBytecode.Text.CodePage.Dos
import LuaBytecode.Text.CodePage.Ebcdic
import LuaBytecode.Text.CodePage.Iso
import LuaBytecode.Text.CodePage.Mac
import LuaBytecode.Text.CodePage.Unix
import LuaBytecode.Text.CodePage.Windows
import LuaBytecode.Text.EastAsian.Basic
import LuaBytecode.Text.Encoding.DomainName
import LuaBytecode.Text.Encoding.Escaped
import LuaBytecode.Text.Encoding.Name
import LuaBytecode.Text.Encoding.Punycode
import LuaBytecode.Text.Encoding.Unicode

/-!
# Encodings

The encodings a text file can be written in, by kind, and the bytes of a text in each. A text is
looked up under the name a caller gives for its encoding.
-/

set_option autoImplicit false

namespace LuaBytecode.Text

inductive Encoding where
  -- A form of Unicode, with or without the bytes in front that tell which.
  | unicode (form : UnicodeForm) (signed : Bool)
  -- The form of Unicode for mail.
  | utf7
  | ascii
  | latin1
  | codePage (page : CodePage)
  | eastAsian (encoding : EastAsian)
  -- Printable ASCII, with escapes for all else.
  | escaped
  -- The characters below 256, with escapes for all else.
  | escapedWide
  | punycode
  | domainName
  | refusing
  deriving DecidableEq, Repr

namespace Encoding

def lowByte? (limit : Nat) (char : Char) : Option Bytes :=
  if char.toNat < limit then some [UInt8.ofNat char.toNat] else none

def encode (encoding : Encoding) (text : String) : Except EncodingFailure Bytes :=
  match encoding with
  | .unicode form signed => .ok ((if signed then form.signature else []) ++ form.encode text)
  | .utf7 => .ok (Utf7.encode text)
  | .ascii =>
    (encodeEach "ascii" "ordinal not in range(128)" (lowByte? 128) 0 text.toList).mapError
      .unencodable
  | .latin1 =>
    (encodeEach "latin-1" "ordinal not in range(256)" (lowByte? 256) 0 text.toList).mapError
      .unencodable
  | .codePage page =>
    (encodeEach "charmap" "character maps to <undefined>"
      (fun char => (page.byte? char).map ([·])) 0 text.toList).mapError .unencodable
  | .eastAsian encoding => (encoding.encode text).mapError .unencodable
  | .escaped => .ok (Escaped.encodePrintable text)
  | .escapedWide => .ok (Escaped.encodeBytes text)
  | .punycode => .ok (Punycode.encode text)
  | .domainName => (DomainName.encode text).mapError .label
  | .refusing => .error .refused

/-! ## Encodings by name -/

def general : List (String × Encoding) := [
  ("ascii", .ascii), ("latin_1", .latin1), ("charmap", .latin1),
  ("utf_8", .unicode .utf8 false), ("utf_8_sig", .unicode .utf8 true),
  ("utf_16", .unicode (.utf16 .little) true), ("utf_16_le", .unicode (.utf16 .little) false),
  ("utf_16_be", .unicode (.utf16 .big) false), ("utf_32", .unicode (.utf32 .little) true),
  ("utf_32_le", .unicode (.utf32 .little) false), ("utf_32_be", .unicode (.utf32 .big) false),
  ("utf_7", .utf7), ("unicode_escape", .escaped), ("raw_unicode_escape", .escapedWide),
  ("punycode", .punycode), ("idna", .domainName), ("undefined", .refusing)]

def codePages : List (String × Encoding) := [
  ("cp037", .codePage CodePage.cp037), ("cp1006", .codePage CodePage.cp1006),
  ("cp1026", .codePage CodePage.cp1026), ("cp1125", .codePage CodePage.cp1125),
  ("cp1140", .codePage CodePage.cp1140), ("cp1250", .codePage CodePage.cp1250),
  ("cp1251", .codePage CodePage.cp1251), ("cp1252", .codePage CodePage.cp1252),
  ("cp1253", .codePage CodePage.cp1253), ("cp1254", .codePage CodePage.cp1254),
  ("cp1255", .codePage CodePage.cp1255), ("cp1256", .codePage CodePage.cp1256),
  ("cp1257", .codePage CodePage.cp1257), ("cp1258", .codePage CodePage.cp1258),
  ("cp273", .codePage CodePage.cp273), ("cp424", .codePage CodePage.cp424),
  ("cp437", .codePage CodePage.cp437), ("cp500", .codePage CodePage.cp500),
  ("cp720", .codePage CodePage.cp720), ("cp737", .codePage CodePage.cp737),
  ("cp775", .codePage CodePage.cp775), ("cp850", .codePage CodePage.cp850),
  ("cp852", .codePage CodePage.cp852), ("cp855", .codePage CodePage.cp855),
  ("cp856", .codePage CodePage.cp856), ("cp857", .codePage CodePage.cp857),
  ("cp858", .codePage CodePage.cp858), ("cp860", .codePage CodePage.cp860),
  ("cp861", .codePage CodePage.cp861), ("cp862", .codePage CodePage.cp862),
  ("cp863", .codePage CodePage.cp863), ("cp864", .codePage CodePage.cp864),
  ("cp865", .codePage CodePage.cp865), ("cp866", .codePage CodePage.cp866),
  ("cp869", .codePage CodePage.cp869), ("cp874", .codePage CodePage.cp874),
  ("cp875", .codePage CodePage.cp875), ("hp_roman8", .codePage CodePage.hpRoman8),
  ("iso8859_10", .codePage CodePage.iso8859_10), ("iso8859_11", .codePage CodePage.iso8859_11),
  ("iso8859_13", .codePage CodePage.iso8859_13), ("iso8859_14", .codePage CodePage.iso8859_14),
  ("iso8859_15", .codePage CodePage.iso8859_15), ("iso8859_16", .codePage CodePage.iso8859_16),
  ("iso8859_2", .codePage CodePage.iso8859_2), ("iso8859_3", .codePage CodePage.iso8859_3),
  ("iso8859_4", .codePage CodePage.iso8859_4), ("iso8859_5", .codePage CodePage.iso8859_5),
  ("iso8859_6", .codePage CodePage.iso8859_6), ("iso8859_7", .codePage CodePage.iso8859_7),
  ("iso8859_8", .codePage CodePage.iso8859_8), ("iso8859_9", .codePage CodePage.iso8859_9),
  ("koi8_r", .codePage CodePage.koi8R), ("koi8_t", .codePage CodePage.koi8T),
  ("koi8_u", .codePage CodePage.koi8U), ("kz1048", .codePage CodePage.kz1048),
  ("mac_arabic", .codePage CodePage.macArabic), ("mac_croatian", .codePage CodePage.macCroatian),
  ("mac_cyrillic", .codePage CodePage.macCyrillic), ("mac_farsi", .codePage CodePage.macFarsi),
  ("mac_greek", .codePage CodePage.macGreek), ("mac_iceland", .codePage CodePage.macIceland),
  ("mac_latin2", .codePage CodePage.macLatin2), ("mac_roman", .codePage CodePage.macRoman),
  ("mac_romanian", .codePage CodePage.macRomanian), ("mac_turkish", .codePage CodePage.macTurkish),
  ("palmos", .codePage CodePage.palmos), ("ptcp154", .codePage CodePage.ptcp154),
  ("tis_620", .codePage CodePage.tis620)]

/-- The canonical names of ways to write bytes that are not for texts. -/
def notForText : List String :=
  ["base64_codec", "bz2_codec", "hex_codec", "quopri_codec", "rot_13", "uu_codec", "zlib_codec"]

def ofCanonical? (name : String) : Option Encoding :=
  (general.lookup name)
    <|> (codePages.lookup name)
    <|> ((EastAsian.all.find? fun encoding => encoding.name == name).map .eastAsian)

def machineName : String := "locale"

def machine : Encoding := .unicode .utf8 false

def ofName (word : String) : Except EncodingFailure Encoding :=
  if word.toList.contains '\x00' then .error .zeroInName
  else if word = machineName then .ok machine
  else
    let names := candidates (folded word)
    match names.find? fun name => (ofCanonical? name).isSome || notForText.contains name with
    | none => .error (.unknown word)
    | some name =>
      match ofCanonical? name with
      | some encoding => .ok encoding
      | none => .error (.notText word)

end Encoding

def encodeAs (encodingName text : String) : Except EncodingFailure Bytes := do
  let encoding ← Encoding.ofName encodingName
  encoding.encode text

end LuaBytecode.Text
