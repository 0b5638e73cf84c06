/-
Encodings: how the bytes of a text stand for characters.

An encoding is found by its name, which is compared in small letters and without
regard to how its words are joined. Of a few encodings with several bytes to a
character only ASCII is read.
-/
import ApiCommands.Charset.ByteTable
import ApiCommands.Charset.DoubleBytes
import ApiCommands.Charset.Units
import ApiCommands.Charset.Utf7
import ApiCommands.Text.Pieces

namespace ApiCommands

/-- How the bytes of a text stand for characters. -/
inductive Charset where
  /-- UTF-8; a mark of the byte order in front may be left out. -/
  | utf8 (dropMark : Bool)
  | utf7
  | ascii
  | byByte (table : Charset.ByteTable)
  | doubleBytes (set : Charset.DoubleBytes)
  /-- Units of two bytes, in an order given here or by a mark in front of the text. -/
  | utf16 (order : Option Charset.ByteOrder)
  /-- Units of four bytes, likewise. -/
  | utf32 (order : Option Charset.ByteOrder)

namespace Charset

/-- Encodings by their names; of the names of one, the first holds no points. -/
def register : List (String × List String × Charset) :=
  [("utf_8", ["u8", "utf", "utf8", "utf8_ucs2", "utf8_ucs4", "cp65001"], .utf8 false),
    ("utf_8_sig", [], .utf8 true),
    ("utf_7", ["u7", "utf7", "unicode_1_1_utf_7"], .utf7),
    ("ascii", ["646", "ansi_x3.4_1968", "ansi_x3_4_1968", "ansi_x3.4_1986", "cp367", "csascii",
      "ibm367", "iso646_us", "iso_646.irv_1991", "iso_ir_6", "us", "us_ascii"], .ascii),
    ("latin_1", ["8859", "cp819", "csisolatin1", "ibm819", "iso8859", "iso8859_1", "iso_8859_1",
      "iso_8859_1_1987", "iso_ir_100", "l1", "latin", "latin1"], .byByte []),
    ("iso8859_1", [], .byByte []),
    ("charmap", [], .byByte []),
    ("utf_16", ["u16", "utf16"], .utf16 none),
    ("utf_16_le", ["unicodelittleunmarked", "utf_16le"], .utf16 (some .littleEnd)),
    ("utf_16_be", ["unicodebigunmarked", "utf_16be"], .utf16 (some .bigEnd)),
    ("utf_32", ["u32", "utf32"], .utf32 none),
    ("utf_32_le", ["utf_32le"], .utf32 (some .littleEnd)),
    ("utf_32_be", ["utf_32be"], .utf32 (some .bigEnd)),
    ("big5", ["big5_tw", "csbig5", "x_mac_trad_chinese"], .doubleBytes .big5),
    ("big5hkscs", ["big5_hkscs", "hkscs"], .ascii),
    ("cp932", ["932", "ms932", "mskanji", "ms_kanji"], .doubleBytes .cp932),
    ("cp949", ["949", "ms949", "uhc"], .doubleBytes .cp949),
    ("cp950", ["950", "ms950"], .doubleBytes .cp950),
    ("euc_jis_2004", ["jisx0213", "eucjis2004", "euc_jis2004"], .ascii),
    ("euc_jisx0213", ["eucjisx0213"], .ascii),
    ("euc_jp", ["eucjp", "ujis", "u_jis"], .doubleBytes .eucJp),
    ("euc_kr", ["euckr", "korean", "ksc5601", "ks_c_5601", "ks_c_5601_1987", "ksx1001",
      "ks_x_1001", "x_mac_korean"], .doubleBytes .eucKr),
    ("gb18030", ["gb18030_2000"], .doubleBytes .gb18030),
    ("gb2312", ["chinese", "csiso58gb231280", "euc_cn", "euccn", "eucgb2312_cn", "gb2312_1980",
      "gb2312_80", "iso_ir_58", "x_mac_simp_chinese"], .doubleBytes .gb2312),
    ("gbk", ["936", "cp936", "ms936"], .doubleBytes .gbk),
    ("hz", ["hzgb", "hz_gb", "hz_gb_2312"], .ascii),
    ("iso2022_jp", ["csiso2022jp", "iso2022jp", "iso_2022_jp"], .ascii),
    ("iso2022_jp_1", ["iso2022jp_1", "iso_2022_jp_1"], .ascii),
    ("iso2022_jp_2", ["iso2022jp_2", "iso_2022_jp_2"], .ascii),
    ("iso2022_jp_2004", ["iso_2022_jp_2004", "iso2022jp_2004"], .ascii),
    ("iso2022_jp_3", ["iso2022jp_3", "iso_2022_jp_3"], .ascii),
    ("iso2022_jp_ext", ["iso2022jp_ext", "iso_2022_jp_ext"], .ascii),
    ("iso2022_kr", ["csiso2022kr", "iso2022kr", "iso_2022_kr"], .ascii),
    ("johab", ["cp1361", "ms1361"], .ascii),
    ("shift_jis", ["csshiftjis", "shiftjis", "sjis", "s_jis", "x_mac_japanese"],
      .doubleBytes .shiftJis),
    ("shift_jis_2004", ["shiftjis2004", "sjis_2004", "s_jis_2004"], .ascii),
    ("shift_jisx0213", ["shiftjisx0213", "sjisx0213", "s_jisx0213"], .ascii),
    ("cp037", ["037", "csibm037", "ebcdic_cp_ca", "ebcdic_cp_nl", "ebcdic_cp_us", "ebcdic_cp_wt",
      "ibm037", "ibm039"], .byByte cp037),
    ("cp1006", [], .byByte cp1006),
    ("cp1026", ["1026", "csibm1026", "ibm1026"], .byByte cp1026),
    ("cp1125", ["1125", "ibm1125", "cp866u", "ruscii"], .byByte cp1125),
    ("cp1140", ["1140", "ibm1140"], .byByte cp1140),
    ("cp1250", ["1250", "windows_1250"], .byByte cp1250),
    ("cp1251", ["1251", "windows_1251"], .byByte cp1251),
    ("cp1252", ["1252", "windows_1252"], .byByte cp1252),
    ("cp1253", ["1253", "windows_1253"], .byByte cp1253),
    ("cp1254", ["1254", "windows_1254"], .byByte cp1254),
    ("cp1255", ["1255", "windows_1255"], .byByte cp1255),
    ("cp1256", ["1256", "windows_1256"], .byByte cp1256),
    ("cp1257", ["1257", "windows_1257"], .byByte cp1257),
    ("cp1258", ["1258", "windows_1258"], .byByte cp1258),
    ("cp273", ["273", "ibm273", "csibm273"], .byByte cp273),
    ("cp424", ["424", "csibm424", "ebcdic_cp_he", "ibm424"], .byByte cp424),
    ("cp437", ["437", "cspc8codepage437", "ibm437"], .byByte cp437),
    ("cp500", ["500", "csibm500", "ebcdic_cp_be", "ebcdic_cp_ch", "ibm500"], .byByte cp500),
    ("cp720", [], .byByte cp720),
    ("cp737", [], .byByte cp737),
    ("cp775", ["775", "cspc775baltic", "ibm775"], .byByte cp775),
    ("cp850", ["850", "cspc850multilingual", "ibm850"], .byByte cp850),
    ("cp852", ["852", "cspcp852", "ibm852"], .byByte cp852),
    ("cp855", ["855", "csibm855", "ibm855"], .byByte cp855),
    ("cp856", [], .byByte cp856),
    ("cp857", ["857", "csibm857", "ibm857"], .byByte cp857),
    ("cp858", ["858", "csibm858", "ibm858"], .byByte cp858),
    ("cp860", ["860", "csibm860", "ibm860"], .byByte cp860),
    ("cp861", ["861", "cp_is", "csibm861", "ibm861"], .byByte cp861),
    ("cp862", ["862", "cspc862latinhebrew", "ibm862"], .byByte cp862),
    ("cp863", ["863", "csibm863", "ibm863"], .byByte cp863),
    ("cp864", ["864", "csibm864", "ibm864"], .byByte cp864),
    ("cp865", ["865", "csibm865", "ibm865"], .byByte cp865),
    ("cp866", ["866", "csibm866", "ibm866"], .byByte cp866),
    ("cp869", ["869", "cp_gr", "csibm869", "ibm869"], .byByte cp869),
    ("cp874", [], .byByte cp874),
    ("cp875", [], .byByte cp875),
    ("hp_roman8", ["roman8", "r8", "csHPRoman8", "cp1051", "ibm1051"], .byByte hpRoman8),
    ("iso8859_10", ["csisolatin6", "iso_8859_10", "iso_8859_10_1992", "iso_ir_157", "l6",
      "latin6"], .byByte iso885910),
    ("iso8859_11", ["thai", "iso_8859_11", "iso_8859_11_2001"], .byByte iso885911),
    ("iso8859_13", ["iso_8859_13", "l7", "latin7"], .byByte iso885913),
    ("iso8859_14", ["iso_8859_14", "iso_8859_14_1998", "iso_celtic", "iso_ir_199", "l8",
      "latin8"], .byByte iso885914),
    ("iso8859_15", ["iso_8859_15", "l9", "latin9"], .byByte iso885915),
    ("iso8859_16", ["iso_8859_16", "iso_8859_16_2001", "iso_ir_226", "l10", "latin10"], .byByte
      iso885916),
    ("iso8859_2", ["csisolatin2", "iso_8859_2", "iso_8859_2_1987", "iso_ir_101", "l2", "latin2"],
      .byByte iso88592),
    ("iso8859_3", ["csisolatin3", "iso_8859_3", "iso_8859_3_1988", "iso_ir_109", "l3", "latin3"],
      .byByte iso88593),
    ("iso8859_4", ["csisolatin4", "iso_8859_4", "iso_8859_4_1988", "iso_ir_110", "l4", "latin4"],
      .byByte iso88594),
    ("iso8859_5", ["csisolatincyrillic", "cyrillic", "iso_8859_5", "iso_8859_5_1988",
      "iso_ir_144"], .byByte iso88595),
    ("iso8859_6", ["arabic", "asmo_708", "csisolatinarabic", "ecma_114", "iso_8859_6",
      "iso_8859_6_1987", "iso_ir_127"], .byByte iso88596),
    ("iso8859_7", ["csisolatingreek", "ecma_118", "elot_928", "greek", "greek8", "iso_8859_7",
      "iso_8859_7_1987", "iso_ir_126"], .byByte iso88597),
    ("iso8859_8", ["csisolatinhebrew", "hebrew", "iso_8859_8", "iso_8859_8_1988", "iso_ir_138"],
      .byByte iso88598),
    ("iso8859_9", ["csisolatin5", "iso_8859_9", "iso_8859_9_1989", "iso_ir_148", "l5", "latin5"],
      .byByte iso88599),
    ("koi8_r", ["cskoi8r"], .byByte koi8R),
    ("koi8_t", [], .byByte koi8T),
    ("koi8_u", [], .byByte koi8U),
    ("kz1048", ["kz_1048", "rk1048", "strk1048_2002"], .byByte kz1048),
    ("mac_arabic", [], .byByte macArabic),
    ("mac_croatian", [], .byByte macCroatian),
    ("mac_cyrillic", ["maccyrillic"], .byByte macCyrillic),
    ("mac_farsi", [], .byByte macFarsi),
    ("mac_greek", ["macgreek"], .byByte macGreek),
    ("mac_iceland", ["maciceland"], .byByte macIceland),
    ("mac_latin2", ["maccentraleurope", "mac_centeuro", "maclatin2"], .byByte macLatin2),
    ("mac_roman", ["macintosh", "macroman"], .byByte macRoman),
    ("mac_romanian", [], .byByte macRomanian),
    ("mac_turkish", ["macturkish"], .byByte macTurkish),
    ("palmos", [], .byByte palmos),
    ("ptcp154", ["csptcp154", "pt154", "cp154", "cyrillic_asian"], .byByte ptcp154),
    ("tis_620", ["tis620", "tis_620_0", "tis_620_2529_0", "tis_620_2529_1", "iso_ir_166"],
      .byByte tis620)]

/-- The words of a name joined by underscores. Letters, digits and points make up words. -/
def canonicalName (name : String) : String :=
  let isBetween (c : Char) : Bool := !(c.isAlphanum || c == '.')
  let words := Text.runsWithout isBetween (name.toList.map Char.toLower)
  String.ofList (Text.join ['_'] words)

/-- The encoding of a name. -/
def find? (name : String) : Option Charset :=
  let name := canonicalName name
  let joined := String.ofList (Text.replace ['.'] ['_'] name.toList)
  ((register.find? fun (_, others, _) => others.contains name || others.contains joined).orElse
    fun _ => register.find? fun (first, _, _) => first == name).map fun (_, _, charset) => charset

/-- The text after a mark of its byte order, with that order. -/
def afterMark? (size : Nat) (bytes : List Nat) : Option (ByteOrder × List Nat) :=
  let mark := bytes.take size
  if ByteOrder.littleEnd.unit mark = 0xFEFF ∧ mark.length = size then
    some (.littleEnd, bytes.drop size)
  else if ByteOrder.bigEnd.unit mark = 0xFEFF ∧ mark.length = size then
    some (.bigEnd, bytes.drop size)
  else none

/-- The characters of bytes; none where a text of wide units does not give their order. -/
def decode (charset : Charset) (bytes : List Nat) : Option (List Char) :=
  let marked (size : Nat) (read : ByteOrder → List Nat → List Char) : Option (List Char) :=
    match afterMark? size bytes with
    | some (order, rest) => some (read order rest)
    | none => if bytes.length < size then some (bytes.take 1 |>.map fun _ => replacement) else none
  match charset with
  | utf8 dropMark =>
    let chars := Utf8.decode bytes
    some (if dropMark && chars.head? == some (Char.ofNat 0xFEFF) then chars.drop 1 else chars)
  | utf7 => some (Utf7.decode bytes)
  | ascii => some (bytes.map fun b => if b < 0x80 then Char.ofNat b else replacement)
  | byByte table => some (bytes.map table.charOf)
  | doubleBytes set => some (set.decode bytes)
  | utf16 (some order) => some (decodePairs order bytes)
  | utf32 (some order) => some (decodeQuads order bytes)
  | utf16 none => marked 2 decodePairs
  | utf32 none => marked 4 decodeQuads

end Charset

end ApiCommands
