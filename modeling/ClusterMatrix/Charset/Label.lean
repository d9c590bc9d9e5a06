import ClusterMatrix.Charset.Chinese
import ClusterMatrix.Charset.Escaped
import ClusterMatrix.Charset.Iso2022
import ClusterMatrix.Charset.Japanese
import ClusterMatrix.Charset.Korean
import ClusterMatrix.Charset.SingleByte
import ClusterMatrix.Charset.Unicode
import ClusterMatrix.Charset.Utf7
import ClusterMatrix.Text.Punycode
import ClusterMatrix.Text.Split

/-!
# Labels of character sets

A set is known under a name and under others. Three labels stand for no set: two of them refuse every text, and
the third one writes a whole text in Punycode. An unknown label stands for UTF-8.
-/

namespace ClusterMatrix.Charset

/-- A label in lower case, where every stretch of other characters than letters, digits and points
is one underscore, and none stands at the ends. -/
def normalLabel (label : List Char) : List Char :=
  let plain (c : Char) : Bool := c.isAlphanum || c = '.'
  let words := label.splitBy fun a b ↦ plain a = plain b
  let kept := words.filter fun w ↦ w.all plain
  (List.intercalate ['_'] kept).map Char.toLower

/-- The sets by their names, and the other names that each of them has. -/
def known : List (String × String × Charset) :=
  [("ascii", "646 ansi_x3.4_1968 ansi_x3.4_1986 ansi_x3_4_1968 cp367 csascii ibm367 iso646_us" ++
      " iso_646.irv_1991 iso_ir_6 us us_ascii", ascii),
    ("big5", "big5_tw csbig5 x_mac_trad_chinese", big5Set),
    ("big5hkscs", "big5_hkscs hkscs", big5Hkscs),
    ("charmap", "", latin1),
    ("cp037", "037 csibm037 ebcdic_cp_ca ebcdic_cp_nl ebcdic_cp_us ebcdic_cp_wt ibm037 ibm039", singleByte codePage037),
    ("cp1006", "", singleByte codePage1006),
    ("cp1026", "1026 csibm1026 ibm1026", singleByte codePage1026),
    ("cp1125", "1125 cp866u ibm1125 ruscii", singleByte codePage1125),
    ("cp1140", "1140 ibm1140", singleByte codePage1140),
    ("cp1250", "1250 windows_1250", singleByte codePage1250),
    ("cp1251", "1251 windows_1251", singleByte codePage1251),
    ("cp1252", "1252 windows_1252", singleByte codePage1252),
    ("cp1253", "1253 windows_1253", singleByte codePage1253),
    ("cp1254", "1254 windows_1254", singleByte codePage1254),
    ("cp1255", "1255 windows_1255", singleByte codePage1255),
    ("cp1256", "1256 windows_1256", singleByte codePage1256),
    ("cp1257", "1257 windows_1257", singleByte codePage1257),
    ("cp1258", "1258 windows_1258", singleByte codePage1258),
    ("cp273", "273 csibm273 ibm273", singleByte codePage273),
    ("cp424", "424 csibm424 ebcdic_cp_he ibm424", singleByte codePage424),
    ("cp437", "437 cspc8codepage437 ibm437", singleByte codePage437),
    ("cp500", "500 csibm500 ebcdic_cp_be ebcdic_cp_ch ibm500", singleByte codePage500),
    ("cp720", "", singleByte codePage720),
    ("cp737", "", singleByte codePage737),
    ("cp775", "775 cspc775baltic ibm775", singleByte codePage775),
    ("cp850", "850 cspc850multilingual ibm850", singleByte codePage850),
    ("cp852", "852 cspcp852 ibm852", singleByte codePage852),
    ("cp855", "855 csibm855 ibm855", singleByte codePage855),
    ("cp856", "", singleByte codePage856),
    ("cp857", "857 csibm857 ibm857", singleByte codePage857),
    ("cp858", "858 csibm858 ibm858", singleByte codePage858),
    ("cp860", "860 csibm860 ibm860", singleByte codePage860),
    ("cp861", "861 cp_is csibm861 ibm861", singleByte codePage861),
    ("cp862", "862 cspc862latinhebrew ibm862", singleByte codePage862),
    ("cp863", "863 csibm863 ibm863", singleByte codePage863),
    ("cp864", "864 csibm864 ibm864", singleByte codePage864),
    ("cp865", "865 csibm865 ibm865", singleByte codePage865),
    ("cp866", "866 csibm866 ibm866", singleByte codePage866),
    ("cp869", "869 cp_gr csibm869 ibm869", singleByte codePage869),
    ("cp874", "", singleByte codePage874),
    ("cp875", "", singleByte codePage875),
    ("cp932", "932 ms932 ms_kanji mskanji", codePage932),
    ("cp949", "949 ms949 uhc", codePage949),
    ("cp950", "950 ms950", codePage950),
    ("euc_jis_2004", "euc_jis2004 eucjis2004 jisx0213", eucJisx0213 .of2004),
    ("euc_jisx0213", "eucjisx0213", eucJisx0213 .of2000),
    ("euc_jp", "eucjp u_jis ujis", eucJp),
    ("euc_kr", "euckr korean ks_c_5601 ks_c_5601_1987 ks_x_1001 ksc5601 ksx1001 x_mac_korean", eucKr),
    ("gb18030", "gb18030_2000", gb18030),
    ("gb2312", "chinese csiso58gb231280 euc_cn euccn eucgb2312_cn gb2312_1980 gb2312_80" ++
      " iso_ir_58 x_mac_simp_chinese", eucCn),
    ("gbk", "936 cp936 ms936", gbk),
    ("hp_roman8", "cp1051 csHPRoman8 ibm1051 r8 roman8", singleByte hpRoman8),
    ("hz", "hz_gb hz_gb_2312 hzgb", hz),
    ("iso2022_jp", "csiso2022jp iso2022jp iso_2022_jp", iso2022Jp),
    ("iso2022_jp_1", "iso2022jp_1 iso_2022_jp_1", iso2022Jp1),
    ("iso2022_jp_2", "iso2022jp_2 iso_2022_jp_2", iso2022Jp2),
    ("iso2022_jp_2004", "iso2022jp_2004 iso_2022_jp_2004", iso2022Jp2004),
    ("iso2022_jp_3", "iso2022jp_3 iso_2022_jp_3", iso2022Jp3),
    ("iso2022_jp_ext", "iso2022jp_ext iso_2022_jp_ext", iso2022JpExt),
    ("iso2022_kr", "csiso2022kr iso2022kr iso_2022_kr", iso2022Kr),
    ("iso8859_10", "csisolatin6 iso_8859_10 iso_8859_10_1992 iso_ir_157 l6 latin6", singleByte iso885910),
    ("iso8859_11", "iso_8859_11 iso_8859_11_2001 thai", singleByte iso885911),
    ("iso8859_13", "iso_8859_13 l7 latin7", singleByte iso885913),
    ("iso8859_14", "iso_8859_14 iso_8859_14_1998 iso_celtic iso_ir_199 l8 latin8", singleByte iso885914),
    ("iso8859_15", "iso_8859_15 l9 latin9", singleByte iso885915),
    ("iso8859_16", "iso_8859_16 iso_8859_16_2001 iso_ir_226 l10 latin10", singleByte iso885916),
    ("iso8859_2", "csisolatin2 iso_8859_2 iso_8859_2_1987 iso_ir_101 l2 latin2", singleByte iso88592),
    ("iso8859_3", "csisolatin3 iso_8859_3 iso_8859_3_1988 iso_ir_109 l3 latin3", singleByte iso88593),
    ("iso8859_4", "csisolatin4 iso_8859_4 iso_8859_4_1988 iso_ir_110 l4 latin4", singleByte iso88594),
    ("iso8859_5", "csisolatincyrillic cyrillic iso_8859_5 iso_8859_5_1988 iso_ir_144", singleByte iso88595),
    ("iso8859_6", "arabic asmo_708 csisolatinarabic ecma_114 iso_8859_6 iso_8859_6_1987 iso_ir_127", singleByte iso88596),
    ("iso8859_7", "csisolatingreek ecma_118 elot_928 greek greek8 iso_8859_7 iso_8859_7_1987" ++
      " iso_ir_126", singleByte iso88597),
    ("iso8859_8", "csisolatinhebrew hebrew iso_8859_8 iso_8859_8_1988 iso_ir_138", singleByte iso88598),
    ("iso8859_9", "csisolatin5 iso_8859_9 iso_8859_9_1989 iso_ir_148 l5 latin5", singleByte iso88599),
    ("johab", "cp1361 ms1361", johab),
    ("koi8_r", "cskoi8r", singleByte koi8R),
    ("koi8_t", "", singleByte koi8T),
    ("koi8_u", "", singleByte koi8U),
    ("kz1048", "kz_1048 rk1048 strk1048_2002", singleByte kz1048),
    ("latin_1", "8859 cp819 csisolatin1 ibm819 iso8859 iso8859_1 iso_8859_1 iso_8859_1_1987" ++
      " iso_ir_100 l1 latin latin1", latin1),
    ("mac_arabic", "", singleByte macArabic),
    ("mac_croatian", "", singleByte macCroatian),
    ("mac_cyrillic", "maccyrillic", singleByte macCyrillic),
    ("mac_farsi", "", singleByte macFarsi),
    ("mac_greek", "macgreek", singleByte macGreek),
    ("mac_iceland", "maciceland", singleByte macIceland),
    ("mac_latin2", "mac_centeuro maccentraleurope maclatin2", singleByte macLatin2),
    ("mac_roman", "macintosh macroman", singleByte macRoman),
    ("mac_romanian", "", singleByte macRomanian),
    ("mac_turkish", "macturkish", singleByte macTurkish),
    ("palmos", "", singleByte palmos),
    ("ptcp154", "cp154 csptcp154 cyrillic_asian pt154", singleByte ptcp154),
    ("raw_unicode_escape", "", rawEscaped),
    ("shift_jis", "csshiftjis s_jis shiftjis sjis x_mac_japanese", shiftJis),
    ("shift_jis_2004", "s_jis_2004 shiftjis2004 sjis_2004", shiftJisx0213 .of2004),
    ("shift_jisx0213", "s_jisx0213 shiftjisx0213 sjisx0213", shiftJisx0213 .of2000),
    ("tis_620", "iso_ir_166 tis620 tis_620_0 tis_620_2529_0 tis_620_2529_1", singleByte tis620),
    ("unicode_escape", "", escaped),
    ("utf_16", "u16 utf16", utf16Marked),
    ("utf_16_be", "unicodebigunmarked utf_16be", utf16 true),
    ("utf_16_le", "unicodelittleunmarked utf_16le", utf16 false),
    ("utf_32", "u32 utf32", utf32Marked),
    ("utf_32_be", "utf_32be", utf32 true),
    ("utf_32_le", "utf_32le", utf32 false),
    ("utf_7", "u7 unicode_1_1_utf_7 utf7", utf7),
    ("utf_8", "cp65001 u8 utf utf8 utf8_ucs2 utf8_ucs4", utf8),
    ("utf_8_sig", "", utf8Marked)]

/-- A label is one of several words. In another name than that of the set, a point may stand for an underscore. -/
def isNamed (label : List Char) (name others : String) : Bool :=
  let words := Text.splitOn ' ' others.toList
  label = name.toList || label ∈ words || label.map (fun c ↦ if c = '.' then '_' else c) ∈ words

def ofLabel? (label : List Char) : Option Charset :=
  let label := normalLabel label
  (known.find? fun k ↦ label ≠ [] && isNamed label k.1 k.2.1).map fun k ↦ k.2.2

/-- Why bytes cannot be read under a label. -/
inductive TextFault where
  /-- The label holds a null character. -/
  | badLabel
  /-- The label is one that refuses every text. -/
  | refused
  /-- The numbers of a Punycode are not in ASCII. -/
  | notAscii
deriving DecidableEq, Repr

/-- The text of a Punycode, as far as its numbers can be read. A question mark stands for what is too large. -/
def punycodeText (bs : List UInt8) : Except TextFault (List Char) :=
  let (basic, numbers) := Text.cutLast '-' (latin1.decode bs)
  if numbers.any fun c ↦ 0x80 ≤ c.toNat then .error .notAscii
  else
    let placed := (basic.getD []).map fun c ↦ if c.toNat < 0x80 then c.toNat else 0xFFFD
    let (points, _) := Text.Punycode.insertions (some 0x3F) (numbers.length + 1) placed 128 0 72 true numbers
    .ok (points.map fun n ↦ (character? n).getD '\uFFFD')

/-- The text of some bytes under a label. No bytes are no characters under any label. -/
def text (label : List Char) (bs : List UInt8) : Except TextFault (List Char) :=
  let name := String.ofList (normalLabel label)
  if bs = [] then .ok []
  else if '\x00' ∈ label then .error .badLabel
  else if name = "idna" ∨ name = "undefined" then .error .refused
  else if name = "punycode" then punycodeText bs
  else .ok (((ofLabel? label).getD utf8).decode bs)

end ClusterMatrix.Charset
