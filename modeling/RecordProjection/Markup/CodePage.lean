/-!
Names of encodings beside the standard ones, in small letters and with one underscore for each run
of separators, and the code pages among these encodings.
-/

namespace RecordProjection.Markup

/-- The names of an encoding. In an alias full stops may stand for underscores. -/
structure EncodingNames where
  names : List String
  aliases : List String

def EncodingNames.include (known : EncodingNames) (name : String) : Bool :=
  known.names.contains name || known.aliases.contains name ||
    known.aliases.contains (name.map fun c => if c = '.' then '_' else c)

def asciiNames : EncodingNames :=
  ⟨["ascii", "iso2022_jp", "iso2022_jp_1", "iso2022_jp_2", "iso2022_jp_2004", "iso2022_jp_3",
    "iso2022_jp_ext", "utf_8", "utf_8_sig"],
   ["ansi_x3.4_1968", "ansi_x3.4_1986", "ansi_x3_4_1968", "cp367", "cp65001", "csascii",
    "csiso2022jp", "ibm367", "iso2022jp", "iso2022jp_1", "iso2022jp_2", "iso2022jp_2004",
    "iso2022jp_3", "iso2022jp_ext", "iso646_us", "iso_2022_jp", "iso_2022_jp_1", "iso_2022_jp_2",
    "iso_2022_jp_2004", "iso_2022_jp_3", "iso_2022_jp_ext", "iso_646.irv_1991", "iso_ir_6", "u8",
    "us", "us_ascii", "utf", "utf8", "utf8_ucs2", "utf8_ucs4"]⟩

def tildelessNames : EncodingNames :=
  ⟨["hz"], ["hz_gb", "hz_gb_2312", "hzgb"]⟩

def latin1Names : EncodingNames :=
  ⟨["charmap", "latin_1", "raw_unicode_escape", "unicode_escape"],
   ["cp819", "csisolatin1", "ibm819", "iso8859", "iso8859_1", "iso_8859_1", "iso_8859_1_1987",
    "iso_ir_100", "l1", "latin", "latin1"]⟩

/-- Encodings of which the characters in a row of all octets cannot be counted by them. -/
def multiByteNames : EncodingNames :=
  ⟨["big5", "big5hkscs", "cp932", "cp949", "cp950", "euc_jis_2004", "euc_jisx0213", "euc_jp",
    "euc_kr", "gb18030", "gb2312", "gbk", "iso2022_kr", "johab", "shift_jis", "shift_jis_2004",
    "shift_jisx0213", "utf_16", "utf_16_be", "utf_16_le", "utf_32", "utf_32_be", "utf_32_le",
    "utf_7"],
   ["big5_hkscs", "big5_tw", "chinese", "cp1361", "cp936", "csbig5", "csiso2022kr",
    "csiso58gb231280", "csshiftjis", "euc_cn", "euc_jis2004", "euccn", "eucgb2312_cn",
    "eucjis2004", "eucjisx0213", "eucjp", "euckr", "gb18030_2000", "gb2312_1980", "gb2312_80",
    "hkscs", "iso2022kr", "iso_2022_kr", "iso_ir_58", "jisx0213", "korean", "ks_c_5601",
    "ks_c_5601_1987", "ks_x_1001", "ksc5601", "ksx1001", "ms1361", "ms932", "ms936", "ms949",
    "ms950", "ms_kanji", "mskanji", "s_jis", "s_jis_2004", "s_jisx0213", "shiftjis",
    "shiftjis2004", "shiftjisx0213", "sjis", "sjis_2004", "sjisx0213", "u16", "u32", "u7", "u_jis",
    "uhc", "ujis", "unicode_1_1_utf_7", "unicodebigunmarked", "unicodelittleunmarked", "utf16",
    "utf32", "utf7", "utf_16be", "utf_16le", "utf_32be", "utf_32le", "x_mac_japanese",
    "x_mac_korean", "x_mac_simp_chinese", "x_mac_trad_chinese"]⟩

/-- Encodings with other characters than ASCII in the lower half, or with two from one octet. -/
def foreignNames : EncodingNames :=
  ⟨["cp037", "cp1026", "cp1140", "cp273", "cp424", "cp500", "cp864", "cp875", "mac_arabic",
    "mac_farsi"],
   ["csibm037", "csibm1026", "csibm273", "csibm424", "csibm500", "csibm864", "ebcdic_cp_be",
    "ebcdic_cp_ca", "ebcdic_cp_ch", "ebcdic_cp_he", "ebcdic_cp_nl", "ebcdic_cp_us", "ebcdic_cp_wt",
    "ibm037", "ibm039", "ibm1026", "ibm1140", "ibm273", "ibm424", "ibm500", "ibm864"]⟩

def transformNames : EncodingNames :=
  ⟨["base64_codec", "bz2_codec", "hex_codec", "quopri_codec", "rot_13", "uu_codec", "zlib_codec"],
   ["base64", "base_64", "bz2", "hex", "quopri", "quoted_printable", "quotedprintable", "rot13",
    "uu", "zip", "zlib"]⟩

def failingCodecs : List (String × String) :=
  [("idna", "Unsupported error handling replace"), ("undefined", "undefined encoding")]

structure CodePage where
  names : EncodingNames
  /-- The characters of the upper half, with a space for an octet that stands for none. -/
  upper : String

def highControls : String := .ofList ((List.range 32).map fun place => Char.ofNat (0x80 + place))

def codePages : List CodePage :=
  [⟨⟨["cp437"], ["cspc8codepage437", "ibm437"]⟩,
      "ÇüéâäàåçêëèïîìÄÅÉæÆôöòûùÿÖÜ¢£¥₧ƒáíóúñÑªº¿⌐¬½¼¡«»░▒▓│┤╡╢╖╕╣║╗╝╜╛┐" ++
      "└┴┬├─┼╞╟╚╔╩╦╠═╬╧╨╤╥╙╘╒╓╫╪┘┌█▄▌▐▀αßΓπΣσµτΦΘΩδ∞φε∩≡±≥≤⌠⌡÷≈°∙·√\u207f²■\xa0"⟩,
    ⟨⟨["cp720"], []⟩,
      "\x80\x81éâ\x84à\x86çêëèïî\x8d\x8e\x8f\x90\u0651\u0652ô¤\u0640ûù\u0621\u0622\u0623" ++
      "\u0624£\u0625\u0626\u0627\u0628\u0629\u062a\u062b\u062c\u062d\u062e\u062f\u0630\u0631" ++
      "\u0632\u0633\u0634\u0635«»░▒▓│┤╡╢╖╕╣║╗╝╜╛┐└┴┬├─┼╞╟╚╔╩╦╠═╬╧╨╤╥╙╘╒╓╫╪┘┌█▄▌▐▀\u0636\u0637" ++
      "\u0638\u0639\u063a\u0641µ\u0642\u0643\u0644\u0645\u0646\u0647\u0648\u0649\u064a≡\u064b" ++
      "\u064c\u064d\u064e\u064f\u0650≈°∙·√\u207f²■\xa0"⟩,
    ⟨⟨["cp737"], []⟩,
      "ΑΒΓΔΕΖΗΘΙΚΛΜΝΞΟΠΡΣΤΥΦΧΨΩαβγδεζηθικλμνξοπρσςτυφχψ░▒▓│┤╡╢╖╕╣║╗╝╜╛┐" ++
      "└┴┬├─┼╞╟╚╔╩╦╠═╬╧╨╤╥╙╘╒╓╫╪┘┌█▄▌▐▀ωάέήϊίόύϋώΆΈΉΊΌΎΏ±≥≤ΪΫ÷≈°∙·√\u207f²■\xa0"⟩,
    ⟨⟨["cp775"], ["cspc775baltic", "ibm775"]⟩,
      "ĆüéāäģåćłēŖŗīŹÄÅÉæÆōöĢ¢ŚśÖÜø£Ø×¤ĀĪóŻżź”¦©®¬½¼Ł«»░▒▓│┤ĄČĘĖ╣║╗╝ĮŠ┐" ++
      "└┴┬├─┼ŲŪ╚╔╩╦╠═╬Žąčęėįšųūž┘┌█▄▌▐▀ÓßŌŃõÕµńĶķĻļņĒŅ’\xad±“¾¶§÷„°∙·¹³²■\xa0"⟩,
    ⟨⟨["cp850"], ["cspc850multilingual", "ibm850"]⟩,
      "ÇüéâäàåçêëèïîìÄÅÉæÆôöòûùÿÖÜø£Ø×ƒáíóúñÑªº¿®¬½¼¡«»░▒▓│┤ÁÂÀ©╣║╗╝¢¥┐" ++
      "└┴┬├─┼ãÃ╚╔╩╦╠═╬¤ðÐÊËÈıÍÎÏ┘┌█▄¦Ì▀ÓßÔÒõÕµþÞÚÛÙýÝ¯´\xad±‗¾¶§÷¸°¨·¹³²■\xa0"⟩,
    ⟨⟨["cp852"], ["cspcp852", "ibm852"]⟩,
      "ÇüéâäůćçłëŐőîŹÄĆÉĹĺôöĽľŚśÖÜŤťŁ×čáíóúĄąŽžĘę¬źČş«»░▒▓│┤ÁÂĚŞ╣║╗╝Żż┐" ++
      "└┴┬├─┼Ăă╚╔╩╦╠═╬¤đĐĎËďŇÍÎě┘┌█▄ŢŮ▀ÓßÔŃńňŠšŔÚŕŰýÝţ´\xad˝˛\u02c7˘§÷¸°¨˙űŘř■\xa0"⟩,
    ⟨⟨["cp855"], ["csibm855", "ibm855"]⟩,
      "ђЂѓЃёЁєЄѕЅіІїЇјЈљЉњЊћЋќЌўЎџЏюЮъЪаАбБцЦдДеЕфФгГ«»░▒▓│┤хХиИ╣║╗╝йЙ┐" ++
      "└┴┬├─┼кК╚╔╩╦╠═╬¤лЛмМнНоОп┘┌█▄Пя▀ЯрРсСтТуУжЖвВьЬ№\xadыЫзЗшШэЭщЩчЧ§■\xa0"⟩,
    ⟨⟨["cp856"], []⟩,
      "\u05d0\u05d1\u05d2\u05d3\u05d4\u05d5\u05d6\u05d7\u05d8\u05d9\u05da\u05db\u05dc\u05dd" ++
      "\u05de\u05df\u05e0\u05e1\u05e2\u05e3\u05e4\u05e5\u05e6\u05e7\u05e8\u05e9\u05ea £ ×    " ++
      "      ®¬½¼ «»░▒▓│┤   ©╣║╗╝¢¥┐└┴┬├─┼  ╚╔╩╦╠═╬¤         ┘┌█▄¦ ▀      µ       ¯´\xad±‗¾¶§" ++
      "÷¸°¨·¹³²■\xa0"⟩,
    ⟨⟨["cp857"], ["csibm857", "ibm857"]⟩,
      "ÇüéâäàåçêëèïîıÄÅÉæÆôöòûùİÖÜø£ØŞşáíóúñÑĞğ¿®¬½¼¡«»░▒▓│┤ÁÂÀ©╣║╗╝¢¥┐" ++
      "└┴┬├─┼ãÃ╚╔╩╦╠═╬¤ºªÊËÈ ÍÎÏ┘┌█▄¦Ì▀ÓßÔÒõÕµ ×ÚÛÙìÿ¯´\xad± ¾¶§÷¸°¨·¹³²■\xa0"⟩,
    ⟨⟨["cp858"], ["csibm858", "ibm858"]⟩,
      "ÇüéâäàåçêëèïîìÄÅÉæÆôöòûùÿÖÜø£Ø×ƒáíóúñÑªº¿®¬½¼¡«»░▒▓│┤ÁÂÀ©╣║╗╝¢¥┐" ++
      "└┴┬├─┼ãÃ╚╔╩╦╠═╬¤ðÐÊËÈ€ÍÎÏ┘┌█▄¦Ì▀ÓßÔÒõÕµþÞÚÛÙýÝ¯´\xad±‗¾¶§÷¸°¨·¹³²■\xa0"⟩,
    ⟨⟨["cp860"], ["csibm860", "ibm860"]⟩,
      "ÇüéâãàÁçêÊèÍÔìÃÂÉÀÈôõòÚùÌÕÜ¢£Ù₧ÓáíóúñÑªº¿Ò¬½¼¡«»░▒▓│┤╡╢╖╕╣║╗╝╜╛┐" ++
      "└┴┬├─┼╞╟╚╔╩╦╠═╬╧╨╤╥╙╘╒╓╫╪┘┌█▄▌▐▀αßΓπΣσµτΦΘΩδ∞φε∩≡±≥≤⌠⌡÷≈°∙·√\u207f²■\xa0"⟩,
    ⟨⟨["cp861"], ["cp_is", "csibm861", "ibm861"]⟩,
      "ÇüéâäàåçêëèÐðÞÄÅÉæÆôöþûÝýÖÜø£Ø₧ƒáíóúÁÍÓÚ¿⌐¬½¼¡«»░▒▓│┤╡╢╖╕╣║╗╝╜╛┐" ++
      "└┴┬├─┼╞╟╚╔╩╦╠═╬╧╨╤╥╙╘╒╓╫╪┘┌█▄▌▐▀αßΓπΣσµτΦΘΩδ∞φε∩≡±≥≤⌠⌡÷≈°∙·√\u207f²■\xa0"⟩,
    ⟨⟨["cp862"], ["cspc862latinhebrew", "ibm862"]⟩,
      "\u05d0\u05d1\u05d2\u05d3\u05d4\u05d5\u05d6\u05d7\u05d8\u05d9\u05da\u05db\u05dc\u05dd" ++
      "\u05de\u05df\u05e0\u05e1\u05e2\u05e3\u05e4\u05e5\u05e6\u05e7\u05e8\u05e9\u05ea¢£¥₧ƒáíó" ++
      "úñÑªº¿⌐¬½¼¡«»░▒▓│┤╡╢╖╕╣║╗╝╜╛┐└┴┬├─┼╞╟╚╔╩╦╠═╬╧╨╤╥╙╘╒╓╫╪┘┌█▄▌▐▀αßΓπΣσµτΦΘΩδ∞φε∩≡±≥≤⌠⌡÷≈°" ++
      "∙·√\u207f²■\xa0"⟩,
    ⟨⟨["cp863"], ["csibm863", "ibm863"]⟩,
      "ÇüéâÂà¶çêëèïî‗À§ÉÈÊôËÏûù¤ÔÜ¢£ÙÛƒ¦´óú¨¸³¯Î⌐¬½¼¾«»░▒▓│┤╡╢╖╕╣║╗╝╜╛┐" ++
      "└┴┬├─┼╞╟╚╔╩╦╠═╬╧╨╤╥╙╘╒╓╫╪┘┌█▄▌▐▀αßΓπΣσµτΦΘΩδ∞φε∩≡±≥≤⌠⌡÷≈°∙·√\u207f²■\xa0"⟩,
    ⟨⟨["cp865"], ["csibm865", "ibm865"]⟩,
      "ÇüéâäàåçêëèïîìÄÅÉæÆôöòûùÿÖÜø£Ø₧ƒáíóúñÑªº¿⌐¬½¼¡«¤░▒▓│┤╡╢╖╕╣║╗╝╜╛┐" ++
      "└┴┬├─┼╞╟╚╔╩╦╠═╬╧╨╤╥╙╘╒╓╫╪┘┌█▄▌▐▀αßΓπΣσµτΦΘΩδ∞φε∩≡±≥≤⌠⌡÷≈°∙·√\u207f²■\xa0"⟩,
    ⟨⟨["cp866"], ["csibm866", "ibm866"]⟩,
      "АБВГДЕЖЗИЙКЛМНОПРСТУФХЦЧШЩЪЫЬЭЮЯабвгдежзийклмноп░▒▓│┤╡╢╖╕╣║╗╝╜╛┐" ++
      "└┴┬├─┼╞╟╚╔╩╦╠═╬╧╨╤╥╙╘╒╓╫╪┘┌█▄▌▐▀рстуфхцчшщъыьэюяЁёЄєЇїЎў°∙·√№¤■\xa0"⟩,
    ⟨⟨["cp869"], ["cp_gr", "csibm869", "ibm869"]⟩,
      "      Ά ·¬¦‘’Έ―ΉΊΪΌ  ΎΫ©Ώ²³ά£έήίϊΐόύΑΒΓΔΕΖΗ½ΘΙ«»░▒▓│┤ΚΛΜΝ╣║╗╝ΞΟ┐" ++
      "└┴┬├─┼ΠΡ╚╔╩╦╠═╬ΣΤΥΦΧΨΩαβγ┘┌█▄δε▀ζηθικλμνξοπρσςτ΄\xad±υφχ§ψ΅°¨ωϋΰώ■\xa0"⟩,
    ⟨⟨["cp874"], []⟩,
      "€    …           ‘’“”•–—        \xa0กขฃคฅฆงจฉชซฌญฎฏฐฑฒณดตถทธนบปผฝพฟภมยรฤลฦวศษสหฬอฮฯะ" ++
      "\u0e31าำ\u0e34\u0e35\u0e36\u0e37\u0e38\u0e39\u0e3a    ฿เแโใไๅ\u0e46\u0e47\u0e48\u0e49" ++
      "\u0e4a\u0e4b\u0e4c\u0e4d\u0e4e๏๐๑๒๓๔๕๖๗๘๙๚๛    "⟩,
    ⟨⟨["cp1006"], []⟩,
      highControls ++ "\xa0\u06f0\u06f1\u06f2\u06f3\u06f4\u06f5\u06f6\u06f7\u06f8\u06f9\u060c" ++
      "\u061b\xad\u061f\ufe81\ufe8d\ufe8e\ufe8e\ufe8f\ufe91\ufb56\ufb58\ufe93\ufe95\ufe97" ++
      "\ufb66\ufb68\ufe99\ufe9b\ufe9d\ufe9f\ufb7a\ufb7c\ufea1\ufea3\ufea5\ufea7\ufea9\ufb84" ++
      "\ufeab\ufead\ufb8c\ufeaf\ufb8a\ufeb1\ufeb3\ufeb5\ufeb7\ufeb9\ufebb\ufebd\ufebf\ufec1" ++
      "\ufec5\ufec9\ufeca\ufecb\ufecc\ufecd\ufece\ufecf\ufed0\ufed1\ufed3\ufed5\ufed7\ufed9" ++
      "\ufedb\ufb92\ufb94\ufedd\ufedf\ufee0\ufee1\ufee3\ufb9e\ufee5\ufee7\ufe85\ufeed\ufba6" ++
      "\ufba8\ufba9\ufbaa\ufe80\ufe89\ufe8a\ufe8b\ufef1\ufef2\ufef3\ufbb0\ufbae\ufe7c\ufe7d"⟩,
    ⟨⟨["cp1125"], ["cp866u", "ibm1125", "ruscii"]⟩,
      "АБВГДЕЖЗИЙКЛМНОПРСТУФХЦЧШЩЪЫЬЭЮЯабвгдежзийклмноп░▒▓│┤╡╢╖╕╣║╗╝╜╛┐" ++
      "└┴┬├─┼╞╟╚╔╩╦╠═╬╧╨╤╥╙╘╒╓╫╪┘┌█▄▌▐▀рстуфхцчшщъыьэюяЁёҐґЄєІіЇї·√№¤■\xa0"⟩,
    ⟨⟨["cp1250"], ["windows_1250"]⟩,
      "€ ‚ „…†‡ ‰Š‹ŚŤŽŹ ‘’“”•–— ™š›śťžź\xa0\u02c7˘Ł¤Ą¦§¨©Ş«¬\xad®Ż°±˛ł´µ¶·¸ąş»Ľ˝ľż" ++
      "ŔÁÂĂÄĹĆÇČÉĘËĚÍÎĎĐŃŇÓÔŐÖ×ŘŮÚŰÜÝŢßŕáâăäĺćçčéęëěíîďđńňóôőö÷řůúűüýţ˙"⟩,
    ⟨⟨["cp1251"], ["windows_1251"]⟩,
      "ЂЃ‚ѓ„…†‡€‰Љ‹ЊЌЋЏђ‘’“”•–— ™љ›њќћџ\xa0ЎўЈ¤Ґ¦§Ё©Є«¬\xad®Ї°±Ііґµ¶·ё№є»јЅѕї" ++
      "АБВГДЕЖЗИЙКЛМНОПРСТУФХЦЧШЩЪЫЬЭЮЯабвгдежзийклмнопрстуфхцчшщъыьэюя"⟩,
    ⟨⟨["cp1252"], ["windows_1252"]⟩,
      "€ ‚ƒ„…†‡\u02c6‰Š‹Œ Ž  ‘’“”•–—˜™š›œ žŸ\xa0¡¢£¤¥¦§¨©ª«¬\xad®¯°±²³´µ¶·¸¹º»¼½¾¿" ++
      "ÀÁÂÃÄÅÆÇÈÉÊËÌÍÎÏÐÑÒÓÔÕÖ×ØÙÚÛÜÝÞßàáâãäåæçèéêëìíîïðñòóôõö÷øùúûüýþÿ"⟩,
    ⟨⟨["cp1253"], ["windows_1253"]⟩,
      "€ ‚ƒ„…†‡ ‰ ‹     ‘’“”•–— ™ ›    \xa0΅Ά£¤¥¦§¨© «¬\xad®―°±²³΄µ¶·ΈΉΊ»Ό½ΎΏ" ++
      "ΐΑΒΓΔΕΖΗΘΙΚΛΜΝΞΟΠΡ ΣΤΥΦΧΨΩΪΫάέήίΰαβγδεζηθικλμνξοπρςστυφχψωϊϋόύώ "⟩,
    ⟨⟨["cp1254"], ["windows_1254"]⟩,
      "€ ‚ƒ„…†‡\u02c6‰Š‹Œ    ‘’“”•–—˜™š›œ  Ÿ\xa0¡¢£¤¥¦§¨©ª«¬\xad®¯°±²³´µ¶·¸¹º»¼½¾¿" ++
      "ÀÁÂÃÄÅÆÇÈÉÊËÌÍÎÏĞÑÒÓÔÕÖ×ØÙÚÛÜİŞßàáâãäåæçèéêëìíîïğñòóôõö÷øùúûüışÿ"⟩,
    ⟨⟨["cp1255"], ["windows_1255"]⟩,
      "€ ‚ƒ„…†‡\u02c6‰ ‹     ‘’“”•–—˜™ ›    \xa0¡¢£₪¥¦§¨©×«¬\xad®¯°±²³´µ¶·¸¹÷»¼½¾¿\u05b0" ++
      "\u05b1\u05b2\u05b3\u05b4\u05b5\u05b6\u05b7\u05b8\u05b9 \u05bb\u05bc\u05bd\u05be\u05bf" ++
      "\u05c0\u05c1\u05c2\u05c3\u05f0\u05f1\u05f2\u05f3\u05f4       \u05d0\u05d1\u05d2\u05d3" ++
      "\u05d4\u05d5\u05d6\u05d7\u05d8\u05d9\u05da\u05db\u05dc\u05dd\u05de\u05df\u05e0\u05e1" ++
      "\u05e2\u05e3\u05e4\u05e5\u05e6\u05e7\u05e8\u05e9\u05ea  \u200e\u200f "⟩,
    ⟨⟨["cp1256"], ["windows_1256"]⟩,
      "€\u067e‚ƒ„…†‡\u02c6‰\u0679‹Œ\u0686\u0698\u0688\u06af‘’“”•–—\u06a9™\u0691›œ\u200c\u200d" ++
      "\u06ba\xa0\u060c¢£¤¥¦§¨©\u06be«¬\xad®¯°±²³´µ¶·¸¹\u061b»¼½¾\u061f\u06c1\u0621\u0622" ++
      "\u0623\u0624\u0625\u0626\u0627\u0628\u0629\u062a\u062b\u062c\u062d\u062e\u062f\u0630" ++
      "\u0631\u0632\u0633\u0634\u0635\u0636×\u0637\u0638\u0639\u063a\u0640\u0641\u0642\u0643à" ++
      "\u0644â\u0645\u0646\u0647\u0648çèéêë\u0649\u064aîï\u064b\u064c\u064d\u064eô\u064f" ++
      "\u0650÷\u0651ù\u0652ûü\u200e\u200f\u06d2"⟩,
    ⟨⟨["cp1257"], ["windows_1257"]⟩,
      "€ ‚ „…†‡ ‰ ‹ ¨\u02c7¸ ‘’“”•–— ™ › ¯˛ \xa0 ¢£¤ ¦§Ø©Ŗ«¬\xad®Æ°±²³´µ¶·ø¹ŗ»¼½¾æ" ++
      "ĄĮĀĆÄÅĘĒČÉŹĖĢĶĪĻŠŃŅÓŌÕÖ×ŲŁŚŪÜŻŽßąįāćäåęēčéźėģķīļšńņóōõö÷ųłśūüżž˙"⟩,
    ⟨⟨["cp1258"], ["windows_1258"]⟩,
      "€ ‚ƒ„…†‡\u02c6‰ ‹Œ    ‘’“”•–—˜™ ›œ  Ÿ\xa0¡¢£¤¥¦§¨©ª«¬\xad®¯°±²³´µ¶·¸¹º»¼½¾¿" ++
      "ÀÁÂĂÄÅÆÇÈÉÊË\u0300ÍÎÏĐÑ\u0309ÓÔƠÖ×ØÙÚÛÜƯ\u0303ßàáâăäåæçèéêë\u0301íîïđñ\u0323óôơö÷øùúûüư₫ÿ"⟩,
    ⟨⟨["hp_roman8"], ["cp1051", "ibm1051", "r8", "roman8"]⟩,
      highControls ++ "\xa0ÀÂÈÊËÎÏ´\u02cb\u02c6¨˜ÙÛ₤¯Ýý°ÇçÑñ¡¿¤£¥§ƒ¢âêôûáéóúàèòùäëöüÅîØÆåíøæÄ" ++
      "ìÖÜÉïßÔÁÃãÐðÍÌÓÒÕõŠšÚŸÿÞþ·µ¶¾—¼½ªº«■»± "⟩,
    ⟨⟨["iso8859_2"],
     ["csisolatin2", "iso_8859_2", "iso_8859_2_1987", "iso_ir_101", "l2", "latin2"]⟩,
      highControls ++ "\xa0Ą˘Ł¤ĽŚ§¨ŠŞŤŹ\xadŽŻ°ą˛ł´ľś\u02c7¸šşťź˝žżŔÁÂĂÄĹĆÇČÉĘËĚÍÎĎĐŃŇÓÔŐÖ×ŘŮÚ" ++
      "ŰÜÝŢßŕáâăäĺćçčéęëěíîďđńňóôőö÷řůúűüýţ˙"⟩,
    ⟨⟨["iso8859_3"],
     ["csisolatin3", "iso_8859_3", "iso_8859_3_1988", "iso_ir_109", "l3", "latin3"]⟩,
      highControls ++ "\xa0Ħ˘£¤ Ĥ§¨İŞĞĴ\xad Ż°ħ²³´µĥ·¸ışğĵ½ żÀÁÂ ÄĊĈÇÈÉÊËÌÍÎÏ ÑÒÓÔĠÖ×ĜÙÚÛÜŬŜß" ++
      "àáâ äċĉçèéêëìíîï ñòóôġö÷ĝùúûüŭŝ˙"⟩,
    ⟨⟨["iso8859_4"],
     ["csisolatin4", "iso_8859_4", "iso_8859_4_1988", "iso_ir_110", "l4", "latin4"]⟩,
      highControls ++ "\xa0ĄĸŖ¤ĨĻ§¨ŠĒĢŦ\xadŽ¯°ą˛ŗ´ĩļ\u02c7¸šēģŧŊžŋĀÁÂÃÄÅÆĮČÉĘËĖÍÎĪĐŅŌĶÔÕÖ×ØŲÚ" ++
      "ÛÜŨŪßāáâãäåæįčéęëėíîīđņōķôõö÷øųúûüũū˙"⟩,
    ⟨⟨["iso8859_5"],
     ["csisolatincyrillic", "cyrillic", "iso_8859_5", "iso_8859_5_1988", "iso_ir_144"]⟩,
      highControls ++ "\xa0ЁЂЃЄЅІЇЈЉЊЋЌ\xadЎЏАБВГДЕЖЗИЙКЛМНОПРСТУФХЦЧШЩЪЫЬЭЮЯабвгдежзийклмноп" ++
      "рстуфхцчшщъыьэюя№ёђѓєѕіїјљњћќ§ўџ"⟩,
    ⟨⟨["iso8859_6"],
     ["arabic", "asmo_708", "csisolatinarabic", "ecma_114", "iso_8859_6", "iso_8859_6_1987",
      "iso_ir_127"]⟩,
      highControls ++ "\xa0   ¤       \u060c\xad             \u061b   \u061f \u0621\u0622" ++
      "\u0623\u0624\u0625\u0626\u0627\u0628\u0629\u062a\u062b\u062c\u062d\u062e\u062f\u0630" ++
      "\u0631\u0632\u0633\u0634\u0635\u0636\u0637\u0638\u0639\u063a     \u0640\u0641\u0642" ++
      "\u0643\u0644\u0645\u0646\u0647\u0648\u0649\u064a\u064b\u064c\u064d\u064e\u064f\u0650" ++
      "\u0651\u0652             "⟩,
    ⟨⟨["iso8859_7"],
     ["csisolatingreek", "ecma_118", "elot_928", "greek", "greek8", "iso_8859_7",
      "iso_8859_7_1987", "iso_ir_126"]⟩,
      highControls ++ "\xa0‘’£€₯¦§¨©\u037a«¬\xad ―°±²³΄΅Ά·ΈΉΊ»Ό½ΎΏΐΑΒΓΔΕΖΗΘΙΚΛΜΝΞΟΠΡ ΣΤΥΦΧΨΩΪ" ++
      "Ϋάέήίΰαβγδεζηθικλμνξοπρςστυφχψωϊϋόύώ "⟩,
    ⟨⟨["iso8859_8"],
     ["csisolatinhebrew", "hebrew", "iso_8859_8", "iso_8859_8_1988", "iso_ir_138"]⟩,
      highControls ++ "\xa0 ¢£¤¥¦§¨©×«¬\xad®¯°±²³´µ¶·¸¹÷»¼½¾                                ‗" ++
      "\u05d0\u05d1\u05d2\u05d3\u05d4\u05d5\u05d6\u05d7\u05d8\u05d9\u05da\u05db\u05dc\u05dd" ++
      "\u05de\u05df\u05e0\u05e1\u05e2\u05e3\u05e4\u05e5\u05e6\u05e7\u05e8\u05e9\u05ea  \u200e" ++
      "\u200f "⟩,
    ⟨⟨["iso8859_9"],
     ["csisolatin5", "iso_8859_9", "iso_8859_9_1989", "iso_ir_148", "l5", "latin5"]⟩,
      highControls ++ "\xa0¡¢£¤¥¦§¨©ª«¬\xad®¯°±²³´µ¶·¸¹º»¼½¾¿ÀÁÂÃÄÅÆÇÈÉÊËÌÍÎÏĞÑÒÓÔÕÖ×ØÙÚÛÜİŞß" ++
      "àáâãäåæçèéêëìíîïğñòóôõö÷øùúûüışÿ"⟩,
    ⟨⟨["iso8859_10"],
     ["csisolatin6", "iso_8859_10", "iso_8859_10_1992", "iso_ir_157", "l6", "latin6"]⟩,
      highControls ++ "\xa0ĄĒĢĪĨĶ§ĻĐŠŦŽ\xadŪŊ°ąēģīĩķ·ļđšŧž―ūŋĀÁÂÃÄÅÆĮČÉĘËĖÍÎÏÐŅŌÓÔÕÖŨØŲÚÛÜÝÞß" ++
      "āáâãäåæįčéęëėíîïðņōóôõöũøųúûüýþĸ"⟩,
    ⟨⟨["iso8859_11"], ["iso_8859_11", "iso_8859_11_2001", "thai"]⟩,
      highControls ++ "\xa0กขฃคฅฆงจฉชซฌญฎฏฐฑฒณดตถทธนบปผฝพฟภมยรฤลฦวศษสหฬอฮฯะ\u0e31าำ\u0e34" ++
      "\u0e35\u0e36\u0e37\u0e38\u0e39\u0e3a    ฿เแโใไๅ\u0e46\u0e47\u0e48\u0e49\u0e4a\u0e4b" ++
      "\u0e4c\u0e4d\u0e4e๏๐๑๒๓๔๕๖๗๘๙๚๛    "⟩,
    ⟨⟨["iso8859_13"], ["iso_8859_13", "l7", "latin7"]⟩,
      highControls ++ "\xa0”¢£¤„¦§Ø©Ŗ«¬\xad®Æ°±²³“µ¶·ø¹ŗ»¼½¾æĄĮĀĆÄÅĘĒČÉŹĖĢĶĪĻŠŃŅÓŌÕÖ×ŲŁŚŪÜŻŽß" ++
      "ąįāćäåęēčéźėģķīļšńņóōõö÷ųłśūüżž’"⟩,
    ⟨⟨["iso8859_14"],
     ["iso_8859_14", "iso_8859_14_1998", "iso_celtic", "iso_ir_199", "l8", "latin8"]⟩,
      highControls ++ "\xa0Ḃḃ£ĊċḊ§Ẁ©ẂḋỲ\xad®ŸḞḟĠġṀṁ¶ṖẁṗẃṠỳẄẅṡÀÁÂÃÄÅÆÇÈÉÊËÌÍÎÏŴÑÒÓÔÕÖṪØÙÚÛÜÝŶß" ++
      "àáâãäåæçèéêëìíîïŵñòóôõöṫøùúûüýŷÿ"⟩,
    ⟨⟨["iso8859_15"], ["iso_8859_15", "l9", "latin9"]⟩,
      highControls ++ "\xa0¡¢£€¥Š§š©ª«¬\xad®¯°±²³Žµ¶·ž¹º»ŒœŸ¿ÀÁÂÃÄÅÆÇÈÉÊËÌÍÎÏÐÑÒÓÔÕÖ×ØÙÚÛÜÝÞß" ++
      "àáâãäåæçèéêëìíîïðñòóôõö÷øùúûüýþÿ"⟩,
    ⟨⟨["iso8859_16"], ["iso_8859_16", "iso_8859_16_2001", "iso_ir_226", "l10", "latin10"]⟩,
      highControls ++ "\xa0ĄąŁ€„Š§š©Ș«Ź\xadźŻ°±ČłŽ”¶·žčș»ŒœŸżÀÁÂĂÄĆÆÇÈÉÊËÌÍÎÏĐŃÒÓÔŐÖŚŰÙÚÛÜĘȚß" ++
      "àáâăäćæçèéêëìíîïđńòóôőöśűùúûüęțÿ"⟩,
    ⟨⟨["koi8_r"], ["cskoi8r"]⟩,
      "─│┌┐└┘├┤┬┴┼▀▄█▌▐░▒▓⌠■∙√≈≤≥\xa0⌡°²·÷═║╒ё╓╔╕╖╗╘╙╚╛╜╝╞╟╠╡Ё╢╣╤╥╦╧╨╩╪╫╬©" ++
      "юабцдефгхийклмнопярстужвьызшэщчъЮАБЦДЕФГХИЙКЛМНОПЯРСТУЖВЬЫЗШЭЩЧЪ"⟩,
    ⟨⟨["koi8_t"], []⟩,
      "қғ‚Ғ„…†‡ ‰ҳ‹ҲҷҶ Қ‘’“”•–— ™ ›     ӯӮё¤ӣ¦§   «¬\xad® °±²Ё Ӣ¶· № »   ©" ++
      "юабцдефгхийклмнопярстужвьызшэщчъЮАБЦДЕФГХИЙКЛМНОПЯРСТУЖВЬЫЗШЭЩЧЪ"⟩,
    ⟨⟨["koi8_u"], []⟩,
      "─│┌┐└┘├┤┬┴┼▀▄█▌▐░▒▓⌠■∙√≈≤≥\xa0⌡°²·÷═║╒ёє╔ії╗╘╙╚╛ґ╝╞╟╠╡ЁЄ╣ІЇ╦╧╨╩╪Ґ╬©" ++
      "юабцдефгхийклмнопярстужвьызшэщчъЮАБЦДЕФГХИЙКЛМНОПЯРСТУЖВЬЫЗШЭЩЧЪ"⟩,
    ⟨⟨["kz1048"], ["kz_1048", "rk1048", "strk1048_2002"]⟩,
      "ЂЃ‚ѓ„…†‡€‰Љ‹ЊҚҺЏђ‘’“”•–— ™љ›њқһџ\xa0ҰұӘ¤Ө¦§Ё©Ғ«¬\xad®Ү°±Ііөµ¶·ё№ғ»әҢңү" ++
      "АБВГДЕЖЗИЙКЛМНОПРСТУФХЦЧШЩЪЫЬЭЮЯабвгдежзийклмнопрстуфхцчшщъыьэюя"⟩,
    ⟨⟨["mac_croatian"], []⟩,
      "ÄÅÇÉÑÖÜáàâäãåçéèêëíìîïñóòôöõúùûü†°¢£§•¶ß®Š™´¨≠ŽØ∞±≤≥∆µ∂∑∏š∫ªºΩžø" ++
      "¿¡¬√ƒ≈Ć«Č…\xa0ÀÃÕŒœĐ—“”‘’÷◊\uf8ff©⁄€‹›Æ»–·‚„‰ÂćÁčÈÍÎÏÌÓÔđÒÚÛÙı\u02c6˜¯πË˚¸Êæ\u02c7"⟩,
    ⟨⟨["mac_cyrillic"], ["maccyrillic"]⟩,
      "АБВГДЕЖЗИЙКЛМНОПРСТУФХЦЧШЩЪЫЬЭЮЯ†°Ґ£§•¶І®©™Ђђ≠Ѓѓ∞±≤≥іµґЈЄєЇїЉљЊњ" ++
      "јЅ¬√ƒ≈∆«»…\xa0ЋћЌќѕ–—“”‘’÷„ЎўЏџ№Ёёяабвгдежзийклмнопрстуфхцчшщъыьэю€"⟩,
    ⟨⟨["mac_greek"], ["macgreek"]⟩,
      "Ä¹²É³ÖÜ΅àâä΄¨çéèêë£™îï•½‰ôö¦€ùûü†ΓΔΘΛΞΠß®©ΣΪ§≠°·Α±≤≥¥ΒΕΖΗΙΚΜΦΫΨΩ" ++
      "άΝ¬ΟΡ≈Τ«»…\xa0ΥΧΆΈœ–―“”‘’÷ΉΊΌΎέήίόΏύαβψδεφγηιξκλμνοπώρστθωςχυζϊϋΐΰ\xad"⟩,
    ⟨⟨["mac_iceland"], ["maciceland"]⟩,
      "ÄÅÇÉÑÖÜáàâäãåçéèêëíìîïñóòôöõúùûüÝ°¢£§•¶ß®©™´¨≠ÆØ∞±≤≥¥µ∂∑∏π∫ªºΩæø" ++
      "¿¡¬√ƒ≈∆«»…\xa0ÀÃÕŒœ–—“”‘’÷◊ÿŸ⁄€ÐðÞþý·‚„‰ÂÊÁËÈÍÎÏÌÓÔ\uf8ffÒÚÛÙı\u02c6˜¯˘˙˚¸˝˛\u02c7"⟩,
    ⟨⟨["mac_latin2"], ["mac_centeuro", "maccentraleurope", "maclatin2"]⟩,
      "ÄĀāÉĄÖÜáąČäčĆćéŹźĎíďĒēĖóėôöõúĚěü†°Ę£§•¶ß®©™ę¨≠ģĮįĪ≤≥īĶ∂∑łĻļĽľĹĺŅ" ++
      "ņŃ¬√ńŇ∆«»…\xa0ňŐÕőŌ–—“”‘’÷◊ōŔŕŘ‹›řŖŗŠ‚„šŚśÁŤťÍŽžŪÓÔūŮÚůŰűŲųÝýķŻŁżĢ\u02c7"⟩,
    ⟨⟨["mac_roman"], ["macintosh", "macroman"]⟩,
      "ÄÅÇÉÑÖÜáàâäãåçéèêëíìîïñóòôöõúùûü†°¢£§•¶ß®©™´¨≠ÆØ∞±≤≥¥µ∂∑∏π∫ªºΩæø¿¡¬√ƒ≈∆«»…\xa0ÀÃÕŒœ–—“" ++
      "”‘’÷◊ÿŸ⁄€‹›\ufb01\ufb02‡·‚„‰ÂÊÁËÈÍÎÏÌÓÔ\uf8ffÒÚÛÙı\u02c6˜¯˘˙˚¸˝˛\u02c7"⟩,
    ⟨⟨["mac_romanian"], []⟩,
      "ÄÅÇÉÑÖÜáàâäãåçéèêëíìîïñóòôöõúùûü†°¢£§•¶ß®©™´¨≠ĂȘ∞±≤≥¥µ∂∑∏π∫ªºΩăș" ++
      "¿¡¬√ƒ≈∆«»…\xa0ÀÃÕŒœ–—“”‘’÷◊ÿŸ⁄€‹›Țț‡·‚„‰ÂÊÁËÈÍÎÏÌÓÔ\uf8ffÒÚÛÙı\u02c6˜¯˘˙˚¸˝˛\u02c7"⟩,
    ⟨⟨["mac_turkish"], ["macturkish"]⟩,
      "ÄÅÇÉÑÖÜáàâäãåçéèêëíìîïñóòôöõúùûü†°¢£§•¶ß®©™´¨≠ÆØ∞±≤≥¥µ∂∑∏π∫ªºΩæø" ++
      "¿¡¬√ƒ≈∆«»…\xa0ÀÃÕŒœ–—“”‘’÷◊ÿŸĞğİıŞş‡·‚„‰ÂÊÁËÈÍÎÏÌÓÔ\uf8ffÒÚÛÙ\uf8a0\u02c6˜¯˘˙˚¸˝˛\u02c7"⟩,
    ⟨⟨["palmos"], []⟩,
      "€\x81‚ƒ„…†‡\u02c6‰Š‹Œ♦♣♥♠‘’“”•–—˜™š\x9bœ\x9d\x9eŸ\xa0¡¢£¤¥¦§¨©ª«¬\xad®¯°±²³´µ¶·¸¹º»¼½¾¿" ++
      "ÀÁÂÃÄÅÆÇÈÉÊËÌÍÎÏÐÑÒÓÔÕÖ×ØÙÚÛÜÝÞßàáâãäåæçèéêëìíîïðñòóôõö÷øùúûüýþÿ"⟩,
    ⟨⟨["ptcp154"], ["cp154", "csptcp154", "cyrillic_asian", "pt154"]⟩,
      "ҖҒӮғ„…ҶҮҲүҠӢҢҚҺҸҗ‘’“”•–—ҳҷҡӣңқһҹ\xa0ЎўЈӨҘҰ§Ё©Ә«¬ӯ®Ҝ°ұІіҙө¶·ё№ә»јҪҫҝ" ++
      "АБВГДЕЖЗИЙКЛМНОПРСТУФХЦЧШЩЪЫЬЭЮЯабвгдежзийклмнопрстуфхцчшщъыьэюя"⟩,
    ⟨⟨["tis_620"], ["iso_ir_166", "tis620", "tis_620_0", "tis_620_2529_0", "tis_620_2529_1"]⟩,
      highControls ++ " กขฃคฅฆงจฉชซฌญฎฏฐฑฒณดตถทธนบปผฝพฟภมยรฤลฦวศษสหฬอฮฯะ\u0e31าำ\u0e34\u0e35" ++
      "\u0e36\u0e37\u0e38\u0e39\u0e3a    ฿เแโใไๅ\u0e46\u0e47\u0e48\u0e49\u0e4a\u0e4b\u0e4c" ++
      "\u0e4d\u0e4e๏๐๑๒๓๔๕๖๗๘๙๚๛    "⟩]

end RecordProjection.Markup
