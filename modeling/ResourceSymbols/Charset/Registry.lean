import ResourceSymbols.Charset.Decode
import ResourceSymbols.Unicode.Space

namespace ResourceSymbols.Charset

/-- A registered character set: its name, its aliases, and how it is read, if it is. -/
structure Entry where
  name : String
  aliases : List String
  decoding : Option Decoding

def read (name : String) (aliases : List String) (d : Decoding) : Entry := ⟨name, aliases, some d⟩

def unread (name : String) (aliases : List String) : Entry := ⟨name, aliases, none⟩

/-- The registered character sets. -/
def registry : List Entry := [
  read "US-ASCII" ["iso-ir-6", "ANSI_X3.4-1968", "ANSI_X3.4-1986", "ISO_646.irv:1991", "ISO646-US",
    "us", "IBM367", "cp367", "csASCII"] ascii,
  read "ISO_8859-1:1987" ["iso-ir-100", "ISO_8859-1", "ISO-8859-1", "latin1", "l1", "IBM819", "CP819",
    "csISOLatin1"] (upperHalf iso8859n1),
  read "ISO_8859-2:1987" ["iso-ir-101", "ISO_8859-2", "ISO-8859-2", "latin2", "l2", "csISOLatin2"]
    (upperHalf iso8859n2),
  read "ISO_8859-3:1988" ["iso-ir-109", "ISO_8859-3", "ISO-8859-3", "latin3", "l3", "csISOLatin3"]
    (upperHalf iso8859n3),
  read "ISO_8859-4:1988" ["iso-ir-110", "ISO_8859-4", "ISO-8859-4", "latin4", "l4", "csISOLatin4"]
    (upperHalf iso8859n4),
  read "ISO_8859-5:1988" ["iso-ir-144", "ISO_8859-5", "ISO-8859-5", "cyrillic", "csISOLatinCyrillic"]
    (upperHalf iso8859n5),
  read "ISO_8859-6:1987" ["iso-ir-127", "ISO_8859-6", "ISO-8859-6", "ECMA-114", "ASMO-708", "arabic",
    "csISOLatinArabic"] (upperHalf iso8859n6),
  read "ISO_8859-7:1987" ["iso-ir-126", "ISO_8859-7", "ISO-8859-7", "ELOT_928", "ECMA-118", "greek",
    "greek8", "csISOLatinGreek"] (upperHalf iso8859n7),
  read "ISO_8859-8:1988" ["iso-ir-138", "ISO_8859-8", "ISO-8859-8", "hebrew", "csISOLatinHebrew"]
    (upperHalf iso8859n8),
  read "ISO_8859-9:1989" ["iso-ir-148", "ISO_8859-9", "ISO-8859-9", "latin5", "l5", "csISOLatin5"]
    (upperHalf iso8859n9),
  read "ISO-8859-10" ["iso-ir-157", "l6", "ISO_8859-10:1992", "csISOLatin6", "latin6"]
    (upperHalf iso8859n10),
  read "ISO_8859-6-E" ["csISO88596E", "ISO-8859-6-E"] (upperHalf iso8859n6),
  read "ISO_8859-6-I" ["csISO88596I", "ISO-8859-6-I"] (upperHalf iso8859n6),
  read "ISO_8859-8-E" ["csISO88598E", "ISO-8859-8-E"] (upperHalf iso8859n8),
  read "ISO_8859-8-I" ["csISO88598I", "ISO-8859-8-I"] (upperHalf iso8859n8),
  read "ISO-8859-13" ["csISO885913"] (upperHalf iso8859n13),
  read "ISO-8859-14" ["iso-ir-199", "ISO_8859-14:1998", "ISO_8859-14", "latin8", "iso-celtic", "l8",
    "csISO885914"] (upperHalf iso8859n14),
  read "ISO-8859-15" ["ISO_8859-15", "Latin-9", "csISO885915"] (upperHalf iso8859n15),
  read "ISO-8859-16" ["iso-ir-226", "ISO_8859-16:2001", "ISO_8859-16", "latin10", "l10", "csISO885916"]
    (upperHalf iso8859n16),
  read "Shift_JIS" ["MS_Kanji", "csShiftJIS"] .shiftJis,
  read "UTF-8" ["csUTF8"] .utf8,
  read "UTF-16BE" ["csUTF16BE"] (.utf16 true false),
  read "UTF-16LE" ["csUTF16LE"] (.utf16 false false),
  read "UTF-16" ["csUTF16"] (.utf16 true true),
  read "KOI8-R" ["csKOI8R"] (upperHalf koi8r),
  read "KOI8-U" ["csKOI8U"] (upperHalf koi8u),
  read "macintosh" ["mac", "csMacintosh"] (upperHalf macintosh),
  read "IBM037" ["cp037", "ebcdic-cp-us", "ebcdic-cp-ca", "ebcdic-cp-wt", "ebcdic-cp-nl", "csIBM037"]
    (wholeTable ibm037),
  read "IBM437" ["cp437", "437", "csPC8CodePage437"] (upperHalf ibm437),
  read "IBM850" ["cp850", "850", "csPC850Multilingual"] (upperHalf ibm850),
  read "IBM852" ["cp852", "852", "csPCp852"] (upperHalf ibm852),
  read "IBM855" ["cp855", "855", "csIBM855"] (upperHalf ibm855),
  read "IBM00858" ["CCSID00858", "CP00858", "PC-Multilingual-850+euro", "csIBM00858"] (upperHalf ibm858),
  read "IBM860" ["cp860", "860", "csIBM860"] (upperHalf ibm860),
  read "IBM862" ["cp862", "862", "csPC862LatinHebrew"] (upperHalf ibm862),
  read "IBM863" ["cp863", "863", "csIBM863"] (upperHalf ibm863),
  read "IBM865" ["cp865", "865", "csIBM865"] (upperHalf ibm865),
  read "IBM866" ["cp866", "866", "csIBM866"] (upperHalf ibm866),
  read "IBM1047" ["IBM-1047", "csIBM1047"] (wholeTable ibm1047),
  read "IBM01140" ["CCSID01140", "CP01140", "ebcdic-us-37+euro", "csIBM01140"] (wholeTable ibm1140),
  read "windows-874" ["cswindows874"] (upperHalf windows874),
  read "windows-1250" ["cswindows1250"] (upperHalf windows1250),
  read "windows-1251" ["cswindows1251"] (upperHalf windows1251),
  read "windows-1252" ["cswindows1252"] (upperHalf windows1252),
  read "windows-1253" ["cswindows1253"] (upperHalf windows1253),
  read "windows-1254" ["cswindows1254"] (upperHalf windows1254),
  read "windows-1255" ["cswindows1255"] (upperHalf windows1255),
  read "windows-1256" ["cswindows1256"] (upperHalf windows1256),
  read "windows-1257" ["cswindows1257"] (upperHalf windows1257),
  read "windows-1258" ["cswindows1258"] (upperHalf windows1258),
  read "Extended_UNIX_Code_Packed_Format_for_Japanese" ["csEUCPkdFmtJapanese", "EUC-JP"] .eucJp,
  read "ISO-2022-JP" ["csISO2022JP"] .iso2022Jp,
  read "EUC-KR" ["csEUCKR"] .eucKr,
  read "GBK" ["CP936", "MS936", "windows-936", "csGBK"] (.gbk false),
  read "GB18030" ["csGB18030"] (.gbk true),
  read "HZ-GB-2312" [] .hz,
  read "Big5" ["csBig5"] .big5,
  unread "GB2312" ["csGB2312"],
  unread "Windows-31J" ["csWindows31J"],
  unread "TIS-620" ["csTIS620", "ISO-8859-11"],
  unread "Big5-HKSCS" ["csBig5HKSCS"],
  unread "ISO-2022-KR" ["csISO2022KR"],
  unread "ISO-2022-CN" ["csISO2022CN"],
  unread "ISO-2022-CN-EXT" ["csISO2022CNEXT"],
  unread "UTF-7" ["csUTF7"],
  unread "UTF-32" ["csUTF32"],
  unread "UTF-32BE" ["csUTF32BE"],
  unread "UTF-32LE" ["csUTF32LE"],
  unread "ISO-10646-UCS-2" ["csUnicode"],
  unread "ISO-10646-UCS-4" ["csUCS4"],
  unread "IBM775" ["cp775", "csPC775Baltic"],
  unread "IBM857" ["cp857", "857", "csIBM857"],
  unread "IBM861" ["cp861", "861", "cp-is", "csIBM861"],
  unread "IBM864" ["cp864", "csIBM864"],
  unread "IBM869" ["cp869", "869", "cp-gr", "csIBM869"],
  unread "IBM500" ["CP500", "ebcdic-cp-be", "ebcdic-cp-ch", "csIBM500"],
  unread "ISO_6937-2-add" ["iso-ir-142", "csISOTextComm"],
  unread "JIS_X0201" ["X0201", "csHalfWidthKatakana"],
  unread "JIS_Encoding" ["csJISEncoding"],
  unread "Extended_UNIX_Code_Fixed_Width_for_Japanese" ["csEUCFixWidJapanese"],
  unread "BS_4730" ["iso-ir-4", "ISO646-GB", "gb", "uk", "csISO4UnitedKingdom"],
  unread "SEN_850200_C" ["iso-ir-11", "ISO646-SE2", "se2", "csISO11SwedishForNames"],
  unread "IT" ["iso-ir-15", "ISO646-IT", "csISO15Italian"],
  unread "ES" ["iso-ir-17", "ISO646-ES", "csISO17Spanish"],
  unread "DIN_66003" ["iso-ir-21", "de", "ISO646-DE", "csISO21German"],
  unread "NS_4551-1" ["iso-ir-60", "ISO646-NO", "no", "csISO60DanishNorwegian", "csISO60Norwegian1"],
  unread "NF_Z_62-010" ["iso-ir-69", "ISO646-FR", "fr", "csISO69French"],
  unread "ISO-10646-UTF-1" ["csISO10646UTF1"],
  unread "ISO_646.basic:1983" ["ref", "csISO646basic1983"],
  unread "INVARIANT" ["csINVARIANT"],
  unread "ISO_646.irv:1983" ["iso-ir-2", "irv", "csISO2IntlRefVersion"],
  unread "NATS-SEFI" ["iso-ir-8-1", "csNATSSEFI"],
  unread "NATS-SEFI-ADD" ["iso-ir-8-2", "csNATSSEFIADD"],
  unread "NATS-DANO" ["iso-ir-9-1", "csNATSDANO"],
  unread "NATS-DANO-ADD" ["iso-ir-9-2", "csNATSDANOADD"],
  unread "SEN_850200_B" ["iso-ir-10", "FI", "ISO646-FI", "ISO646-SE", "se", "csISO10Swedish"],
  unread "KS_C_5601-1987" ["iso-ir-149", "KS_C_5601-1989", "KSC_5601", "korean", "csKSC56011987"],
  unread "ISO-2022-JP-2" ["csISO2022JP2"],
  unread "JIS_C6220-1969-jp" ["JIS_C6220-1969", "iso-ir-13", "katakana", "x0201-7", "csISO13JISC6220jp"],
  unread "JIS_C6220-1969-ro" ["iso-ir-14", "jp", "ISO646-JP", "csISO14JISC6220ro"],
  unread "PT" ["iso-ir-16", "ISO646-PT", "csISO16Portuguese"],
  unread "greek7-old" ["iso-ir-18", "csISO18Greek7Old"],
  unread "latin-greek" ["iso-ir-19", "csISO19LatinGreek"],
  unread "NF_Z_62-010_(1973)" ["iso-ir-25", "ISO646-FR1", "csISO25French"],
  unread "Latin-greek-1" ["iso-ir-27", "csISO27LatinGreek1"],
  unread "ISO_5427" ["iso-ir-37", "csISO5427Cyrillic"],
  unread "JIS_C6226-1978" ["iso-ir-42", "csISO42JISC62261978"],
  unread "BS_viewdata" ["iso-ir-47", "csISO47BSViewdata"],
  unread "INIS" ["iso-ir-49", "csISO49INIS"],
  unread "INIS-8" ["iso-ir-50", "csISO50INIS8"],
  unread "INIS-cyrillic" ["iso-ir-51", "csISO51INISCyrillic"],
  unread "ISO_5427:1981" ["iso-ir-54", "ISO5427Cyrillic1981", "csISO54271981"],
  unread "ISO_5428:1980" ["iso-ir-55", "csISO5428Greek"],
  unread "GB_1988-80" ["iso-ir-57", "cn", "ISO646-CN", "csISO57GB1988"],
  unread "GB_2312-80" ["iso-ir-58", "chinese", "csISO58GB231280"],
  unread "NS_4551-2" ["ISO646-NO2", "iso-ir-61", "no2", "csISO61Norwegian2"],
  unread "videotex-suppl" ["iso-ir-70", "csISO70VideotexSupp1"],
  unread "PT2" ["iso-ir-84", "ISO646-PT2", "csISO84Portuguese2"],
  unread "ES2" ["iso-ir-85", "ISO646-ES2", "csISO85Spanish2"],
  unread "MSZ_7795.3" ["iso-ir-86", "ISO646-HU", "hu", "csISO86Hungarian"],
  unread "JIS_C6226-1983" ["iso-ir-87", "x0208", "JIS_X0208-1983", "csISO87JISX0208"],
  unread "greek7" ["iso-ir-88", "csISO88Greek7"],
  unread "ASMO_449" ["ISO_9036", "arabic7", "iso-ir-89", "csISO89ASMO449"],
  unread "iso-ir-90" ["csISO90"],
  unread "JIS_C6229-1984-a" ["iso-ir-91", "jp-ocr-a", "csISO91JISC62291984a"],
  unread "JIS_C6229-1984-b" ["iso-ir-92", "ISO646-JP-OCR-B", "jp-ocr-b", "csISO92JISC62991984b"],
  unread "JIS_C6229-1984-b-add" ["iso-ir-93", "jp-ocr-b-add", "csISO93JIS62291984badd"],
  unread "JIS_C6229-1984-hand" ["iso-ir-94", "jp-ocr-hand", "csISO94JIS62291984hand"],
  unread "JIS_C6229-1984-hand-add" ["iso-ir-95", "jp-ocr-hand-add", "csISO95JIS62291984handadd"],
  unread "JIS_C6229-1984-kana" ["iso-ir-96", "csISO96JISC62291984kana"],
  unread "ISO_2033-1983" ["iso-ir-98", "e13b", "csISO2033"],
  unread "ANSI_X3.110-1983" ["iso-ir-99", "CSA_T500-1983", "NAPLPS", "csISO99NAPLPS"],
  unread "T.61-7bit" ["iso-ir-102", "csISO102T617bit"],
  unread "T.61-8bit" ["T.61", "iso-ir-103", "csISO103T618bit"],
  unread "ECMA-cyrillic" ["iso-ir-111", "KOI8-E", "csISO111ECMACyrillic"],
  unread "CSA_Z243.4-1985-1" ["iso-ir-121", "ISO646-CA", "csa7-1", "csa71", "ca", "csISO121Canadian1"],
  unread "CSA_Z243.4-1985-2" ["iso-ir-122", "ISO646-CA2", "csa7-2", "csa72", "csISO122Canadian2"],
  unread "CSA_Z243.4-1985-gr" ["iso-ir-123", "csISO123CSAZ24341985gr"],
  unread "T.101-G2" ["iso-ir-128", "csISO128T101G2"],
  unread "CSN_369103" ["iso-ir-139", "csISO139CSN369103"],
  unread "JUS_I.B1.002" ["iso-ir-141", "ISO646-YU", "js", "yu", "csISO141JUSIB1002"],
  unread "IEC_P27-1" ["iso-ir-143", "csISO143IECP271"],
  unread "JUS_I.B1.003-serb" ["iso-ir-146", "serbian", "csISO146Serbian"],
  unread "JUS_I.B1.003-mac" ["macedonian", "iso-ir-147", "csISO147Macedonian"],
  unread "greek-ccitt" ["iso-ir-150", "csISO150", "csISO150GreekCCITT"],
  unread "NC_NC00-10:81" ["cuba", "iso-ir-151", "ISO646-CU", "csISO151Cuba"],
  unread "ISO_6937-2-25" ["iso-ir-152", "csISO6937Add"],
  unread "GOST_19768-74" ["ST_SEV_358-88", "iso-ir-153", "csISO153GOST1976874"],
  unread "ISO_8859-supp" ["iso-ir-154", "latin1-2-5", "csISO8859Supp"],
  unread "ISO_10367-box" ["iso-ir-155", "csISO10367Box"],
  unread "latin-lap" ["lap", "iso-ir-158", "csISO158Lap"],
  unread "JIS_X0212-1990" ["x0212", "iso-ir-159", "csISO159JISX02121990"],
  unread "DS_2089" ["DS2089", "ISO646-DK", "dk", "csISO646Danish"],
  unread "us-dk" ["csUSDK"],
  unread "dk-us" ["csDKUS"],
  unread "KSC5636" ["ISO646-KR", "csKSC5636"],
  unread "UNICODE-1-1-UTF-7" ["csUnicode11UTF7"],
  unread "OSD_EBCDIC_DF04_15" ["csOSDEBCDICDF0415"],
  unread "OSD_EBCDIC_DF03_IRV" ["csOSDEBCDICDF03IRV"],
  unread "OSD_EBCDIC_DF04_1" ["csOSDEBCDICDF041"],
  unread "ISO-11548-1" ["ISO_11548-1", "ISO_TR_11548-1", "csISO115481"],
  unread "KZ-1048" ["STRK1048-2002", "RK1048", "csKZ1048"],
  unread "ISO-10646-UCS-Basic" ["csUnicodeASCII"],
  unread "ISO-10646-Unicode-Latin1" ["csUnicodeLatin1", "ISO-10646"],
  unread "ISO-10646-J-1" ["csUnicodeJapanese"],
  unread "ISO-Unicode-IBM-1261" ["csUnicodeIBM1261"],
  unread "ISO-Unicode-IBM-1268" ["csUnicodeIBM1268"],
  unread "ISO-Unicode-IBM-1276" ["csUnicodeIBM1276"],
  unread "ISO-Unicode-IBM-1264" ["csUnicodeIBM1264"],
  unread "ISO-Unicode-IBM-1265" ["csUnicodeIBM1265"],
  unread "UNICODE-1-1" ["csUnicode11"],
  unread "SCSU" ["csSCSU"],
  unread "CESU-8" ["csCESU8", "csCESU-8"],
  unread "BOCU-1" ["csBOCU1", "csBOCU-1"],
  unread "UTF-7-IMAP" ["csUTF7IMAP"],
  unread "ISO-8859-1-Windows-3.0-Latin-1" ["csWindows30Latin1"],
  unread "ISO-8859-1-Windows-3.1-Latin-1" ["csWindows31Latin1"],
  unread "ISO-8859-2-Windows-Latin-2" ["csWindows31Latin2"],
  unread "ISO-8859-9-Windows-Latin-5" ["csWindows31Latin5"],
  unread "hp-roman8" ["roman8", "r8", "csHPRoman8"],
  unread "Adobe-Standard-Encoding" ["csAdobeStandardEncoding"],
  unread "Ventura-US" ["csVenturaUS"],
  unread "Ventura-International" ["csVenturaInternational"],
  unread "DEC-MCS" ["dec", "csDECMCS"],
  unread "PC8-Danish-Norwegian" ["csPC8DanishNorwegian"],
  unread "PC8-Turkish" ["csPC8Turkish"],
  unread "IBM-Symbols" ["csIBMSymbols"],
  unread "IBM-Thai" ["csIBMThai"],
  unread "HP-Legal" ["csHPLegal"],
  unread "HP-Pi-font" ["csHPPiFont"],
  unread "HP-Math8" ["csHPMath8"],
  unread "Adobe-Symbol-Encoding" ["csHPPSMath"],
  unread "HP-DeskTop" ["csHPDesktop"],
  unread "Ventura-Math" ["csVenturaMath"],
  unread "Microsoft-Publishing" ["csMicrosoftPublishing"],
  unread "IBM038" ["EBCDIC-INT", "cp038", "csIBM038"],
  unread "IBM273" ["CP273", "csIBM273"],
  unread "IBM274" ["EBCDIC-BE", "CP274", "csIBM274"],
  unread "IBM275" ["EBCDIC-BR", "cp275", "csIBM275"],
  unread "IBM277" ["EBCDIC-CP-DK", "EBCDIC-CP-NO", "csIBM277"],
  unread "IBM278" ["CP278", "ebcdic-cp-fi", "ebcdic-cp-se", "csIBM278"],
  unread "IBM280" ["CP280", "ebcdic-cp-it", "csIBM280"],
  unread "IBM281" ["EBCDIC-JP-E", "cp281", "csIBM281"],
  unread "IBM284" ["CP284", "ebcdic-cp-es", "csIBM284"],
  unread "IBM285" ["CP285", "ebcdic-cp-gb", "csIBM285"],
  unread "IBM290" ["cp290", "EBCDIC-JP-kana", "csIBM290"],
  unread "IBM297" ["cp297", "ebcdic-cp-fr", "csIBM297"],
  unread "IBM420" ["cp420", "ebcdic-cp-ar1", "csIBM420"],
  unread "IBM423" ["cp423", "ebcdic-cp-gr", "csIBM423"],
  unread "IBM424" ["cp424", "ebcdic-cp-he", "csIBM424"],
  unread "IBM851" ["cp851", "851", "csIBM851"],
  unread "IBM868" ["CP868", "cp-ar", "csIBM868"],
  unread "IBM870" ["CP870", "ebcdic-cp-roece", "ebcdic-cp-yu", "csIBM870"],
  unread "IBM871" ["CP871", "ebcdic-cp-is", "csIBM871"],
  unread "IBM880" ["cp880", "EBCDIC-Cyrillic", "csIBM880"],
  unread "IBM891" ["cp891", "csIBM891"],
  unread "IBM903" ["cp903", "csIBM903"],
  unread "IBM904" ["cp904", "904", "csIBBM904"],
  unread "IBM905" ["CP905", "ebcdic-cp-tr", "csIBM905"],
  unread "IBM918" ["CP918", "ebcdic-cp-ar2", "csIBM918"],
  unread "IBM1026" ["CP1026", "csIBM1026"],
  unread "EBCDIC-AT-DE" ["csIBMEBCDICATDE", "csEBCDICATDE"],
  unread "EBCDIC-AT-DE-A" ["csEBCDICATDEA"],
  unread "EBCDIC-CA-FR" ["csEBCDICCAFR"],
  unread "EBCDIC-DK-NO" ["csEBCDICDKNO"],
  unread "EBCDIC-DK-NO-A" ["csEBCDICDKNOA"],
  unread "EBCDIC-FI-SE" ["csEBCDICFISE"],
  unread "EBCDIC-FI-SE-A" ["csEBCDICFISEA"],
  unread "EBCDIC-FR" ["csEBCDICFR"],
  unread "EBCDIC-IT" ["csEBCDICIT"],
  unread "EBCDIC-PT" ["csEBCDICPT"],
  unread "EBCDIC-ES" ["csEBCDICES"],
  unread "EBCDIC-ES-A" ["csEBCDICESA"],
  unread "EBCDIC-ES-S" ["csEBCDICESS"],
  unread "EBCDIC-UK" ["csEBCDICUK"],
  unread "EBCDIC-US" ["csEBCDICUS"],
  unread "UNKNOWN-8BIT" ["csUnknown8BiT"],
  unread "MNEMONIC" ["csMnemonic"],
  unread "MNEM" ["csMnem"],
  unread "VISCII" ["csVISCII"],
  unread "VIQR" ["csVIQR"],
  unread "IBM00924" ["CCSID00924", "CP00924", "ebcdic-Latin9--euro", "csIBM00924"],
  unread "IBM01141" ["CCSID01141", "CP01141", "ebcdic-de-273+euro", "csIBM01141"],
  unread "IBM01142" ["CCSID01142", "CP01142", "ebcdic-dk-277+euro", "ebcdic-no-277+euro", "csIBM01142"],
  unread "IBM01143" ["CCSID01143", "CP01143", "ebcdic-fi-278+euro", "ebcdic-se-278+euro", "csIBM01143"],
  unread "IBM01144" ["CCSID01144", "CP01144", "ebcdic-it-280+euro", "csIBM01144"],
  unread "IBM01145" ["CCSID01145", "CP01145", "ebcdic-es-284+euro", "csIBM01145"],
  unread "IBM01146" ["CCSID01146", "CP01146", "ebcdic-gb-285+euro", "csIBM01146"],
  unread "IBM01147" ["CCSID01147", "CP01147", "ebcdic-fr-297+euro", "csIBM01147"],
  unread "IBM01148" ["CCSID01148", "CP01148", "ebcdic-international-500+euro", "csIBM01148"],
  unread "IBM01149" ["CCSID01149", "CP01149", "ebcdic-is-871+euro", "csIBM01149"],
  unread "PTCP154" ["csPTCP154", "PT154", "CP154", "Cyrillic-Asian"],
  unread "Amiga-1251" ["Ami1251", "Amiga1251", "Ami-1251"],
  unread "KOI7-switched" ["csKOI7switched"],
  unread "BRF" ["csBRF"],
  unread "TSCII" ["csTSCII"],
  unread "CP51932" ["csCP51932"],
  unread "CP50220" ["csCP50220"] ]

def lowerForName (c : Char) : Char :=
  if c.toNat == 0x130 then 'i' else if c.toNat == 0x212A then 'k' else c.toLower

def lowerAscii (s : String) : String := s.map lowerForName

def invalidName : Bytes := Bytes.ofString "ianaindex: invalid encoding name"

/-- The registered set of a name, if it has a reading; an error if the name is not registered. -/
def lookup (name : Bytes) : Except Bytes (Option Entry) :=
  let key := lowerAscii ((String.fromUTF8? ⟨(Bytes.trimSpace name).toArray⟩).getD "")
  match registry.find? fun e => (e.name :: e.aliases).any fun a => lowerAscii a == key with
  | some e => .ok (if e.decoding.isSome then some e else none)
  | none => .error invalidName

end ResourceSymbols.Charset
