/-! # Other names of characters: abbreviations, control characters and corrected names -/

namespace ClusterMatrix.Text

def otherNames : List (String × Nat) :=
  [("ACK", 0x0006), ("ACKNOWLEDGE", 0x0006), ("ALERT", 0x0007), ("ALM", 0x061C), ("APC", 0x009F),
    ("APPLICATION PROGRAM COMMAND", 0x009F), ("BACKSPACE", 0x0008), ("BEL", 0x0007),
    ("BOM", 0xFEFF), ("BPH", 0x0082), ("BREAK PERMITTED HERE", 0x0082), ("BS", 0x0008),
    ("BYTE ORDER MARK", 0xFEFF), ("BYZANTINE MUSICAL SYMBOL FTHORA SKLIRON CHROMA VASIS", 0x1D0C5),
    ("CAN", 0x0018), ("CANCEL", 0x0018), ("CANCEL CHARACTER", 0x0094), ("CARRIAGE RETURN", 0x000D),
    ("CCH", 0x0094), ("CGJ", 0x034F), ("CHARACTER TABULATION", 0x0009),
    ("CHARACTER TABULATION SET", 0x0088), ("CHARACTER TABULATION WITH JUSTIFICATION", 0x0089),
    ("CONTROL SEQUENCE INTRODUCER", 0x009B), ("CR", 0x000D), ("CSI", 0x009B),
    ("CUNEIFORM SIGN NU11 OVER NU11 BUR OVER BUR", 0x122D5), ("CUNEIFORM SIGN NU11 TENU", 0x122D4),
    ("DATA LINK ESCAPE", 0x0010), ("DC1", 0x0011), ("DC2", 0x0012), ("DC3", 0x0013),
    ("DC4", 0x0014), ("DCS", 0x0090), ("DEL", 0x007F), ("DELETE", 0x007F),
    ("DEVICE CONTROL FOUR", 0x0014), ("DEVICE CONTROL ONE", 0x0011),
    ("DEVICE CONTROL STRING", 0x0090), ("DEVICE CONTROL THREE", 0x0013),
    ("DEVICE CONTROL TWO", 0x0012), ("DLE", 0x0010), ("END OF GUARDED AREA", 0x0097),
    ("END OF LINE", 0x000A), ("END OF MEDIUM", 0x0019), ("END OF PROTECTED AREA", 0x0097),
    ("END OF SELECTED AREA", 0x0087), ("END OF TEXT", 0x0003), ("END OF TRANSMISSION", 0x0004),
    ("END OF TRANSMISSION BLOCK", 0x0017), ("ENQ", 0x0005), ("ENQUIRY", 0x0005), ("EOL", 0x000A),
    ("EOM", 0x0019), ("EOT", 0x0004), ("EPA", 0x0097), ("ESA", 0x0087), ("ESC", 0x001B),
    ("ESCAPE", 0x001B), ("ETB", 0x0017), ("ETX", 0x0003), ("FF", 0x000C),
    ("FILE SEPARATOR", 0x001C), ("FORM FEED", 0x000C), ("FS", 0x001C), ("FSI", 0x2068),
    ("FVS1", 0x180B), ("FVS2", 0x180C), ("FVS3", 0x180D), ("FVS4", 0x180F),
    ("GROUP SEPARATOR", 0x001D), ("GS", 0x001D), ("HANGUL JONGSEONG SSANGYESIEUNG", 0x11EE),
    ("HANGUL JONGSEONG YESIEUNG-KHIEUKH", 0x11EF), ("HANGUL JONGSEONG YESIEUNG-KIYEOK", 0x11EC),
    ("HANGUL JONGSEONG YESIEUNG-SSANGKIYEOK", 0x11ED), ("HENTAIGANA LETTER E-1", 0x1B001),
    ("HIGH OCTET PRESET", 0x0081), ("HOP", 0x0081), ("HORIZONTAL TABULATION", 0x0009),
    ("HORIZONTAL TABULATION SET", 0x0088), ("HORIZONTAL TABULATION WITH JUSTIFICATION", 0x0089),
    ("HT", 0x0009), ("HTJ", 0x0089), ("HTS", 0x0088), ("IND", 0x0084), ("INDEX", 0x0084),
    ("INFORMATION SEPARATOR FOUR", 0x001C), ("INFORMATION SEPARATOR ONE", 0x001F),
    ("INFORMATION SEPARATOR THREE", 0x001D), ("INFORMATION SEPARATOR TWO", 0x001E),
    ("KANNADA LETTER LLLA", 0x0CDE), ("LAO LETTER FO FAY", 0x0E9F), ("LAO LETTER FO FON", 0x0E9D),
    ("LAO LETTER LO", 0x0EA5), ("LAO LETTER RO", 0x0EA3), ("LATIN CAPITAL LETTER GHA", 0x01A2),
    ("LATIN SMALL LETTER GHA", 0x01A3),
    ("LEFTWARDS TRIANGLE-HEADED ARROW WITH DOUBLE VERTICAL STROKE", 0x2B7A), ("LF", 0x000A),
    ("LINE FEED", 0x000A), ("LINE TABULATION", 0x000B), ("LINE TABULATION SET", 0x008A),
    ("LOCKING-SHIFT ONE", 0x000E), ("LOCKING-SHIFT ZERO", 0x000F), ("LRE", 0x202A), ("LRI", 0x2066),
    ("LRM", 0x200E), ("LRO", 0x202D), ("MEDEFAIDRIN CAPITAL LETTER H", 0x16E56),
    ("MEDEFAIDRIN CAPITAL LETTER NG", 0x16E57), ("MEDEFAIDRIN SMALL LETTER H", 0x16E76),
    ("MEDEFAIDRIN SMALL LETTER NG", 0x16E77), ("MESSAGE WAITING", 0x0095),
    ("MICR DASH SYMBOL", 0x2449), ("MICR ON US SYMBOL", 0x2448), ("MMSP", 0x205F), ("MVS", 0x180E),
    ("MW", 0x0095), ("MYANMAR LETTER KHAMTI LLA", 0xAA6E), ("NAK", 0x0015), ("NBH", 0x0083),
    ("NBSP", 0x00A0), ("NEGATIVE ACKNOWLEDGE", 0x0015), ("NEL", 0x0085), ("NEW LINE", 0x000A),
    ("NEXT LINE", 0x0085), ("NL", 0x000A), ("NNBSP", 0x202F), ("NO BREAK HERE", 0x0083),
    ("NUL", 0x0000), ("OPERATING SYSTEM COMMAND", 0x009D), ("OSC", 0x009D), ("PAD", 0x0080),
    ("PADDING CHARACTER", 0x0080), ("PARTIAL LINE BACKWARD", 0x008C), ("PARTIAL LINE DOWN", 0x008B),
    ("PARTIAL LINE FORWARD", 0x008B), ("PARTIAL LINE UP", 0x008C), ("PDF", 0x202C), ("PDI", 0x2069),
    ("PLD", 0x008B), ("PLU", 0x008C), ("PM", 0x009E),
    ("PRESENTATION FORM FOR VERTICAL RIGHT WHITE LENTICULAR BRACKET", 0xFE18),
    ("PRIVACY MESSAGE", 0x009E), ("PRIVATE USE ONE", 0x0091), ("PRIVATE USE TWO", 0x0092),
    ("PRIVATE USE-1", 0x0091), ("PRIVATE USE-2", 0x0092), ("PU1", 0x0091), ("PU2", 0x0092),
    ("RECORD SEPARATOR", 0x001E), ("REVERSE INDEX", 0x008D), ("REVERSE LINE FEED", 0x008D),
    ("RI", 0x008D), ("RIGHTWARDS TRIANGLE-HEADED ARROW WITH DOUBLE VERTICAL STROKE", 0x2B7C),
    ("RLE", 0x202B), ("RLI", 0x2067), ("RLM", 0x200F), ("RLO", 0x202E), ("RS", 0x001E),
    ("SCI", 0x009A), ("SET TRANSMIT STATE", 0x0093), ("SGC", 0x0099), ("SHIFT IN", 0x000F),
    ("SHIFT OUT", 0x000E), ("SHY", 0x00AD), ("SI", 0x000F), ("SINGLE CHARACTER INTRODUCER", 0x009A),
    ("SINGLE GRAPHIC CHARACTER INTRODUCER", 0x0099), ("SINGLE SHIFT THREE", 0x008F),
    ("SINGLE SHIFT TWO", 0x008E), ("SINGLE-SHIFT-2", 0x008E), ("SINGLE-SHIFT-3", 0x008F),
    ("SO", 0x000E), ("SOH", 0x0001), ("SOS", 0x0098), ("SP", 0x0020), ("SPA", 0x0096),
    ("SS2", 0x008E), ("SS3", 0x008F), ("SSA", 0x0086), ("ST", 0x009C),
    ("START OF GUARDED AREA", 0x0096), ("START OF HEADING", 0x0001),
    ("START OF PROTECTED AREA", 0x0096), ("START OF SELECTED AREA", 0x0086),
    ("START OF STRING", 0x0098), ("START OF TEXT", 0x0002), ("STRING TERMINATOR", 0x009C),
    ("STS", 0x0093), ("STX", 0x0002), ("SUB", 0x001A), ("SUBSTITUTE", 0x001A), ("SYN", 0x0016),
    ("SYNCHRONOUS IDLE", 0x0016), ("SYRIAC SUBLINEAR COLON SKEWED LEFT", 0x0709), ("TAB", 0x0009),
    ("TIBETAN MARK BKA- SHOG GI MGO RGYAN", 0x0FD0), ("UNIT SEPARATOR", 0x001F), ("US", 0x001F),
    ("VERTICAL TABULATION", 0x000B), ("VERTICAL TABULATION SET", 0x008A), ("VS1", 0xFE00),
    ("VS10", 0xFE09), ("VS100", 0xE0153), ("VS101", 0xE0154), ("VS102", 0xE0155),
    ("VS103", 0xE0156), ("VS104", 0xE0157), ("VS105", 0xE0158), ("VS106", 0xE0159),
    ("VS107", 0xE015A), ("VS108", 0xE015B), ("VS109", 0xE015C), ("VS11", 0xFE0A),
    ("VS110", 0xE015D), ("VS111", 0xE015E), ("VS112", 0xE015F), ("VS113", 0xE0160),
    ("VS114", 0xE0161), ("VS115", 0xE0162), ("VS116", 0xE0163), ("VS117", 0xE0164),
    ("VS118", 0xE0165), ("VS119", 0xE0166), ("VS12", 0xFE0B), ("VS120", 0xE0167),
    ("VS121", 0xE0168), ("VS122", 0xE0169), ("VS123", 0xE016A), ("VS124", 0xE016B),
    ("VS125", 0xE016C), ("VS126", 0xE016D), ("VS127", 0xE016E), ("VS128", 0xE016F),
    ("VS129", 0xE0170), ("VS13", 0xFE0C), ("VS130", 0xE0171), ("VS131", 0xE0172),
    ("VS132", 0xE0173), ("VS133", 0xE0174), ("VS134", 0xE0175), ("VS135", 0xE0176),
    ("VS136", 0xE0177), ("VS137", 0xE0178), ("VS138", 0xE0179), ("VS139", 0xE017A),
    ("VS14", 0xFE0D), ("VS140", 0xE017B), ("VS141", 0xE017C), ("VS142", 0xE017D),
    ("VS143", 0xE017E), ("VS144", 0xE017F), ("VS145", 0xE0180), ("VS146", 0xE0181),
    ("VS147", 0xE0182), ("VS148", 0xE0183), ("VS149", 0xE0184), ("VS15", 0xFE0E),
    ("VS150", 0xE0185), ("VS151", 0xE0186), ("VS152", 0xE0187), ("VS153", 0xE0188),
    ("VS154", 0xE0189), ("VS155", 0xE018A), ("VS156", 0xE018B), ("VS157", 0xE018C),
    ("VS158", 0xE018D), ("VS159", 0xE018E), ("VS16", 0xFE0F), ("VS160", 0xE018F),
    ("VS161", 0xE0190), ("VS162", 0xE0191), ("VS163", 0xE0192), ("VS164", 0xE0193),
    ("VS165", 0xE0194), ("VS166", 0xE0195), ("VS167", 0xE0196), ("VS168", 0xE0197),
    ("VS169", 0xE0198), ("VS17", 0xE0100), ("VS170", 0xE0199), ("VS171", 0xE019A),
    ("VS172", 0xE019B), ("VS173", 0xE019C), ("VS174", 0xE019D), ("VS175", 0xE019E),
    ("VS176", 0xE019F), ("VS177", 0xE01A0), ("VS178", 0xE01A1), ("VS179", 0xE01A2),
    ("VS18", 0xE0101), ("VS180", 0xE01A3), ("VS181", 0xE01A4), ("VS182", 0xE01A5),
    ("VS183", 0xE01A6), ("VS184", 0xE01A7), ("VS185", 0xE01A8), ("VS186", 0xE01A9),
    ("VS187", 0xE01AA), ("VS188", 0xE01AB), ("VS189", 0xE01AC), ("VS19", 0xE0102),
    ("VS190", 0xE01AD), ("VS191", 0xE01AE), ("VS192", 0xE01AF), ("VS193", 0xE01B0),
    ("VS194", 0xE01B1), ("VS195", 0xE01B2), ("VS196", 0xE01B3), ("VS197", 0xE01B4),
    ("VS198", 0xE01B5), ("VS199", 0xE01B6), ("VS2", 0xFE01), ("VS20", 0xE0103), ("VS200", 0xE01B7),
    ("VS201", 0xE01B8), ("VS202", 0xE01B9), ("VS203", 0xE01BA), ("VS204", 0xE01BB),
    ("VS205", 0xE01BC), ("VS206", 0xE01BD), ("VS207", 0xE01BE), ("VS208", 0xE01BF),
    ("VS209", 0xE01C0), ("VS21", 0xE0104), ("VS210", 0xE01C1), ("VS211", 0xE01C2),
    ("VS212", 0xE01C3), ("VS213", 0xE01C4), ("VS214", 0xE01C5), ("VS215", 0xE01C6),
    ("VS216", 0xE01C7), ("VS217", 0xE01C8), ("VS218", 0xE01C9), ("VS219", 0xE01CA),
    ("VS22", 0xE0105), ("VS220", 0xE01CB), ("VS221", 0xE01CC), ("VS222", 0xE01CD),
    ("VS223", 0xE01CE), ("VS224", 0xE01CF), ("VS225", 0xE01D0), ("VS226", 0xE01D1),
    ("VS227", 0xE01D2), ("VS228", 0xE01D3), ("VS229", 0xE01D4), ("VS23", 0xE0106),
    ("VS230", 0xE01D5), ("VS231", 0xE01D6), ("VS232", 0xE01D7), ("VS233", 0xE01D8),
    ("VS234", 0xE01D9), ("VS235", 0xE01DA), ("VS236", 0xE01DB), ("VS237", 0xE01DC),
    ("VS238", 0xE01DD), ("VS239", 0xE01DE), ("VS24", 0xE0107), ("VS240", 0xE01DF),
    ("VS241", 0xE01E0), ("VS242", 0xE01E1), ("VS243", 0xE01E2), ("VS244", 0xE01E3),
    ("VS245", 0xE01E4), ("VS246", 0xE01E5), ("VS247", 0xE01E6), ("VS248", 0xE01E7),
    ("VS249", 0xE01E8), ("VS25", 0xE0108), ("VS250", 0xE01E9), ("VS251", 0xE01EA),
    ("VS252", 0xE01EB), ("VS253", 0xE01EC), ("VS254", 0xE01ED), ("VS255", 0xE01EE),
    ("VS256", 0xE01EF), ("VS26", 0xE0109), ("VS27", 0xE010A), ("VS28", 0xE010B), ("VS29", 0xE010C),
    ("VS3", 0xFE02), ("VS30", 0xE010D), ("VS31", 0xE010E), ("VS32", 0xE010F), ("VS33", 0xE0110),
    ("VS34", 0xE0111), ("VS35", 0xE0112), ("VS36", 0xE0113), ("VS37", 0xE0114), ("VS38", 0xE0115),
    ("VS39", 0xE0116), ("VS4", 0xFE03), ("VS40", 0xE0117), ("VS41", 0xE0118), ("VS42", 0xE0119),
    ("VS43", 0xE011A), ("VS44", 0xE011B), ("VS45", 0xE011C), ("VS46", 0xE011D), ("VS47", 0xE011E),
    ("VS48", 0xE011F), ("VS49", 0xE0120), ("VS5", 0xFE04), ("VS50", 0xE0121), ("VS51", 0xE0122),
    ("VS52", 0xE0123), ("VS53", 0xE0124), ("VS54", 0xE0125), ("VS55", 0xE0126), ("VS56", 0xE0127),
    ("VS57", 0xE0128), ("VS58", 0xE0129), ("VS59", 0xE012A), ("VS6", 0xFE05), ("VS60", 0xE012B),
    ("VS61", 0xE012C), ("VS62", 0xE012D), ("VS63", 0xE012E), ("VS64", 0xE012F), ("VS65", 0xE0130),
    ("VS66", 0xE0131), ("VS67", 0xE0132), ("VS68", 0xE0133), ("VS69", 0xE0134), ("VS7", 0xFE06),
    ("VS70", 0xE0135), ("VS71", 0xE0136), ("VS72", 0xE0137), ("VS73", 0xE0138), ("VS74", 0xE0139),
    ("VS75", 0xE013A), ("VS76", 0xE013B), ("VS77", 0xE013C), ("VS78", 0xE013D), ("VS79", 0xE013E),
    ("VS8", 0xFE07), ("VS80", 0xE013F), ("VS81", 0xE0140), ("VS82", 0xE0141), ("VS83", 0xE0142),
    ("VS84", 0xE0143), ("VS85", 0xE0144), ("VS86", 0xE0145), ("VS87", 0xE0146), ("VS88", 0xE0147),
    ("VS89", 0xE0148), ("VS9", 0xFE08), ("VS90", 0xE0149), ("VS91", 0xE014A), ("VS92", 0xE014B),
    ("VS93", 0xE014C), ("VS94", 0xE014D), ("VS95", 0xE014E), ("VS96", 0xE014F), ("VS97", 0xE0150),
    ("VS98", 0xE0151), ("VS99", 0xE0152), ("VT", 0x000B), ("VTS", 0x008A),
    ("WEIERSTRASS ELLIPTIC FUNCTION", 0x2118), ("WJ", 0x2060),
    ("YI SYLLABLE ITERATION MARK", 0xA015), ("ZWJ", 0x200D), ("ZWNBSP", 0xFEFF), ("ZWNJ", 0x200C),
    ("ZWSP", 0x200B)]

end ClusterMatrix.Text
