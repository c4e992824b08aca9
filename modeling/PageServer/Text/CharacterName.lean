import PageServer.Text.CharTable
import PageServer.Text.Hex
/-! Names of characters, from version 14 of the character database: those of the Latin, Greek and
Cyrillic scripts, of accents, of punctuation and signs of many kinds, of both Japanese syllabaries,
of pictures, and of Chinese characters, which are named by their code points. -/
namespace PageServer.Text

/-- What small letters stand for in the table of names. -/
def nameAbbreviations : List (Char × String) :=
  [('a', " LETTER"), ('b', "WITH "), ('c', "CAPITAL LETTER "), ('d', "BOX DRAWINGS "),
   ('e', "LATIN SMALL LETTER "), ('f', " SYMBOL"), ('g', "KATAKANA LETTER "), ('h', "CYRILLIC "),
   ('i', "WHITE "), ('j', "HIRAGANA LETTER "), ('k', "LATIN "), ('l', " ARROW"), ('m', "RIGHT "),
   ('n', "COMBINING "), ('o', "BLACK "), ('p', "GREEK "), ('q', " SIGN"), ('r', " AND"),
   ('s', " FACE"), ('t', " HORIZONTAL"), ('u', "ROMAN NUMERAL "),
   ('v', "REGIONAL INDICATOR SYMBOL LETTER "), ('w', "LEFT "), ('x', "DINGBAT NEGATIVE CIRCLED "),
   ('y', " BRACKET"), ('z', " EQUAL TO")]

/-- The names of characters, from a first one on, with bars between them. -/
def characterNames : List (Nat × List String) :=
  [(0x20, ["SPACE|EXCLAMATION MARK|QUOTATION MARK|NUMBERq|DOLLARq|PERCENTq|AMPERSAND|APOSTROPHE",
     "wPARENTHESIS|mPARENTHESIS|ASTERISK|PLUSq|COMMA|HYPHEN-MINUS|FULL STOP|SOLIDUS|DIGIT ZERO",
     "DIGIT ONE|DIGIT TWO|DIGIT THREE|DIGIT FOUR|DIGIT FIVE|DIGIT SIX|DIGIT SEVEN|DIGIT EIGHT",
     "DIGIT NINE|COLON|SEMICOLON|LESS-THANq|EQUALSq|GREATER-THANq|QUESTION MARK|COMMERCIAL AT",
     "kcA|kcB|kcC|kcD|kcE|kcF|kcG|kcH|kcI|kcJ|kcK|kcL|kcM|kcN|kcO|kcP|kcQ|kcR|kcS|kcT|kcU|kcV",
     "kcW|kcX|kcY|kcZ|wSQUAREy|REVERSE SOLIDUS|mSQUAREy|CIRCUMFLEX ACCENT|LOW LINE|GRAVE ACCENT",
     "eA|eB|eC|eD|eE|eF|eG|eH|eI|eJ|eK|eL|eM|eN|eO|eP|eQ|eR|eS|eT|eU|eV|eW|eX|eY|eZ|wCURLYy",
     "VERTICAL LINE|mCURLYy|TILDE"]),
   (0xA0, ["NO-BREAK SPACE|INVERTED EXCLAMATION MARK|CENTq|POUNDq|CURRENCYq|YENq|BROKEN BAR",
     "SECTIONq|DIAERESIS|COPYmSIGN|FEMININE ORDINAL INDICATOR",
     "LEFT-POINTING DOUBLE ANGLE QUOTATION MARK|NOTq|SOFT HYPHEN|REGISTEREDq|MACRON|DEGREEq",
     "PLUS-MINUSq|SUPERSCRIPT TWO|SUPERSCRIPT THREE|ACUTE ACCENT|MICROq|PILCROWq|MIDDLE DOT",
     "CEDILLA|SUPERSCRIPT ONE|MASCULINE ORDINAL INDICATOR",
     "RIGHT-POINTING DOUBLE ANGLE QUOTATION MARK|VULGAR FRACTION ONE QUARTER",
     "VULGAR FRACTION ONE HALF|VULGAR FRACTION THREE QUARTERS|INVERTED QUESTION MARK|kcA bGRAVE",
     "kcA bACUTE|kcA bCIRCUMFLEX|kcA bTILDE|kcA bDIAERESIS|kcA bRING ABOVE|kcAE|kcC bCEDILLA",
     "kcE bGRAVE|kcE bACUTE|kcE bCIRCUMFLEX|kcE bDIAERESIS|kcI bGRAVE|kcI bACUTE|kcI bCIRCUMFLEX",
     "kcI bDIAERESIS|kcETH|kcN bTILDE|kcO bGRAVE|kcO bACUTE|kcO bCIRCUMFLEX|kcO bTILDE",
     "kcO bDIAERESIS|MULTIPLICATIONq|kcO bSTROKE|kcU bGRAVE|kcU bACUTE|kcU bCIRCUMFLEX",
     "kcU bDIAERESIS|kcY bACUTE|kcTHORN|eSHARP S|eA bGRAVE|eA bACUTE|eA bCIRCUMFLEX|eA bTILDE",
     "eA bDIAERESIS|eA bRING ABOVE|eAE|eC bCEDILLA|eE bGRAVE|eE bACUTE|eE bCIRCUMFLEX",
     "eE bDIAERESIS|eI bGRAVE|eI bACUTE|eI bCIRCUMFLEX|eI bDIAERESIS|eETH|eN bTILDE|eO bGRAVE",
     "eO bACUTE|eO bCIRCUMFLEX|eO bTILDE|eO bDIAERESIS|DIVISIONq|eO bSTROKE|eU bGRAVE|eU bACUTE",
     "eU bCIRCUMFLEX|eU bDIAERESIS|eY bACUTE|eTHORN|eY bDIAERESIS|kcA bMACRON|eA bMACRON",
     "kcA bBREVE|eA bBREVE|kcA bOGONEK|eA bOGONEK|kcC bACUTE|eC bACUTE|kcC bCIRCUMFLEX",
     "eC bCIRCUMFLEX|kcC bDOT ABOVE|eC bDOT ABOVE|kcC bCARON|eC bCARON|kcD bCARON|eD bCARON",
     "kcD bSTROKE|eD bSTROKE|kcE bMACRON|eE bMACRON|kcE bBREVE|eE bBREVE|kcE bDOT ABOVE",
     "eE bDOT ABOVE|kcE bOGONEK|eE bOGONEK|kcE bCARON|eE bCARON|kcG bCIRCUMFLEX|eG bCIRCUMFLEX",
     "kcG bBREVE|eG bBREVE|kcG bDOT ABOVE|eG bDOT ABOVE|kcG bCEDILLA|eG bCEDILLA|kcH bCIRCUMFLEX",
     "eH bCIRCUMFLEX|kcH bSTROKE|eH bSTROKE|kcI bTILDE|eI bTILDE|kcI bMACRON|eI bMACRON",
     "kcI bBREVE|eI bBREVE|kcI bOGONEK|eI bOGONEK|kcI bDOT ABOVE|eDOTLESS I|kCAPITAL LIGATURE IJ",
     "kSMALL LIGATURE IJ|kcJ bCIRCUMFLEX|eJ bCIRCUMFLEX|kcK bCEDILLA|eK bCEDILLA|eKRA|kcL bACUTE",
     "eL bACUTE|kcL bCEDILLA|eL bCEDILLA|kcL bCARON|eL bCARON|kcL bMIDDLE DOT|eL bMIDDLE DOT",
     "kcL bSTROKE|eL bSTROKE|kcN bACUTE|eN bACUTE|kcN bCEDILLA|eN bCEDILLA|kcN bCARON|eN bCARON",
     "eN PRECEDED BY APOSTROPHE|kcENG|eENG|kcO bMACRON|eO bMACRON|kcO bBREVE|eO bBREVE",
     "kcO bDOUBLE ACUTE|eO bDOUBLE ACUTE|kCAPITAL LIGATURE OE|kSMALL LIGATURE OE|kcR bACUTE",
     "eR bACUTE|kcR bCEDILLA|eR bCEDILLA|kcR bCARON|eR bCARON|kcS bACUTE|eS bACUTE",
     "kcS bCIRCUMFLEX|eS bCIRCUMFLEX|kcS bCEDILLA|eS bCEDILLA|kcS bCARON|eS bCARON|kcT bCEDILLA",
     "eT bCEDILLA|kcT bCARON|eT bCARON|kcT bSTROKE|eT bSTROKE|kcU bTILDE|eU bTILDE|kcU bMACRON",
     "eU bMACRON|kcU bBREVE|eU bBREVE|kcU bRING ABOVE|eU bRING ABOVE|kcU bDOUBLE ACUTE",
     "eU bDOUBLE ACUTE|kcU bOGONEK|eU bOGONEK|kcW bCIRCUMFLEX|eW bCIRCUMFLEX|kcY bCIRCUMFLEX",
     "eY bCIRCUMFLEX|kcY bDIAERESIS|kcZ bACUTE|eZ bACUTE|kcZ bDOT ABOVE|eZ bDOT ABOVE|kcZ bCARON",
     "eZ bCARON|eLONG S"]),
   (0x218, ["kcS bCOMMA BELOW|eS bCOMMA BELOW|kcT bCOMMA BELOW|eT bCOMMA BELOW"]),
   (0x2C6, ["MODIFIERa CIRCUMFLEX ACCENT|CARON|MODIFIERa VERTICAL LINE|MODIFIERa MACRON",
     "MODIFIERa ACUTE ACCENT|MODIFIERa GRAVE ACCENT|MODIFIERa LOW VERTICAL LINE",
     "MODIFIERa LOW MACRON|MODIFIERa LOW GRAVE ACCENT|MODIFIERa LOW ACUTE ACCENT",
     "MODIFIERa TRIANGULAR COLON|MODIFIERa HALF TRIANGULAR COLON|MODIFIERa CENTRED mHALF RING",
     "MODIFIERa CENTRED wHALF RING|MODIFIERa UP TACK|MODIFIERa DOWN TACK|MODIFIERa PLUSq",
     "MODIFIERa MINUSq|BREVE|DOT ABOVE|RING ABOVE|OGONEK|SMALL TILDE|DOUBLE ACUTE ACCENT"]),
   (0x300, ["nGRAVE ACCENT|nACUTE ACCENT|nCIRCUMFLEX ACCENT|nTILDE|nMACRON|nOVERLINE|nBREVE",
     "nDOT ABOVE|nDIAERESIS|nHOOK ABOVE|nRING ABOVE|nDOUBLE ACUTE ACCENT|nCARON",
     "nVERTICAL LINE ABOVE|nDOUBLE VERTICAL LINE ABOVE|nDOUBLE GRAVE ACCENT|nCANDRABINDU",
     "nINVERTED BREVE|nTURNED COMMA ABOVE|nCOMMA ABOVE|nREVERSED COMMA ABOVE|nCOMMA ABOVE RIGHT",
     "nGRAVE ACCENT BELOW|nACUTE ACCENT BELOW|nwTACK BELOW|nmTACK BELOW|nwANGLE ABOVE|nHORN",
     "nwHALF RING BELOW|nUP TACK BELOW|nDOWN TACK BELOW|nPLUSq BELOW|nMINUSq BELOW",
     "nPALATALIZED HOOK BELOW|nRETROFLEX HOOK BELOW|nDOT BELOW|nDIAERESIS BELOW|nRING BELOW",
     "nCOMMA BELOW|nCEDILLA|nOGONEK|nVERTICAL LINE BELOW|nBRIDGE BELOW",
     "nINVERTED DOUBLE ARCH BELOW|nCARON BELOW|nCIRCUMFLEX ACCENT BELOW|nBREVE BELOW",
     "nINVERTED BREVE BELOW|nTILDE BELOW|nMACRON BELOW|nLOW LINE|nDOUBLE LOW LINE|nTILDE OVERLAY",
     "nSHORT STROKE OVERLAY|nLONG STROKE OVERLAY|nSHORT SOLIDUS OVERLAY|nLONG SOLIDUS OVERLAY",
     "nmHALF RING BELOW|nINVERTED BRIDGE BELOW|nSQUARE BELOW|nSEAGULL BELOW|nX ABOVE",
     "nVERTICAL TILDE|nDOUBLE OVERLINE|nGRAVE TONE MARK|nACUTE TONE MARK|npPERISPOMENI|npKORONIS",
     "npDIALYTIKA TONOS|npYPOGEGRAMMENI"]),
   (0x370, ["pcHETA|pSMALLa HETA|pcARCHAIC SAMPI|pSMALLa ARCHAIC SAMPI|pNUMERALq|pLOWER NUMERALq",
     "pcPAMPHYLIAN DIGAMMA|pSMALLa PAMPHYLIAN DIGAMMA"]),
   (0x37A, ["pYPOGEGRAMMENI|pSMALL REVERSED LUNATE SIGMAf|pSMALL DOTTED LUNATE SIGMAf",
     "pSMALL REVERSED DOTTED LUNATE SIGMAf|pQUESTION MARK|pcYOT"]),
   (0x384, ["pTONOS|pDIALYTIKA TONOS|pcALPHA bTONOS|pANO TELEIA|pcEPSILON bTONOS|pcETA bTONOS",
     "pcIOTA bTONOS"]),
   (0x38C, ["pcOMICRON bTONOS"]),
   (0x38E, ["pcUPSILON bTONOS|pcOMEGA bTONOS|pSMALLa IOTA bDIALYTIKAr TONOS|pcALPHA|pcBETA",
     "pcGAMMA|pcDELTA|pcEPSILON|pcZETA|pcETA|pcTHETA|pcIOTA|pcKAPPA|pcLAMDA|pcMU|pcNU|pcXI",
     "pcOMICRON|pcPI|pcRHO"]),
   (0x3A3, ["pcSIGMA|pcTAU|pcUPSILON|pcPHI|pcCHI|pcPSI|pcOMEGA|pcIOTA bDIALYTIKA",
     "pcUPSILON bDIALYTIKA|pSMALLa ALPHA bTONOS|pSMALLa EPSILON bTONOS|pSMALLa ETA bTONOS",
     "pSMALLa IOTA bTONOS|pSMALLa UPSILON bDIALYTIKAr TONOS|pSMALLa ALPHA|pSMALLa BETA",
     "pSMALLa GAMMA|pSMALLa DELTA|pSMALLa EPSILON|pSMALLa ZETA|pSMALLa ETA|pSMALLa THETA",
     "pSMALLa IOTA|pSMALLa KAPPA|pSMALLa LAMDA|pSMALLa MU|pSMALLa NU|pSMALLa XI|pSMALLa OMICRON",
     "pSMALLa PI|pSMALLa RHO|pSMALLa FINAL SIGMA|pSMALLa SIGMA|pSMALLa TAU|pSMALLa UPSILON",
     "pSMALLa PHI|pSMALLa CHI|pSMALLa PSI|pSMALLa OMEGA|pSMALLa IOTA bDIALYTIKA",
     "pSMALLa UPSILON bDIALYTIKA|pSMALLa OMICRON bTONOS|pSMALLa UPSILON bTONOS",
     "pSMALLa OMEGA bTONOS|pCAPITAL KAIf|pBETAf|pTHETAf|pUPSILON bHOOKf|pUPSILON bACUTEr HOOKf",
     "pUPSILON bDIAERESISr HOOKf|pPHIf|pPIf|pKAIf|GREEKa ARCHAIC KOPPA|pSMALLa ARCHAIC KOPPA",
     "GREEKa STIGMA|pSMALLa STIGMA|GREEKa DIGAMMA|pSMALLa DIGAMMA|GREEKa KOPPA|pSMALLa KOPPA",
     "GREEKa SAMPI|pSMALLa SAMPI|COPTIC cSHEI|COPTIC SMALLa SHEI|COPTIC cFEI|COPTIC SMALLa FEI",
     "COPTIC cKHEI|COPTIC SMALLa KHEI|COPTIC cHORI|COPTIC SMALLa HORI|COPTIC cGANGIA",
     "COPTIC SMALLa GANGIA|COPTIC cSHIMA|COPTIC SMALLa SHIMA|COPTIC cDEI|COPTIC SMALLa DEI",
     "pKAPPAf|pRHOf|pLUNATE SIGMAf|GREEKa YOT|pCAPITAL THETAf|pLUNATE EPSILONf",
     "pREVERSED LUNATE EPSILONf|pcSHO|pSMALLa SHO|pCAPITAL LUNATE SIGMAf|pcSAN|pSMALLa SAN",
     "pRHO bSTROKEf|pCAPITAL REVERSED LUNATE SIGMAf|pCAPITAL DOTTED LUNATE SIGMAf",
     "pCAPITAL REVERSED DOTTED LUNATE SIGMAf|hcIE bGRAVE|hcIO|hcDJE|hcGJE|hcUKRAINIAN IE|hcDZE",
     "hcBYELORUSSIAN-UKRAINIAN I|hcYI|hcJE|hcLJE|hcNJE|hcTSHE|hcKJE|hcI bGRAVE|hcSHORT U|hcDZHE",
     "hcA|hcBE|hcVE|hcGHE|hcDE|hcIE|hcZHE|hcZE|hcI|hcSHORT I|hcKA|hcEL|hcEM|hcEN|hcO|hcPE|hcER",
     "hcES|hcTE|hcU|hcEF|hcHA|hcTSE|hcCHE|hcSHA|hcSHCHA|hcHARDq|hcYERU|hcSOFTq|hcE|hcYU|hcYA",
     "hSMALLa A|hSMALLa BE|hSMALLa VE|hSMALLa GHE|hSMALLa DE|hSMALLa IE|hSMALLa ZHE|hSMALLa ZE",
     "hSMALLa I|hSMALLa SHORT I|hSMALLa KA|hSMALLa EL|hSMALLa EM|hSMALLa EN|hSMALLa O|hSMALLa PE",
     "hSMALLa ER|hSMALLa ES|hSMALLa TE|hSMALLa U|hSMALLa EF|hSMALLa HA|hSMALLa TSE|hSMALLa CHE",
     "hSMALLa SHA|hSMALLa SHCHA|hSMALLa HARDq|hSMALLa YERU|hSMALLa SOFTq|hSMALLa E|hSMALLa YU",
     "hSMALLa YA|hSMALLa IE bGRAVE|hSMALLa IO|hSMALLa DJE|hSMALLa GJE|hSMALLa UKRAINIAN IE",
     "hSMALLa DZE|hSMALLa BYELORUSSIAN-UKRAINIAN I|hSMALLa YI|hSMALLa JE|hSMALLa LJE|hSMALLa NJE",
     "hSMALLa TSHE|hSMALLa KJE|hSMALLa I bGRAVE|hSMALLa SHORT U|hSMALLa DZHE"]),
   (0x490, ["hcGHE bUPTURN|hSMALLa GHE bUPTURN"]),
   (0x5D0, ["HEBREWa ALEF|HEBREWa BET|HEBREWa GIMEL|HEBREWa DALET|HEBREWa HE|HEBREWa VAV",
     "HEBREWa ZAYIN|HEBREWa HET|HEBREWa TET|HEBREWa YOD|HEBREWa FINAL KAF|HEBREWa KAF",
     "HEBREWa LAMED|HEBREWa FINAL MEM|HEBREWa MEM|HEBREWa FINAL NUN|HEBREWa NUN|HEBREWa SAMEKH",
     "HEBREWa AYIN|HEBREWa FINAL PE|HEBREWa PE|HEBREWa FINAL TSADI|HEBREWa TSADI|HEBREWa QOF",
     "HEBREWa RESH|HEBREWa SHIN|HEBREWa TAV"]),
   (0x621, ["ARABICa HAMZA|ARABICa ALEF bMADDA ABOVE|ARABICa ALEF bHAMZA ABOVE",
     "ARABICa WAW bHAMZA ABOVE|ARABICa ALEF bHAMZA BELOW|ARABICa YEH bHAMZA ABOVE|ARABICa ALEF",
     "ARABICa BEH|ARABICa TEH MARBUTA|ARABICa TEH|ARABICa THEH|ARABICa JEEM|ARABICa HAH",
     "ARABICa KHAH|ARABICa DAL|ARABICa THAL|ARABICa REH|ARABICa ZAIN|ARABICa SEEN|ARABICa SHEEN",
     "ARABICa SAD|ARABICa DAD|ARABICa TAH|ARABICa ZAH|ARABICa AIN|ARABICa GHAIN",
     "ARABICa KEHEH bTWO DOTS ABOVE|ARABICa KEHEH bTHREE DOTS BELOW",
     "ARABICa FARSI YEH bINVERTED V|ARABICa FARSI YEH bTWO DOTS ABOVE",
     "ARABICa FARSI YEH bTHREE DOTS ABOVE|ARABIC TATWEEL|ARABICa FEH|ARABICa QAF|ARABICa KAF",
     "ARABICa LAM|ARABICa MEEM|ARABICa NOON|ARABICa HEH|ARABICa WAW|ARABICa ALEF MAKSURA",
     "ARABICa YEH"]),
   (0x660, ["ARABIC-INDIC DIGIT ZERO|ARABIC-INDIC DIGIT ONE|ARABIC-INDIC DIGIT TWO",
     "ARABIC-INDIC DIGIT THREE|ARABIC-INDIC DIGIT FOUR|ARABIC-INDIC DIGIT FIVE",
     "ARABIC-INDIC DIGIT SIX|ARABIC-INDIC DIGIT SEVEN|ARABIC-INDIC DIGIT EIGHT",
     "ARABIC-INDIC DIGIT NINE"]),
   (0x1E9E, ["kcSHARP S"]),
   (0x2000, ["EN QUAD|EM QUAD|EN SPACE|EM SPACE|THREE-PER-EM SPACE|FOUR-PER-EM SPACE",
     "SIX-PER-EM SPACE|FIGURE SPACE|PUNCTUATION SPACE|THIN SPACE|HAIR SPACE|ZERO WIDTH SPACE",
     "ZERO WIDTH NON-JOINER|ZERO WIDTH JOINER|LEFT-TO-mMARK|RIGHT-TO-wMARK|HYPHEN",
     "NON-BREAKING HYPHEN|FIGURE DASH|EN DASH|EM DASH|HORIZONTAL BAR|DOUBLE VERTICAL LINE",
     "DOUBLE LOW LINE|wSINGLE QUOTATION MARK|mSINGLE QUOTATION MARK|SINGLE LOW-9 QUOTATION MARK",
     "SINGLE HIGH-REVERSED-9 QUOTATION MARK|wDOUBLE QUOTATION MARK|mDOUBLE QUOTATION MARK",
     "DOUBLE LOW-9 QUOTATION MARK|DOUBLE HIGH-REVERSED-9 QUOTATION MARK|DAGGER|DOUBLE DAGGER",
     "BULLET|TRIANGULAR BULLET|ONE DOT LEADER|TWO DOT LEADER|HORIZONTAL ELLIPSIS",
     "HYPHENATION POINT|LINE SEPARATOR|PARAGRAPH SEPARATOR|LEFT-TO-mEMBEDDING",
     "RIGHT-TO-wEMBEDDING|POP DIRECTIONAL FORMATTING|LEFT-TO-mOVERRIDE|RIGHT-TO-wOVERRIDE",
     "NARROW NO-BREAK SPACE|PER MILLEq|PER TEN THOUSANDq|PRIME|DOUBLE PRIME|TRIPLE PRIME",
     "REVERSED PRIME|REVERSED DOUBLE PRIME|REVERSED TRIPLE PRIME|CARET",
     "SINGLE LEFT-POINTING ANGLE QUOTATION MARK|SINGLE RIGHT-POINTING ANGLE QUOTATION MARK",
     "REFERENCE MARK|DOUBLE EXCLAMATION MARK|INTERROBANG|OVERLINE|UNDERTIE|CHARACTER TIE",
     "CARET INSERTION POINT|ASTERISM|HYPHEN BULLET|FRACTION SLASH|wSQUAREy bQUILL",
     "mSQUAREy bQUILL|DOUBLE QUESTION MARK|QUESTION EXCLAMATION MARK|EXCLAMATION QUESTION MARK",
     "TIRONIANq ET|REVERSED PILCROWq|oLEFTWARDS BULLET|oRIGHTWARDS BULLET|LOW ASTERISK",
     "REVERSED SEMICOLON|CLOSE UP|TWO ASTERISKS ALIGNED VERTICALLY|COMMERCIAL MINUSq|SWUNG DASH",
     "INVERTED UNDERTIE|FLOWER PUNCTUATION MARK|THREE DOT PUNCTUATION|QUADRUPLE PRIME",
     "FOUR DOT PUNCTUATION|FIVE DOT PUNCTUATION|TWO DOT PUNCTUATION|FOUR DOT MARK|DOTTED CROSS",
     "TRICOLON|VERTICAL FOUR DOTS|MEDIUM MATHEMATICAL SPACE|WORD JOINER|FUNCTION APPLICATION",
     "INVISIBLE TIMES|INVISIBLE SEPARATOR|INVISIBLE PLUS"]),
   (0x2066, ["LEFT-TO-mISOLATE|RIGHT-TO-wISOLATE|FIRST STRONG ISOLATE|POP DIRECTIONAL ISOLATE",
     "INHIBIT SYMMETRIC SWAPPING|ACTIVATE SYMMETRIC SWAPPING|INHIBIT ARABIC FORM SHAPING",
     "ACTIVATE ARABIC FORM SHAPING|NATIONAL DIGIT SHAPES|NOMINAL DIGIT SHAPES|SUPERSCRIPT ZERO",
     "SUPERSCRIPT eI"]),
   (0x2074, ["SUPERSCRIPT FOUR|SUPERSCRIPT FIVE|SUPERSCRIPT SIX|SUPERSCRIPT SEVEN",
     "SUPERSCRIPT EIGHT|SUPERSCRIPT NINE|SUPERSCRIPT PLUSq|SUPERSCRIPT MINUS|SUPERSCRIPT EQUALSq",
     "SUPERSCRIPT wPARENTHESIS|SUPERSCRIPT mPARENTHESIS|SUPERSCRIPT eN|SUBSCRIPT ZERO",
     "SUBSCRIPT ONE|SUBSCRIPT TWO|SUBSCRIPT THREE|SUBSCRIPT FOUR|SUBSCRIPT FIVE|SUBSCRIPT SIX",
     "SUBSCRIPT SEVEN|SUBSCRIPT EIGHT|SUBSCRIPT NINE|SUBSCRIPT PLUSq|SUBSCRIPT MINUS",
     "SUBSCRIPT EQUALSq|SUBSCRIPT wPARENTHESIS|SUBSCRIPT mPARENTHESIS"]),
   (0x2090, ["kSUBSCRIPT SMALLa A|kSUBSCRIPT SMALLa E|kSUBSCRIPT SMALLa O|kSUBSCRIPT SMALLa X",
     "kSUBSCRIPT SMALLa SCHWA|kSUBSCRIPT SMALLa H|kSUBSCRIPT SMALLa K|kSUBSCRIPT SMALLa L",
     "kSUBSCRIPT SMALLa M|kSUBSCRIPT SMALLa N|kSUBSCRIPT SMALLa P|kSUBSCRIPT SMALLa S",
     "kSUBSCRIPT SMALLa T"]),
   (0x20A0, ["EURO-CURRENCYq|COLONq|CRUZEIROq|FRENCH FRANCq|LIRAq|MILLq|NAIRAq|PESETAq|RUPEEq",
     "WONq|NEW SHEQELq|DONGq|EUROq|KIPq|TUGRIKq|DRACHMAq|GERMAN PENNYq|PESOq|GUARANIq|AUSTRALq",
     "HRYVNIAq|CEDIq|LIVRE TOURNOISq|SPESMILOq|TENGEq|INDIAN RUPEEq|TURKISH LIRAq|NORDIC MARKq",
     "MANATq|RUBLEq|LARIq|BITCOINq|SOMq"]),
   (0x2100, ["ACCOUNT OF|ADDRESSED TO THE SUBJECT|DOUBLE-STRUCK CAPITAL C|DEGREE CELSIUS",
     "CENTRE LINEf|CARE OF|CADA UNA|EULER CONSTANT|SCRUPLE|DEGREE FAHRENHEIT|SCRIPT SMALL G",
     "SCRIPT CAPITAL H|BLACK-LETTER CAPITAL H|DOUBLE-STRUCK CAPITAL H|PLANCK CONSTANT",
     "PLANCK CONSTANT OVER TWO PI|SCRIPT CAPITAL I|BLACK-LETTER CAPITAL I|SCRIPT CAPITAL L",
     "SCRIPT SMALL L|L B BARf|DOUBLE-STRUCK CAPITAL N|NUMEROq|SOUND RECORDING COPYRIGHT",
     "SCRIPT CAPITAL P|DOUBLE-STRUCK CAPITAL P|DOUBLE-STRUCK CAPITAL Q|SCRIPT CAPITAL R",
     "BLACK-LETTER CAPITAL R|DOUBLE-STRUCK CAPITAL R|PRESCRIPTION TAKE|RESPONSE|SERVICE MARK",
     "TELEPHONEq|TRADE MARKq|VERSICLE|DOUBLE-STRUCK CAPITAL Z|OUNCEq|OHMq|INVERTED OHMq",
     "BLACK-LETTER CAPITAL Z|TURNED pSMALLa IOTA|KELVINq|ANGSTROMq|SCRIPT CAPITAL B",
     "BLACK-LETTER CAPITAL C|ESTIMATEDf|SCRIPT SMALL E|SCRIPT CAPITAL E|SCRIPT CAPITAL F",
     "TURNED CAPITAL F|SCRIPT CAPITAL M|SCRIPT SMALL O|ALEFf|BETf|GIMELf|DALETf",
     "INFORMATION SOURCE|ROTATED CAPITAL Q|FACSIMILEq|DOUBLE-STRUCK SMALL PI",
     "DOUBLE-STRUCK SMALL GAMMA|DOUBLE-STRUCK CAPITAL GAMMA|DOUBLE-STRUCK CAPITAL PI",
     "DOUBLE-STRUCK N-ARY SUMMATION|TURNED SANS-SERIF CAPITAL G|TURNED SANS-SERIF CAPITAL L",
     "REVERSED SANS-SERIF CAPITAL L|TURNED SANS-SERIF CAPITAL Y|DOUBLE-STRUCK ITALIC CAPITAL D",
     "DOUBLE-STRUCK ITALIC SMALL D|DOUBLE-STRUCK ITALIC SMALL E|DOUBLE-STRUCK ITALIC SMALL I",
     "DOUBLE-STRUCK ITALIC SMALL J|PROPERTY LINE|TURNED AMPERSAND|PERq|AKTIESELSKAB",
     "TURNED SMALL F|SYMBOL FOR SAMARITAN SOURCE|VULGAR FRACTION ONE SEVENTH",
     "VULGAR FRACTION ONE NINTH|VULGAR FRACTION ONE TENTH|VULGAR FRACTION ONE THIRD",
     "VULGAR FRACTION TWO THIRDS|VULGAR FRACTION ONE FIFTH|VULGAR FRACTION TWO FIFTHS",
     "VULGAR FRACTION THREE FIFTHS|VULGAR FRACTION FOUR FIFTHS|VULGAR FRACTION ONE SIXTH",
     "VULGAR FRACTION FIVE SIXTHS|VULGAR FRACTION ONE EIGHTH|VULGAR FRACTION THREE EIGHTHS",
     "VULGAR FRACTION FIVE EIGHTHS|VULGAR FRACTION SEVEN EIGHTHS|FRACTION NUMERATOR ONE|uONE",
     "uTWO|uTHREE|uFOUR|uFIVE|uSIX|uSEVEN|uEIGHT|uNINE|uTEN|uELEVEN|uTWELVE|uFIFTY|uONE HUNDRED",
     "uFIVE HUNDRED|uONE THOUSAND|SMALL uONE|SMALL uTWO|SMALL uTHREE|SMALL uFOUR|SMALL uFIVE",
     "SMALL uSIX|SMALL uSEVEN|SMALL uEIGHT|SMALL uNINE|SMALL uTEN|SMALL uELEVEN|SMALL uTWELVE",
     "SMALL uFIFTY|SMALL uONE HUNDRED|SMALL uFIVE HUNDRED|SMALL uONE THOUSAND|uONE THOUSAND C D",
     "uFIVE THOUSAND|uTEN THOUSAND|uREVERSED ONE HUNDRED|eREVERSED C|uSIX LATE FORM",
     "uFIFTY EARLY FORM|uFIFTY THOUSAND|uONE HUNDRED THOUSAND|VULGAR FRACTION ZERO THIRDS",
     "TURNED DIGIT TWO|TURNED DIGIT THREE"]),
   (0x2190, ["LEFTWARDSl|UPWARDSl|RIGHTWARDSl|DOWNWARDSl|wRIGHTl|UP DOWNl|NORTH WESTl",
     "NORTH EASTl|SOUTH EASTl|SOUTH WESTl|LEFTWARDSl bSTROKE|RIGHTWARDSl bSTROKE|LEFTWARDS WAVEl",
     "RIGHTWARDS WAVEl|LEFTWARDS TWO HEADEDl|UPWARDS TWO HEADEDl|RIGHTWARDS TWO HEADEDl",
     "DOWNWARDS TWO HEADEDl|LEFTWARDSl bTAIL|RIGHTWARDSl bTAIL|LEFTWARDSl FROM BAR",
     "UPWARDSl FROM BAR|RIGHTWARDSl FROM BAR|DOWNWARDSl FROM BAR|UP DOWNl bBASE|LEFTWARDSl bHOOK",
     "RIGHTWARDSl bHOOK|LEFTWARDSl bLOOP|RIGHTWARDSl bLOOP|wmWAVEl|wRIGHTl bSTROKE",
     "DOWNWARDS ZIGZAGl|UPWARDSl bTIP LEFTWARDS|UPWARDSl bTIP RIGHTWARDS",
     "DOWNWARDSl bTIP LEFTWARDS|DOWNWARDSl bTIP RIGHTWARDS|RIGHTWARDSl bCORNER DOWNWARDS",
     "DOWNWARDSl bCORNER LEFTWARDS|ANTICLOCKWISE TOP SEMICIRCLEl|CLOCKWISE TOP SEMICIRCLEl",
     "NORTH WESTl TO LONG BAR|LEFTWARDSl TO BAR OVER RIGHTWARDSl TO BAR",
     "ANTICLOCKWISE OPEN CIRCLEl|CLOCKWISE OPEN CIRCLEl|LEFTWARDS HARPOON bBARB UPWARDS",
     "LEFTWARDS HARPOON bBARB DOWNWARDS|UPWARDS HARPOON bBARB RIGHTWARDS",
     "UPWARDS HARPOON bBARB LEFTWARDS|RIGHTWARDS HARPOON bBARB UPWARDS",
     "RIGHTWARDS HARPOON bBARB DOWNWARDS|DOWNWARDS HARPOON bBARB RIGHTWARDS",
     "DOWNWARDS HARPOON bBARB LEFTWARDS|RIGHTWARDSl OVER LEFTWARDSl",
     "UPWARDSl LEFTWARDS OF DOWNWARDSl|LEFTWARDSl OVER RIGHTWARDSl|LEFTWARDS PAIREDlS",
     "UPWARDS PAIREDlS|RIGHTWARDS PAIREDlS|DOWNWARDS PAIREDlS",
     "LEFTWARDS HARPOON OVER RIGHTWARDS HARPOON|RIGHTWARDS HARPOON OVER LEFTWARDS HARPOON",
     "LEFTWARDS DOUBLEl bSTROKE|wmDOUBLEl bSTROKE|RIGHTWARDS DOUBLEl bSTROKE|LEFTWARDS DOUBLEl",
     "UPWARDS DOUBLEl|RIGHTWARDS DOUBLEl|DOWNWARDS DOUBLEl|wmDOUBLEl|UP DOWN DOUBLEl",
     "NORTH WEST DOUBLEl|NORTH EAST DOUBLEl|SOUTH EAST DOUBLEl|SOUTH WEST DOUBLEl",
     "LEFTWARDS TRIPLEl|RIGHTWARDS TRIPLEl|LEFTWARDS SQUIGGLEl|RIGHTWARDS SQUIGGLEl",
     "UPWARDSl bDOUBLE STROKE|DOWNWARDSl bDOUBLE STROKE|LEFTWARDS DASHEDl|UPWARDS DASHEDl",
     "RIGHTWARDS DASHEDl|DOWNWARDS DASHEDl|LEFTWARDSl TO BAR|RIGHTWARDSl TO BAR|LEFTWARDS iARROW",
     "UPWARDS iARROW|RIGHTWARDS iARROW|DOWNWARDS iARROW|UPWARDS iARROW FROM BAR",
     "UPWARDS iARROW ON PEDESTAL|UPWARDS iARROW ON PEDESTAL bHORIZONTAL BAR",
     "UPWARDS iARROW ON PEDESTAL bVERTICAL BAR|UPWARDS iDOUBLEl|UPWARDS iDOUBLEl ON PEDESTAL",
     "RIGHTWARDS iARROW FROM WALL|NORTH WESTl TO CORNER|SOUTH EASTl TO CORNER|UP DOWN iARROW",
     "RIGHTl bSMALL CIRCLE|DOWNWARDSl LEFTWARDS OF UPWARDSl|THREE RIGHTWARDSlS",
     "LEFTWARDSl bVERTICAL STROKE|RIGHTWARDSl bVERTICAL STROKE|wRIGHTl bVERTICAL STROKE",
     "LEFTWARDSl bDOUBLE VERTICAL STROKE|RIGHTWARDSl bDOUBLE VERTICAL STROKE",
     "wRIGHTl bDOUBLE VERTICAL STROKE|LEFTWARDS OPEN-HEADEDl|RIGHTWARDS OPEN-HEADEDl",
     "wmOPEN-HEADEDl|FOR ALL|COMPLEMENT|PARTIAL DIFFERENTIAL|THERE EXISTS|THERE DOES NOT EXIST",
     "EMPTY SET|INCREMENT|NABLA|ELEMENT OF|NOT AN ELEMENT OF|SMALL ELEMENT OF|CONTAINS AS MEMBER",
     "DOES NOT CONTAIN AS MEMBER|SMALL CONTAINS AS MEMBER|END OF PROOF|N-ARY PRODUCT",
     "N-ARY COPRODUCT|N-ARY SUMMATION|MINUSq|MINUS-OR-PLUSq|DOT PLUS|DIVISION SLASH|SET MINUS",
     "ASTERISK OPERATOR|RING OPERATOR|BULLET OPERATOR|SQUARE ROOT|CUBE ROOT|FOURTH ROOT",
     "PROPORTIONAL TO|INFINITY|mANGLE|ANGLE|MEASURED ANGLE|SPHERICAL ANGLE|DIVIDES",
     "DOES NOT DIVIDE|PARALLEL TO|NOT PARALLEL TO|LOGICALr|LOGICAL OR|INTERSECTION|UNION",
     "INTEGRAL|DOUBLE INTEGRAL|TRIPLE INTEGRAL|CONTOUR INTEGRAL|SURFACE INTEGRAL|VOLUME INTEGRAL",
     "CLOCKWISE INTEGRAL|CLOCKWISE CONTOUR INTEGRAL|ANTICLOCKWISE CONTOUR INTEGRAL|THEREFORE",
     "BECAUSE|RATIO|PROPORTION|DOT MINUS|EXCESS|GEOMETRIC PROPORTION|HOMOTHETIC|TILDE OPERATOR",
     "REVERSED TILDE|INVERTED LAZY S|SINE WAVE|WREATH PRODUCT|NOT TILDE|MINUS TILDE",
     "ASYMPTOTICALLYz|NOT ASYMPTOTICALLYz|APPROXIMATELYz|APPROXIMATELY BUT NOT ACTUALLYz",
     "NEITHER APPROXIMATELY NOR ACTUALLYz|ALMOSTz|NOT ALMOSTz|ALMOST EQUAL ORz|TRIPLE TILDE|ALLz",
     "EQUIVALENT TO|GEOMETRICALLY EQUIVALENT TO|DIFFERENCE BETWEEN|APPROACHES THE LIMIT",
     "GEOMETRICALLYz|APPROXIMATELYz OR THE IMAGE OF|IMAGE OF OR APPROXIMATELYz|COLON EQUALS",
     "EQUALS COLON|RING INz|RINGz|CORRESPONDS TO|ESTIMATES|EQUIANGULAR TO|STAR EQUALS|DELTAz",
     "EQUAL TO BY DEFINITION|MEASURED BY|QUESTIONEDz|NOTz|IDENTICAL TO|NOT IDENTICAL TO",
     "STRICTLY EQUIVALENT TO|LESS-THAN ORz|GREATER-THAN ORz|LESS-THAN OVERz|GREATER-THAN OVERz",
     "LESS-THAN BUT NOTz|GREATER-THAN BUT NOTz|MUCH LESS-THAN|MUCH GREATER-THAN|BETWEEN",
     "NOT EQUIVALENT TO|NOT LESS-THAN|NOT GREATER-THAN|NEITHER LESS-THAN NORz",
     "NEITHER GREATER-THAN NORz|LESS-THAN OR EQUIVALENT TO|GREATER-THAN OR EQUIVALENT TO",
     "NEITHER LESS-THAN NOR EQUIVALENT TO|NEITHER GREATER-THAN NOR EQUIVALENT TO",
     "LESS-THAN OR GREATER-THAN|GREATER-THAN OR LESS-THAN|NEITHER LESS-THAN NOR GREATER-THAN",
     "NEITHER GREATER-THAN NOR LESS-THAN|PRECEDES|SUCCEEDS|PRECEDES ORz|SUCCEEDS ORz",
     "PRECEDES OR EQUIVALENT TO|SUCCEEDS OR EQUIVALENT TO|DOES NOT PRECEDE|DOES NOT SUCCEED",
     "SUBSET OF|SUPERSET OF|NOT A SUBSET OF|NOT A SUPERSET OF|SUBSET OF ORz|SUPERSET OF ORz",
     "NEITHER A SUBSET OF NORz|NEITHER A SUPERSET OF NORz|SUBSET OF bNOTz|SUPERSET OF bNOTz",
     "MULTISET|MULTISET MULTIPLICATION|MULTISET UNION|SQUARE IMAGE OF|SQUARE ORIGINAL OF",
     "SQUARE IMAGE OF ORz|SQUARE ORIGINAL OF ORz|SQUARE CAP|SQUARE CUP|CIRCLED PLUS",
     "CIRCLED MINUS|CIRCLED TIMES|CIRCLED DIVISION SLASH|CIRCLED DOT OPERATOR",
     "CIRCLED RING OPERATOR|CIRCLED ASTERISK OPERATOR|CIRCLED EQUALS|CIRCLED DASH|SQUARED PLUS",
     "SQUARED MINUS|SQUARED TIMES|SQUARED DOT OPERATOR|mTACK|wTACK|DOWN TACK|UP TACK|ASSERTION",
     "MODELS|TRUE|FORCES|TRIPLE VERTICAL BAR mTURNSTILE|DOUBLE VERTICAL BAR DOUBLE mTURNSTILE",
     "DOES NOT PROVE|NOT TRUE|DOES NOT FORCE|NEGATED DOUBLE VERTICAL BAR DOUBLE mTURNSTILE",
     "PRECEDES UNDER RELATION|SUCCEEDS UNDER RELATION|NORMAL SUBGROUP OF",
     "CONTAINS AS NORMAL SUBGROUP|NORMAL SUBGROUP OF ORz|CONTAINS AS NORMAL SUBGROUP ORz",
     "ORIGINAL OF|IMAGE OF|MULTIMAP|HERMITIAN CONJUGATE MATRIX|INTERCALATE|XOR|NAND|NOR",
     "mANGLE bARC|mTRIANGLE|N-ARY LOGICALr|N-ARY LOGICAL OR|N-ARY INTERSECTION|N-ARY UNION",
     "DIAMOND OPERATOR|DOT OPERATOR|STAR OPERATOR|DIVISION TIMES|BOWTIE",
     "wNORMAL FACTOR SEMIDIRECT PRODUCT|mNORMAL FACTOR SEMIDIRECT PRODUCT|wSEMIDIRECT PRODUCT",
     "mSEMIDIRECT PRODUCT|REVERSED TILDE EQUALS|CURLY LOGICAL OR|CURLY LOGICALr|DOUBLE SUBSET",
     "DOUBLE SUPERSET|DOUBLE INTERSECTION|DOUBLE UNION|PITCHFORK|EQUALr PARALLEL TO",
     "LESS-THAN bDOT|GREATER-THAN bDOT|VERY MUCH LESS-THAN|VERY MUCH GREATER-THAN",
     "LESS-THANz OR GREATER-THAN|GREATER-THANz OR LESS-THAN|EQUAL TO OR LESS-THAN",
     "EQUAL TO OR GREATER-THAN|EQUAL TO OR PRECEDES|EQUAL TO OR SUCCEEDS",
     "DOES NOT PRECEDE OR EQUAL|DOES NOT SUCCEED OR EQUAL|NOT SQUARE IMAGE OF ORz",
     "NOT SQUARE ORIGINAL OF ORz|SQUARE IMAGE OF OR NOTz|SQUARE ORIGINAL OF OR NOTz",
     "LESS-THAN BUT NOT EQUIVALENT TO|GREATER-THAN BUT NOT EQUIVALENT TO",
     "PRECEDES BUT NOT EQUIVALENT TO|SUCCEEDS BUT NOT EQUIVALENT TO|NOT NORMAL SUBGROUP OF",
     "DOES NOT CONTAIN AS NORMAL SUBGROUP|NOT NORMAL SUBGROUP OF ORz",
     "DOES NOT CONTAIN AS NORMAL SUBGROUP OR EQUAL|VERTICAL ELLIPSIS|MIDLINEt ELLIPSIS",
     "UP mDIAGONAL ELLIPSIS|DOWN mDIAGONAL ELLIPSIS|ELEMENT OF bLONGt STROKE",
     "ELEMENT OF bVERTICAL BAR AT END OFt STROKE",
     "SMALL ELEMENT OF bVERTICAL BAR AT END OFt STROKE|ELEMENT OF bDOT ABOVE|ELEMENT OF bOVERBAR",
     "SMALL ELEMENT OF bOVERBAR|ELEMENT OF bUNDERBAR|ELEMENT OF bTWOt STROKES",
     "CONTAINS bLONGt STROKE|CONTAINS bVERTICAL BAR AT END OFt STROKE",
     "SMALL CONTAINS bVERTICAL BAR AT END OFt STROKE|CONTAINS bOVERBAR|SMALL CONTAINS bOVERBAR",
     "Z NOTATION BAG MEMBERSHIP|DIAMETERq|ELECTRICl|HOUSE|UPlHEAD|DOWNlHEAD|PROJECTIVE",
     "PERSPECTIVE|WAVY LINE|wCEILING|mCEILING|wFLOOR|mFLOOR|BOTTOM mCROP|BOTTOM wCROP|TOP mCROP",
     "TOP wCROP|REVERSED NOTq|SQUARE LOZENGE|ARC|SEGMENT|SECTOR|TELEPHONE RECORDER",
     "POSITION INDICATOR|VIEWDATA SQUARE|PLACE OF INTERESTq|TURNED NOTq|WATCH|HOURGLASS",
     "TOP wCORNER|TOP mCORNER|BOTTOM wCORNER|BOTTOM mCORNER|TOP HALF INTEGRAL",
     "BOTTOM HALF INTEGRAL|FROWN|SMILE|UPlHEAD BETWEEN TWOt BARS|OPTION KEY|ERASE TO THE RIGHT",
     "X IN A RECTANGLE BOX|KEYBOARD|LEFT-POINTING ANGLEy|RIGHT-POINTING ANGLEy|ERASE TO THE LEFT",
     "BENZENE RING|CYLINDRICITY|ALL AROUND-PROFILE|SYMMETRY|TOTAL RUNOUT|DIMENSION ORIGIN",
     "CONICAL TAPER|SLOPE|COUNTERBORE|COUNTERSINK"]),
   (0x237A, ["APL FUNCTIONALf ALPHA|NOT CHECK MARK|mANGLE bDOWNWARDS ZIGZAGl|SHOULDERED OPEN BOX",
     "BELLf|VERTICAL LINE bMIDDLE DOT|INSERTIONf|CONTINUOUS UNDERLINEf|DISCONTINUOUS UNDERLINEf",
     "EMPHASISf|COMPOSITIONf|iSQUARE bCENTRE VERTICAL LINE|ENTERf|ALTERNATIVE KEYf|HELMf",
     "CIRCLEDt BAR bNOTCH|CIRCLED TRIANGLE DOWN|BROKEN CIRCLE bNORTHWESTl|UNDOf|MONOSTABLEf",
     "HYSTERESISf|OPEN-CIRCUIT-OUTPUT H-TYPEf|OPEN-CIRCUIT-OUTPUT L-TYPEf",
     "PASSIVE-PULL-DOWN-OUTPUTf|PASSIVE-PULL-UP-OUTPUTf|DIRECT CURRENTf FORM TWO",
     "SOFTWARE-FUNCTIONf|APL FUNCTIONALf QUAD|DECIMAL SEPARATOR KEYf|PREVIOUS PAGE|NEXT PAGE",
     "PRINT SCREENf|CLEAR SCREENf|wPARENTHESIS UPPER HOOK|wPARENTHESIS EXTENSION",
     "wPARENTHESIS LOWER HOOK|mPARENTHESIS UPPER HOOK|mPARENTHESIS EXTENSION",
     "mPARENTHESIS LOWER HOOK|wSQUAREy UPPER CORNER|wSQUAREy EXTENSION|wSQUAREy LOWER CORNER",
     "mSQUAREy UPPER CORNER|mSQUAREy EXTENSION|mSQUAREy LOWER CORNER|wCURLYy UPPER HOOK",
     "wCURLYy MIDDLE PIECE|wCURLYy LOWER HOOK|CURLYy EXTENSION|mCURLYy UPPER HOOK",
     "mCURLYy MIDDLE PIECE|mCURLYy LOWER HOOK|INTEGRAL EXTENSION|HORIZONTAL LINE EXTENSION",
     "UPPER wOR LOWER mCURLYy SECTION|UPPER mOR LOWER wCURLYy SECTION|SUMMATION TOP",
     "SUMMATION BOTTOM|TOP SQUAREy|BOTTOM SQUAREy|BOTTOM SQUAREy OVER TOP SQUAREy",
     "RADICALf BOTTOM|wVERTICAL BOX LINE|mVERTICAL BOX LINE|HORIZONTAL SCAN LINE-1",
     "HORIZONTAL SCAN LINE-3|HORIZONTAL SCAN LINE-7|HORIZONTAL SCAN LINE-9",
     "DENTISTRYf LIGHT VERTICALr TOP RIGHT|DENTISTRYf LIGHT VERTICALr BOTTOM RIGHT",
     "DENTISTRYf LIGHT VERTICAL bCIRCLE|DENTISTRYf LIGHT DOWNrt bCIRCLE",
     "DENTISTRYf LIGHT UPrt bCIRCLE|DENTISTRYf LIGHT VERTICAL bTRIANGLE",
     "DENTISTRYf LIGHT DOWNrt bTRIANGLE|DENTISTRYf LIGHT UPrt bTRIANGLE",
     "DENTISTRYf LIGHT VERTICALr WAVE|DENTISTRYf LIGHT DOWNrt bWAVE|DENTISTRYf LIGHT UPrt bWAVE",
     "DENTISTRYf LIGHT DOWNrt|DENTISTRYf LIGHT UPrt|DENTISTRYf LIGHT VERTICALr TOP LEFT",
     "DENTISTRYf LIGHT VERTICALr BOTTOM LEFT|SQUARE FOOT|RETURNf|EJECTf|VERTICAL LINE EXTENSION",
     "METRICAL BREVE|METRICAL LONG OVER SHORT|METRICAL SHORT OVER LONG",
     "METRICAL LONG OVER TWO SHORTS|METRICAL TWO SHORTS OVER LONG|METRICAL TWO SHORTS JOINED",
     "METRICAL TRISEME|METRICAL TETRASEME|METRICAL PENTASEME|EARTH GROUND|FUSE|TOP PARENTHESIS",
     "BOTTOM PARENTHESIS|TOP CURLYy|BOTTOM CURLYy|TOP TORTOISE SHELLy|BOTTOM TORTOISE SHELLy",
     "iTRAPEZIUM|BENZENE RING bCIRCLE|STRAIGHTNESS|FLATNESS|AC CURRENT|ELECTRICAL INTERSECTION",
     "DECIMAL EXPONENTf|oRIGHT-POINTING DOUBLE TRIANGLE|oLEFT-POINTING DOUBLE TRIANGLE",
     "oUP-POINTING DOUBLE TRIANGLE|oDOWN-POINTING DOUBLE TRIANGLE",
     "oRIGHT-POINTING DOUBLE TRIANGLE bVERTICAL BAR|oLEFT-POINTING DOUBLE TRIANGLE bVERTICAL BAR",
     "oRIGHT-POINTING TRIANGLE bDOUBLE VERTICAL BAR|ALARM CLOCK|STOPWATCH|TIMER CLOCK",
     "HOURGLASS bFLOWING SAND|oMEDIUM LEFT-POINTING TRIANGLE|oMEDIUM RIGHT-POINTING TRIANGLE",
     "oMEDIUM UP-POINTING TRIANGLE|oMEDIUM DOWN-POINTING TRIANGLE|DOUBLE VERTICAL BAR",
     "oSQUARE FOR STOP|oCIRCLE FOR RECORD|POWERf|POWER ON-OFFf|POWER ONf|POWER SLEEPf",
     "OBSERVER EYEf"]),
   (0x2460, ["CIRCLED DIGIT ONE|CIRCLED DIGIT TWO|CIRCLED DIGIT THREE|CIRCLED DIGIT FOUR",
     "CIRCLED DIGIT FIVE|CIRCLED DIGIT SIX|CIRCLED DIGIT SEVEN|CIRCLED DIGIT EIGHT",
     "CIRCLED DIGIT NINE|CIRCLED NUMBER TEN|CIRCLED NUMBER ELEVEN|CIRCLED NUMBER TWELVE",
     "CIRCLED NUMBER THIRTEEN|CIRCLED NUMBER FOURTEEN|CIRCLED NUMBER FIFTEEN",
     "CIRCLED NUMBER SIXTEEN|CIRCLED NUMBER SEVENTEEN|CIRCLED NUMBER EIGHTEEN",
     "CIRCLED NUMBER NINETEEN|CIRCLED NUMBER TWENTY"]),
   (0x2500, ["dLIGHTt|dHEAVYt|dLIGHT VERTICAL|dHEAVY VERTICAL|dLIGHT TRIPLE DASHt",
     "dHEAVY TRIPLE DASHt|dLIGHT TRIPLE DASH VERTICAL|dHEAVY TRIPLE DASH VERTICAL",
     "dLIGHT QUADRUPLE DASHt|dHEAVY QUADRUPLE DASHt|dLIGHT QUADRUPLE DASH VERTICAL",
     "dHEAVY QUADRUPLE DASH VERTICAL|dLIGHT DOWNr RIGHT|dDOWN LIGHTr mHEAVY|dDOWN HEAVYr mLIGHT",
     "dHEAVY DOWNr RIGHT|dLIGHT DOWNr LEFT|dDOWN LIGHTr wHEAVY|dDOWN HEAVYr wLIGHT",
     "dHEAVY DOWNr LEFT|dLIGHT UPr RIGHT|dUP LIGHTr mHEAVY|dUP HEAVYr mLIGHT|dHEAVY UPr RIGHT",
     "dLIGHT UPr LEFT|dUP LIGHTr wHEAVY|dUP HEAVYr wLIGHT|dHEAVY UPr LEFT|dLIGHT VERTICALr RIGHT",
     "dVERTICAL LIGHTr mHEAVY|dUP HEAVYr mDOWN LIGHT|dDOWN HEAVYr mUP LIGHT",
     "dVERTICAL HEAVYr mLIGHT|dDOWN LIGHTr mUP HEAVY|dUP LIGHTr mDOWN HEAVY",
     "dHEAVY VERTICALr RIGHT|dLIGHT VERTICALr LEFT|dVERTICAL LIGHTr wHEAVY",
     "dUP HEAVYr wDOWN LIGHT|dDOWN HEAVYr wUP LIGHT|dVERTICAL HEAVYr wLIGHT",
     "dDOWN LIGHTr wUP HEAVY|dUP LIGHTr wDOWN HEAVY|dHEAVY VERTICALr LEFT|dLIGHT DOWNrt",
     "dwHEAVYr mDOWN LIGHT|dmHEAVYr wDOWN LIGHT|dDOWN LIGHTrt HEAVY|dDOWN HEAVYrt LIGHT",
     "dmLIGHTr wDOWN HEAVY|dwLIGHTr mDOWN HEAVY|dHEAVY DOWNrt|dLIGHT UPrt|dwHEAVYr mUP LIGHT",
     "dmHEAVYr wUP LIGHT|dUP LIGHTrt HEAVY|dUP HEAVYrt LIGHT|dmLIGHTr wUP HEAVY",
     "dwLIGHTr mUP HEAVY|dHEAVY UPrt|dLIGHT VERTICALrt|dwHEAVYr mVERTICAL LIGHT",
     "dmHEAVYr wVERTICAL LIGHT|dVERTICAL LIGHTrt HEAVY|dUP HEAVYr DOWNt LIGHT",
     "dDOWN HEAVYr UPt LIGHT|dVERTICAL HEAVYrt LIGHT|dwUP HEAVYr mDOWN LIGHT",
     "dmUP HEAVYr wDOWN LIGHT|dwDOWN HEAVYr mUP LIGHT|dmDOWN HEAVYr wUP LIGHT",
     "dDOWN LIGHTr UPt HEAVY|dUP LIGHTr DOWNt HEAVY|dmLIGHTr wVERTICAL HEAVY",
     "dwLIGHTr mVERTICAL HEAVY|dHEAVY VERTICALrt|dLIGHT DOUBLE DASHt|dHEAVY DOUBLE DASHt",
     "dLIGHT DOUBLE DASH VERTICAL|dHEAVY DOUBLE DASH VERTICAL|dDOUBLEt|dDOUBLE VERTICAL",
     "dDOWN SINGLEr mDOUBLE|dDOWN DOUBLEr mSINGLE|dDOUBLE DOWNr RIGHT|dDOWN SINGLEr wDOUBLE",
     "dDOWN DOUBLEr wSINGLE|dDOUBLE DOWNr LEFT|dUP SINGLEr mDOUBLE|dUP DOUBLEr mSINGLE",
     "dDOUBLE UPr RIGHT|dUP SINGLEr wDOUBLE|dUP DOUBLEr wSINGLE|dDOUBLE UPr LEFT",
     "dVERTICAL SINGLEr mDOUBLE|dVERTICAL DOUBLEr mSINGLE|dDOUBLE VERTICALr RIGHT",
     "dVERTICAL SINGLEr wDOUBLE|dVERTICAL DOUBLEr wSINGLE|dDOUBLE VERTICALr LEFT",
     "dDOWN SINGLErt DOUBLE|dDOWN DOUBLErt SINGLE|dDOUBLE DOWNrt|dUP SINGLErt DOUBLE",
     "dUP DOUBLErt SINGLE|dDOUBLE UPrt|dVERTICAL SINGLErt DOUBLE|dVERTICAL DOUBLErt SINGLE",
     "dDOUBLE VERTICALrt|dLIGHT ARC DOWNr RIGHT|dLIGHT ARC DOWNr LEFT|dLIGHT ARC UPr LEFT",
     "dLIGHT ARC UPr RIGHT|dLIGHT DIAGONAL UPPER mTO LOWER LEFT",
     "dLIGHT DIAGONAL UPPER wTO LOWER RIGHT|dLIGHT DIAGONAL CROSS|dLIGHT LEFT|dLIGHT UP",
     "dLIGHT RIGHT|dLIGHT DOWN|dHEAVY LEFT|dHEAVY UP|dHEAVY RIGHT|dHEAVY DOWN",
     "dLIGHT LEFTr HEAVY RIGHT|dLIGHT UPr HEAVY DOWN|dHEAVY LEFTr LIGHT RIGHT",
     "dHEAVY UPr LIGHT DOWN|UPPER HALF BLOCK|LOWER ONE EIGHTH BLOCK|LOWER ONE QUARTER BLOCK",
     "LOWER THREE EIGHTHS BLOCK|LOWER HALF BLOCK|LOWER FIVE EIGHTHS BLOCK",
     "LOWER THREE QUARTERS BLOCK|LOWER SEVEN EIGHTHS BLOCK|FULL BLOCK|wSEVEN EIGHTHS BLOCK",
     "wTHREE QUARTERS BLOCK|wFIVE EIGHTHS BLOCK|wHALF BLOCK|wTHREE EIGHTHS BLOCK",
     "wONE QUARTER BLOCK|wONE EIGHTH BLOCK|mHALF BLOCK|LIGHT SHADE|MEDIUM SHADE|DARK SHADE",
     "UPPER ONE EIGHTH BLOCK|mONE EIGHTH BLOCK|QUADRANT LOWER LEFT|QUADRANT LOWER RIGHT",
     "QUADRANT UPPER LEFT|QUADRANT UPPER LEFTr LOWER LEFTr LOWER RIGHT",
     "QUADRANT UPPER LEFTr LOWER RIGHT|QUADRANT UPPER LEFTr UPPER mAND LOWER LEFT",
     "QUADRANT UPPER LEFTr UPPER mAND LOWER RIGHT|QUADRANT UPPER RIGHT",
     "QUADRANT UPPER mAND LOWER LEFT|QUADRANT UPPER mAND LOWER LEFTr LOWER RIGHT|oSQUARE|iSQUARE",
     "iSQUARE bROUNDED CORNERS|iSQUARE CONTAINING oSMALL SQUARE|SQUARE bHORIZONTAL FILL",
     "SQUARE bVERTICAL FILL|SQUARE bORTHOGONAL CROSSHATCH FILL|SQUARE bUPPER wTO LOWER mFILL",
     "SQUARE bUPPER mTO LOWER wFILL|SQUARE bDIAGONAL CROSSHATCH FILL|oSMALL SQUARE|iSMALL SQUARE",
     "oRECTANGLE|iRECTANGLE|oVERTICAL RECTANGLE|iVERTICAL RECTANGLE|oPARALLELOGRAM",
     "iPARALLELOGRAM|oUP-POINTING TRIANGLE|iUP-POINTING TRIANGLE|oUP-POINTING SMALL TRIANGLE",
     "iUP-POINTING SMALL TRIANGLE|oRIGHT-POINTING TRIANGLE|iRIGHT-POINTING TRIANGLE",
     "oRIGHT-POINTING SMALL TRIANGLE|iRIGHT-POINTING SMALL TRIANGLE|oRIGHT-POINTING POINTER",
     "iRIGHT-POINTING POINTER|oDOWN-POINTING TRIANGLE|iDOWN-POINTING TRIANGLE",
     "oDOWN-POINTING SMALL TRIANGLE|iDOWN-POINTING SMALL TRIANGLE|oLEFT-POINTING TRIANGLE",
     "iLEFT-POINTING TRIANGLE|oLEFT-POINTING SMALL TRIANGLE|iLEFT-POINTING SMALL TRIANGLE",
     "oLEFT-POINTING POINTER|iLEFT-POINTING POINTER|oDIAMOND|iDIAMOND",
     "iDIAMOND CONTAINING oSMALL DIAMOND|FISHEYE|LOZENGE|iCIRCLE|DOTTED CIRCLE",
     "CIRCLE bVERTICAL FILL|BULLSEYE|oCIRCLE|CIRCLE bwHALF BLACK|CIRCLE bmHALF BLACK",
     "CIRCLE bLOWER HALF BLACK|CIRCLE bUPPER HALF BLACK|CIRCLE bUPPER mQUADRANT BLACK",
     "CIRCLE bALL BUT UPPER wQUADRANT BLACK|wHALF oCIRCLE|mHALF oCIRCLE|INVERSE BULLET",
     "INVERSE iCIRCLE|UPPER HALF INVERSE iCIRCLE|LOWER HALF INVERSE iCIRCLE",
     "UPPER wQUADRANT CIRCULAR ARC|UPPER mQUADRANT CIRCULAR ARC|LOWER mQUADRANT CIRCULAR ARC",
     "LOWER wQUADRANT CIRCULAR ARC|UPPER HALF CIRCLE|LOWER HALF CIRCLE|oLOWER mTRIANGLE",
     "oLOWER wTRIANGLE|oUPPER wTRIANGLE|oUPPER mTRIANGLE|iBULLET|SQUARE bwHALF BLACK",
     "SQUARE bmHALF BLACK|SQUARE bUPPER wDIAGONAL HALF BLACK|SQUARE bLOWER mDIAGONAL HALF BLACK",
     "iSQUARE bVERTICAL BISECTING LINE|iUP-POINTING TRIANGLE bDOT",
     "UP-POINTING TRIANGLE bwHALF BLACK|UP-POINTING TRIANGLE bmHALF BLACK|LARGE CIRCLE",
     "iSQUARE bUPPER wQUADRANT|iSQUARE bLOWER wQUADRANT|iSQUARE bLOWER mQUADRANT",
     "iSQUARE bUPPER mQUADRANT|iCIRCLE bUPPER wQUADRANT|iCIRCLE bLOWER wQUADRANT",
     "iCIRCLE bLOWER mQUADRANT|iCIRCLE bUPPER mQUADRANT|UPPER wTRIANGLE|UPPER mTRIANGLE",
     "LOWER wTRIANGLE|iMEDIUM SQUARE|oMEDIUM SQUARE|iMEDIUM SMALL SQUARE|oMEDIUM SMALL SQUARE",
     "LOWER mTRIANGLE|oSUN bRAYS|CLOUD|UMBRELLA|SNOWMAN|COMET|oSTAR|iSTAR|LIGHTNING|THUNDERSTORM",
     "SUN|ASCENDING NODE|DESCENDING NODE|CONJUNCTION|OPPOSITION|oTELEPHONE|iTELEPHONE|BALLOT BOX",
     "BALLOT BOX bCHECK|BALLOT BOX bX|SALTIRE|UMBRELLA bRAIN DROPS|HOT BEVERAGE|iSHOGI PIECE",
     "oSHOGI PIECE|SHAMROCK|REVERSED ROTATED FLORAL HEART BULLET|owPOINTING INDEX",
     "omPOINTING INDEX|iwPOINTING INDEX|iUP POINTING INDEX|imPOINTING INDEX|iDOWN POINTING INDEX",
     "SKULLr CROSSBONES|CAUTIONq|RADIOACTIVEq|BIOHAZARDq|CADUCEUS|ANKH|ORTHODOX CROSS|CHI RHO",
     "CROSS OF LORRAINE|CROSS OF JERUSALEM|STARr CRESCENT|FARSIf|ADI SHAKTI|HAMMERr SICKLE",
     "PEACEf|YIN YANG|TRIGRAM FOR HEAVEN|TRIGRAM FOR LAKE|TRIGRAM FOR FIRE|TRIGRAM FOR THUNDER",
     "TRIGRAM FOR WIND|TRIGRAM FOR WATER|TRIGRAM FOR MOUNTAIN|TRIGRAM FOR EARTH|WHEEL OF DHARMA",
     "iFROWNINGs|iSMILINGs|oSMILINGs|iSUN bRAYS|FIRST QUARTER MOON|LAST QUARTER MOON|MERCURY",
     "FEMALEq|EARTH|MALEq|JUPITER|SATURN|URANUS|NEPTUNE|PLUTO|ARIES|TAURUS|GEMINI|CANCER|LEO",
     "VIRGO|LIBRA|SCORPIUS|SAGITTARIUS|CAPRICORN|AQUARIUS|PISCES|iCHESS KING|iCHESS QUEEN",
     "iCHESS ROOK|iCHESS BISHOP|iCHESS KNIGHT|iCHESS PAWN|oCHESS KING|oCHESS QUEEN|oCHESS ROOK",
     "oCHESS BISHOP|oCHESS KNIGHT|oCHESS PAWN|oSPADE SUIT|iHEART SUIT|iDIAMOND SUIT|oCLUB SUIT",
     "iSPADE SUIT|oHEART SUIT|oDIAMOND SUIT|iCLUB SUIT|HOT SPRINGS|QUARTER NOTE|EIGHTH NOTE",
     "BEAMED EIGHTH NOTES|BEAMED SIXTEENTH NOTES|MUSIC FLATq|MUSIC NATURALq|MUSIC SHARPq",
     "WEST SYRIAC CROSS|EAST SYRIAC CROSS|UNIVERSAL RECYCLINGf|RECYCLINGf FOR TYPE-1 PLASTICS",
     "RECYCLINGf FOR TYPE-2 PLASTICS|RECYCLINGf FOR TYPE-3 PLASTICS",
     "RECYCLINGf FOR TYPE-4 PLASTICS|RECYCLINGf FOR TYPE-5 PLASTICS",
     "RECYCLINGf FOR TYPE-6 PLASTICS|RECYCLINGf FOR TYPE-7 PLASTICS",
     "RECYCLINGf FOR GENERIC MATERIALS|oUNIVERSAL RECYCLINGf|RECYCLED PAPERf",
     "PARTIALLY-RECYCLED PAPERf|PERMANENT PAPERq|WHEELCHAIRf|DIEs-1|DIEs-2|DIEs-3|DIEs-4|DIEs-5",
     "DIEs-6|iCIRCLE bDOT RIGHT|iCIRCLE bTWO DOTS|oCIRCLE biDOT RIGHT|oCIRCLE bTWO iDOTS",
     "MONOGRAM FOR YANG|MONOGRAM FOR YIN|DIGRAM FOR GREATER YANG|DIGRAM FOR LESSER YIN",
     "DIGRAM FOR LESSER YANG|DIGRAM FOR GREATER YIN|iFLAG|oFLAG|HAMMERr PICK|ANCHOR",
     "CROSSED SWORDS|STAFF OF AESCULAPIUS|SCALES|ALEMBIC|FLOWER|GEAR|STAFF OF HERMES|ATOMf",
     "FLEUR-DE-LIS|OUTLINED iSTAR|THREE LINES CONVERGING RIGHT|THREE LINES CONVERGING LEFT",
     "WARNINGq|HIGH VOLTAGEq|DOUBLED FEMALEq|DOUBLED MALEq|INTERLOCKED FEMALEr MALEq",
     "MALEr FEMALEq|MALE bSTROKEq|MALE bSTROKEr MALEr FEMALEq|VERTICAL MALE bSTROKEq",
     "HORIZONTAL MALE bSTROKEq|MEDIUM iCIRCLE|MEDIUM oCIRCLE|MEDIUM SMALL iCIRCLE|MARRIAGEf",
     "DIVORCEf|UNMARRIED PARTNERSHIPf|COFFIN|FUNERAL URN|NEUTER|CERES|PALLAS|JUNO|VESTA|CHIRON",
     "oMOON LILITH|SEXTILE|SEMISEXTILE|QUINCUNX|SESQUIQUADRATE|SOCCER BALL|BASEBALL|SQUARED KEY",
     "iDRAUGHTS MAN|iDRAUGHTS KING|oDRAUGHTS MAN|oDRAUGHTS KING|SNOWMAN WITHOUT SNOW",
     "SUN BEHIND CLOUD|RAIN|oSNOWMAN|THUNDER CLOUDr RAIN|TURNED iSHOGI PIECE|TURNED oSHOGI PIECE",
     "iDIAMOND IN SQUARE|CROSSING LANES|DISABLED CAR|OPHIUCHUS|PICK|CAR SLIDING|HELMET biCROSS",
     "CIRCLED CROSSING LANES|CHAINS|NO ENTRY|ALTERNATE ONE-WAY wWAY TRAFFIC",
     "oTWO-WAY wWAY TRAFFIC|iTWO-WAY wWAY TRAFFIC|owLANE MERGE|iwLANE MERGE|DRIVE SLOWq",
     "HEAVY iDOWN-POINTING TRIANGLE|wCLOSED ENTRY|SQUARED SALTIRE",
     "FALLING DIAGONAL IN iCIRCLE IN oSQUARE|oTRUCK|RESTRICTED wENTRY-1|RESTRICTED wENTRY-2",
     "ASTRONOMICALf FOR URANUS|HEAVY CIRCLE bSTROKEr TWO DOTS ABOVE|PENTAGRAM",
     "RIGHT-HANDED INTERLACED PENTAGRAM|LEFT-HANDED INTERLACED PENTAGRAM|INVERTED PENTAGRAM",
     "oCROSS ON SHIELD|SHINTO SHRINE|CHURCH|CASTLE|HISTORIC SITE|GEAR WITHOUT HUB|GEAR bHANDLES",
     "MAPf FOR LIGHTHOUSE|MOUNTAIN|UMBRELLA ON GROUND|FOUNTAIN|FLAG IN HOLE|FERRY|SAILBOAT",
     "SQUARE FOUR CORNERS|SKIER|ICE SKATE|PERSON bBALL|TENT|JAPANESE BANKf|HEADSTONE GRAVEYARDf",
     "FUEL PUMP|CUP ON oSQUARE|iFLAG bHORIZONTAL MIDDLE oSTRIPE|oSAFETY SCISSORS",
     "UPPER BLADE SCISSORS|oSCISSORS|LOWER BLADE SCISSORS|iSCISSORS|iHEAVY CHECK MARK",
     "TELEPHONE LOCATIONq|TAPE DRIVE|AIRPLANE|ENVELOPE|RAISED FIST|RAISED HAND|VICTORY HAND",
     "WRITING HAND|LOWER mPENCIL|PENCIL|UPPER mPENCIL|iNIB|oNIB|CHECK MARK|HEAVY CHECK MARK",
     "MULTIPLICATION X|HEAVY MULTIPLICATION X|BALLOT X|HEAVY BALLOT X|OUTLINED pCROSS",
     "HEAVY pCROSS|OPEN CENTRE CROSS|HEAVY OPEN CENTRE CROSS|kCROSS|SHADOWED ikCROSS",
     "OUTLINED kCROSS|MALTESE CROSS|STAR OF DAVID|FOUR TEARDROP-SPOKED ASTERISK",
     "FOUR BALLOON-SPOKED ASTERISK|HEAVY FOUR BALLOON-SPOKED ASTERISK|FOUR CLUB-SPOKED ASTERISK",
     "oFOUR POINTED STAR|iFOUR POINTED STAR|SPARKLES|STRESS OUTLINED iSTAR|CIRCLED iSTAR",
     "OPEN CENTRE oSTAR|oCENTRE iSTAR|OUTLINED oSTAR|HEAVY OUTLINED oSTAR|PINWHEEL STAR",
     "SHADOWED iSTAR|HEAVY ASTERISK|OPEN CENTRE ASTERISK|EIGHT SPOKED ASTERISK",
     "EIGHT POINTED oSTAR|EIGHT POINTED PINWHEEL STAR|SIX POINTED oSTAR",
     "EIGHT POINTED RECTILINEAR oSTAR|HEAVY EIGHT POINTED RECTILINEAR oSTAR|TWELVE POINTED oSTAR",
     "SIXTEEN POINTED ASTERISK|TEARDROP-SPOKED ASTERISK|OPEN CENTRE TEARDROP-SPOKED ASTERISK",
     "HEAVY TEARDROP-SPOKED ASTERISK|SIX PETALLED oAND iFLORETTE|oFLORETTE|iFLORETTE",
     "EIGHT PETALLED OUTLINED oFLORETTE|CIRCLED OPEN CENTRE EIGHT POINTED STAR",
     "HEAVY TEARDROP-SPOKED PINWHEEL ASTERISK|SNOWFLAKE|TIGHT TRIFOLIATE SNOWFLAKE",
     "HEAVY CHEVRON SNOWFLAKE|SPARKLE|HEAVY SPARKLE|BALLOON-SPOKED ASTERISK",
     "EIGHT TEARDROP-SPOKED PROPELLER ASTERISK|HEAVY EIGHT TEARDROP-SPOKED PROPELLER ASTERISK",
     "CROSS MARK|SHADOWED iCIRCLE|NEGATIVE SQUARED CROSS MARK|LOWER mDROP-SHADOWED iSQUARE",
     "UPPER mDROP-SHADOWED iSQUARE|LOWER mSHADOWED iSQUARE|UPPER mSHADOWED iSQUARE",
     "oQUESTION MARK ORNAMENT|iQUESTION MARK ORNAMENT|iEXCLAMATION MARK ORNAMENT",
     "oDIAMOND MINUS iX|HEAVY EXCLAMATION MARKf|LIGHT VERTICAL BAR|MEDIUM VERTICAL BAR",
     "HEAVY VERTICAL BAR|HEAVY SINGLE TURNED COMMA QUOTATION MARK ORNAMENT",
     "HEAVY SINGLE COMMA QUOTATION MARK ORNAMENT",
     "HEAVY DOUBLE TURNED COMMA QUOTATION MARK ORNAMENT",
     "HEAVY DOUBLE COMMA QUOTATION MARK ORNAMENT|HEAVY LOW SINGLE COMMA QUOTATION MARK ORNAMENT",
     "HEAVY LOW DOUBLE COMMA QUOTATION MARK ORNAMENT|CURVED STEM PARAGRAPHq ORNAMENT",
     "HEAVY EXCLAMATION MARK ORNAMENT|HEAVY HEART EXCLAMATION MARK ORNAMENT|HEAVY oHEART",
     "ROTATED HEAVY oHEART BULLET|FLORAL HEART|ROTATED FLORAL HEART BULLET",
     "MEDIUM wPARENTHESIS ORNAMENT|MEDIUM mPARENTHESIS ORNAMENT",
     "MEDIUM FLATTENED wPARENTHESIS ORNAMENT|MEDIUM FLATTENED mPARENTHESIS ORNAMENT",
     "MEDIUM LEFT-POINTING ANGLEy ORNAMENT|MEDIUM RIGHT-POINTING ANGLEy ORNAMENT",
     "HEAVY LEFT-POINTING ANGLE QUOTATION MARK ORNAMENT",
     "HEAVY RIGHT-POINTING ANGLE QUOTATION MARK ORNAMENT|HEAVY LEFT-POINTING ANGLEy ORNAMENT",
     "HEAVY RIGHT-POINTING ANGLEy ORNAMENT|LIGHT wTORTOISE SHELLy ORNAMENT",
     "LIGHT mTORTOISE SHELLy ORNAMENT|MEDIUM wCURLYy ORNAMENT|MEDIUM mCURLYy ORNAMENT|xDIGIT ONE",
     "xDIGIT TWO|xDIGIT THREE|xDIGIT FOUR|xDIGIT FIVE|xDIGIT SIX|xDIGIT SEVEN|xDIGIT EIGHT",
     "xDIGIT NINE|xNUMBER TEN|DINGBAT CIRCLED SANS-SERIF DIGIT ONE",
     "DINGBAT CIRCLED SANS-SERIF DIGIT TWO|DINGBAT CIRCLED SANS-SERIF DIGIT THREE",
     "DINGBAT CIRCLED SANS-SERIF DIGIT FOUR|DINGBAT CIRCLED SANS-SERIF DIGIT FIVE",
     "DINGBAT CIRCLED SANS-SERIF DIGIT SIX|DINGBAT CIRCLED SANS-SERIF DIGIT SEVEN",
     "DINGBAT CIRCLED SANS-SERIF DIGIT EIGHT|DINGBAT CIRCLED SANS-SERIF DIGIT NINE",
     "DINGBAT CIRCLED SANS-SERIF NUMBER TEN|xSANS-SERIF DIGIT ONE|xSANS-SERIF DIGIT TWO",
     "xSANS-SERIF DIGIT THREE|xSANS-SERIF DIGIT FOUR|xSANS-SERIF DIGIT FIVE",
     "xSANS-SERIF DIGIT SIX|xSANS-SERIF DIGIT SEVEN|xSANS-SERIF DIGIT EIGHT",
     "xSANS-SERIF DIGIT NINE|xSANS-SERIF NUMBER TEN|HEAVY WIDE-HEADED RIGHTWARDSl|HEAVY PLUSq",
     "HEAVY MINUSq|HEAVY DIVISIONq|HEAVY SOUTH EASTl|HEAVY RIGHTWARDSl|HEAVY NORTH EASTl",
     "DRAFTING POINT RIGHTWARDSl|HEAVY ROUND-TIPPED RIGHTWARDSl|TRIANGLE-HEADED RIGHTWARDSl",
     "HEAVY TRIANGLE-HEADED RIGHTWARDSl|DASHED TRIANGLE-HEADED RIGHTWARDSl",
     "HEAVY DASHED TRIANGLE-HEADED RIGHTWARDSl|oRIGHTWARDSl|THREE-D TOP-LIGHTED RIGHTWARDSlHEAD",
     "THREE-D BOTTOM-LIGHTED RIGHTWARDSlHEAD|oRIGHTWARDSlHEAD",
     "HEAVY oCURVED DOWNWARDSr RIGHTWARDSl|HEAVY oCURVED UPWARDSr RIGHTWARDSl|SQUAT oRIGHTWARDSl",
     "HEAVY CONCAVE-POINTED oRIGHTWARDSl|RIGHT-SHADED iRIGHTWARDSl|LEFT-SHADED iRIGHTWARDSl",
     "BACK-TILTED SHADOWED iRIGHTWARDSl|FRONT-TILTED SHADOWED iRIGHTWARDSl",
     "HEAVY LOWER RIGHT-SHADOWED iRIGHTWARDSl|HEAVY UPPER RIGHT-SHADOWED iRIGHTWARDSl",
     "NOTCHED LOWER RIGHT-SHADOWED iRIGHTWARDSl|CURLY LOOP",
     "NOTCHED UPPER RIGHT-SHADOWED iRIGHTWARDSl|CIRCLED HEAVY iRIGHTWARDSl",
     "WHITE-FEATHERED RIGHTWARDSl|BLACK-FEATHERED SOUTH EASTl|BLACK-FEATHERED RIGHTWARDSl",
     "BLACK-FEATHERED NORTH EASTl|HEAVY BLACK-FEATHERED SOUTH EASTl",
     "HEAVY BLACK-FEATHERED RIGHTWARDSl|HEAVY BLACK-FEATHERED NORTH EASTl",
     "TEARDROP-BARBED RIGHTWARDSl|HEAVY TEARDROP-SHANKED RIGHTWARDSl|WEDGE-TAILED RIGHTWARDSl",
     "HEAVY WEDGE-TAILED RIGHTWARDSl|OPEN-OUTLINED RIGHTWARDSl|DOUBLE CURLY LOOP"]),
   (0x27E6, ["MATHEMATICAL wiSQUAREy|MATHEMATICAL miSQUAREy|MATHEMATICAL wANGLEy",
     "MATHEMATICAL mANGLEy|MATHEMATICAL wDOUBLE ANGLEy|MATHEMATICAL mDOUBLE ANGLEy",
     "MATHEMATICAL wiTORTOISE SHELLy|MATHEMATICAL miTORTOISE SHELLy",
     "MATHEMATICAL wFLATTENED PARENTHESIS|MATHEMATICAL mFLATTENED PARENTHESIS"]),
   (0x2B05, ["LEFTWARDS BLACKl|UPWARDS BLACKl|DOWNWARDS BLACKl"]),
   (0x2B1B, ["oLARGE SQUARE|iLARGE SQUARE"]),
   (0x2B50, ["iMEDIUM STAR|oSMALL STAR|iSMALL STAR|oRIGHT-POINTING PENTAGON",
     "iRIGHT-POINTING PENTAGON|HEAVY LARGE CIRCLE"]),
   (0x3000, ["IDEOGRAPHIC SPACE|IDEOGRAPHIC COMMA|IDEOGRAPHIC FULL STOP|DITTO MARK",
     "JAPANESE INDUSTRIAL STANDARDf|IDEOGRAPHIC ITERATION MARK|IDEOGRAPHIC CLOSING MARK",
     "IDEOGRAPHIC NUMBER ZERO|wANGLEy|mANGLEy|wDOUBLE ANGLEy|mDOUBLE ANGLEy|wCORNERy|mCORNERy",
     "wiCORNERy|miCORNERy|woLENTICULARy|moLENTICULARy|POSTAL MARK|GETA MARK|wTORTOISE SHELLy",
     "mTORTOISE SHELLy|wiLENTICULARy|miLENTICULARy|wiTORTOISE SHELLy|miTORTOISE SHELLy|wiSQUAREy",
     "miSQUAREy|WAVE DASH|REVERSED DOUBLE PRIME QUOTATION MARK|DOUBLE PRIME QUOTATION MARK",
     "LOW DOUBLE PRIME QUOTATION MARK|POSTAL MARKs"]),
   (0x3041, ["jSMALL A|jA|jSMALL I|jI|jSMALL U|jU|jSMALL E|jE|jSMALL O|jO|jKA|jGA|jKI|jGI|jKU",
     "jGU|jKE|jGE|jKO|jGO|jSA|jZA|jSI|jZI|jSU|jZU|jSE|jZE|jSO|jZO|jTA|jDA|jTI|jDI|jSMALL TU|jTU",
     "jDU|jTE|jDE|jTO|jDO|jNA|jNI|jNU|jNE|jNO|jHA|jBA|jPA|jHI|jBI|jPI|jHU|jBU|jPU|jHE|jBE|jPE",
     "jHO|jBO|jPO|jMA|jMI|jMU|jME|jMO|jSMALL YA|jYA|jSMALL YU|jYU|jSMALL YO|jYO|jRA|jRI|jRU|jRE",
     "jRO|jSMALL WA|jWA|jWI|jWE|jWO|jN|jVU|jSMALL KA|jSMALL KE"]),
   (0x3099, ["nKATAKANA-HIRAGANA VOICED SOUND MARK|nKATAKANA-HIRAGANA SEMI-VOICED SOUND MARK",
     "KATAKANA-HIRAGANA VOICED SOUND MARK|KATAKANA-HIRAGANA SEMI-VOICED SOUND MARK",
     "HIRAGANA ITERATION MARK|HIRAGANA VOICED ITERATION MARK|HIRAGANA DIGRAPH YORI",
     "KATAKANA-HIRAGANA DOUBLE HYPHEN|gSMALL A|gA|gSMALL I|gI|gSMALL U|gU|gSMALL E|gE|gSMALL O",
     "gO|gKA|gGA|gKI|gGI|gKU|gGU|gKE|gGE|gKO|gGO|gSA|gZA|gSI|gZI|gSU|gZU|gSE|gZE|gSO|gZO|gTA|gDA",
     "gTI|gDI|gSMALL TU|gTU|gDU|gTE|gDE|gTO|gDO|gNA|gNI|gNU|gNE|gNO|gHA|gBA|gPA|gHI|gBI|gPI|gHU",
     "gBU|gPU|gHE|gBE|gPE|gHO|gBO|gPO|gMA|gMI|gMU|gME|gMO|gSMALL YA|gYA|gSMALL YU|gYU|gSMALL YO",
     "gYO|gRA|gRI|gRU|gRE|gRO|gSMALL WA|gWA|gWI|gWE|gWO|gN|gVU|gSMALL KA|gSMALL KE|gVA|gVI|gVE",
     "gVO|KATAKANA MIDDLE DOT|KATAKANA-HIRAGANA PROLONGED SOUND MARK|KATAKANA ITERATION MARK",
     "KATAKANA VOICED ITERATION MARK|KATAKANA DIGRAPH KOTO"]),
   (0xFB00, ["kSMALL LIGATURE FF|kSMALL LIGATURE FI|kSMALL LIGATURE FL|kSMALL LIGATURE FFI",
     "kSMALL LIGATURE FFL|kSMALL LIGATURE LONG S T|kSMALL LIGATURE ST"]),
   (0xFE0F, ["VARIATION SELECTOR-16"]), (0xFEFF, ["ZERO WIDTH NO-BREAK SPACE"]),
   (0xFFFC, ["OBJECT REPLACEMENT CHARACTER|REPLACEMENT CHARACTER"]),
   (0x1F1E6, ["vA|vB|vC|vD|vE|vF|vG|vH|vI|vJ|vK|vL|vM|vN|vO|vP|vQ|vR|vS|vT|vU|vV|vW|vX|vY|vZ"]),
   (0x1F300, ["CYCLONE|FOGGY|CLOSED UMBRELLA|NIGHT bSTARS|SUNRISE OVER MOUNTAINS|SUNRISE",
     "CITYSCAPE AT DUSK|SUNSET OVER BUILDINGS|RAINBOW|BRIDGE AT NIGHT|WATER WAVE|VOLCANO",
     "MILKY WAY|EARTH GLOBE EUROPE-AFRICA|EARTH GLOBE AMERICAS|EARTH GLOBE ASIA-AUSTRALIA",
     "GLOBE bMERIDIANS|NEW MOONf|WAXING CRESCENT MOONf|FIRST QUARTER MOONf|WAXING GIBBOUS MOONf",
     "FULL MOONf|WANING GIBBOUS MOONf|LAST QUARTER MOONf|WANING CRESCENT MOONf|CRESCENT MOON",
     "NEW MOON bFACE|FIRST QUARTER MOON bFACE|LAST QUARTER MOON bFACE|FULL MOON bFACE|SUN bFACE",
     "GLOWING STAR|SHOOTING STAR|THERMOMETER|oDROPLET|iSUN|iSUN bSMALL CLOUD|iSUN BEHIND CLOUD",
     "iSUN BEHIND CLOUD bRAIN|CLOUD bRAIN|CLOUD bSNOW|CLOUD bLIGHTNING|CLOUD bTORNADO|FOG",
     "WIND BLOWINGs|HOT DOG|TACO|BURRITO|CHESTNUT|SEEDLING|EVERGREEN TREE|DECIDUOUS TREE",
     "PALM TREE|CACTUS|HOT PEPPER|TULIP|CHERRY BLOSSOM|ROSE|HIBISCUS|SUNFLOWER|BLOSSOM",
     "EAR OF MAIZE|EAR OF RICE|HERB|FOUR LEAF CLOVER|MAPLE LEAF|FALLEN LEAF",
     "LEAF FLUTTERING IN WIND|MUSHROOM|TOMATO|AUBERGINE|GRAPES|MELON|WATERMELON|TANGERINE|LEMON",
     "BANANA|PINEAPPLE|RED APPLE|GREEN APPLE|PEAR|PEACH|CHERRIES|STRAWBERRY|HAMBURGER",
     "SLICE OF PIZZA|MEAT ON BONE|POULTRY LEG|RICE CRACKER|RICE BALL|COOKED RICE|CURRYr RICE",
     "STEAMING BOWL|SPAGHETTI|BREAD|FRENCH FRIES|ROASTED SWEET POTATO|DANGO|ODEN|SUSHI",
     "FRIED SHRIMP|FISH CAKE bSWIRL DESIGN|SOFT ICE CREAM|SHAVED ICE|ICE CREAM|DOUGHNUT|COOKIE",
     "CHOCOLATE BAR|CANDY|LOLLIPOP|CUSTARD|HONEY POT|SHORTCAKE|BENTO BOX|POT OF FOOD|COOKING",
     "FORKr KNIFE|TEACUP WITHOUT HANDLE|SAKE BOTTLEr CUP|WINE GLASS|COCKTAIL GLASS",
     "TROPICAL DRINK|BEER MUG|CLINKING BEER MUGS|BABY BOTTLE|FORKr KNIFE bPLATE",
     "BOTTLE bPOPPING CORK|POPCORN|RIBBON|WRAPPED PRESENT|BIRTHDAY CAKE|JACK-O-LANTERN",
     "CHRISTMAS TREE|FATHER CHRISTMAS|FIREWORKS|FIREWORK SPARKLER|BALLOON|PARTY POPPER",
     "CONFETTI BALL|TANABATA TREE|CROSSED FLAGS|PINE DECORATION|JAPANESE DOLLS|CARP STREAMER",
     "WIND CHIME|MOON VIEWING CEREMONY|SCHOOL SATCHEL|GRADUATION CAP|HEART bTIP ON THE LEFT",
     "BOUQUET OF FLOWERS|MILITARY MEDAL|REMINDER RIBBON|MUSICAL KEYBOARD bJACKS",
     "STUDIO MICROPHONE|LEVEL SLIDER|CONTROL KNOBS|BEAMED ASCENDING MUSICAL NOTES",
     "BEAMED DESCENDING MUSICAL NOTES|FILM FRAMES|ADMISSION TICKETS|CAROUSEL HORSE|FERRIS WHEEL",
     "ROLLER COASTER|FISHING POLEr FISH|MICROPHONE|MOVIE CAMERA|CINEMA|HEADPHONE|ARTIST PALETTE",
     "TOP HAT|CIRCUS TENT|TICKET|CLAPPER BOARD|PERFORMING ARTS|VIDEO GAME|DIRECT HIT",
     "SLOT MACHINE|BILLIARDS|GAME DIE|BOWLING|FLOWER PLAYING CARDS|MUSICAL NOTE",
     "MULTIPLE MUSICAL NOTES|SAXOPHONE|GUITAR|MUSICAL KEYBOARD|TRUMPET|VIOLIN|MUSICAL SCORE",
     "RUNNING SHIRT bSASH|TENNIS RACQUETr BALL|SKIr SKI BOOT|BASKETBALLr HOOP|CHEQUERED FLAG",
     "SNOWBOARDER|RUNNER|SURFER|SPORTS MEDAL|TROPHY|HORSE RACING|AMERICAN FOOTBALL",
     "RUGBY FOOTBALL|SWIMMER|WEIGHT LIFTER|GOLFER|RACING MOTORCYCLE|RACING CAR|CRICKET BATr BALL",
     "VOLLEYBALL|FIELD HOCKEY STICKr BALL|ICE HOCKEY STICKr PUCK|TABLE TENNIS PADDLEr BALL",
     "SNOW CAPPED MOUNTAIN|CAMPING|BEACH bUMBRELLA|BUILDING CONSTRUCTION|HOUSE BUILDINGS",
     "CITYSCAPE|DERELICT HOUSE BUILDING|CLASSICAL BUILDING|DESERT|DESERT ISLAND|NATIONAL PARK",
     "STADIUM|HOUSE BUILDING|HOUSE bGARDEN|OFFICE BUILDING|JAPANESE POST OFFICE",
     "EUROPEAN POST OFFICE|HOSPITAL|BANK|AUTOMATED TELLER MACHINE|HOTEL|LOVE HOTEL",
     "CONVENIENCE STORE|SCHOOL|DEPARTMENT STORE|FACTORY|IZAKAYA LANTERN|JAPANESE CASTLE",
     "EUROPEAN CASTLE|iPENNANT|oPENNANT|WAVING iFLAG|WAVING oFLAG|ROSETTE|oROSETTE|LABEL",
     "BADMINTON RACQUETr SHUTTLECOCK|BOWrl|AMPHORA|EMOJI MODIFIER FITZPATRICK TYPE-1-2",
     "EMOJI MODIFIER FITZPATRICK TYPE-3|EMOJI MODIFIER FITZPATRICK TYPE-4",
     "EMOJI MODIFIER FITZPATRICK TYPE-5|EMOJI MODIFIER FITZPATRICK TYPE-6|RAT|MOUSE|OX",
     "WATER BUFFALO|COW|TIGER|LEOPARD|RABBIT|CAT|DRAGON|CROCODILE|WHALE|SNAIL|SNAKE|HORSE|RAM",
     "GOAT|SHEEP|MONKEY|ROOSTER|CHICKEN|DOG|PIG|BOAR|ELEPHANT|OCTOPUS|SPIRAL SHELL|BUG|ANT",
     "HONEYBEE|LADY BEETLE|FISH|TROPICAL FISH|BLOWFISH|TURTLE|HATCHING CHICK|BABY CHICK",
     "FRONT-FACING BABY CHICK|BIRD|PENGUIN|KOALA|POODLE|DROMEDARY CAMEL|BACTRIAN CAMEL|DOLPHIN",
     "MOUSEs|COWs|TIGERs|RABBITs|CATs|DRAGONs|SPOUTING WHALE|HORSEs|MONKEYs|DOGs|PIGs|FROGs",
     "HAMSTERs|WOLFs|BEARs|PANDAs|PIG NOSE|PAW PRINTS|CHIPMUNK|EYES|EYE|EAR|NOSE|MOUTH|TONGUE",
     "iUP POINTING BACKHAND INDEX|iDOWN POINTING BACKHAND INDEX|iwPOINTING BACKHAND INDEX",
     "imPOINTING BACKHAND INDEX|FISTED HANDq|WAVING HANDq|OK HANDq|THUMBS UPq|THUMBS DOWNq",
     "CLAPPING HANDSq|OPEN HANDSq|CROWN|WOMANS HAT|EYEGLASSES|NECKTIE|T-SHIRT|JEANS|DRESS|KIMONO",
     "BIKINI|WOMANS CLOTHES|PURSE|HANDBAG|POUCH|MANS SHOE|ATHLETIC SHOE|HIGH-HEELED SHOE",
     "WOMANS SANDAL|WOMANS BOOTS|FOOTPRINTS|BUST IN SILHOUETTE|BUSTS IN SILHOUETTE|BOY|GIRL|MAN",
     "WOMAN|FAMILY|MANr WOMAN HOLDING HANDS|TWO MEN HOLDING HANDS|TWO WOMEN HOLDING HANDS",
     "POLICE OFFICER|WOMAN bBUNNY EARS|BRIDE bVEIL|PERSON bBLOND HAIR|MAN bGUA PI MAO",
     "MAN bTURBAN|OLDER MAN|OLDER WOMAN|BABY|CONSTRUCTION WORKER|PRINCESS|JAPANESE OGRE",
     "JAPANESE GOBLIN|GHOST|BABY ANGEL|EXTRATERRESTRIAL ALIEN|ALIEN MONSTER|IMP|SKULL",
     "INFORMATION DESK PERSON|GUARDSMAN|DANCER|LIPSTICK|NAIL POLISH|FACE MASSAGE|HAIRCUT",
     "BARBER POLE|SYRINGE|PILL|KISS MARK|LOVEa|RING|GEM STONE|KISS|BOUQUET|COUPLE bHEART|WEDDING",
     "BEATING HEART|BROKEN HEART|TWO HEARTS|SPARKLING HEART|GROWING HEART|HEART bARROW",
     "BLUE HEART|GREEN HEART|YELLOW HEART|PURPLE HEART|HEART bRIBBON|REVOLVING HEARTS",
     "HEART DECORATION|DIAMOND SHAPE bA DOT INSIDE|ELECTRIC LIGHT BULB|ANGERf|BOMB|SLEEPINGf",
     "COLLISIONf|SPLASHING SWEATf|DROPLET|DASHf|PILE OF POO|FLEXED BICEPS|DIZZYf|SPEECH BALLOON",
     "THOUGHT BALLOON|iFLOWER|HUNDRED POINTSf|MONEY BAG|CURRENCY EXCHANGE|HEAVY DOLLARq",
     "CREDIT CARD|BANKNOTE bYENq|BANKNOTE bDOLLARq|BANKNOTE bEUROq|BANKNOTE bPOUNDq|MONEY bWINGS",
     "CHART bUPWARDS TRENDr YENq|SEAT|PERSONAL COMPUTER|BRIEFCASE|MINIDISC|FLOPPY DISK",
     "OPTICAL DISC|DVD|FILE FOLDER|OPEN FILE FOLDER|PAGE bCURL|PAGE FACING UP|CALENDAR",
     "TEAR-OFF CALENDAR|CARD INDEX|CHART bUPWARDS TREND|CHART bDOWNWARDS TREND|BAR CHART",
     "CLIPBOARD|PUSHPIN|ROUND PUSHPIN|PAPERCLIP|STRAIGHT RULER|TRIANGULAR RULER|BOOKMARK TABS",
     "LEDGER|NOTEBOOK|NOTEBOOK bDECORATIVE COVER|CLOSED BOOK|OPEN BOOK|GREEN BOOK|BLUE BOOK",
     "ORANGE BOOK|BOOKS|NAME BADGE|SCROLL|MEMO|TELEPHONE RECEIVER|PAGER|FAX MACHINE",
     "SATELLITE ANTENNA|PUBLIC ADDRESS LOUDSPEAKER|CHEERING MEGAPHONE|OUTBOX TRAY|INBOX TRAY",
     "PACKAGE|E-MAILf|INCOMING ENVELOPE|ENVELOPE bDOWNWARDSl ABOVE|CLOSED MAILBOX bLOWERED FLAG",
     "CLOSED MAILBOX bRAISED FLAG|OPEN MAILBOX bRAISED FLAG|OPEN MAILBOX bLOWERED FLAG|POSTBOX",
     "POSTAL HORN|NEWSPAPER|MOBILE PHONE|MOBILE PHONE bRIGHTWARDSl AT LEFT|VIBRATION MODE",
     "MOBILE PHONE OFF|NO MOBILE PHONES|ANTENNA bBARS|CAMERA|CAMERA bFLASH|VIDEO CAMERA",
     "TELEVISION|RADIO|VIDEOCASSETTE|FILM PROJECTOR|PORTABLE STEREO|PRAYER BEADS",
     "TWISTED RIGHTWARDSlS|CLOCKWISE RIGHTWARDSr LEFTWARDS OPEN CIRCLElS",
     "CLOCKWISE RIGHTWARDSr LEFTWARDS OPEN CIRCLElS bCIRCLED ONE OVERLAY",
     "CLOCKWISE DOWNWARDSr UPWARDS OPEN CIRCLElS|ANTICLOCKWISE DOWNWARDSr UPWARDS OPEN CIRCLElS",
     "LOW BRIGHTNESSf|HIGH BRIGHTNESSf|SPEAKER bCANCELLATION STROKE|SPEAKER",
     "SPEAKER bONE SOUND WAVE|SPEAKER bTHREE SOUND WAVES|BATTERY|ELECTRIC PLUG",
     "LEFT-POINTING MAGNIFYING GLASS|RIGHT-POINTING MAGNIFYING GLASS|LOCK bINK PEN",
     "CLOSED LOCK bKEY|KEY|LOCK|OPEN LOCK|BELL|BELL bCANCELLATION STROKE|BOOKMARK|LINKf",
     "RADIO BUTTON|BACK bLEFTWARDSl ABOVE|END bLEFTWARDSl ABOVE",
     "ON bEXCLAMATION MARK bwRIGHTl ABOVE|SOON bRIGHTWARDSl ABOVE|TOP bUPWARDSl ABOVE",
     "NO ONE UNDER EIGHTEENf|KEYCAP TEN|INPUTf FOR kCAPITALaS|INPUTf FOR kSMALLaS",
     "INPUTf FOR NUMBERS|INPUTf FORfS|INPUTf FOR LATINaS|FIRE|ELECTRIC TORCH|WRENCH|HAMMER",
     "NUTr BOLT|HOCHO|PISTOL|MICROSCOPE|TELESCOPE|CRYSTAL BALL|SIX POINTED STAR bMIDDLE DOT",
     "JAPANESEf FOR BEGINNER|TRIDENT EMBLEM|oSQUARE BUTTON|iSQUARE BUTTON|LARGE RED CIRCLE",
     "LARGE BLUE CIRCLE|LARGE ORANGE DIAMOND|LARGE BLUE DIAMOND|SMALL ORANGE DIAMOND",
     "SMALL BLUE DIAMOND|UP-POINTING RED TRIANGLE|DOWN-POINTING RED TRIANGLE",
     "UP-POINTING SMALL RED TRIANGLE|DOWN-POINTING SMALL RED TRIANGLE|LOWER mSHADOWED iCIRCLE",
     "UPPER mSHADOWED iCIRCLE|CIRCLED CROSS POMMEE|CROSS POMMEE bHALF-CIRCLE BELOW|CROSS POMMEE",
     "NOTCHED wSEMICIRCLE bTHREE DOTS|NOTCHED mSEMICIRCLE bTHREE DOTS|SYMBOL FOR MARKS CHAPTER",
     "ikCROSS|HEAVY kCROSS|CELTIC CROSS|OMf|DOVE OF PEACE|KAABA|MOSQUE|SYNAGOGUE",
     "MENORAH bNINE BRANCHES|BOWL OF HYGIEIA|CLOCKs ONE OCLOCK|CLOCKs TWO OCLOCK",
     "CLOCKs THREE OCLOCK|CLOCKs FOUR OCLOCK|CLOCKs FIVE OCLOCK|CLOCKs SIX OCLOCK",
     "CLOCKs SEVEN OCLOCK|CLOCKs EIGHT OCLOCK|CLOCKs NINE OCLOCK|CLOCKs TEN OCLOCK",
     "CLOCKs ELEVEN OCLOCK|CLOCKs TWELVE OCLOCK|CLOCKs ONE-THIRTY|CLOCKs TWO-THIRTY",
     "CLOCKs THREE-THIRTY|CLOCKs FOUR-THIRTY|CLOCKs FIVE-THIRTY|CLOCKs SIX-THIRTY",
     "CLOCKs SEVEN-THIRTY|CLOCKs EIGHT-THIRTY|CLOCKs NINE-THIRTY|CLOCKs TEN-THIRTY",
     "CLOCKs ELEVEN-THIRTY|CLOCKs TWELVE-THIRTY|mSPEAKER|mSPEAKER bONE SOUND WAVE",
     "mSPEAKER bTHREE SOUND WAVES|BULLHORN|BULLHORN bSOUND WAVES|RINGING BELL|BOOK|CANDLE",
     "MANTELPIECE CLOCK|oSKULLr CROSSBONES|NO PIRACY|HOLE|MAN IN BUSINESS SUIT LEVITATING",
     "SLEUTH OR SPY|DARK SUNGLASSES|SPIDER|SPIDER WEB|JOYSTICK|MAN DANCING",
     "wHAND TELEPHONE RECEIVER|TELEPHONE RECEIVER bPAGE|mHAND TELEPHONE RECEIVER",
     "iTOUCHTONE TELEPHONE|oTOUCHTONE TELEPHONE|TELEPHONE ON TOP OF MODEM|CLAMSHELL MOBILE PHONE",
     "BACK OF ENVELOPE|STAMPED ENVELOPE|ENVELOPE bLIGHTNING|FLYING ENVELOPE",
     "PEN OVER STAMPED ENVELOPE|LINKED PAPERCLIPS|oPUSHPIN|LOWER wPENCIL|LOWER wBALLPOINT PEN",
     "LOWER wFOUNTAIN PEN|LOWER wPAINTBRUSH|LOWER wCRAYON|wWRITING HAND|TURNED OK HANDq",
     "RAISED HAND bFINGERS SPLAYED|REVERSED RAISED HAND bFINGERS SPLAYED|REVERSED THUMBS UPq",
     "REVERSED THUMBS DOWNq|REVERSED VICTORY HAND|REVERSED HAND bMIDDLE FINGER EXTENDED",
     "RAISED HAND bPART BETWEEN MIDDLEr RING FINGERS|iDOWN POINTING wHAND INDEX",
     "SIDEWAYS iwPOINTING INDEX|SIDEWAYS imPOINTING INDEX|SIDEWAYS owPOINTING INDEX",
     "SIDEWAYS omPOINTING INDEX|owPOINTING BACKHAND INDEX|omPOINTING BACKHAND INDEX",
     "SIDEWAYS iUP POINTING INDEX|SIDEWAYS iDOWN POINTING INDEX|SIDEWAYS oUP POINTING INDEX",
     "SIDEWAYS oDOWN POINTING INDEX|oUP POINTING BACKHAND INDEX|oDOWN POINTING BACKHAND INDEX",
     "oHEART|DESKTOP COMPUTER|KEYBOARDr MOUSE|THREE NETWORKED COMPUTERS|PRINTER",
     "POCKET CALCULATOR|oHARD SHELL FLOPPY DISK|iHARD SHELL FLOPPY DISK|SOFT SHELL FLOPPY DISK",
     "TAPE CARTRIDGE|WIRED KEYBOARD|ONE BUTTON MOUSE|TWO BUTTON MOUSE|THREE BUTTON MOUSE",
     "TRACKBALL|OLD PERSONAL COMPUTER|HARD DISK|SCREEN|PRINTER ICON|FAX ICON|OPTICAL DISC ICON",
     "DOCUMENT bTEXT|DOCUMENT bTEXTr PICTURE|DOCUMENT bPICTURE|FRAME bPICTURE|FRAME bTILES",
     "FRAME bAN X|oFOLDER|FOLDER|OPEN FOLDER|CARD INDEX DIVIDERS|CARD FILE BOX|FILE CABINET",
     "EMPTY NOTE|EMPTY NOTE PAGE|EMPTY NOTE PAD|NOTE|NOTE PAGE|NOTE PAD|EMPTY DOCUMENT",
     "EMPTY PAGE|EMPTY PAGES|DOCUMENT|PAGE|PAGES|WASTEBASKET|SPIRAL NOTE PAD|SPIRAL CALENDAR PAD",
     "DESKTOP WINDOW|MINIMIZE|MAXIMIZE|OVERLAP|CLOCKWISE mAND wSEMICIRCLElS|CANCELLATION X",
     "INCREASE FONT SIZEf|DECREASE FONT SIZEf|COMPRESSION|OLD KEY|ROLLED-UP NEWSPAPER",
     "PAGE bCIRCLED TEXT|STOCK CHART|DAGGER KNIFE|LIPS|SPEAKING HEAD IN SILHOUETTE",
     "THREE RAYS ABOVE|THREE RAYS BELOW|THREE RAYS LEFT|THREE RAYS RIGHT|wSPEECH BUBBLE",
     "mSPEECH BUBBLE|TWO SPEECH BUBBLES|THREE SPEECH BUBBLES|wTHOUGHT BUBBLE|mTHOUGHT BUBBLE",
     "wANGER BUBBLE|mANGER BUBBLE|MOOD BUBBLE|LIGHTNING MOOD BUBBLE|LIGHTNING MOOD",
     "BALLOT BOX bBALLOT|BALLOT SCRIPT X|BALLOT BOX bSCRIPT X|BALLOT BOLD SCRIPT X",
     "BALLOT BOX bBOLD SCRIPT X|LIGHT CHECK MARK|BALLOT BOX bBOLD CHECK|WORLD MAP|MOUNT FUJI",
     "TOKYO TOWER|STATUE OF LIBERTY|SILHOUETTE OF JAPAN|MOYAI|GRINNINGs|GRINNINGs bSMILING EYES",
     "FACE bTEARS OF JOY|SMILINGs bOPEN MOUTH|SMILINGs bOPEN MOUTHr SMILING EYES",
     "SMILINGs bOPEN MOUTHr COLD SWEAT|SMILINGs bOPEN MOUTHr TIGHTLY-CLOSED EYES|SMILINGs bHALO",
     "SMILINGs bHORNS|WINKINGs|SMILINGs bSMILING EYES|FACE SAVOURING DELICIOUS FOOD|RELIEVEDs",
     "SMILINGs bHEART-SHAPED EYES|SMILINGs bSUNGLASSES|SMIRKINGs|NEUTRALs|EXPRESSIONLESSs",
     "UNAMUSEDs|FACE bCOLD SWEAT|PENSIVEs|CONFUSEDs|CONFOUNDEDs|KISSINGs|FACE THROWING A KISS",
     "KISSINGs bSMILING EYES|KISSINGs bCLOSED EYES|FACE bSTUCK-OUT TONGUE",
     "FACE bSTUCK-OUT TONGUEr WINKING EYE|FACE bSTUCK-OUT TONGUEr TIGHTLY-CLOSED EYES",
     "DISAPPOINTEDs|WORRIEDs|ANGRYs|POUTINGs|CRYINGs|PERSEVERINGs|FACE bLOOK OF TRIUMPH",
     "DISAPPOINTED BUT RELIEVEDs|FROWNINGs bOPEN MOUTH|ANGUISHEDs|FEARFULs|WEARYs|SLEEPYs|TIREDs",
     "GRIMACINGs|LOUDLY CRYINGs|FACE bOPEN MOUTH|HUSHEDs|FACE bOPEN MOUTHr COLD SWEAT",
     "FACE SCREAMING IN FEAR|ASTONISHEDs|FLUSHEDs|SLEEPINGs|DIZZYs|FACE WITHOUT MOUTH",
     "FACE bMEDICAL MASK|GRINNING CATs bSMILING EYES|CATs bTEARS OF JOY|SMILING CATs bOPEN MOUTH",
     "SMILING CATs bHEART-SHAPED EYES|CATs bWRY SMILE|KISSING CATs bCLOSED EYES|POUTING CATs",
     "CRYING CATs|WEARY CATs|SLIGHTLY FROWNINGs|SLIGHTLY SMILINGs|UPSIDE-DOWNs",
     "FACE bROLLING EYES|FACE bNO GOOD GESTURE|FACE bOK GESTURE|PERSON BOWING DEEPLY",
     "SEE-NO-EVIL MONKEY|HEAR-NO-EVIL MONKEY|SPEAK-NO-EVIL MONKEY|HAPPY PERSON RAISING ONE HAND",
     "PERSON RAISING BOTH HANDS IN CELEBRATION|PERSON FROWNING|PERSON bPOUTINGs",
     "PERSON bFOLDED HANDS"]),
   (0x1F680, ["ROCKET|HELICOPTER|STEAM LOCOMOTIVE|RAILWAY CAR|HIGH-SPEED TRAIN",
     "HIGH-SPEED TRAIN bBULLET NOSE|TRAIN|METRO|LIGHT RAIL|STATION|TRAM|TRAM CAR|BUS",
     "ONCOMING BUS|TROLLEYBUS|BUS STOP|MINIBUS|AMBULANCE|FIRE ENGINE|POLICE CAR",
     "ONCOMING POLICE CAR|TAXI|ONCOMING TAXI|AUTOMOBILE|ONCOMING AUTOMOBILE|RECREATIONAL VEHICLE",
     "DELIVERY TRUCK|ARTICULATED LORRY|TRACTOR|MONORAIL|MOUNTAIN RAILWAY|SUSPENSION RAILWAY",
     "MOUNTAIN CABLEWAY|AERIAL TRAMWAY|SHIP|ROWBOAT|SPEEDBOAT|HORIZONTAL TRAFFIC LIGHT",
     "VERTICAL TRAFFIC LIGHT|CONSTRUCTIONq|POLICE CARS REVOLVING LIGHT|TRIANGULAR FLAG ON POST",
     "DOOR|NO ENTRYq|SMOKINGf|NO SMOKINGf|PUT LITTER IN ITS PLACEf|DO NOT LITTERf|POTABLE WATERf",
     "NON-POTABLE WATERf|BICYCLE|NO BICYCLES|BICYCLIST|MOUNTAIN BICYCLIST|PEDESTRIAN",
     "NO PEDESTRIANS|CHILDREN CROSSING|MENSf|WOMENSf|RESTROOM|BABYf|TOILET|WATER CLOSET|SHOWER",
     "BATH|BATHTUB|PASSPORT CONTROL|CUSTOMS|BAGGAGE CLAIM|wLUGGAGE|TRIANGLE bROUNDED CORNERS",
     "PROHIBITEDq|CIRCLED INFORMATION SOURCE|BOYSf|GIRLSf|COUCHr LAMP|SLEEPING ACCOMMODATION",
     "SHOPPING BAGS|BELLHOP BELL|BED|PLACE OF WORSHIP|OCTAGONALq|SHOPPING TROLLEY|STUPA|PAGODA",
     "HINDU TEMPLE|HUT|ELEVATOR"]),
   (0x1F6DD, ["PLAYGROUND SLIDE|WHEEL|RING BUOY|HAMMERr WRENCH|SHIELD|OIL DRUM|MOTORWAY",
     "RAILWAY TRACK|MOTOR BOAT|UP-POINTING MILITARY AIRPLANE|UP-POINTING AIRPLANE",
     "UP-POINTING SMALL AIRPLANE|SMALL AIRPLANE|NORTHEAST-POINTING AIRPLANE|AIRPLANE DEPARTURE",
     "AIRPLANE ARRIVING"]),
   (0x1F6F0, ["SATELLITE|ONCOMING FIRE ENGINE|DIESEL LOCOMOTIVE|PASSENGER SHIP|SCOOTER",
     "MOTOR SCOOTER|CANOE|SLED|FLYING SAUCER|SKATEBOARD|AUTO RICKSHAW|PICKUP TRUCK|ROLLER SKATE"]),
   (0x1F7E0, ["LARGE ORANGE CIRCLE|LARGE YELLOW CIRCLE|LARGE GREEN CIRCLE|LARGE PURPLE CIRCLE",
     "LARGE BROWN CIRCLE|LARGE RED SQUARE|LARGE BLUE SQUARE|LARGE ORANGE SQUARE",
     "LARGE YELLOW SQUARE|LARGE GREEN SQUARE|LARGE PURPLE SQUARE|LARGE BROWN SQUARE"]),
   (0x1F7F0, ["HEAVY EQUALSq"]),
   (0x1F90C, ["PINCHED FINGERS|iHEART|BROWN HEART|PINCHING HAND|ZIPPER-MOUTHs|MONEY-MOUTHs",
     "FACE bTHERMOMETER|NERDs|THINKINGs|FACE bHEAD-BANDAGE|ROBOTs|HUGGINGs|SIGN OF THE HORNS",
     "CALL ME HAND|RAISED BACK OF HAND|LEFT-FACING FIST|RIGHT-FACING FIST|HANDSHAKE",
     "HAND bINDEXr MIDDLE FINGERS CROSSED|I LOVE YOU HANDq|FACE bCOWBOY HAT|CLOWNs|NAUSEATEDs",
     "ROLLING ON THE FLOOR LAUGHING|DROOLINGs|LYINGs|FACE PALM|SNEEZINGs",
     "FACE bONE EYEBROW RAISED|GRINNINGs bSTAR EYES|GRINNINGs bONE LARGEr ONE SMALL EYE",
     "FACE bFINGER COVERING CLOSED LIPS|SERIOUSs bSYMBOLS COVERING MOUTH",
     "SMILINGs bSMILING EYESr HAND COVERING MOUTH|FACE bOPEN MOUTH VOMITING",
     "SHOCKEDs bEXPLODING HEAD|PREGNANT WOMAN|BREAST-FEEDING|PALMS UP TOGETHER|SELFIE|PRINCE",
     "MAN IN TUXEDO|MOTHER CHRISTMAS|SHRUG|PERSON DOING CARTWHEEL|JUGGLING|FENCER",
     "MODERN PENTATHLON|WRESTLERS|WATER POLO|HANDBALL|DIVING MASK|WILTED FLOWER|DRUM bDRUMSTICKS",
     "CLINKING GLASSES|TUMBLER GLASS|SPOON|GOAL NET|RIFLE|FIRST PLACE MEDAL|SECOND PLACE MEDAL",
     "THIRD PLACE MEDAL|BOXING GLOVE|MARTIAL ARTS UNIFORM|CURLING STONE|LACROSSE STICKr BALL",
     "SOFTBALL|FLYING DISC|CROISSANT|AVOCADO|CUCUMBER|BACON|POTATO|CARROT|BAGUETTE BREAD",
     "GREEN SALAD|SHALLOW PAN OF FOOD|STUFFED FLATBREAD|EGG|GLASS OF MILK|PEANUTS|KIWIFRUIT",
     "PANCAKES|DUMPLING|FORTUNE COOKIE|TAKEOUT BOX|CHOPSTICKS|BOWL bSPOON|CUP bSTRAW|COCONUT",
     "BROCCOLI|PIE|PRETZEL|CUT OF MEAT|SANDWICH|CANNED FOOD|LEAFY GREEN|MANGO|MOON CAKE|BAGEL",
     "SMILINGs bSMILING EYESr THREE HEARTS|YAWNINGs|SMILINGs bTEAR|FACE bPARTY HORNr PARTY HAT",
     "FACE bUNEVEN EYESr WAVY MOUTH|OVERHEATEDs|FREEZINGs|NINJA|DISGUISEDs",
     "FACE HOLDING BACK TEARS|FACE bPLEADING EYES|SARI|LAB COAT|GOGGLES|HIKING BOOT|FLAT SHOE",
     "CRAB|LIONs|SCORPION|TURKEY|UNICORNs|EAGLE|DUCK|BAT|SHARK|OWL|FOXs|BUTTERFLY|DEER|GORILLA",
     "LIZARD|RHINOCEROS|SHRIMP|SQUID|GIRAFFEs|ZEBRAs|HEDGEHOG|SAUROPOD|T-REX|CRICKET|KANGAROO",
     "LLAMA|PEACOCK|HIPPOPOTAMUS|PARROT|RACCOON|LOBSTER|MOSQUITO|MICROBE|BADGER|SWAN|MAMMOTH",
     "DODO|SLOTH|OTTER|ORANGUTAN|SKUNK|FLAMINGO|OYSTER|BEAVER|BISON|SEAL|GUIDE DOG|PROBING CANE",
     "EMOJI COMPONENT RED HAIR|EMOJI COMPONENT CURLY HAIR|EMOJI COMPONENT BALD",
     "EMOJI COMPONENT iHAIR|BONE|LEG|FOOT|TOOTH|SUPERHERO|SUPERVILLAIN|SAFETY VEST",
     "EAR bHEARING AID|MOTORIZED WHEELCHAIR|MANUAL WHEELCHAIR|MECHANICAL ARM|MECHANICAL LEG",
     "CHEESE WEDGE|CUPCAKE|SALT SHAKER|BEVERAGE BOX|GARLIC|ONION|FALAFEL|WAFFLE|BUTTER",
     "MATE DRINK|ICE CUBE|BUBBLE TEA|TROLL|STANDING PERSON|KNEELING PERSON|DEAF PERSON",
     "FACE bMONOCLE|ADULT|CHILD|OLDER ADULT|BEARDED PERSON|PERSON bHEADSCARF",
     "PERSON IN STEAMY ROOM|PERSON CLIMBING|PERSON IN LOTUS POSITION|MAGE|FAIRY|VAMPIRE",
     "MERPERSON|ELF|GENIE|ZOMBIE|BRAIN|ORANGE HEART|BILLED CAP|SCARF|GLOVES|COAT|SOCKS",
     "RED GIFT ENVELOPE|FIRECRACKER|JIGSAW PUZZLE PIECE|TEST TUBE|PETRI DISH|DNA DOUBLE HELIX",
     "COMPASS|ABACUS|FIRE EXTINGUISHER|TOOLBOX|BRICK|MAGNET|LUGGAGE|LOTION BOTTLE",
     "SPOOL OF THREAD|BALL OF YARN|SAFETY PIN|TEDDY BEAR|BROOM|BASKET|ROLL OF PAPER|BAR OF SOAP",
     "SPONGE|RECEIPT|NAZAR AMULET"]),
   (0x1FA70, ["BALLET SHOES|ONE-PIECE SWIMSUIT|BRIEFS|SHORTS|THONG SANDAL"]),
   (0x1FA78, ["DROP OF BLOOD|ADHESIVE BANDAGE|STETHOSCOPE|X-RAY|CRUTCH"]),
   (0x1FA80, ["YO-YO|KITE|PARACHUTE|BOOMERANG|MAGIC WAND|PINATA|NESTING DOLLS"]),
   (0x1FA90, ["RINGED PLANET|CHAIR|RAZOR|AXE|DIYA LAMP|BANJO|MILITARY HELMET|ACCORDION|LONG DRUM",
     "COIN|CARPENTRY SAW|SCREWDRIVER|LADDER|HOOK|MIRROR|WINDOW|PLUNGER|SEWING NEEDLE|KNOT|BUCKET",
     "MOUSE TRAP|TOOTHBRUSH|HEADSTONE|PLACARD|ROCK|MIRROR BALL|IDENTIFICATION CARD|LOW BATTERY",
     "HAMSA"]),
   (0x1FAB0, ["FLY|WORM|BEETLE|COCKROACH|POTTED PLANT|WOOD|FEATHER|LOTUS|CORAL|EMPTY NEST",
     "NEST bEGGS"]),
   (0x1FAC0, ["ANATOMICAL HEART|LUNGS|PEOPLE HUGGING|PREGNANT MAN|PREGNANT PERSON|PERSON bCROWN"]),
   (0x1FAD0, ["BLUEBERRIES|BELL PEPPER|OLIVE|FLATBREAD|TAMALE|FONDUE|TEAPOT|POURING LIQUID|BEANS",
     "JAR"]),
   (0x1FAE0, ["MELTINGs|SALUTINGs|FACE bOPEN EYESr HAND OVER MOUTH|FACE bPEEKING EYE",
     "FACE bDIAGONAL MOUTH|DOTTED LINEs|BITING LIP|BUBBLES"]),
   (0x1FAF0, ["HAND bINDEX FINGERr THUMB CROSSED|RIGHTWARDS HAND|LEFTWARDS HAND|PALM DOWN HAND",
     "PALM UP HAND|INDEX POINTING AT THE VIEWER|HEART HANDS"])]

def characterAliases : List (String × Nat) :=
  [("NULL", 0x0), ("START OF HEADING", 0x1), ("START OF TEXT", 0x2), ("END OF TEXT", 0x3),
   ("END OF TRANSMISSION", 0x4), ("ENQUIRY", 0x5), ("ACKNOWLEDGE", 0x6), ("ALERT", 0x7),
   ("BACKSPACE", 0x8), ("CHARACTER TABULATION", 0x9), ("HORIZONTAL TABULATION", 0x9), ("TAB", 0x9),
   ("LINE FEED", 0xA), ("NEW LINE", 0xA), ("END OF LINE", 0xA), ("LINE TABULATION", 0xB),
   ("VERTICAL TABULATION", 0xB), ("FORM FEED", 0xC), ("CARRIAGE RETURN", 0xD), ("SHIFT OUT", 0xE),
   ("SHIFT IN", 0xF), ("DATA LINK ESCAPE", 0x10), ("DEVICE CONTROL ONE", 0x11),
   ("DEVICE CONTROL TWO", 0x12), ("DEVICE CONTROL THREE", 0x13), ("DEVICE CONTROL FOUR", 0x14),
   ("NEGATIVE ACKNOWLEDGE", 0x15), ("SYNCHRONOUS IDLE", 0x16), ("END OF TRANSMISSION BLOCK", 0x17),
   ("CANCEL", 0x18), ("END OF MEDIUM", 0x19), ("SUBSTITUTE", 0x1A), ("ESCAPE", 0x1B),
   ("INFORMATION SEPARATOR FOUR", 0x1C), ("INFORMATION SEPARATOR THREE", 0x1D),
   ("INFORMATION SEPARATOR TWO", 0x1E), ("INFORMATION SEPARATOR ONE", 0x1F),
   ("FILE SEPARATOR", 0x1C), ("GROUP SEPARATOR", 0x1D), ("RECORD SEPARATOR", 0x1E),
   ("UNIT SEPARATOR", 0x1F), ("DELETE", 0x7F), ("NEXT LINE", 0x85), ("NUL", 0x0), ("SOH", 0x1),
   ("STX", 0x2), ("ETX", 0x3), ("EOT", 0x4), ("ENQ", 0x5), ("ACK", 0x6), ("BEL", 0x7), ("BS", 0x8),
   ("HT", 0x9), ("LF", 0xA), ("NL", 0xA), ("EOL", 0xA), ("VT", 0xB), ("FF", 0xC), ("CR", 0xD),
   ("SO", 0xE), ("SI", 0xF), ("DLE", 0x10), ("DC1", 0x11), ("DC2", 0x12), ("DC3", 0x13),
   ("DC4", 0x14), ("NAK", 0x15), ("SYN", 0x16), ("ETB", 0x17), ("CAN", 0x18), ("SUB", 0x1A),
   ("ESC", 0x1B), ("FS", 0x1C), ("GS", 0x1D), ("RS", 0x1E), ("US", 0x1F), ("SP", 0x20),
   ("DEL", 0x7F), ("NEL", 0x85), ("NBSP", 0xA0), ("SHY", 0xAD), ("ZWSP", 0x200B), ("ZWNJ", 0x200C),
   ("ZWJ", 0x200D), ("LRM", 0x200E), ("RLM", 0x200F), ("WJ", 0x2060), ("NNBSP", 0x202F),
   ("BOM", 0xFEFF), ("ZWNBSP", 0xFEFF), ("BYTE ORDER MARK", 0xFEFF), ("LRE", 0x202A),
   ("RLE", 0x202B), ("PDF", 0x202C), ("LRO", 0x202D), ("RLO", 0x202E), ("LRI", 0x2066),
   ("RLI", 0x2067), ("FSI", 0x2068), ("PDI", 0x2069), ("CGJ", 0x34F), ("VS16", 0xFE0F),
   ("LATIN SMALL LETTER GHA", 0x1A3)]

def fullName (s : List Char) : List Char :=
  s.flatMap fun c => match nameAbbreviations.lookup c with
    | some phrase => phrase.toList
    | none => [c]

def chineseRanges : List (Nat × Nat) :=
  [(0x3400, 0x4DBF), (0x4E00, 0x9FFF), (0x20000, 0x2A6DF), (0x2A700, 0x2B738), (0x2B740, 0x2B81D),
   (0x2B820, 0x2CEA1), (0x2CEB0, 0x2EBE0), (0x30000, 0x3134A)]

def chineseCode? (name : List Char) : Option Nat :=
  let title := "CJK UNIFIED IDEOGRAPH-".toList
  let ds := name.drop title.length
  if title.isPrefixOf name && (ds.length == 4 || ds.length == 5) && !ds.any Char.isLower then do
    let code ← ds.foldlM (fun n c => (hexValue? c).map (16 * n + ·)) 0
    if chineseRanges.any fun (low, high) => low ≤ code && code ≤ high then some code else none
  else none

/-- The code point of the character that has a name. Letters of either case will do. -/
def codeOfName? (name : List Char) : Option Nat :=
  let wanted := name.map Char.toUpper
  let listed := characterNames.findSome? fun (start, lines) =>
    ((entriesOf lines).findIdx? (fullName · == wanted)).map (start + ·)
  (chineseCode? name).orElse fun _ => listed.orElse fun _ =>
    characterAliases.lookup (String.ofList wanted)

end PageServer.Text
