/-!
# Names of letters

Latin, Greek, Cyrillic and the scripts from Armenian to Nko, with the signs of ASCII.
-/

namespace Crontab.Text.Names

/-- The names from U+0000 on. -/
def letters : List String :=
  ["@20/0SPACE/0EXCLAMATION MARK/0QUOTATION MARK/0NUMBER SIGN/0DOLLAR SIGN/0PERCENT SIGN",
    "0AMPERSAND/0APOSTROPHE/0LEFT PARENTHESIS/0RIGHT PARENTHESIS/0ASTERISK/0PLUS SIGN/0COMMA",
    "0HYPHEN-MINUS/0FULL STOP/0SOLIDUS/0DIGIT ZERO/1ONE/1TWO/1THREE/1FOUR/1FIVE/1SIX/1SEVEN",
    "1EIGHT/1NINE/0COLON/0SEMICOLON/0LESS-THAN SIGN/0EQUALS SIGN/0GREATER-THAN SIGN",
    "0QUESTION MARK/0COMMERCIAL AT/0LATIN CAPITAL LETTER A/3B/3C/3D/3E/3F/3G/3H/3I/3J/3K/3L/3M/3N",
    "3O/3P/3Q/3R/3S/3T/3U/3V/3W/3X/3Y/3Z/0LEFT SQUARE BRACKET/0REVERSE SOLIDUS",
    "0RIGHT SQUARE BRACKET/0CIRCUMFLEX ACCENT/0LOW LINE/0GRAVE ACCENT/0LATIN SMALL LETTER A/3B/3C",
    "3D/3E/3F/3G/3H/3I/3J/3K/3L/3M/3N/3O/3P/3Q/3R/3S/3T/3U/3V/3W/3X/3Y/3Z/0LEFT CURLY BRACKET",
    "0VERTICAL LINE/0RIGHT CURLY BRACKET/0TILDE/@A0/0NO-BREAK SPACE/0INVERTED EXCLAMATION MARK",
    "0CENT SIGN/0POUND SIGN/0CURRENCY SIGN/0YEN SIGN/0BROKEN BAR/0SECTION SIGN/0DIAERESIS",
    "0COPYRIGHT SIGN/0FEMININE ORDINAL INDICATOR/0LEFT-POINTING DOUBLE ANGLE QUOTATION MARK",
    "0NOT SIGN/0SOFT HYPHEN/0REGISTERED SIGN/0MACRON/0DEGREE SIGN/0PLUS-MINUS SIGN",
    "0SUPERSCRIPT TWO/1THREE/0ACUTE ACCENT/0MICRO SIGN/0PILCROW SIGN/0MIDDLE DOT/0CEDILLA",
    "0SUPERSCRIPT ONE/0MASCULINE ORDINAL INDICATOR/0RIGHT-POINTING DOUBLE ANGLE QUOTATION MARK",
    "0VULGAR FRACTION ONE QUARTER/3HALF/2THREE QUARTERS/0INVERTED QUESTION MARK",
    "0LATIN CAPITAL LETTER A WITH GRAVE/5ACUTE/5CIRCUMFLEX/5TILDE/5DIAERESIS/5RING ABOVE/3AE",
    "3C WITH CEDILLA/3E WITH GRAVE/5ACUTE/5CIRCUMFLEX/5DIAERESIS/3I WITH GRAVE/5ACUTE/5CIRCUMFLEX",
    "5DIAERESIS/3ETH/3N WITH TILDE/3O WITH GRAVE/5ACUTE/5CIRCUMFLEX/5TILDE/5DIAERESIS",
    "0MULTIPLICATION SIGN/0LATIN CAPITAL LETTER O WITH STROKE/3U WITH GRAVE/5ACUTE/5CIRCUMFLEX",
    "5DIAERESIS/3Y WITH ACUTE/3THORN/1SMALL LETTER SHARP S/3A WITH GRAVE/5ACUTE/5CIRCUMFLEX",
    "5TILDE/5DIAERESIS/5RING ABOVE/3AE/3C WITH CEDILLA/3E WITH GRAVE/5ACUTE/5CIRCUMFLEX",
    "5DIAERESIS/3I WITH GRAVE/5ACUTE/5CIRCUMFLEX/5DIAERESIS/3ETH/3N WITH TILDE/3O WITH GRAVE",
    "5ACUTE/5CIRCUMFLEX/5TILDE/5DIAERESIS/0DIVISION SIGN/0LATIN SMALL LETTER O WITH STROKE",
    "3U WITH GRAVE/5ACUTE/5CIRCUMFLEX/5DIAERESIS/3Y WITH ACUTE/3THORN/3Y WITH DIAERESIS",
    "1CAPITAL LETTER A WITH MACRON/1SMALL LETTER A WITH MACRON/1CAPITAL LETTER A WITH BREVE",
    "1SMALL LETTER A WITH BREVE/1CAPITAL LETTER A WITH OGONEK/1SMALL LETTER A WITH OGONEK",
    "1CAPITAL LETTER C WITH ACUTE/1SMALL LETTER C WITH ACUTE/1CAPITAL LETTER C WITH CIRCUMFLEX",
    "1SMALL LETTER C WITH CIRCUMFLEX/1CAPITAL LETTER C WITH DOT ABOVE",
    "1SMALL LETTER C WITH DOT ABOVE/1CAPITAL LETTER C WITH CARON/1SMALL LETTER C WITH CARON",
    "1CAPITAL LETTER D WITH CARON/1SMALL LETTER D WITH CARON/1CAPITAL LETTER D WITH STROKE",
    "1SMALL LETTER D WITH STROKE/1CAPITAL LETTER E WITH MACRON/1SMALL LETTER E WITH MACRON",
    "1CAPITAL LETTER E WITH BREVE/1SMALL LETTER E WITH BREVE/1CAPITAL LETTER E WITH DOT ABOVE",
    "1SMALL LETTER E WITH DOT ABOVE/1CAPITAL LETTER E WITH OGONEK/1SMALL LETTER E WITH OGONEK",
    "1CAPITAL LETTER E WITH CARON/1SMALL LETTER E WITH CARON/1CAPITAL LETTER G WITH CIRCUMFLEX",
    "1SMALL LETTER G WITH CIRCUMFLEX/1CAPITAL LETTER G WITH BREVE/1SMALL LETTER G WITH BREVE",
    "1CAPITAL LETTER G WITH DOT ABOVE/1SMALL LETTER G WITH DOT ABOVE",
    "1CAPITAL LETTER G WITH CEDILLA/1SMALL LETTER G WITH CEDILLA",
    "1CAPITAL LETTER H WITH CIRCUMFLEX/1SMALL LETTER H WITH CIRCUMFLEX",
    "1CAPITAL LETTER H WITH STROKE/1SMALL LETTER H WITH STROKE/1CAPITAL LETTER I WITH TILDE",
    "1SMALL LETTER I WITH TILDE/1CAPITAL LETTER I WITH MACRON/1SMALL LETTER I WITH MACRON",
    "1CAPITAL LETTER I WITH BREVE/1SMALL LETTER I WITH BREVE/1CAPITAL LETTER I WITH OGONEK",
    "1SMALL LETTER I WITH OGONEK/1CAPITAL LETTER I WITH DOT ABOVE/1SMALL LETTER DOTLESS I",
    "1CAPITAL LIGATURE IJ/1SMALL LIGATURE IJ/1CAPITAL LETTER J WITH CIRCUMFLEX",
    "1SMALL LETTER J WITH CIRCUMFLEX/1CAPITAL LETTER K WITH CEDILLA/1SMALL LETTER K WITH CEDILLA",
    "3KRA/1CAPITAL LETTER L WITH ACUTE/1SMALL LETTER L WITH ACUTE/1CAPITAL LETTER L WITH CEDILLA",
    "1SMALL LETTER L WITH CEDILLA/1CAPITAL LETTER L WITH CARON/1SMALL LETTER L WITH CARON",
    "1CAPITAL LETTER L WITH MIDDLE DOT/1SMALL LETTER L WITH MIDDLE DOT",
    "1CAPITAL LETTER L WITH STROKE/1SMALL LETTER L WITH STROKE/1CAPITAL LETTER N WITH ACUTE",
    "1SMALL LETTER N WITH ACUTE/1CAPITAL LETTER N WITH CEDILLA/1SMALL LETTER N WITH CEDILLA",
    "1CAPITAL LETTER N WITH CARON/1SMALL LETTER N WITH CARON/4PRECEDED BY APOSTROPHE",
    "1CAPITAL LETTER ENG/1SMALL LETTER ENG/1CAPITAL LETTER O WITH MACRON",
    "1SMALL LETTER O WITH MACRON/1CAPITAL LETTER O WITH BREVE/1SMALL LETTER O WITH BREVE",
    "1CAPITAL LETTER O WITH DOUBLE ACUTE/1SMALL LETTER O WITH DOUBLE ACUTE/1CAPITAL LIGATURE OE",
    "1SMALL LIGATURE OE/1CAPITAL LETTER R WITH ACUTE/1SMALL LETTER R WITH ACUTE",
    "1CAPITAL LETTER R WITH CEDILLA/1SMALL LETTER R WITH CEDILLA/1CAPITAL LETTER R WITH CARON",
    "1SMALL LETTER R WITH CARON/1CAPITAL LETTER S WITH ACUTE/1SMALL LETTER S WITH ACUTE",
    "1CAPITAL LETTER S WITH CIRCUMFLEX/1SMALL LETTER S WITH CIRCUMFLEX",
    "1CAPITAL LETTER S WITH CEDILLA/1SMALL LETTER S WITH CEDILLA/1CAPITAL LETTER S WITH CARON",
    "1SMALL LETTER S WITH CARON/1CAPITAL LETTER T WITH CEDILLA/1SMALL LETTER T WITH CEDILLA",
    "1CAPITAL LETTER T WITH CARON/1SMALL LETTER T WITH CARON/1CAPITAL LETTER T WITH STROKE",
    "1SMALL LETTER T WITH STROKE/1CAPITAL LETTER U WITH TILDE/1SMALL LETTER U WITH TILDE",
    "1CAPITAL LETTER U WITH MACRON/1SMALL LETTER U WITH MACRON/1CAPITAL LETTER U WITH BREVE",
    "1SMALL LETTER U WITH BREVE/1CAPITAL LETTER U WITH RING ABOVE/1SMALL LETTER U WITH RING ABOVE",
    "1CAPITAL LETTER U WITH DOUBLE ACUTE/1SMALL LETTER U WITH DOUBLE ACUTE",
    "1CAPITAL LETTER U WITH OGONEK/1SMALL LETTER U WITH OGONEK/1CAPITAL LETTER W WITH CIRCUMFLEX",
    "1SMALL LETTER W WITH CIRCUMFLEX/1CAPITAL LETTER Y WITH CIRCUMFLEX",
    "1SMALL LETTER Y WITH CIRCUMFLEX/1CAPITAL LETTER Y WITH DIAERESIS/3Z WITH ACUTE",
    "1SMALL LETTER Z WITH ACUTE/1CAPITAL LETTER Z WITH DOT ABOVE/1SMALL LETTER Z WITH DOT ABOVE",
    "1CAPITAL LETTER Z WITH CARON/1SMALL LETTER Z WITH CARON/3LONG S/3B WITH STROKE",
    "1CAPITAL LETTER B WITH HOOK/5TOPBAR/1SMALL LETTER B WITH TOPBAR/1CAPITAL LETTER TONE SIX",
    "1SMALL LETTER TONE SIX/1CAPITAL LETTER OPEN O/3C WITH HOOK/1SMALL LETTER C WITH HOOK",
    "1CAPITAL LETTER AFRICAN D/3D WITH HOOK/5TOPBAR/1SMALL LETTER D WITH TOPBAR/3TURNED DELTA",
    "1CAPITAL LETTER REVERSED E/3SCHWA/3OPEN E/3F WITH HOOK/1SMALL LETTER F WITH HOOK",
    "1CAPITAL LETTER G WITH HOOK/3GAMMA/1SMALL LETTER HV/1CAPITAL LETTER IOTA/3I WITH STROKE",
    "3K WITH HOOK/1SMALL LETTER K WITH HOOK/3L WITH BAR/3LAMBDA WITH STROKE",
    "1CAPITAL LETTER TURNED M/3N WITH LEFT HOOK/1SMALL LETTER N WITH LONG RIGHT LEG",
    "1CAPITAL LETTER O WITH MIDDLE TILDE/5HORN/1SMALL LETTER O WITH HORN/1CAPITAL LETTER OI",
    "1SMALL LETTER OI/1CAPITAL LETTER P WITH HOOK/1SMALL LETTER P WITH HOOK/1LETTER YR",
    "1CAPITAL LETTER TONE TWO/1SMALL LETTER TONE TWO/1CAPITAL LETTER ESH",
    "1LETTER REVERSED ESH LOOP/1SMALL LETTER T WITH PALATAL HOOK/1CAPITAL LETTER T WITH HOOK",
    "1SMALL LETTER T WITH HOOK/1CAPITAL LETTER T WITH RETROFLEX HOOK/3U WITH HORN",
    "1SMALL LETTER U WITH HORN/1CAPITAL LETTER UPSILON/3V WITH HOOK/3Y WITH HOOK",
    "1SMALL LETTER Y WITH HOOK/1CAPITAL LETTER Z WITH STROKE/1SMALL LETTER Z WITH STROKE",
    "1CAPITAL LETTER EZH/4REVERSED/1SMALL LETTER EZH REVERSED/4WITH TAIL/1LETTER TWO WITH STROKE",
    "1CAPITAL LETTER TONE FIVE/1SMALL LETTER TONE FIVE/1LETTER INVERTED GLOTTAL STOP WITH STROKE",
    "2WYNN/2DENTAL CLICK/2LATERAL CLICK/2ALVEOLAR CLICK/2RETROFLEX CLICK",
    "1CAPITAL LETTER DZ WITH CARON/3D WITH SMALL LETTER Z WITH CARON/1SMALL LETTER DZ WITH CARON",
    "1CAPITAL LETTER LJ/3L WITH SMALL LETTER J/1SMALL LETTER LJ/1CAPITAL LETTER NJ",
    "3N WITH SMALL LETTER J/1SMALL LETTER NJ/1CAPITAL LETTER A WITH CARON",
    "1SMALL LETTER A WITH CARON/1CAPITAL LETTER I WITH CARON/1SMALL LETTER I WITH CARON",
    "1CAPITAL LETTER O WITH CARON/1SMALL LETTER O WITH CARON/1CAPITAL LETTER U WITH CARON",
    "1SMALL LETTER U WITH CARON/1CAPITAL LETTER U WITH DIAERESIS AND MACRON",
    "1SMALL LETTER U WITH DIAERESIS AND MACRON/1CAPITAL LETTER U WITH DIAERESIS AND ACUTE",
    "1SMALL LETTER U WITH DIAERESIS AND ACUTE/1CAPITAL LETTER U WITH DIAERESIS AND CARON",
    "1SMALL LETTER U WITH DIAERESIS AND CARON/1CAPITAL LETTER U WITH DIAERESIS AND GRAVE",
    "1SMALL LETTER U WITH DIAERESIS AND GRAVE/3TURNED E",
    "1CAPITAL LETTER A WITH DIAERESIS AND MACRON/1SMALL LETTER A WITH DIAERESIS AND MACRON",
    "1CAPITAL LETTER A WITH DOT ABOVE AND MACRON/1SMALL LETTER A WITH DOT ABOVE AND MACRON",
    "1CAPITAL LETTER AE WITH MACRON/1SMALL LETTER AE WITH MACRON/1CAPITAL LETTER G WITH STROKE",
    "1SMALL LETTER G WITH STROKE/1CAPITAL LETTER G WITH CARON/1SMALL LETTER G WITH CARON",
    "1CAPITAL LETTER K WITH CARON/1SMALL LETTER K WITH CARON/1CAPITAL LETTER O WITH OGONEK",
    "1SMALL LETTER O WITH OGONEK/1CAPITAL LETTER O WITH OGONEK AND MACRON",
    "1SMALL LETTER O WITH OGONEK AND MACRON/1CAPITAL LETTER EZH WITH CARON",
    "1SMALL LETTER EZH WITH CARON/3J WITH CARON/1CAPITAL LETTER DZ/3D WITH SMALL LETTER Z",
    "1SMALL LETTER DZ/1CAPITAL LETTER G WITH ACUTE/1SMALL LETTER G WITH ACUTE",
    "1CAPITAL LETTER HWAIR/3WYNN/3N WITH GRAVE/1SMALL LETTER N WITH GRAVE",
    "1CAPITAL LETTER A WITH RING ABOVE AND ACUTE/1SMALL LETTER A WITH RING ABOVE AND ACUTE",
    "1CAPITAL LETTER AE WITH ACUTE/1SMALL LETTER AE WITH ACUTE",
    "1CAPITAL LETTER O WITH STROKE AND ACUTE/1SMALL LETTER O WITH STROKE AND ACUTE",
    "1CAPITAL LETTER A WITH DOUBLE GRAVE/1SMALL LETTER A WITH DOUBLE GRAVE",
    "1CAPITAL LETTER A WITH INVERTED BREVE/1SMALL LETTER A WITH INVERTED BREVE",
    "1CAPITAL LETTER E WITH DOUBLE GRAVE/1SMALL LETTER E WITH DOUBLE GRAVE",
    "1CAPITAL LETTER E WITH INVERTED BREVE/1SMALL LETTER E WITH INVERTED BREVE",
    "1CAPITAL LETTER I WITH DOUBLE GRAVE/1SMALL LETTER I WITH DOUBLE GRAVE",
    "1CAPITAL LETTER I WITH INVERTED BREVE/1SMALL LETTER I WITH INVERTED BREVE",
    "1CAPITAL LETTER O WITH DOUBLE GRAVE/1SMALL LETTER O WITH DOUBLE GRAVE",
    "1CAPITAL LETTER O WITH INVERTED BREVE/1SMALL LETTER O WITH INVERTED BREVE",
    "1CAPITAL LETTER R WITH DOUBLE GRAVE/1SMALL LETTER R WITH DOUBLE GRAVE",
    "1CAPITAL LETTER R WITH INVERTED BREVE/1SMALL LETTER R WITH INVERTED BREVE",
    "1CAPITAL LETTER U WITH DOUBLE GRAVE/1SMALL LETTER U WITH DOUBLE GRAVE",
    "1CAPITAL LETTER U WITH INVERTED BREVE/1SMALL LETTER U WITH INVERTED BREVE",
    "1CAPITAL LETTER S WITH COMMA BELOW/1SMALL LETTER S WITH COMMA BELOW",
    "1CAPITAL LETTER T WITH COMMA BELOW/1SMALL LETTER T WITH COMMA BELOW/1CAPITAL LETTER YOGH",
    "1SMALL LETTER YOGH/1CAPITAL LETTER H WITH CARON/1SMALL LETTER H WITH CARON",
    "1CAPITAL LETTER N WITH LONG RIGHT LEG/1SMALL LETTER D WITH CURL/1CAPITAL LETTER OU",
    "1SMALL LETTER OU/1CAPITAL LETTER Z WITH HOOK/1SMALL LETTER Z WITH HOOK",
    "1CAPITAL LETTER A WITH DOT ABOVE/1SMALL LETTER A WITH DOT ABOVE",
    "1CAPITAL LETTER E WITH CEDILLA/1SMALL LETTER E WITH CEDILLA",
    "1CAPITAL LETTER O WITH DIAERESIS AND MACRON/1SMALL LETTER O WITH DIAERESIS AND MACRON",
    "1CAPITAL LETTER O WITH TILDE AND MACRON/1SMALL LETTER O WITH TILDE AND MACRON",
    "1CAPITAL LETTER O WITH DOT ABOVE/1SMALL LETTER O WITH DOT ABOVE",
    "1CAPITAL LETTER O WITH DOT ABOVE AND MACRON/1SMALL LETTER O WITH DOT ABOVE AND MACRON",
    "1CAPITAL LETTER Y WITH MACRON/1SMALL LETTER Y WITH MACRON/3L WITH CURL/3N WITH CURL",
    "3T WITH CURL/3DOTLESS J/3DB DIGRAPH/3QP DIGRAPH/1CAPITAL LETTER A WITH STROKE/3C WITH STROKE",
    "1SMALL LETTER C WITH STROKE/1CAPITAL LETTER L WITH BAR/3T WITH DIAGONAL STROKE",
    "1SMALL LETTER S WITH SWASH TAIL/3Z WITH SWASH TAIL/1CAPITAL LETTER GLOTTAL STOP",
    "1SMALL LETTER GLOTTAL STOP/1CAPITAL LETTER B WITH STROKE/3U BAR/3TURNED V/3E WITH STROKE",
    "1SMALL LETTER E WITH STROKE/1CAPITAL LETTER J WITH STROKE/1SMALL LETTER J WITH STROKE",
    "1CAPITAL LETTER SMALL Q WITH HOOK TAIL/1SMALL LETTER Q WITH HOOK TAIL",
    "1CAPITAL LETTER R WITH STROKE/1SMALL LETTER R WITH STROKE/1CAPITAL LETTER Y WITH STROKE",
    "1SMALL LETTER Y WITH STROKE/3TURNED A/3ALPHA/3TURNED ALPHA/3B WITH HOOK/3OPEN O/3C WITH CURL",
    "3D WITH TAIL/5HOOK/3REVERSED E/3SCHWA/4WITH HOOK/3OPEN E/3REVERSED OPEN E/6WITH HOOK",
    "3CLOSED REVERSED OPEN E/3DOTLESS J WITH STROKE/3G WITH HOOK/3SCRIPT G",
    "1LETTER SMALL CAPITAL G/1SMALL LETTER GAMMA/3RAMS HORN/3TURNED H/3H WITH HOOK",
    "3HENG WITH HOOK/3I WITH STROKE/3IOTA/1LETTER SMALL CAPITAL I",
    "1SMALL LETTER L WITH MIDDLE TILDE/5BELT/5RETROFLEX HOOK/3LEZH/3TURNED M/5WITH LONG LEG",
    "3M WITH HOOK/3N WITH LEFT HOOK/5RETROFLEX HOOK/1LETTER SMALL CAPITAL N",
    "1SMALL LETTER BARRED O/1LETTER SMALL CAPITAL OE/1SMALL LETTER CLOSED OMEGA/3PHI/3TURNED R",
    "5WITH LONG LEG/6HOOK/3R WITH LONG LEG/5TAIL/5FISHHOOK/3REVERSED R WITH FISHHOOK",
    "1LETTER SMALL CAPITAL R/4INVERTED R/1SMALL LETTER S WITH HOOK/3ESH",
    "3DOTLESS J WITH STROKE AND HOOK/3SQUAT REVERSED ESH/3ESH WITH CURL/3TURNED T",
    "3T WITH RETROFLEX HOOK/3U BAR/3UPSILON/3V WITH HOOK/3TURNED V/4W/4Y/1LETTER SMALL CAPITAL Y",
    "1SMALL LETTER Z WITH RETROFLEX HOOK/5CURL/3EZH/4WITH CURL/1LETTER GLOTTAL STOP",
    "2PHARYNGEAL VOICED FRICATIVE/2INVERTED GLOTTAL STOP/2STRETCHED C/2BILABIAL CLICK",
    "2SMALL CAPITAL B/1SMALL LETTER CLOSED OPEN E/1LETTER SMALL CAPITAL G WITH HOOK/4H",
    "1SMALL LETTER J WITH CROSSED-TAIL/3TURNED K/1LETTER SMALL CAPITAL L",
    "1SMALL LETTER Q WITH HOOK/1LETTER GLOTTAL STOP WITH STROKE",
    "2REVERSED GLOTTAL STOP WITH STROKE/1SMALL LETTER DZ DIGRAPH/3DEZH DIGRAPH",
    "3DZ DIGRAPH WITH CURL/3TS DIGRAPH/3TESH DIGRAPH/3TC DIGRAPH WITH CURL/3FENG DIGRAPH",
    "3LS DIGRAPH/3LZ DIGRAPH/1LETTER BILABIAL PERCUSSIVE/2BIDENTAL PERCUSSIVE",
    "1SMALL LETTER TURNED H WITH FISHHOOK/7AND TAIL/0MODIFIER LETTER SMALL H/4WITH HOOK/3J/3R",
    "3TURNED R/5WITH HOOK/3CAPITAL INVERTED R/3W/3Y/2PRIME/2DOUBLE PRIME/2TURNED COMMA",
    "2APOSTROPHE/2REVERSED COMMA/2RIGHT HALF RING/2LEFT HALF RING/2GLOTTAL STOP",
    "2REVERSED GLOTTAL STOP/2LEFT ARROWHEAD/2RIGHT ARROWHEAD/2UP ARROWHEAD/2DOWN ARROWHEAD",
    "2CIRCUMFLEX ACCENT/0CARON/0MODIFIER LETTER VERTICAL LINE/2MACRON/2ACUTE ACCENT/2GRAVE ACCENT",
    "2LOW VERTICAL LINE/3MACRON/3GRAVE ACCENT/3ACUTE ACCENT/2TRIANGULAR COLON",
    "2HALF TRIANGULAR COLON/2CENTRED RIGHT HALF RING/3LEFT HALF RING/2UP TACK/2DOWN TACK",
    "2PLUS SIGN/2MINUS SIGN/0BREVE/0DOT ABOVE/0RING ABOVE/0OGONEK/0SMALL TILDE",
    "0DOUBLE ACUTE ACCENT/0MODIFIER LETTER RHOTIC HOOK/2CROSS ACCENT/2SMALL GAMMA/3L/3S/3X",
    "3REVERSED GLOTTAL STOP/2EXTRA-HIGH TONE BAR/2HIGH TONE BAR/2MID TONE BAR/2LOW TONE BAR",
    "2EXTRA-LOW TONE BAR/2YIN DEPARTING TONE MARK/2YANG DEPARTING TONE MARK/2VOICING/2UNASPIRATED",
    "2DOUBLE APOSTROPHE/2LOW DOWN ARROWHEAD/3UP ARROWHEAD/3LEFT ARROWHEAD/3RIGHT ARROWHEAD/3RING",
    "2MIDDLE GRAVE ACCENT/3DOUBLE GRAVE ACCENT/4ACUTE ACCENT/2LOW TILDE/2RAISED COLON",
    "2BEGIN HIGH TONE/2END HIGH TONE/2BEGIN LOW TONE/2END LOW TONE/2SHELF/2OPEN SHELF",
    "2LOW LEFT ARROW/0COMBINING GRAVE ACCENT/1ACUTE ACCENT/1CIRCUMFLEX ACCENT/1TILDE/1MACRON",
    "1OVERLINE/1BREVE/1DOT ABOVE/1DIAERESIS/1HOOK ABOVE/1RING ABOVE/1DOUBLE ACUTE ACCENT/1CARON",
    "1VERTICAL LINE ABOVE/1DOUBLE VERTICAL LINE ABOVE/2GRAVE ACCENT/1CANDRABINDU/1INVERTED BREVE",
    "1TURNED COMMA ABOVE/1COMMA ABOVE/1REVERSED COMMA ABOVE/1COMMA ABOVE RIGHT",
    "1GRAVE ACCENT BELOW/1ACUTE ACCENT BELOW/1LEFT TACK BELOW/1RIGHT TACK BELOW/1LEFT ANGLE ABOVE",
    "1HORN/1LEFT HALF RING BELOW/1UP TACK BELOW/1DOWN TACK BELOW/1PLUS SIGN BELOW",
    "1MINUS SIGN BELOW/1PALATALIZED HOOK BELOW/1RETROFLEX HOOK BELOW/1DOT BELOW/1DIAERESIS BELOW",
    "1RING BELOW/1COMMA BELOW/1CEDILLA/1OGONEK/1VERTICAL LINE BELOW/1BRIDGE BELOW",
    "1INVERTED DOUBLE ARCH BELOW/1CARON BELOW/1CIRCUMFLEX ACCENT BELOW/1BREVE BELOW",
    "1INVERTED BREVE BELOW/1TILDE BELOW/1MACRON BELOW/1LOW LINE/1DOUBLE LOW LINE/1TILDE OVERLAY",
    "1SHORT STROKE OVERLAY/1LONG STROKE OVERLAY/1SHORT SOLIDUS OVERLAY/1LONG SOLIDUS OVERLAY",
    "1RIGHT HALF RING BELOW/1INVERTED BRIDGE BELOW/1SQUARE BELOW/1SEAGULL BELOW/1X ABOVE",
    "1VERTICAL TILDE/1DOUBLE OVERLINE/1GRAVE TONE MARK/1ACUTE TONE MARK/1GREEK PERISPOMENI",
    "2KORONIS/2DIALYTIKA TONOS/2YPOGEGRAMMENI/1BRIDGE ABOVE/1EQUALS SIGN BELOW",
    "1DOUBLE VERTICAL LINE BELOW/1LEFT ANGLE BELOW/1NOT TILDE ABOVE/1HOMOTHETIC ABOVE",
    "1ALMOST EQUAL TO ABOVE/1LEFT RIGHT ARROW BELOW/1UPWARDS ARROW BELOW/1GRAPHEME JOINER",
    "1RIGHT ARROWHEAD ABOVE/1LEFT HALF RING ABOVE/1FERMATA/1X BELOW/1LEFT ARROWHEAD BELOW",
    "1RIGHT ARROWHEAD BELOW/3AND UP ARROWHEAD BELOW/2HALF RING ABOVE/1DOT ABOVE RIGHT",
    "1ASTERISK BELOW/1DOUBLE RING BELOW/1ZIGZAG ABOVE/1DOUBLE BREVE BELOW/3/2MACRON/3BELOW/2TILDE",
    "2INVERTED BREVE/2RIGHTWARDS ARROW BELOW/1LATIN SMALL LETTER A/4E/4I/4O/4U/4C/4D/4H/4M/4R/4T",
    "4V/4X/0GREEK CAPITAL LETTER HETA/1SMALL LETTER HETA/1CAPITAL LETTER ARCHAIC SAMPI",
    "1SMALL LETTER ARCHAIC SAMPI/1NUMERAL SIGN/1LOWER NUMERAL SIGN",
    "1CAPITAL LETTER PAMPHYLIAN DIGAMMA/1SMALL LETTER PAMPHYLIAN DIGAMMA/@37A/1YPOGEGRAMMENI",
    "1SMALL REVERSED LUNATE SIGMA SYMBOL/2DOTTED LUNATE SIGMA SYMBOL",
    "2REVERSED DOTTED LUNATE SIGMA SYMBOL/1QUESTION MARK/1CAPITAL LETTER YOT/@384/1TONOS",
    "1DIALYTIKA TONOS/1CAPITAL LETTER ALPHA WITH TONOS/1ANO TELEIA",
    "1CAPITAL LETTER EPSILON WITH TONOS/3ETA WITH TONOS/3IOTA WITH TONOS/@38C/3OMICRON WITH TONOS",
    "@38E/3UPSILON WITH TONOS/3OMEGA WITH TONOS/1SMALL LETTER IOTA WITH DIALYTIKA AND TONOS",
    "1CAPITAL LETTER ALPHA/3BETA/3GAMMA/3DELTA/3EPSILON/3ZETA/3ETA/3THETA/3IOTA/3KAPPA/3LAMDA/3MU",
    "3NU/3XI/3OMICRON/3PI/3RHO/@3A3/3SIGMA/3TAU/3UPSILON/3PHI/3CHI/3PSI/3OMEGA",
    "3IOTA WITH DIALYTIKA/3UPSILON WITH DIALYTIKA/1SMALL LETTER ALPHA WITH TONOS",
    "3EPSILON WITH TONOS/3ETA WITH TONOS/3IOTA WITH TONOS/3UPSILON WITH DIALYTIKA AND TONOS",
    "3ALPHA/3BETA/3GAMMA/3DELTA/3EPSILON/3ZETA/3ETA/3THETA/3IOTA/3KAPPA/3LAMDA/3MU/3NU/3XI",
    "3OMICRON/3PI/3RHO/3FINAL SIGMA/3SIGMA/3TAU/3UPSILON/3PHI/3CHI/3PSI/3OMEGA",
    "3IOTA WITH DIALYTIKA/3UPSILON WITH DIALYTIKA/3OMICRON WITH TONOS/3UPSILON WITH TONOS",
    "3OMEGA WITH TONOS/1CAPITAL KAI SYMBOL/1BETA SYMBOL/1THETA SYMBOL/1UPSILON WITH HOOK SYMBOL",
    "3ACUTE AND HOOK SYMBOL/3DIAERESIS AND HOOK SYMBOL/1PHI SYMBOL/1PI SYMBOL/1KAI SYMBOL",
    "1LETTER ARCHAIC KOPPA/1SMALL LETTER ARCHAIC KOPPA/1LETTER STIGMA/1SMALL LETTER STIGMA",
    "1LETTER DIGAMMA/1SMALL LETTER DIGAMMA/1LETTER KOPPA/1SMALL LETTER KOPPA/1LETTER SAMPI",
    "1SMALL LETTER SAMPI/0COPTIC CAPITAL LETTER SHEI/1SMALL LETTER SHEI/1CAPITAL LETTER FEI",
    "1SMALL LETTER FEI/1CAPITAL LETTER KHEI/1SMALL LETTER KHEI/1CAPITAL LETTER HORI",
    "1SMALL LETTER HORI/1CAPITAL LETTER GANGIA/1SMALL LETTER GANGIA/1CAPITAL LETTER SHIMA",
    "1SMALL LETTER SHIMA/1CAPITAL LETTER DEI/1SMALL LETTER DEI/0GREEK KAPPA SYMBOL/1RHO SYMBOL",
    "1LUNATE SIGMA SYMBOL/1LETTER YOT/1CAPITAL THETA SYMBOL/1LUNATE EPSILON SYMBOL",
    "1REVERSED LUNATE EPSILON SYMBOL/1CAPITAL LETTER SHO/1SMALL LETTER SHO",
    "1CAPITAL LUNATE SIGMA SYMBOL/2LETTER SAN/1SMALL LETTER SAN/1RHO WITH STROKE SYMBOL",
    "1CAPITAL REVERSED LUNATE SIGMA SYMBOL/2DOTTED LUNATE SIGMA SYMBOL",
    "2REVERSED DOTTED LUNATE SIGMA SYMBOL/0CYRILLIC CAPITAL LETTER IE WITH GRAVE/3IO/3DJE/3GJE",
    "3UKRAINIAN IE/3DZE/3BYELORUSSIAN-UKRAINIAN I/3YI/3JE/3LJE/3NJE/3TSHE/3KJE/3I WITH GRAVE",
    "3SHORT U/3DZHE/3A/3BE/3VE/3GHE/3DE/3IE/3ZHE/3ZE/3I/3SHORT I/3KA/3EL/3EM/3EN/3O/3PE/3ER/3ES",
    "3TE/3U/3EF/3HA/3TSE/3CHE/3SHA/3SHCHA/3HARD SIGN/3YERU/3SOFT SIGN/3E/3YU/3YA/1SMALL LETTER A",
    "3BE/3VE/3GHE/3DE/3IE/3ZHE/3ZE/3I/3SHORT I/3KA/3EL/3EM/3EN/3O/3PE/3ER/3ES/3TE/3U/3EF/3HA/3TSE",
    "3CHE/3SHA/3SHCHA/3HARD SIGN/3YERU/3SOFT SIGN/3E/3YU/3YA/3IE WITH GRAVE/3IO/3DJE/3GJE",
    "3UKRAINIAN IE/3DZE/3BYELORUSSIAN-UKRAINIAN I/3YI/3JE/3LJE/3NJE/3TSHE/3KJE/3I WITH GRAVE",
    "3SHORT U/3DZHE/1CAPITAL LETTER OMEGA/1SMALL LETTER OMEGA/1CAPITAL LETTER YAT",
    "1SMALL LETTER YAT/1CAPITAL LETTER IOTIFIED E/1SMALL LETTER IOTIFIED E",
    "1CAPITAL LETTER LITTLE YUS/1SMALL LETTER LITTLE YUS/1CAPITAL LETTER IOTIFIED LITTLE YUS",
    "1SMALL LETTER IOTIFIED LITTLE YUS/1CAPITAL LETTER BIG YUS/1SMALL LETTER BIG YUS",
    "1CAPITAL LETTER IOTIFIED BIG YUS/1SMALL LETTER IOTIFIED BIG YUS/1CAPITAL LETTER KSI",
    "1SMALL LETTER KSI/1CAPITAL LETTER PSI/1SMALL LETTER PSI/1CAPITAL LETTER FITA",
    "1SMALL LETTER FITA/1CAPITAL LETTER IZHITSA/1SMALL LETTER IZHITSA",
    "1CAPITAL LETTER IZHITSA WITH DOUBLE GRAVE ACCENT",
    "1SMALL LETTER IZHITSA WITH DOUBLE GRAVE ACCENT/1CAPITAL LETTER UK/1SMALL LETTER UK",
    "1CAPITAL LETTER ROUND OMEGA/1SMALL LETTER ROUND OMEGA/1CAPITAL LETTER OMEGA WITH TITLO",
    "1SMALL LETTER OMEGA WITH TITLO/1CAPITAL LETTER OT/1SMALL LETTER OT/1CAPITAL LETTER KOPPA",
    "1SMALL LETTER KOPPA/1THOUSANDS SIGN/0COMBINING CYRILLIC TITLO/2PALATALIZATION",
    "2DASIA PNEUMATA/2PSILI PNEUMATA/2POKRYTIE/2HUNDRED THOUSANDS SIGN/2MILLIONS SIGN",
    "0CYRILLIC CAPITAL LETTER SHORT I WITH TAIL/1SMALL LETTER SHORT I WITH TAIL",
    "1CAPITAL LETTER SEMISOFT SIGN/1SMALL LETTER SEMISOFT SIGN/1CAPITAL LETTER ER WITH TICK",
    "1SMALL LETTER ER WITH TICK/1CAPITAL LETTER GHE WITH UPTURN/1SMALL LETTER GHE WITH UPTURN",
    "1CAPITAL LETTER GHE WITH STROKE/1SMALL LETTER GHE WITH STROKE",
    "1CAPITAL LETTER GHE WITH MIDDLE HOOK/1SMALL LETTER GHE WITH MIDDLE HOOK",
    "1CAPITAL LETTER ZHE WITH DESCENDER/1SMALL LETTER ZHE WITH DESCENDER",
    "1CAPITAL LETTER ZE WITH DESCENDER/1SMALL LETTER ZE WITH DESCENDER",
    "1CAPITAL LETTER KA WITH DESCENDER/1SMALL LETTER KA WITH DESCENDER",
    "1CAPITAL LETTER KA WITH VERTICAL STROKE/1SMALL LETTER KA WITH VERTICAL STROKE",
    "1CAPITAL LETTER KA WITH STROKE/1SMALL LETTER KA WITH STROKE/1CAPITAL LETTER BASHKIR KA",
    "1SMALL LETTER BASHKIR KA/1CAPITAL LETTER EN WITH DESCENDER/1SMALL LETTER EN WITH DESCENDER",
    "1CAPITAL LIGATURE EN GHE/1SMALL LIGATURE EN GHE/1CAPITAL LETTER PE WITH MIDDLE HOOK",
    "1SMALL LETTER PE WITH MIDDLE HOOK/1CAPITAL LETTER ABKHASIAN HA/1SMALL LETTER ABKHASIAN HA",
    "1CAPITAL LETTER ES WITH DESCENDER/1SMALL LETTER ES WITH DESCENDER",
    "1CAPITAL LETTER TE WITH DESCENDER/1SMALL LETTER TE WITH DESCENDER/1CAPITAL LETTER STRAIGHT U",
    "1SMALL LETTER STRAIGHT U/1CAPITAL LETTER STRAIGHT U WITH STROKE",
    "1SMALL LETTER STRAIGHT U WITH STROKE/1CAPITAL LETTER HA WITH DESCENDER",
    "1SMALL LETTER HA WITH DESCENDER/1CAPITAL LIGATURE TE TSE/1SMALL LIGATURE TE TSE",
    "1CAPITAL LETTER CHE WITH DESCENDER/1SMALL LETTER CHE WITH DESCENDER",
    "1CAPITAL LETTER CHE WITH VERTICAL STROKE/1SMALL LETTER CHE WITH VERTICAL STROKE",
    "1CAPITAL LETTER SHHA/1SMALL LETTER SHHA/1CAPITAL LETTER ABKHASIAN CHE",
    "1SMALL LETTER ABKHASIAN CHE/1CAPITAL LETTER ABKHASIAN CHE WITH DESCENDER",
    "1SMALL LETTER ABKHASIAN CHE WITH DESCENDER/1LETTER PALOCHKA/1CAPITAL LETTER ZHE WITH BREVE",
    "1SMALL LETTER ZHE WITH BREVE/1CAPITAL LETTER KA WITH HOOK/1SMALL LETTER KA WITH HOOK",
    "1CAPITAL LETTER EL WITH TAIL/1SMALL LETTER EL WITH TAIL/1CAPITAL LETTER EN WITH HOOK",
    "1SMALL LETTER EN WITH HOOK/1CAPITAL LETTER EN WITH TAIL/1SMALL LETTER EN WITH TAIL",
    "1CAPITAL LETTER KHAKASSIAN CHE/1SMALL LETTER KHAKASSIAN CHE/1CAPITAL LETTER EM WITH TAIL",
    "1SMALL LETTER EM WITH TAIL/3PALOCHKA/1CAPITAL LETTER A WITH BREVE/1SMALL LETTER A WITH BREVE",
    "1CAPITAL LETTER A WITH DIAERESIS/1SMALL LETTER A WITH DIAERESIS/1CAPITAL LIGATURE A IE",
    "1SMALL LIGATURE A IE/1CAPITAL LETTER IE WITH BREVE/1SMALL LETTER IE WITH BREVE",
    "1CAPITAL LETTER SCHWA/1SMALL LETTER SCHWA/1CAPITAL LETTER SCHWA WITH DIAERESIS",
    "1SMALL LETTER SCHWA WITH DIAERESIS/1CAPITAL LETTER ZHE WITH DIAERESIS",
    "1SMALL LETTER ZHE WITH DIAERESIS/1CAPITAL LETTER ZE WITH DIAERESIS",
    "1SMALL LETTER ZE WITH DIAERESIS/1CAPITAL LETTER ABKHASIAN DZE/1SMALL LETTER ABKHASIAN DZE",
    "1CAPITAL LETTER I WITH MACRON/1SMALL LETTER I WITH MACRON/1CAPITAL LETTER I WITH DIAERESIS",
    "1SMALL LETTER I WITH DIAERESIS/1CAPITAL LETTER O WITH DIAERESIS",
    "1SMALL LETTER O WITH DIAERESIS/1CAPITAL LETTER BARRED O/1SMALL LETTER BARRED O",
    "1CAPITAL LETTER BARRED O WITH DIAERESIS/1SMALL LETTER BARRED O WITH DIAERESIS",
    "1CAPITAL LETTER E WITH DIAERESIS/1SMALL LETTER E WITH DIAERESIS",
    "1CAPITAL LETTER U WITH MACRON/1SMALL LETTER U WITH MACRON/1CAPITAL LETTER U WITH DIAERESIS",
    "1SMALL LETTER U WITH DIAERESIS/1CAPITAL LETTER U WITH DOUBLE ACUTE",
    "1SMALL LETTER U WITH DOUBLE ACUTE/1CAPITAL LETTER CHE WITH DIAERESIS",
    "1SMALL LETTER CHE WITH DIAERESIS/1CAPITAL LETTER GHE WITH DESCENDER",
    "1SMALL LETTER GHE WITH DESCENDER/1CAPITAL LETTER YERU WITH DIAERESIS",
    "1SMALL LETTER YERU WITH DIAERESIS/1CAPITAL LETTER GHE WITH STROKE AND HOOK",
    "1SMALL LETTER GHE WITH STROKE AND HOOK/1CAPITAL LETTER HA WITH HOOK",
    "1SMALL LETTER HA WITH HOOK/1CAPITAL LETTER HA WITH STROKE/1SMALL LETTER HA WITH STROKE",
    "1CAPITAL LETTER KOMI DE/1SMALL LETTER KOMI DE/1CAPITAL LETTER KOMI DJE",
    "1SMALL LETTER KOMI DJE/1CAPITAL LETTER KOMI ZJE/1SMALL LETTER KOMI ZJE",
    "1CAPITAL LETTER KOMI DZJE/1SMALL LETTER KOMI DZJE/1CAPITAL LETTER KOMI LJE",
    "1SMALL LETTER KOMI LJE/1CAPITAL LETTER KOMI NJE/1SMALL LETTER KOMI NJE",
    "1CAPITAL LETTER KOMI SJE/1SMALL LETTER KOMI SJE/1CAPITAL LETTER KOMI TJE",
    "1SMALL LETTER KOMI TJE/1CAPITAL LETTER REVERSED ZE/1SMALL LETTER REVERSED ZE",
    "1CAPITAL LETTER EL WITH HOOK/1SMALL LETTER EL WITH HOOK/1CAPITAL LETTER LHA",
    "1SMALL LETTER LHA/1CAPITAL LETTER RHA/1SMALL LETTER RHA/1CAPITAL LETTER YAE",
    "1SMALL LETTER YAE/1CAPITAL LETTER QA/1SMALL LETTER QA/1CAPITAL LETTER WE/1SMALL LETTER WE",
    "1CAPITAL LETTER ALEUT KA/1SMALL LETTER ALEUT KA/1CAPITAL LETTER EL WITH MIDDLE HOOK",
    "1SMALL LETTER EL WITH MIDDLE HOOK/1CAPITAL LETTER EN WITH MIDDLE HOOK",
    "1SMALL LETTER EN WITH MIDDLE HOOK/1CAPITAL LETTER PE WITH DESCENDER",
    "1SMALL LETTER PE WITH DESCENDER/1CAPITAL LETTER SHHA WITH DESCENDER",
    "1SMALL LETTER SHHA WITH DESCENDER/1CAPITAL LETTER EN WITH LEFT HOOK",
    "1SMALL LETTER EN WITH LEFT HOOK/1CAPITAL LETTER DZZHE/1SMALL LETTER DZZHE",
    "1CAPITAL LETTER DCHE/1SMALL LETTER DCHE/1CAPITAL LETTER EL WITH DESCENDER",
    "1SMALL LETTER EL WITH DESCENDER/@531/0ARMENIAN CAPITAL LETTER AYB/3BEN/3GIM/3DA/3ECH/3ZA/3EH",
    "3ET/3TO/3ZHE/3INI/3LIWN/3XEH/3CA/3KEN/3HO/3JA/3GHAD/3CHEH/3MEN/3YI/3NOW/3SHA/3VO/3CHA/3PEH",
    "3JHEH/3RA/3SEH/3VEW/3TIWN/3REH/3CO/3YIWN/3PIWR/3KEH/3OH/3FEH",
    "@559/1MODIFIER LETTER LEFT HALF RING/1APOSTROPHE/1EMPHASIS MARK/1EXCLAMATION MARK/1COMMA",
    "1QUESTION MARK/1ABBREVIATION MARK/1SMALL LETTER TURNED AYB/3AYB/3BEN/3GIM/3DA/3ECH/3ZA/3EH",
    "3ET/3TO/3ZHE/3INI/3LIWN/3XEH/3CA/3KEN/3HO/3JA/3GHAD/3CHEH/3MEN/3YI/3NOW/3SHA/3VO/3CHA/3PEH",
    "3JHEH/3RA/3SEH/3VEW/3TIWN/3REH/3CO/3YIWN/3PIWR/3KEH/3OH/3FEH/2LIGATURE ECH YIWN",
    "2LETTER YI WITH STROKE/1FULL STOP/1HYPHEN/@58D/0RIGHT-FACING ARMENIAN ETERNITY SIGN",
    "0LEFT-FACING ARMENIAN ETERNITY SIGN/0ARMENIAN DRAM SIGN/@591/0HEBREW ACCENT ETNAHTA/2SEGOL",
    "2SHALSHELET/2ZAQEF QATAN/3GADOL/2TIPEHA/2REVIA/2ZARQA/2PASHTA/2YETIV/2TEVIR/2GERESH/3MUQDAM",
    "2GERSHAYIM/2QARNEY PARA/2TELISHA GEDOLA/2PAZER/2ATNAH HAFUKH/2MUNAH/2MAHAPAKH/2MERKHA",
    "3KEFULA/2DARGA/2QADMA/2TELISHA QETANA/2YERAH BEN YOMO/2OLE/2ILUY/2DEHI/2ZINOR",
    "1MARK MASORA CIRCLE/1POINT SHEVA/2HATAF SEGOL/3PATAH/3QAMATS/2HIRIQ/2TSERE/2SEGOL/2PATAH",
    "2QAMATS/2HOLAM/3HASER FOR VAV/2QUBUTS/2DAGESH OR MAPIQ/2METEG/1PUNCTUATION MAQAF/1POINT RAFE",
    "1PUNCTUATION PASEQ/1POINT SHIN DOT/2SIN DOT/1PUNCTUATION SOF PASUQ/1MARK UPPER DOT",
    "2LOWER DOT/1PUNCTUATION NUN HAFUKHA/1POINT QAMATS QATAN/@5D0/1LETTER ALEF/2BET/2GIMEL/2DALET",
    "2HE/2VAV/2ZAYIN/2HET/2TET/2YOD/2FINAL KAF/2KAF/2LAMED/2FINAL MEM/2MEM/2FINAL NUN/2NUN",
    "2SAMEKH/2AYIN/2FINAL PE/2PE/2FINAL TSADI/2TSADI/2QOF/2RESH/2SHIN/2TAV/@5EF/1YOD TRIANGLE",
    "1LIGATURE YIDDISH DOUBLE VAV/3VAV YOD/3DOUBLE YOD/1PUNCTUATION GERESH/2GERSHAYIM",
    "@600/0ARABIC NUMBER SIGN/1SIGN SANAH/1FOOTNOTE MARKER/1SIGN SAFHA/2SAMVAT/1NUMBER MARK ABOVE",
    "0ARABIC-INDIC CUBE ROOT/1FOURTH ROOT/0ARABIC RAY/0ARABIC-INDIC PER MILLE SIGN",
    "2TEN THOUSAND SIGN/0AFGHANI SIGN/0ARABIC COMMA/1DATE SEPARATOR/1POETIC VERSE SIGN",
    "1SIGN MISRA/2SALLALLAHOU ALAYHE WASSALLAM/2ALAYHE ASSALLAM/2RAHMATULLAH ALAYHE",
    "2RADI ALLAHOU ANHU/2TAKHALLUS/1SMALL HIGH TAH/3LIGATURE ALEF WITH LAM WITH YEH/3ZAIN/2FATHA",
    "2DAMMA/2KASRA/1SEMICOLON/1LETTER MARK/1END OF TEXT MARK/1TRIPLE DOT PUNCTUATION MARK",
    "1QUESTION MARK/1LETTER KASHMIRI YEH/2HAMZA/2ALEF WITH MADDA ABOVE/4HAMZA ABOVE",
    "2WAW WITH HAMZA ABOVE/2ALEF WITH HAMZA BELOW/2YEH WITH HAMZA ABOVE/2ALEF/2BEH/2TEH MARBUTA/3",
    "2THEH/2JEEM/2HAH/2KHAH/2DAL/2THAL/2REH/2ZAIN/2SEEN/2SHEEN/2SAD/2DAD/2TAH/2ZAH/2AIN/2GHAIN",
    "2KEHEH WITH TWO DOTS ABOVE/4THREE DOTS BELOW/2FARSI YEH WITH INVERTED V/5TWO DOTS ABOVE",
    "5THREE DOTS ABOVE/1TATWEEL/1LETTER FEH/2QAF/2KAF/2LAM/2MEEM/2NOON/2HEH/2WAW/2ALEF MAKSURA",
    "2YEH/1FATHATAN/1DAMMATAN/1KASRATAN/1FATHA/1DAMMA/1KASRA/1SHADDA/1SUKUN/1MADDAH ABOVE",
    "1HAMZA ABOVE/2BELOW/1SUBSCRIPT ALEF/1INVERTED DAMMA/1MARK NOON GHUNNA/1ZWARAKAY",
    "1VOWEL SIGN SMALL V ABOVE/3INVERTED SMALL V ABOVE/3DOT BELOW/1REVERSED DAMMA",
    "1FATHA WITH TWO DOTS/1WAVY HAMZA BELOW/0ARABIC-INDIC DIGIT ZERO/2ONE/2TWO/2THREE/2FOUR/2FIVE",
    "2SIX/2SEVEN/2EIGHT/2NINE/0ARABIC PERCENT SIGN/1DECIMAL SEPARATOR/1THOUSANDS SEPARATOR",
    "1FIVE POINTED STAR/1LETTER DOTLESS BEH/3QAF/2SUPERSCRIPT ALEF/2ALEF WASLA",
    "3WITH WAVY HAMZA ABOVE/6BELOW/2HIGH HAMZA/4ALEF/4WAW/2U WITH HAMZA ABOVE/2HIGH HAMZA YEH",
    "2TTEH/2TTEHEH/2BEEH/2TEH WITH RING/4THREE DOTS ABOVE DOWNWARDS/2PEH/2TEHEH/2BEHEH",
    "2HAH WITH HAMZA ABOVE/4TWO DOTS VERTICAL ABOVE/2NYEH/2DYEH/2HAH WITH THREE DOTS ABOVE/2TCHEH",
    "2TCHEHEH/2DDAL/2DAL WITH RING/4DOT BELOW/6AND SMALL TAH/2DAHAL/2DDAHAL/2DUL",
    "2DAL WITH THREE DOTS ABOVE DOWNWARDS/4FOUR DOTS ABOVE/2RREH/2REH WITH SMALL V/4RING",
    "4DOT BELOW/4SMALL V BELOW/4DOT BELOW AND DOT ABOVE/4TWO DOTS ABOVE/2JEH",
    "2REH WITH FOUR DOTS ABOVE/2SEEN WITH DOT BELOW AND DOT ABOVE/4THREE DOTS BELOW",
    "7AND THREE DOTS ABOVE/2SAD WITH TWO DOTS BELOW/4THREE DOTS ABOVE/2TAH WITH THREE DOTS ABOVE",
    "2AIN WITH THREE DOTS ABOVE/2DOTLESS FEH/2FEH WITH DOT MOVED BELOW/5BELOW/2VEH",
    "2FEH WITH THREE DOTS BELOW/2PEHEH/2QAF WITH DOT ABOVE/4THREE DOTS ABOVE/2KEHEH/2SWASH KAF",
    "2KAF WITH RING/4DOT ABOVE/2NG/2KAF WITH THREE DOTS BELOW/2GAF/3WITH RING/2NGOEH",
    "2GAF WITH TWO DOTS BELOW/2GUEH/2GAF WITH THREE DOTS ABOVE/2LAM WITH SMALL V/4DOT ABOVE",
    "4THREE DOTS ABOVE/6BELOW/2NOON WITH DOT BELOW/3GHUNNA/2RNOON/2NOON WITH RING",
    "4THREE DOTS ABOVE/2HEH DOACHASHMEE/2TCHEH WITH DOT ABOVE/2HEH WITH YEH ABOVE/3GOAL",
    "4WITH HAMZA ABOVE/2TEH MARBUTA GOAL/2WAW WITH RING/2KIRGHIZ OE/2OE/2U/2YU/2KIRGHIZ YU",
    "2WAW WITH TWO DOTS ABOVE/2VE/2FARSI YEH/2YEH WITH TAIL/4SMALL V/2WAW WITH DOT ABOVE/2E",
    "2YEH WITH THREE DOTS BELOW/3BARREE/4WITH HAMZA ABOVE/1FULL STOP/1LETTER AE",
    "1SMALL HIGH LIGATURE SAD WITH LAM WITH ALEF MAKSURA/4QAF WITH LAM WITH ALEF MAKSURA",
    "3MEEM INITIAL FORM/3LAM ALEF/3JEEM/3THREE DOTS/3SEEN/1END OF AYAH/1START OF RUB EL HIZB",
    "1SMALL HIGH ROUNDED ZERO/3UPRIGHT RECTANGULAR ZERO/3DOTLESS HEAD OF KHAH/3MEEM ISOLATED FORM",
    "2LOW SEEN/2HIGH MADDA/2WAW/2YEH/2HIGH YEH/3NOON/1PLACE OF SAJDAH/1EMPTY CENTRE LOW STOP",
    "3HIGH STOP/1ROUNDED HIGH STOP WITH FILLED CENTRE/1SMALL LOW MEEM/1LETTER DAL WITH INVERTED V",
    "2REH WITH INVERTED V/0EXTENDED ARABIC-INDIC DIGIT ZERO/3ONE/3TWO/3THREE/3FOUR/3FIVE/3SIX",
    "3SEVEN/3EIGHT/3NINE/0ARABIC LETTER SHEEN WITH DOT BELOW/2DAD WITH DOT BELOW",
    "2GHAIN WITH DOT BELOW/1SIGN SINDHI AMPERSAND/3POSTPOSITION MEN/1LETTER HEH WITH INVERTED V",
    "0SYRIAC END OF PARAGRAPH/1SUPRALINEAR FULL STOP/1SUBLINEAR FULL STOP/1SUPRALINEAR COLON",
    "1SUBLINEAR COLON/1HORIZONTAL COLON/1COLON SKEWED LEFT/3RIGHT/1SUPRALINEAR COLON SKEWED LEFT",
    "1SUBLINEAR COLON SKEWED RIGHT/1CONTRACTION/1HARKLEAN OBELUS/2METOBELUS/2ASTERISCUS",
    "@70F/1ABBREVIATION MARK/1LETTER ALAPH/2SUPERSCRIPT ALAPH/2BETH/2GAMAL/3GARSHUNI/2DALATH",
    "2DOTLESS DALATH RISH/2HE/2WAW/2ZAIN/2HETH/2TETH/3GARSHUNI/2YUDH/3HE/2KAPH/2LAMADH/2MIM/2NUN",
    "2SEMKATH/2FINAL SEMKATH/2E/2PE/2REVERSED PE/2SADHE/2QAPH/2RISH/2SHIN/2TAW/2PERSIAN BHETH",
    "3GHAMAL/3DHALATH/1PTHAHA ABOVE/2BELOW/2DOTTED/1ZQAPHA ABOVE/2BELOW/2DOTTED/1RBASA ABOVE",
    "2BELOW/1DOTTED ZLAMA HORIZONTAL/3ANGULAR/1HBASA ABOVE/2BELOW/1HBASA-ESASA DOTTED",
    "1ESASA ABOVE/2BELOW/1RWAHA/1FEMININE DOT/1QUSHSHAYA/1RUKKAKHA/1TWO VERTICAL DOTS ABOVE",
    "4BELOW/1THREE DOTS ABOVE/3BELOW/1OBLIQUE LINE ABOVE/3BELOW/1MUSIC/1BARREKH",
    "@74D/1LETTER SOGDIAN ZHAIN/3KHAPH/3FE/0ARABIC LETTER BEH WITH THREE DOTS HORIZONTALLY BELOW",
    "4DOT BELOW AND THREE DOTS ABOVE/4THREE DOTS POINTING UPWARDS BELOW/9AND TWO DOTS ABOVE",
    "4TWO DOTS BELOW AND DOT ABOVE/4INVERTED SMALL V BELOW/4SMALL V/2HAH WITH TWO DOTS ABOVE",
    "4THREE DOTS POINTING UPWARDS BELOW/2DAL WITH TWO DOTS VERTICALLY BELOW AND SMALL TAH",
    "4INVERTED SMALL V BELOW/2REH WITH STROKE/2SEEN WITH FOUR DOTS ABOVE/2AIN WITH TWO DOTS ABOVE",
    "4THREE DOTS POINTING DOWNWARDS ABOVE/4TWO DOTS VERTICALLY ABOVE/2FEH WITH TWO DOTS BELOW",
    "4THREE DOTS POINTING UPWARDS BELOW/2KEHEH WITH DOT ABOVE/4THREE DOTS ABOVE",
    "6POINTING UPWARDS BELOW/2MEEM WITH DOT ABOVE/5BELOW/2NOON WITH TWO DOTS BELOW/4SMALL TAH/5V",
    "2LAM WITH BAR/2REH WITH TWO DOTS VERTICALLY ABOVE/4HAMZA ABOVE",
    "2SEEN WITH TWO DOTS VERTICALLY ABOVE/2HAH WITH SMALL ARABIC LETTER TAH BELOW/8AND TWO DOTS",
    "2SEEN WITH SMALL ARABIC LETTER TAH AND TWO DOTS",
    "2REH WITH SMALL ARABIC LETTER TAH AND TWO DOTS/2HAH WITH SMALL ARABIC LETTER TAH ABOVE",
    "2ALEF WITH EXTENDED ARABIC-INDIC DIGIT TWO ABOVE/7THREE ABOVE",
    "2FARSI YEH WITH EXTENDED ARABIC-INDIC DIGIT TWO ABOVE/8THREE ABOVE/8FOUR BELOW",
    "2WAW WITH EXTENDED ARABIC-INDIC DIGIT TWO ABOVE/7THREE ABOVE",
    "2YEH BARREE WITH EXTENDED ARABIC-INDIC DIGIT TWO ABOVE/8THREE ABOVE",
    "2HAH WITH EXTENDED ARABIC-INDIC DIGIT FOUR BELOW",
    "2SEEN WITH EXTENDED ARABIC-INDIC DIGIT FOUR ABOVE/4INVERTED V/2KAF WITH TWO DOTS ABOVE",
    "0THAANA LETTER HAA/2SHAVIYANI/2NOONU/2RAA/2BAA/2LHAVIYANI/2KAAFU/2ALIFU/2VAAVU/2MEEMU/2FAAFU",
    "2DHAALU/2THAA/2LAAMU/2GAAFU/2GNAVIYANI/2SEENU/2DAVIYANI/2ZAVIYANI/2TAVIYANI/2YAA/2PAVIYANI",
    "2JAVIYANI/2CHAVIYANI/2TTAA/2HHAA/2KHAA/2THAALU/2ZAA/2SHEENU/2SAADHU/2DAADHU/2TO/2ZO/2AINU",
    "2GHAINU/2QAAFU/2WAAVU/1ABAFILI/1AABAAFILI/1IBIFILI/1EEBEEFILI/1UBUFILI/1OOBOOFILI/1EBEFILI",
    "1EYBEYFILI/1OBOFILI/1OABOAFILI/1SUKUN/1LETTER NAA/@7C0/0NKO DIGIT ZERO/2ONE/2TWO/2THREE",
    "2FOUR/2FIVE/2SIX/2SEVEN/2EIGHT/2NINE/1LETTER A/2EE/2I/2E/2U/2OO/2O/2DAGBASINNA/2N/2BA/2PA",
    "2TA/2JA/2CHA/2DA/2RA/2RRA/2SA/2GBA/2FA/2KA/2LA/2NA WOLOSO/2MA/2NYA/2NA/2HA/2WA/2YA",
    "2NYA WOLOSO/2JONA JA/3CHA/3RA/1COMBINING SHORT HIGH TONE/3LOW TONE/3RISING TONE",
    "2LONG DESCENDING TONE/3HIGH TONE/3LOW TONE/3RISING TONE/2NASALIZATION MARK/2DOUBLE DOT ABOVE",
    "1HIGH TONE APOSTROPHE/1LOW TONE APOSTROPHE/1SYMBOL OO DENNEN/2GBAKURUNEN/1COMMA",
    "1EXCLAMATION MARK/1LAJANYALAN/@7FD/1DANTAYALAN/1DOROME SIGN/1TAMAN SIGN"]

end Crontab.Text.Names
