/-!
# Names of symbols

Punctuation, arrows, mathematical and technical signs, and the scripts after them.
-/

namespace Crontab.Text.Names

/-- The names from U+2000 on. -/
def symbols : List String :=
  ["@2000/0EN QUAD/0EM QUAD/0EN SPACE/0EM SPACE/0THREE-PER-EM SPACE/0FOUR-PER-EM SPACE",
    "0SIX-PER-EM SPACE/0FIGURE SPACE/0PUNCTUATION SPACE/0THIN SPACE/0HAIR SPACE/0ZERO WIDTH SPACE",
    "2NON-JOINER/2JOINER/0LEFT-TO-RIGHT MARK/0RIGHT-TO-LEFT MARK/0HYPHEN/0NON-BREAKING HYPHEN",
    "0FIGURE DASH/0EN DASH/0EM DASH/0HORIZONTAL BAR/0DOUBLE VERTICAL LINE/1LOW LINE",
    "0LEFT SINGLE QUOTATION MARK/0RIGHT SINGLE QUOTATION MARK/0SINGLE LOW-9 QUOTATION MARK",
    "1HIGH-REVERSED-9 QUOTATION MARK/0LEFT DOUBLE QUOTATION MARK/0RIGHT DOUBLE QUOTATION MARK",
    "0DOUBLE LOW-9 QUOTATION MARK/1HIGH-REVERSED-9 QUOTATION MARK/0DAGGER/0DOUBLE DAGGER/0BULLET",
    "0TRIANGULAR BULLET/0ONE DOT LEADER/0TWO DOT LEADER/0HORIZONTAL ELLIPSIS/0HYPHENATION POINT",
    "0LINE SEPARATOR/0PARAGRAPH SEPARATOR/0LEFT-TO-RIGHT EMBEDDING/0RIGHT-TO-LEFT EMBEDDING",
    "0POP DIRECTIONAL FORMATTING/0LEFT-TO-RIGHT OVERRIDE/0RIGHT-TO-LEFT OVERRIDE",
    "0NARROW NO-BREAK SPACE/0PER MILLE SIGN/1TEN THOUSAND SIGN/0PRIME/0DOUBLE PRIME/0TRIPLE PRIME",
    "0REVERSED PRIME/1DOUBLE PRIME/1TRIPLE PRIME/0CARET",
    "0SINGLE LEFT-POINTING ANGLE QUOTATION MARK/1RIGHT-POINTING ANGLE QUOTATION MARK",
    "0REFERENCE MARK/0DOUBLE EXCLAMATION MARK/0INTERROBANG/0OVERLINE/0UNDERTIE/0CHARACTER TIE",
    "0CARET INSERTION POINT/0ASTERISM/0HYPHEN BULLET/0FRACTION SLASH",
    "0LEFT SQUARE BRACKET WITH QUILL/0RIGHT SQUARE BRACKET WITH QUILL/0DOUBLE QUESTION MARK",
    "0QUESTION EXCLAMATION MARK/0EXCLAMATION QUESTION MARK/0TIRONIAN SIGN ET",
    "0REVERSED PILCROW SIGN/0BLACK LEFTWARDS BULLET/1RIGHTWARDS BULLET/0LOW ASTERISK",
    "0REVERSED SEMICOLON/0CLOSE UP/0TWO ASTERISKS ALIGNED VERTICALLY/0COMMERCIAL MINUS SIGN",
    "0SWUNG DASH/0INVERTED UNDERTIE/0FLOWER PUNCTUATION MARK/0THREE DOT PUNCTUATION",
    "0QUADRUPLE PRIME/0FOUR DOT PUNCTUATION/0FIVE DOT PUNCTUATION/0TWO DOT PUNCTUATION",
    "0FOUR DOT MARK/0DOTTED CROSS/0TRICOLON/0VERTICAL FOUR DOTS/0MEDIUM MATHEMATICAL SPACE",
    "0WORD JOINER/0FUNCTION APPLICATION/0INVISIBLE TIMES/1SEPARATOR/1PLUS",
    "@2066/0LEFT-TO-RIGHT ISOLATE/0RIGHT-TO-LEFT ISOLATE/0FIRST STRONG ISOLATE",
    "0POP DIRECTIONAL ISOLATE/0INHIBIT SYMMETRIC SWAPPING/0ACTIVATE SYMMETRIC SWAPPING",
    "0INHIBIT ARABIC FORM SHAPING/0ACTIVATE ARABIC FORM SHAPING/0NATIONAL DIGIT SHAPES",
    "0NOMINAL DIGIT SHAPES/0SUPERSCRIPT ZERO/1LATIN SMALL LETTER I/@2074/1FOUR/1FIVE/1SIX/1SEVEN",
    "1EIGHT/1NINE/1PLUS SIGN/1MINUS/1EQUALS SIGN/1LEFT PARENTHESIS/1RIGHT PARENTHESIS",
    "1LATIN SMALL LETTER N/0SUBSCRIPT ZERO/1ONE/1TWO/1THREE/1FOUR/1FIVE/1SIX/1SEVEN/1EIGHT/1NINE",
    "1PLUS SIGN/1MINUS/1EQUALS SIGN/1LEFT PARENTHESIS/1RIGHT PARENTHESIS",
    "@2090/0LATIN SUBSCRIPT SMALL LETTER A/4E/4O/4X/4SCHWA/4H/4K/4L/4M/4N/4P/4S/4T",
    "@20A0/0EURO-CURRENCY SIGN/0COLON SIGN/0CRUZEIRO SIGN/0FRENCH FRANC SIGN/0LIRA SIGN",
    "0MILL SIGN/0NAIRA SIGN/0PESETA SIGN/0RUPEE SIGN/0WON SIGN/0NEW SHEQEL SIGN/0DONG SIGN",
    "0EURO SIGN/0KIP SIGN/0TUGRIK SIGN/0DRACHMA SIGN/0GERMAN PENNY SIGN/0PESO SIGN/0GUARANI SIGN",
    "0AUSTRAL SIGN/0HRYVNIA SIGN/0CEDI SIGN/0LIVRE TOURNOIS SIGN/0SPESMILO SIGN/0TENGE SIGN",
    "0INDIAN RUPEE SIGN/0TURKISH LIRA SIGN/0NORDIC MARK SIGN/0MANAT SIGN/0RUBLE SIGN/0LARI SIGN",
    "0BITCOIN SIGN/0SOM SIGN/@20D0/0COMBINING LEFT HARPOON ABOVE/1RIGHT HARPOON ABOVE",
    "1LONG VERTICAL LINE OVERLAY/1SHORT VERTICAL LINE OVERLAY/1ANTICLOCKWISE ARROW ABOVE",
    "1CLOCKWISE ARROW ABOVE/1LEFT ARROW ABOVE/1RIGHT ARROW ABOVE/1RING OVERLAY",
    "1CLOCKWISE RING OVERLAY/1ANTICLOCKWISE RING OVERLAY/1THREE DOTS ABOVE/1FOUR DOTS ABOVE",
    "1ENCLOSING CIRCLE/2SQUARE/2DIAMOND/2CIRCLE BACKSLASH/1LEFT RIGHT ARROW ABOVE",
    "1ENCLOSING SCREEN/2KEYCAP/2UPWARD POINTING TRIANGLE/1REVERSE SOLIDUS OVERLAY",
    "1DOUBLE VERTICAL STROKE OVERLAY/1ANNUITY SYMBOL/1TRIPLE UNDERDOT/1WIDE BRIDGE ABOVE",
    "1LEFTWARDS ARROW OVERLAY/1LONG DOUBLE SOLIDUS OVERLAY",
    "1RIGHTWARDS HARPOON WITH BARB DOWNWARDS/1LEFTWARDS HARPOON WITH BARB DOWNWARDS",
    "1LEFT ARROW BELOW/1RIGHT ARROW BELOW/1ASTERISK ABOVE/@2100/0ACCOUNT OF",
    "0ADDRESSED TO THE SUBJECT/0DOUBLE-STRUCK CAPITAL C/0DEGREE CELSIUS/0CENTRE LINE SYMBOL",
    "0CARE OF/0CADA UNA/0EULER CONSTANT/0SCRUPLE/0DEGREE FAHRENHEIT/0SCRIPT SMALL G/1CAPITAL H",
    "0BLACK-LETTER CAPITAL H/0DOUBLE-STRUCK CAPITAL H/0PLANCK CONSTANT/2OVER TWO PI",
    "0SCRIPT CAPITAL I/0BLACK-LETTER CAPITAL I/0SCRIPT CAPITAL L/1SMALL L/0L B BAR SYMBOL",
    "0DOUBLE-STRUCK CAPITAL N/0NUMERO SIGN/0SOUND RECORDING COPYRIGHT/0SCRIPT CAPITAL P",
    "0DOUBLE-STRUCK CAPITAL P/2Q/0SCRIPT CAPITAL R/0BLACK-LETTER CAPITAL R",
    "0DOUBLE-STRUCK CAPITAL R/0PRESCRIPTION TAKE/0RESPONSE/0SERVICE MARK/0TELEPHONE SIGN",
    "0TRADE MARK SIGN/0VERSICLE/0DOUBLE-STRUCK CAPITAL Z/0OUNCE SIGN/0OHM SIGN/0INVERTED OHM SIGN",
    "0BLACK-LETTER CAPITAL Z/0TURNED GREEK SMALL LETTER IOTA/0KELVIN SIGN/0ANGSTROM SIGN",
    "0SCRIPT CAPITAL B/0BLACK-LETTER CAPITAL C/0ESTIMATED SYMBOL/0SCRIPT SMALL E/1CAPITAL E/2F",
    "0TURNED CAPITAL F/0SCRIPT CAPITAL M/1SMALL O/0ALEF SYMBOL/0BET SYMBOL/0GIMEL SYMBOL",
    "0DALET SYMBOL/0INFORMATION SOURCE/0ROTATED CAPITAL Q/0FACSIMILE SIGN/0DOUBLE-STRUCK SMALL PI",
    "2GAMMA/1CAPITAL GAMMA/2PI/1N-ARY SUMMATION/0TURNED SANS-SERIF CAPITAL G/3L",
    "0REVERSED SANS-SERIF CAPITAL L/0TURNED SANS-SERIF CAPITAL Y/0DOUBLE-STRUCK ITALIC CAPITAL D",
    "2SMALL D/3E/3I/3J/0PROPERTY LINE/0TURNED AMPERSAND/0PER SIGN/0AKTIESELSKAB/0TURNED SMALL F",
    "0SYMBOL FOR SAMARITAN SOURCE/0VULGAR FRACTION ONE SEVENTH/3NINTH/3TENTH/3THIRD/2TWO THIRDS",
    "2ONE FIFTH/2TWO FIFTHS/2THREE FIFTHS/2FOUR FIFTHS/2ONE SIXTH/2FIVE SIXTHS/2ONE EIGHTH",
    "2THREE EIGHTHS/2FIVE EIGHTHS/2SEVEN EIGHTHS/0FRACTION NUMERATOR ONE/0ROMAN NUMERAL ONE/2TWO",
    "2THREE/2FOUR/2FIVE/2SIX/2SEVEN/2EIGHT/2NINE/2TEN/2ELEVEN/2TWELVE/2FIFTY/2ONE HUNDRED",
    "2FIVE HUNDRED/2ONE THOUSAND/0SMALL ROMAN NUMERAL ONE/3TWO/3THREE/3FOUR/3FIVE/3SIX/3SEVEN",
    "3EIGHT/3NINE/3TEN/3ELEVEN/3TWELVE/3FIFTY/3ONE HUNDRED/3FIVE HUNDRED/3ONE THOUSAND",
    "0ROMAN NUMERAL ONE THOUSAND C D/2FIVE THOUSAND/2TEN THOUSAND/2REVERSED ONE HUNDRED",
    "0LATIN SMALL LETTER REVERSED C/0ROMAN NUMERAL SIX LATE FORM/2FIFTY EARLY FORM/3THOUSAND",
    "2ONE HUNDRED THOUSAND/0VULGAR FRACTION ZERO THIRDS/0TURNED DIGIT TWO/2THREE",
    "@2190/0LEFTWARDS ARROW/0UPWARDS ARROW/0RIGHTWARDS ARROW/0DOWNWARDS ARROW/0LEFT RIGHT ARROW",
    "0UP DOWN ARROW/0NORTH WEST ARROW/1EAST ARROW/0SOUTH EAST ARROW/1WEST ARROW",
    "0LEFTWARDS ARROW WITH STROKE/0RIGHTWARDS ARROW WITH STROKE/0LEFTWARDS WAVE ARROW",
    "0RIGHTWARDS WAVE ARROW/0LEFTWARDS TWO HEADED ARROW/0UPWARDS TWO HEADED ARROW",
    "0RIGHTWARDS TWO HEADED ARROW/0DOWNWARDS TWO HEADED ARROW/0LEFTWARDS ARROW WITH TAIL",
    "0RIGHTWARDS ARROW WITH TAIL/0LEFTWARDS ARROW FROM BAR/0UPWARDS ARROW FROM BAR",
    "0RIGHTWARDS ARROW FROM BAR/0DOWNWARDS ARROW FROM BAR/0UP DOWN ARROW WITH BASE",
    "0LEFTWARDS ARROW WITH HOOK/0RIGHTWARDS ARROW WITH HOOK/0LEFTWARDS ARROW WITH LOOP",
    "0RIGHTWARDS ARROW WITH LOOP/0LEFT RIGHT WAVE ARROW/2ARROW WITH STROKE",
    "0DOWNWARDS ZIGZAG ARROW/0UPWARDS ARROW WITH TIP LEFTWARDS/4RIGHTWARDS",
    "0DOWNWARDS ARROW WITH TIP LEFTWARDS/4RIGHTWARDS/0RIGHTWARDS ARROW WITH CORNER DOWNWARDS",
    "0DOWNWARDS ARROW WITH CORNER LEFTWARDS/0ANTICLOCKWISE TOP SEMICIRCLE ARROW",
    "0CLOCKWISE TOP SEMICIRCLE ARROW/0NORTH WEST ARROW TO LONG BAR",
    "0LEFTWARDS ARROW TO BAR OVER RIGHTWARDS ARROW TO BAR/0ANTICLOCKWISE OPEN CIRCLE ARROW",
    "0CLOCKWISE OPEN CIRCLE ARROW/0LEFTWARDS HARPOON WITH BARB UPWARDS/4DOWNWARDS",
    "0UPWARDS HARPOON WITH BARB RIGHTWARDS/4LEFTWARDS/0RIGHTWARDS HARPOON WITH BARB UPWARDS",
    "4DOWNWARDS/0DOWNWARDS HARPOON WITH BARB RIGHTWARDS/4LEFTWARDS",
    "0RIGHTWARDS ARROW OVER LEFTWARDS ARROW/0UPWARDS ARROW LEFTWARDS OF DOWNWARDS ARROW",
    "0LEFTWARDS ARROW OVER RIGHTWARDS ARROW/1PAIRED ARROWS/0UPWARDS PAIRED ARROWS",
    "0RIGHTWARDS PAIRED ARROWS/0DOWNWARDS PAIRED ARROWS",
    "0LEFTWARDS HARPOON OVER RIGHTWARDS HARPOON/0RIGHTWARDS HARPOON OVER LEFTWARDS HARPOON",
    "0LEFTWARDS DOUBLE ARROW WITH STROKE/0LEFT RIGHT DOUBLE ARROW WITH STROKE",
    "0RIGHTWARDS DOUBLE ARROW WITH STROKE/0LEFTWARDS DOUBLE ARROW/0UPWARDS DOUBLE ARROW",
    "0RIGHTWARDS DOUBLE ARROW/0DOWNWARDS DOUBLE ARROW/0LEFT RIGHT DOUBLE ARROW",
    "0UP DOWN DOUBLE ARROW/0NORTH WEST DOUBLE ARROW/1EAST DOUBLE ARROW/0SOUTH EAST DOUBLE ARROW",
    "1WEST DOUBLE ARROW/0LEFTWARDS TRIPLE ARROW/0RIGHTWARDS TRIPLE ARROW",
    "0LEFTWARDS SQUIGGLE ARROW/0RIGHTWARDS SQUIGGLE ARROW/0UPWARDS ARROW WITH DOUBLE STROKE",
    "0DOWNWARDS ARROW WITH DOUBLE STROKE/0LEFTWARDS DASHED ARROW/0UPWARDS DASHED ARROW",
    "0RIGHTWARDS DASHED ARROW/0DOWNWARDS DASHED ARROW/0LEFTWARDS ARROW TO BAR",
    "0RIGHTWARDS ARROW TO BAR/0LEFTWARDS WHITE ARROW/0UPWARDS WHITE ARROW/0RIGHTWARDS WHITE ARROW",
    "0DOWNWARDS WHITE ARROW/0UPWARDS WHITE ARROW FROM BAR/3ON PEDESTAL/5WITH HORIZONTAL BAR",
    "6VERTICAL BAR/2DOUBLE ARROW/4ON PEDESTAL/0RIGHTWARDS WHITE ARROW FROM WALL",
    "0NORTH WEST ARROW TO CORNER/0SOUTH EAST ARROW TO CORNER/0UP DOWN WHITE ARROW",
    "0RIGHT ARROW WITH SMALL CIRCLE/0DOWNWARDS ARROW LEFTWARDS OF UPWARDS ARROW",
    "0THREE RIGHTWARDS ARROWS/0LEFTWARDS ARROW WITH VERTICAL STROKE",
    "0RIGHTWARDS ARROW WITH VERTICAL STROKE/0LEFT RIGHT ARROW WITH VERTICAL STROKE",
    "0LEFTWARDS ARROW WITH DOUBLE VERTICAL STROKE/0RIGHTWARDS ARROW WITH DOUBLE VERTICAL STROKE",
    "0LEFT RIGHT ARROW WITH DOUBLE VERTICAL STROKE/0LEFTWARDS OPEN-HEADED ARROW",
    "0RIGHTWARDS OPEN-HEADED ARROW/0LEFT RIGHT OPEN-HEADED ARROW/0FOR ALL/0COMPLEMENT",
    "0PARTIAL DIFFERENTIAL/0THERE EXISTS/1DOES NOT EXIST/0EMPTY SET/0INCREMENT/0NABLA/0ELEMENT OF",
    "0NOT AN ELEMENT OF/0SMALL ELEMENT OF/0CONTAINS AS MEMBER/0DOES NOT CONTAIN AS MEMBER",
    "0SMALL CONTAINS AS MEMBER/0END OF PROOF/0N-ARY PRODUCT/1COPRODUCT/1SUMMATION/0MINUS SIGN",
    "0MINUS-OR-PLUS SIGN/0DOT PLUS/0DIVISION SLASH/0SET MINUS/0ASTERISK OPERATOR/0RING OPERATOR",
    "0BULLET OPERATOR/0SQUARE ROOT/0CUBE ROOT/0FOURTH ROOT/0PROPORTIONAL TO/0INFINITY",
    "0RIGHT ANGLE/0ANGLE/0MEASURED ANGLE/0SPHERICAL ANGLE/0DIVIDES/0DOES NOT DIVIDE/0PARALLEL TO",
    "0NOT PARALLEL TO/0LOGICAL AND/1OR/0INTERSECTION/0UNION/0INTEGRAL/0DOUBLE INTEGRAL",
    "0TRIPLE INTEGRAL/0CONTOUR INTEGRAL/0SURFACE INTEGRAL/0VOLUME INTEGRAL/0CLOCKWISE INTEGRAL",
    "1CONTOUR INTEGRAL/0ANTICLOCKWISE CONTOUR INTEGRAL/0THEREFORE/0BECAUSE/0RATIO/0PROPORTION",
    "0DOT MINUS/0EXCESS/0GEOMETRIC PROPORTION/0HOMOTHETIC/0TILDE OPERATOR/0REVERSED TILDE",
    "0INVERTED LAZY S/0SINE WAVE/0WREATH PRODUCT/0NOT TILDE/0MINUS TILDE/0ASYMPTOTICALLY EQUAL TO",
    "0NOT ASYMPTOTICALLY EQUAL TO/0APPROXIMATELY EQUAL TO/1BUT NOT ACTUALLY EQUAL TO",
    "0NEITHER APPROXIMATELY NOR ACTUALLY EQUAL TO/0ALMOST EQUAL TO/0NOT ALMOST EQUAL TO",
    "0ALMOST EQUAL OR EQUAL TO/0TRIPLE TILDE/0ALL EQUAL TO/0EQUIVALENT TO",
    "0GEOMETRICALLY EQUIVALENT TO/0DIFFERENCE BETWEEN/0APPROACHES THE LIMIT",
    "0GEOMETRICALLY EQUAL TO/0APPROXIMATELY EQUAL TO OR THE IMAGE OF",
    "0IMAGE OF OR APPROXIMATELY EQUAL TO/0COLON EQUALS/0EQUALS COLON/0RING IN EQUAL TO/1EQUAL TO",
    "0CORRESPONDS TO/0ESTIMATES/0EQUIANGULAR TO/0STAR EQUALS/0DELTA EQUAL TO",
    "0EQUAL TO BY DEFINITION/0MEASURED BY/0QUESTIONED EQUAL TO/0NOT EQUAL TO/0IDENTICAL TO",
    "0NOT IDENTICAL TO/0STRICTLY EQUIVALENT TO/0LESS-THAN OR EQUAL TO/0GREATER-THAN OR EQUAL TO",
    "0LESS-THAN OVER EQUAL TO/0GREATER-THAN OVER EQUAL TO/0LESS-THAN BUT NOT EQUAL TO",
    "0GREATER-THAN BUT NOT EQUAL TO/0MUCH LESS-THAN/1GREATER-THAN/0BETWEEN/0NOT EQUIVALENT TO",
    "1LESS-THAN/1GREATER-THAN/0NEITHER LESS-THAN NOR EQUAL TO/1GREATER-THAN NOR EQUAL TO",
    "0LESS-THAN OR EQUIVALENT TO/0GREATER-THAN OR EQUIVALENT TO",
    "0NEITHER LESS-THAN NOR EQUIVALENT TO/1GREATER-THAN NOR EQUIVALENT TO",
    "0LESS-THAN OR GREATER-THAN/0GREATER-THAN OR LESS-THAN/0NEITHER LESS-THAN NOR GREATER-THAN",
    "1GREATER-THAN NOR LESS-THAN/0PRECEDES/0SUCCEEDS/0PRECEDES OR EQUAL TO/0SUCCEEDS OR EQUAL TO",
    "0PRECEDES OR EQUIVALENT TO/0SUCCEEDS OR EQUIVALENT TO/0DOES NOT PRECEDE/2SUCCEED/0SUBSET OF",
    "0SUPERSET OF/0NOT A SUBSET OF/2SUPERSET OF/0SUBSET OF OR EQUAL TO/0SUPERSET OF OR EQUAL TO",
    "0NEITHER A SUBSET OF NOR EQUAL TO/2SUPERSET OF NOR EQUAL TO/0SUBSET OF WITH NOT EQUAL TO",
    "0SUPERSET OF WITH NOT EQUAL TO/0MULTISET/1MULTIPLICATION/1UNION/0SQUARE IMAGE OF",
    "1ORIGIN\x41L OF/1IMAGE OF OR EQUAL TO/1ORIGIN\x41L OF OR EQUAL TO/1CAP/1CUP/0CIRCLED PLUS",
    "1MINUS/1TIMES/1DIVISION SLASH/1DOT OPERATOR/1RING OPERATOR/1ASTERISK OPERATOR/1EQUALS/1DASH",
    "0SQUARED PLUS/1MINUS/1TIMES/1DOT OPERATOR/0RIGHT TACK/0LEFT TACK/0DOWN TACK/0UP TACK",
    "0ASSERTION/0MODELS/0TRUE/0FORCES/0TRIPLE VERTICAL BAR RIGHT TURNSTILE",
    "0DOUBLE VERTICAL BAR DOUBLE RIGHT TURNSTILE/0DOES NOT PROVE/0NOT TRUE/0DOES NOT FORCE",
    "0NEGATED DOUBLE VERTICAL BAR DOUBLE RIGHT TURNSTILE/0PRECEDES UNDER RELATION",
    "0SUCCEEDS UNDER RELATION/0NORMAL SUBGROUP OF/0CONTAINS AS NORMAL SUBGROUP",
    "0NORMAL SUBGROUP OF OR EQUAL TO/0CONTAINS AS NORMAL SUBGROUP OR EQUAL TO/0ORIGIN\x41L OF",
    "0IMAGE OF/0MULTIMAP/0HERMITIAN CONJUGATE MATRIX/0INTERCALATE/0XOR/0NAND/0NOR",
    "0RIGHT ANGLE WITH ARC/1TRIANGLE/0N-ARY LOGICAL AND/2OR/1INTERSECTION/1UNION",
    "0DIAMOND OPERATOR/0DOT OPERATOR/0STAR OPERATOR/0DIVISION TIMES/0BOWTIE",
    "0LEFT NORMAL FACTOR SEMIDIRECT PRODUCT/0RIGHT NORMAL FACTOR SEMIDIRECT PRODUCT",
    "0LEFT SEMIDIRECT PRODUCT/0RIGHT SEMIDIRECT PRODUCT/0REVERSED TILDE EQUALS/0CURLY LOGICAL OR",
    "2AND/0DOUBLE SUBSET/1SUPERSET/1INTERSECTION/1UNION/0PITCHFORK/0EQUAL AND PARALLEL TO",
    "0LESS-THAN WITH DOT/0GREATER-THAN WITH DOT/0VERY MUCH LESS-THAN/2GREATER-THAN",
    "0LESS-THAN EQUAL TO OR GREATER-THAN/0GREATER-THAN EQUAL TO OR LESS-THAN",
    "0EQUAL TO OR LESS-THAN/3GREATER-THAN/3PRECEDES/3SUCCEEDS/0DOES NOT PRECEDE OR EQUAL",
    "2SUCCEED OR EQUAL/0NOT SQUARE IMAGE OF OR EQUAL TO/2ORIGIN\x41L OF OR EQUAL TO",
    "0SQUARE IMAGE OF OR NOT EQUAL TO/1ORIGIN\x41L OF OR NOT EQUAL TO",
    "0LESS-THAN BUT NOT EQUIVALENT TO/0GREATER-THAN BUT NOT EQUIVALENT TO",
    "0PRECEDES BUT NOT EQUIVALENT TO/0SUCCEEDS BUT NOT EQUIVALENT TO/0NOT NORMAL SUBGROUP OF",
    "0DOES NOT CONTAIN AS NORMAL SUBGROUP/0NOT NORMAL SUBGROUP OF OR EQUAL TO",
    "0DOES NOT CONTAIN AS NORMAL SUBGROUP OR EQUAL/0VERTICAL ELLIPSIS",
    "0MIDLINE HORIZONTAL ELLIPSIS/0UP RIGHT DIAGONAL ELLIPSIS/0DOWN RIGHT DIAGONAL ELLIPSIS",
    "0ELEMENT OF WITH LONG HORIZONTAL STROKE/3VERTICAL BAR AT END OF HORIZONTAL STROKE",
    "0SMALL ELEMENT OF WITH VERTICAL BAR AT END OF HORIZONTAL STROKE/0ELEMENT OF WITH DOT ABOVE",
    "3OVERBAR/0SMALL ELEMENT OF WITH OVERBAR/0ELEMENT OF WITH UNDERBAR/3TWO HORIZONTAL STROKES",
    "0CONTAINS WITH LONG HORIZONTAL STROKE/2VERTICAL BAR AT END OF HORIZONTAL STROKE",
    "0SMALL CONTAINS WITH VERTICAL BAR AT END OF HORIZONTAL STROKE/0CONTAINS WITH OVERBAR",
    "0SMALL CONTAINS WITH OVERBAR/0Z NOTATION BAG MEMBERSHIP/0DIAMETER SIGN/0ELECTRIC ARROW",
    "0HOUSE/0UP ARROWHEAD/0DOWN ARROWHEAD/0PROJECTIVE/0PERSPECTIVE/0WAVY LINE/0LEFT CEILING",
    "0RIGHT CEILING/0LEFT FLOOR/0RIGHT FLOOR/0BOTTOM RIGHT CROP/1LEFT CROP/0TOP RIGHT CROP",
    "1LEFT CROP/0REVERSED NOT SIGN/0SQUARE LOZENGE/0ARC/0SEGMENT/0SECTOR/0TELEPHONE RECORDER",
    "0POSITION INDICATOR/0VIEWDATA SQUARE/0PLACE OF INTEREST SIGN/0TURNED NOT SIGN/0WATCH",
    "0HOURGLASS/0TOP LEFT CORNER/1RIGHT CORNER/0BOTTOM LEFT CORNER/1RIGHT CORNER",
    "0TOP HALF INTEGRAL/0BOTTOM HALF INTEGRAL/0FROWN/0SMILE",
    "0UP ARROWHEAD BETWEEN TWO HORIZONTAL BARS/0OPTION KEY/0ERASE TO THE RIGHT",
    "0X IN A RECTANGLE BOX/0KEYBOARD/0LEFT-POINTING ANGLE BRACKET/0RIGHT-POINTING ANGLE BRACKET",
    "0ERASE TO THE LEFT/0BENZENE RING/0CYLINDRICITY/0ALL AROUND-PROFILE/0SYMMETRY/0TOTAL RUNOUT",
    "0DIMENSION ORIGIN/0CONICAL TAPER/0SLOPE/0COUNTERBORE/0COUNTERSINK",
    "0APL FUNCTIONAL SYMBOL I-BEAM/3SQUISH QUAD/3QUAD EQUAL/4DIVIDE/4DIAMOND/4JOT/4CIRCLE",
    "3CIRCLE STILE/4JOT/3SLASH BAR/3BACKSLASH BAR/3QUAD SLASH/4BACKSLASH/4LESS-THAN/4GREATER-THAN",
    "3LEFTWARDS VANE/3RIGHTWARDS VANE/3QUAD LEFTWARDS ARROW/4RIGHTWARDS ARROW/3CIRCLE BACKSLASH",
    "3DOWN TACK UNDERBAR/3DELTA STILE/3QUAD DOWN CARET/4DELTA/3DOWN TACK JOT/3UPWARDS VANE",
    "3QUAD UPWARDS ARROW/3UP TACK OVERBAR/3DEL STILE/3QUAD UP CARET/4DEL/3UP TACK JOT",
    "3DOWNWARDS VANE/3QUAD DOWNWARDS ARROW/3QUOTE UNDERBAR/3DELTA UNDERBAR/3DIAMOND UNDERBAR",
    "3JOT UNDERBAR/3CIRCLE UNDERBAR/3UP SHOE JOT/3QUOTE QUAD/3CIRCLE STAR/3QUAD COLON",
    "3UP TACK DIAERESIS/3DEL DIAERESIS/3STAR DIAERESIS/3JOT DIAERESIS/3CIRCLE DIAERESIS",
    "3DOWN SHOE STILE/3LEFT SHOE STILE/3TILDE DIAERESIS/3GREATER-THAN DIAERESIS/3COMMA BAR",
    "3DEL TILDE/3ZILDE/3STILE TILDE/3SEMICOLON UNDERBAR/3QUAD NOT EQUAL/4QUESTION",
    "3DOWN CARET TILDE/3UP CARET TILDE/3IOTA/3RHO/3OMEGA/3ALPHA UNDERBAR/3EPSILON UNDERBAR",
    "3IOTA UNDERBAR/3OMEGA UNDERBAR/3ALPHA/0NOT CHECK MARK",
    "0RIGHT ANGLE WITH DOWNWARDS ZIGZAG ARROW/0SHOULDERED OPEN BOX/0BELL SYMBOL",
    "0VERTICAL LINE WITH MIDDLE DOT/0INSERTION SYMBOL/0CONTINUOUS UNDERLINE SYMBOL",
    "0DISCONTINUOUS UNDERLINE SYMBOL/0EMPHASIS SYMBOL/0COMPOSITION SYMBOL",
    "0WHITE SQUARE WITH CENTRE VERTICAL LINE/0ENTER SYMBOL/0ALTERNATIVE KEY SYMBOL/0HELM SYMBOL",
    "0CIRCLED HORIZONTAL BAR WITH NOTCH/1TRIANGLE DOWN/0BROKEN CIRCLE WITH NORTHWEST ARROW",
    "0UNDO SYMBOL/0MONOSTABLE SYMBOL/0HYSTERESIS SYMBOL/0OPEN-CIRCUIT-OUTPUT H-TYPE SYMBOL",
    "1L-TYPE SYMBOL/0PASSIVE-PULL-DOWN-OUTPUT SYMBOL/0PASSIVE-PULL-UP-OUTPUT SYMBOL",
    "0DIRECT CURRENT SYMBOL FORM TWO/0SOFTWARE-FUNCTION SYMBOL/0APL FUNCTIONAL SYMBOL QUAD",
    "0DECIMAL SEPARATOR KEY SYMBOL/0PREVIOUS PAGE/0NEXT PAGE/0PRINT SCREEN SYMBOL",
    "0CLEAR SCREEN SYMBOL/0LEFT PARENTHESIS UPPER HOOK/2EXTENSION/2LOWER HOOK",
    "0RIGHT PARENTHESIS UPPER HOOK/2EXTENSION/2LOWER HOOK/0LEFT SQUARE BRACKET UPPER CORNER",
    "3EXTENSION/3LOWER CORNER/0RIGHT SQUARE BRACKET UPPER CORNER/3EXTENSION/3LOWER CORNER",
    "0LEFT CURLY BRACKET UPPER HOOK/3MIDDLE PIECE/3LOWER HOOK/0CURLY BRACKET EXTENSION",
    "0RIGHT CURLY BRACKET UPPER HOOK/3MIDDLE PIECE/3LOWER HOOK/0INTEGRAL EXTENSION",
    "0HORIZONTAL LINE EXTENSION/0UPPER LEFT OR LOWER RIGHT CURLY BRACKET SECTION",
    "1RIGHT OR LOWER LEFT CURLY BRACKET SECTION/0SUMMATION TOP/1BOTTOM/0TOP SQUARE BRACKET",
    "0BOTTOM SQUARE BRACKET/3OVER TOP SQUARE BRACKET/0RADICAL SYMBOL BOTTOM",
    "0LEFT VERTICAL BOX LINE/0RIGHT VERTICAL BOX LINE/0HORIZONTAL SCAN LINE-1/2LINE-3/2LINE-7",
    "2LINE-9/0DENTISTRY SYMBOL LIGHT VERTICAL AND TOP RIGHT/5BOTTOM RIGHT/4WITH CIRCLE",
    "3DOWN AND HORIZONTAL WITH CIRCLE/3UP AND HORIZONTAL WITH CIRCLE/3VERTICAL WITH TRIANGLE",
    "3DOWN AND HORIZONTAL WITH TRIANGLE/3UP AND HORIZONTAL WITH TRIANGLE/3VERTICAL AND WAVE",
    "3DOWN AND HORIZONTAL WITH WAVE/3UP AND HORIZONTAL WITH WAVE/3DOWN AND HORIZONTAL",
    "3UP AND HORIZONTAL/3VERTICAL AND TOP LEFT/5BOTTOM LEFT/0SQUARE FOOT/0RETURN SYMBOL",
    "0EJECT SYMBOL/0VERTICAL LINE EXTENSION/0METRICAL BREVE/1LONG OVER SHORT/1SHORT OVER LONG",
    "1LONG OVER TWO SHORTS/1TWO SHORTS OVER LONG/3JOINED/1TRISEME/1TETRASEME/1PENTASEME",
    "0EARTH GROUND/0FUSE/0TOP PARENTHESIS/0BOTTOM PARENTHESIS/0TOP CURLY BRACKET",
    "0BOTTOM CURLY BRACKET/0TOP TORTOISE SHELL BRACKET/0BOTTOM TORTOISE SHELL BRACKET",
    "0WHITE TRAPEZIUM/0BENZENE RING WITH CIRCLE/0STRAIGHTNESS/0FLATNESS/0AC CURRENT",
    "0ELECTRICAL INTERSECTION/0DECIMAL EXPONENT SYMBOL/0BLACK RIGHT-POINTING DOUBLE TRIANGLE",
    "1LEFT-POINTING DOUBLE TRIANGLE/1UP-POINTING DOUBLE TRIANGLE/1DOWN-POINTING DOUBLE TRIANGLE",
    "1RIGHT-POINTING DOUBLE TRIANGLE WITH VERTICAL BAR",
    "1LEFT-POINTING DOUBLE TRIANGLE WITH VERTICAL BAR",
    "1RIGHT-POINTING TRIANGLE WITH DOUBLE VERTICAL BAR/0ALARM CLOCK/0STOPWATCH/0TIMER CLOCK",
    "0HOURGLASS WITH FLOWING SAND/0BLACK MEDIUM LEFT-POINTING TRIANGLE/2RIGHT-POINTING TRIANGLE",
    "2UP-POINTING TRIANGLE/2DOWN-POINTING TRIANGLE/0DOUBLE VERTICAL BAR/0BLACK SQUARE FOR STOP",
    "1CIRCLE FOR RECORD/0POWER SYMBOL/1ON-OFF SYMBOL/1ON SYMBOL/1SLEEP SYMBOL",
    "0OBSERVER EYE SYMBOL/0SYMBOL FOR NULL/2START OF HEADING/4TEXT/2END OF TEXT/4TRANSMISSION",
    "2ENQUIRY/2ACKNOWLEDGE/2BELL/2BACKSPACE/2HORIZONTAL TABULATION/2LINE FEED",
    "2VERTICAL TABULATION/2FORM FEED/2CARRIAGE RETURN/2SHIFT OUT/3IN/2DATA LINK ESCAPE",
    "2DEVICE CONTROL ONE/4TWO/4THREE/4FOUR/2NEGATIVE ACKNOWLEDGE/2SYNCHRONOUS IDLE",
    "2END OF TRANSMISSION BLOCK/2CANCEL/2END OF MEDIUM/2SUBSTITUTE/2ESCAPE/2FILE SEPARATOR",
    "2GROUP SEPARATOR/2RECORD SEPARATOR/2UNIT SEPARATOR/2SPACE/2DELETE/0BLANK SYMBOL/0OPEN BOX",
    "0SYMBOL FOR NEWLINE/2DELETE FORM TWO/2SUBSTITUTE FORM TWO/@2440/0OCR HOOK/1CHAIR/1FORK",
    "1INVERTED FORK/1BELT BUCKLE/1BOW TIE/1BRANCH BANK IDENTIFICATION/1AMOUNT OF CHECK/1DASH",
    "1CUSTOMER ACCOUNT NUMBER/1DOUBLE BACKSLASH/@2460/0CIRCLED DIGIT ONE/2TWO/2THREE/2FOUR/2FIVE",
    "2SIX/2SEVEN/2EIGHT/2NINE/1NUMBER TEN/2ELEVEN/2TWELVE/2THIRTEEN/2FOURTEEN/2FIFTEEN/2SIXTEEN",
    "2SEVENTEEN/2EIGHTEEN/2NINETEEN/2TWENTY/0PARENTHESIZED DIGIT ONE/2TWO/2THREE/2FOUR/2FIVE/2SIX",
    "2SEVEN/2EIGHT/2NINE/1NUMBER TEN/2ELEVEN/2TWELVE/2THIRTEEN/2FOURTEEN/2FIFTEEN/2SIXTEEN",
    "2SEVENTEEN/2EIGHTEEN/2NINETEEN/2TWENTY/0DIGIT ONE FULL STOP/1TWO FULL STOP/1THREE FULL STOP",
    "1FOUR FULL STOP/1FIVE FULL STOP/1SIX FULL STOP/1SEVEN FULL STOP/1EIGHT FULL STOP",
    "1NINE FULL STOP/0NUMBER TEN FULL STOP/1ELEVEN FULL STOP/1TWELVE FULL STOP",
    "1THIRTEEN FULL STOP/1FOURTEEN FULL STOP/1FIFTEEN FULL STOP/1SIXTEEN FULL STOP",
    "1SEVENTEEN FULL STOP/1EIGHTEEN FULL STOP/1NINETEEN FULL STOP/1TWENTY FULL STOP",
    "0PARENTHESIZED LATIN SMALL LETTER A/4B/4C/4D/4E/4F/4G/4H/4I/4J/4K/4L/4M/4N/4O/4P/4Q/4R/4S/4T",
    "4U/4V/4W/4X/4Y/4Z/0CIRCLED LATIN CAPITAL LETTER A/4B/4C/4D/4E/4F/4G/4H/4I/4J/4K/4L/4M/4N/4O",
    "4P/4Q/4R/4S/4T/4U/4V/4W/4X/4Y/4Z/2SMALL LETTER A/4B/4C/4D/4E/4F/4G/4H/4I/4J/4K/4L/4M/4N/4O",
    "4P/4Q/4R/4S/4T/4U/4V/4W/4X/4Y/4Z/1DIGIT ZERO/0NEGATIVE CIRCLED NUMBER ELEVEN/3TWELVE",
    "3THIRTEEN/3FOURTEEN/3FIFTEEN/3SIXTEEN/3SEVENTEEN/3EIGHTEEN/3NINETEEN/3TWENTY",
    "0DOUBLE CIRCLED DIGIT ONE/3TWO/3THREE/3FOUR/3FIVE/3SIX/3SEVEN/3EIGHT/3NINE/2NUMBER TEN",
    "0NEGATIVE CIRCLED DIGIT ZERO/0BOX DRAWINGS LIGHT HORIZONTAL/2HEAVY HORIZONTAL",
    "2LIGHT VERTICAL/2HEAVY VERTICAL/2LIGHT TRIPLE DASH HORIZONTAL/2HEAVY TRIPLE DASH HORIZONTAL",
    "2LIGHT TRIPLE DASH VERTICAL/2HEAVY TRIPLE DASH VERTICAL/2LIGHT QUADRUPLE DASH HORIZONTAL",
    "2HEAVY QUADRUPLE DASH HORIZONTAL/2LIGHT QUADRUPLE DASH VERTICAL",
    "2HEAVY QUADRUPLE DASH VERTICAL/2LIGHT DOWN AND RIGHT/2DOWN LIGHT AND RIGHT HEAVY",
    "3HEAVY AND RIGHT LIGHT/2HEAVY DOWN AND RIGHT/2LIGHT DOWN AND LEFT/2DOWN LIGHT AND LEFT HEAVY",
    "3HEAVY AND LEFT LIGHT/2HEAVY DOWN AND LEFT/2LIGHT UP AND RIGHT/2UP LIGHT AND RIGHT HEAVY",
    "3HEAVY AND RIGHT LIGHT/2HEAVY UP AND RIGHT/2LIGHT UP AND LEFT/2UP LIGHT AND LEFT HEAVY",
    "3HEAVY AND LEFT LIGHT/2HEAVY UP AND LEFT/2LIGHT VERTICAL AND RIGHT",
    "2VERTICAL LIGHT AND RIGHT HEAVY/2UP HEAVY AND RIGHT DOWN LIGHT",
    "2DOWN HEAVY AND RIGHT UP LIGHT/2VERTICAL HEAVY AND RIGHT LIGHT",
    "2DOWN LIGHT AND RIGHT UP HEAVY/2UP LIGHT AND RIGHT DOWN HEAVY/2HEAVY VERTICAL AND RIGHT",
    "2LIGHT VERTICAL AND LEFT/2VERTICAL LIGHT AND LEFT HEAVY/2UP HEAVY AND LEFT DOWN LIGHT",
    "2DOWN HEAVY AND LEFT UP LIGHT/2VERTICAL HEAVY AND LEFT LIGHT/2DOWN LIGHT AND LEFT UP HEAVY",
    "2UP LIGHT AND LEFT DOWN HEAVY/2HEAVY VERTICAL AND LEFT/2LIGHT DOWN AND HORIZONTAL",
    "2LEFT HEAVY AND RIGHT DOWN LIGHT/2RIGHT HEAVY AND LEFT DOWN LIGHT",
    "2DOWN LIGHT AND HORIZONTAL HEAVY/3HEAVY AND HORIZONTAL LIGHT",
    "2RIGHT LIGHT AND LEFT DOWN HEAVY/2LEFT LIGHT AND RIGHT DOWN HEAVY/2HEAVY DOWN AND HORIZONTAL",
    "2LIGHT UP AND HORIZONTAL/2LEFT HEAVY AND RIGHT UP LIGHT/2RIGHT HEAVY AND LEFT UP LIGHT",
    "2UP LIGHT AND HORIZONTAL HEAVY/3HEAVY AND HORIZONTAL LIGHT/2RIGHT LIGHT AND LEFT UP HEAVY",
    "2LEFT LIGHT AND RIGHT UP HEAVY/2HEAVY UP AND HORIZONTAL/2LIGHT VERTICAL AND HORIZONTAL",
    "2LEFT HEAVY AND RIGHT VERTICAL LIGHT/2RIGHT HEAVY AND LEFT VERTICAL LIGHT",
    "2VERTICAL LIGHT AND HORIZONTAL HEAVY/2UP HEAVY AND DOWN HORIZONTAL LIGHT",
    "2DOWN HEAVY AND UP HORIZONTAL LIGHT/2VERTICAL HEAVY AND HORIZONTAL LIGHT",
    "2LEFT UP HEAVY AND RIGHT DOWN LIGHT/2RIGHT UP HEAVY AND LEFT DOWN LIGHT",
    "2LEFT DOWN HEAVY AND RIGHT UP LIGHT/2RIGHT DOWN HEAVY AND LEFT UP LIGHT",
    "2DOWN LIGHT AND UP HORIZONTAL HEAVY/2UP LIGHT AND DOWN HORIZONTAL HEAVY",
    "2RIGHT LIGHT AND LEFT VERTICAL HEAVY/2LEFT LIGHT AND RIGHT VERTICAL HEAVY",
    "2HEAVY VERTICAL AND HORIZONTAL/2LIGHT DOUBLE DASH HORIZONTAL/2HEAVY DOUBLE DASH HORIZONTAL",
    "2LIGHT DOUBLE DASH VERTICAL/2HEAVY DOUBLE DASH VERTICAL/2DOUBLE HORIZONTAL/3VERTICAL",
    "2DOWN SINGLE AND RIGHT DOUBLE/3DOUBLE AND RIGHT SINGLE/2DOUBLE DOWN AND RIGHT",
    "2DOWN SINGLE AND LEFT DOUBLE/3DOUBLE AND LEFT SINGLE/2DOUBLE DOWN AND LEFT",
    "2UP SINGLE AND RIGHT DOUBLE/3DOUBLE AND RIGHT SINGLE/2DOUBLE UP AND RIGHT",
    "2UP SINGLE AND LEFT DOUBLE/3DOUBLE AND LEFT SINGLE/2DOUBLE UP AND LEFT",
    "2VERTICAL SINGLE AND RIGHT DOUBLE/3DOUBLE AND RIGHT SINGLE/2DOUBLE VERTICAL AND RIGHT",
    "2VERTICAL SINGLE AND LEFT DOUBLE/3DOUBLE AND LEFT SINGLE/2DOUBLE VERTICAL AND LEFT",
    "2DOWN SINGLE AND HORIZONTAL DOUBLE/3DOUBLE AND HORIZONTAL SINGLE/2DOUBLE DOWN AND HORIZONTAL",
    "2UP SINGLE AND HORIZONTAL DOUBLE/3DOUBLE AND HORIZONTAL SINGLE/2DOUBLE UP AND HORIZONTAL",
    "2VERTICAL SINGLE AND HORIZONTAL DOUBLE/3DOUBLE AND HORIZONTAL SINGLE",
    "2DOUBLE VERTICAL AND HORIZONTAL/2LIGHT ARC DOWN AND RIGHT/6LEFT/4UP AND LEFT/6RIGHT",
    "3DIAGONAL UPPER RIGHT TO LOWER LEFT/5LEFT TO LOWER RIGHT/4CROSS/3LEFT/3UP/3RIGHT/3DOWN",
    "2HEAVY LEFT/3UP/3RIGHT/3DOWN/2LIGHT LEFT AND HEAVY RIGHT/3UP AND HEAVY DOWN",
    "2HEAVY LEFT AND LIGHT RIGHT/3UP AND LIGHT DOWN/0UPPER HALF BLOCK/0LOWER ONE EIGHTH BLOCK",
    "2QUARTER BLOCK/1THREE EIGHTHS BLOCK/1HALF BLOCK/1FIVE EIGHTHS BLOCK/1THREE QUARTERS BLOCK",
    "1SEVEN EIGHTHS BLOCK/0FULL BLOCK/0LEFT SEVEN EIGHTHS BLOCK/1THREE QUARTERS BLOCK",
    "1FIVE EIGHTHS BLOCK/1HALF BLOCK/1THREE EIGHTHS BLOCK/1ONE QUARTER BLOCK/2EIGHTH BLOCK",
    "0RIGHT HALF BLOCK/0LIGHT SHADE/0MEDIUM SHADE/0DARK SHADE/0UPPER ONE EIGHTH BLOCK",
    "0RIGHT ONE EIGHTH BLOCK/0QUADRANT LOWER LEFT/2RIGHT/1UPPER LEFT",
    "3AND LOWER LEFT AND LOWER RIGHT/5RIGHT/4UPPER RIGHT AND LOWER LEFT/8RIGHT/2RIGHT",
    "3AND LOWER LEFT/6AND LOWER RIGHT/0BLACK SQUARE/0WHITE SQUARE/2WITH ROUNDED CORNERS",
    "2CONTAINING BLACK SMALL SQUARE/0SQUARE WITH HORIZONTAL FILL/2VERTICAL FILL",
    "2ORTHOGONAL CROSSHATCH FILL/2UPPER LEFT TO LOWER RIGHT FILL/3RIGHT TO LOWER LEFT FILL",
    "2DIAGONAL CROSSHATCH FILL/0BLACK SMALL SQUARE/0WHITE SMALL SQUARE/0BLACK RECTANGLE",
    "0WHITE RECTANGLE/0BLACK VERTICAL RECTANGLE/0WHITE VERTICAL RECTANGLE/0BLACK PARALLELOGRAM",
    "0WHITE PARALLELOGRAM/0BLACK UP-POINTING TRIANGLE/0WHITE UP-POINTING TRIANGLE",
    "0BLACK UP-POINTING SMALL TRIANGLE/0WHITE UP-POINTING SMALL TRIANGLE",
    "0BLACK RIGHT-POINTING TRIANGLE/0WHITE RIGHT-POINTING TRIANGLE",
    "0BLACK RIGHT-POINTING SMALL TRIANGLE/0WHITE RIGHT-POINTING SMALL TRIANGLE",
    "0BLACK RIGHT-POINTING POINTER/0WHITE RIGHT-POINTING POINTER/0BLACK DOWN-POINTING TRIANGLE",
    "0WHITE DOWN-POINTING TRIANGLE/0BLACK DOWN-POINTING SMALL TRIANGLE",
    "0WHITE DOWN-POINTING SMALL TRIANGLE/0BLACK LEFT-POINTING TRIANGLE",
    "0WHITE LEFT-POINTING TRIANGLE/0BLACK LEFT-POINTING SMALL TRIANGLE",
    "0WHITE LEFT-POINTING SMALL TRIANGLE/0BLACK LEFT-POINTING POINTER",
    "0WHITE LEFT-POINTING POINTER/0BLACK DIAMOND/0WHITE DIAMOND/2CONTAINING BLACK SMALL DIAMOND",
    "0FISHEYE/0LOZENGE/0WHITE CIRCLE/0DOTTED CIRCLE/0CIRCLE WITH VERTICAL FILL/0BULLSEYE",
    "0BLACK CIRCLE/0CIRCLE WITH LEFT HALF BLACK/2RIGHT HALF BLACK/2LOWER HALF BLACK",
    "2UPPER HALF BLACK/3RIGHT QUADRANT BLACK/2ALL BUT UPPER LEFT QUADRANT BLACK",
    "0LEFT HALF BLACK CIRCLE/0RIGHT HALF BLACK CIRCLE/0INVERSE BULLET/1WHITE CIRCLE",
    "0UPPER HALF INVERSE WHITE CIRCLE/0LOWER HALF INVERSE WHITE CIRCLE",
    "0UPPER LEFT QUADRANT CIRCULAR ARC/1RIGHT QUADRANT CIRCULAR ARC",
    "0LOWER RIGHT QUADRANT CIRCULAR ARC/1LEFT QUADRANT CIRCULAR ARC/0UPPER HALF CIRCLE",
    "0LOWER HALF CIRCLE/0BLACK LOWER RIGHT TRIANGLE/2LEFT TRIANGLE/1UPPER LEFT TRIANGLE",
    "2RIGHT TRIANGLE/0WHITE BULLET/0SQUARE WITH LEFT HALF BLACK/2RIGHT HALF BLACK",
    "2UPPER LEFT DIAGONAL HALF BLACK/2LOWER RIGHT DIAGONAL HALF BLACK",
    "0WHITE SQUARE WITH VERTICAL BISECTING LINE/1UP-POINTING TRIANGLE WITH DOT",
    "0UP-POINTING TRIANGLE WITH LEFT HALF BLACK/3RIGHT HALF BLACK/0LARGE CIRCLE",
    "0WHITE SQUARE WITH UPPER LEFT QUADRANT/3LOWER LEFT QUADRANT/4RIGHT QUADRANT",
    "3UPPER RIGHT QUADRANT/1CIRCLE WITH UPPER LEFT QUADRANT/3LOWER LEFT QUADRANT/4RIGHT QUADRANT",
    "3UPPER RIGHT QUADRANT/0UPPER LEFT TRIANGLE/1RIGHT TRIANGLE/0LOWER LEFT TRIANGLE",
    "0WHITE MEDIUM SQUARE/0BLACK MEDIUM SQUARE/0WHITE MEDIUM SMALL SQUARE",
    "0BLACK MEDIUM SMALL SQUARE/0LOWER RIGHT TRIANGLE/0BLACK SUN WITH RAYS/0CLOUD/0UMBRELLA",
    "0SNOWMAN/0COMET/0BLACK STAR/0WHITE STAR/0LIGHTNING/0THUNDERSTORM/0SUN/0ASCENDING NODE",
    "0DESCENDING NODE/0CONJUNCTION/0OPPOSITION/0BLACK TELEPHONE/0WHITE TELEPHONE/0BALLOT BOX",
    "2WITH CHECK/3X/0SALTIRE/0UMBRELLA WITH RAIN DROPS/0HOT BEVERAGE/0WHITE SHOGI PIECE",
    "0BLACK SHOGI PIECE/0SHAMROCK/0REVERSED ROTATED FLORAL HEART BULLET",
    "0BLACK LEFT POINTING INDEX/1RIGHT POINTING INDEX/0WHITE LEFT POINTING INDEX",
    "1UP POINTING INDEX/1RIGHT POINTING INDEX/1DOWN POINTING INDEX/0SKULL AND CROSSBONES",
    "0CAUTION SIGN/0RADIOACTIVE SIGN/0BIOHAZARD SIGN/0CADUCEUS/0ANKH/0ORTHODOX CROSS/0CHI RHO",
    "0CROSS OF LORRAINE/2JERUSALEM/0STAR AND CRESCENT/0FARSI SYMBOL/0ADI SHAKTI",
    "0HAMMER AND SICKLE/0PEACE SYMBOL/0YIN YANG/0TRIGRAM FOR HEAVEN/2LAKE/2FIRE/2THUNDER/2WIND",
    "2WATER/2MOUNTAIN/2EARTH/0WHEEL OF DHARMA/0WHITE FROWNING FACE/1SMILING FACE",
    "0BLACK SMILING FACE/0WHITE SUN WITH RAYS/0FIRST QUARTER MOON/0LAST QUARTER MOON/0MERCURY",
    "0FEMALE SIGN/0EARTH/0MALE SIGN/0JUPITER/0SATURN/0URANUS/0NEPTUNE/0PLUTO/0ARIES/0TAURUS",
    "0GEMINI/0CANCER/0LEO/0VIRGO/0LIBRA/0SCORPIUS/0SAGITTARIUS/0CAPRICORN/0AQUARIUS/0PISCES",
    "0WHITE CHESS KING/2QUEEN/2ROOK/2BISHOP/2KNIGHT/2PAWN/0BLACK CHESS KING/2QUEEN/2ROOK/2BISHOP",
    "2KNIGHT/2PAWN/1SPADE SUIT/0WHITE HEART SUIT/1DIAMOND SUIT/0BLACK CLUB SUIT/0WHITE SPADE SUIT",
    "0BLACK HEART SUIT/1DIAMOND SUIT/0WHITE CLUB SUIT/0HOT SPRINGS/0QUARTER NOTE/0EIGHTH NOTE",
    "0BEAMED EIGHTH NOTES/1SIXTEENTH NOTES/0MUSIC FLAT SIGN/1NATURAL SIGN/1SHARP SIGN",
    "0WEST SYRIAC CROSS/0EAST SYRIAC CROSS/0UNIVERSAL RECYCLING SYMBOL",
    "0RECYCLING SYMBOL FOR TYPE-1 PLASTICS/3TYPE-2 PLASTICS/3TYPE-3 PLASTICS/3TYPE-4 PLASTICS",
    "3TYPE-5 PLASTICS/3TYPE-6 PLASTICS/3TYPE-7 PLASTICS/3GENERIC MATERIALS",
    "0BLACK UNIVERSAL RECYCLING SYMBOL/0RECYCLED PAPER SYMBOL/0PARTIALLY-RECYCLED PAPER SYMBOL",
    "0PERMANENT PAPER SIGN/0WHEELCHAIR SYMBOL/0DIE FACE-1/1FACE-2/1FACE-3/1FACE-4/1FACE-5/1FACE-6",
    "0WHITE CIRCLE WITH DOT RIGHT/3TWO DOTS/0BLACK CIRCLE WITH WHITE DOT RIGHT/3TWO WHITE DOTS",
    "0MONOGRAM FOR YANG/2YIN/0DIGRAM FOR GREATER YANG/2LESSER YIN/3YANG/2GREATER YIN/0WHITE FLAG",
    "0BLACK FLAG/0HAMMER AND PICK/0ANCHOR/0CROSSED SWORDS/0STAFF OF AESCULAPIUS/0SCALES/0ALEMBIC",
    "0FLOWER/0GEAR/0STAFF OF HERMES/0ATOM SYMBOL/0FLEUR-DE-LIS/0OUTLINED WHITE STAR",
    "0THREE LINES CONVERGING RIGHT/3LEFT/0WARNING SIGN/0HIGH VOLTAGE SIGN/0DOUBLED FEMALE SIGN",
    "1MALE SIGN/0INTERLOCKED FEMALE AND MALE SIGN/0MALE AND FEMALE SIGN/1WITH STROKE SIGN",
    "3AND MALE AND FEMALE SIGN/0VERTICAL MALE WITH STROKE SIGN/0HORIZONTAL MALE WITH STROKE SIGN",
    "0MEDIUM WHITE CIRCLE/1BLACK CIRCLE/1SMALL WHITE CIRCLE/0MARRIAGE SYMBOL/0DIVORCE SYMBOL",
    "0UNMARRIED PARTNERSHIP SYMBOL/0COFFIN/0FUNERAL URN/0NEUTER/0CERES/0PALLAS/0JUNO/0VESTA",
    "0CHIRON/0BLACK MOON LILITH/0SEXTILE/0SEMISEXTILE/0QUINCUNX/0SESQUIQUADRATE/0SOCCER BALL",
    "0BASEBALL/0SQUARED KEY/0WHITE DRAUGHTS MAN/2KING/0BLACK DRAUGHTS MAN/2KING",
    "0SNOWMAN WITHOUT SNOW/0SUN BEHIND CLOUD/0RAIN/0BLACK SNOWMAN/0THUNDER CLOUD AND RAIN",
    "0TURNED WHITE SHOGI PIECE/1BLACK SHOGI PIECE/0WHITE DIAMOND IN SQUARE/0CROSSING LANES",
    "0DISABLED CAR/0OPHIUCHUS/0PICK/0CAR SLIDING/0HELMET WITH WHITE CROSS/0CIRCLED CROSSING LANES",
    "0CHAINS/0NO ENTRY/0ALTERNATE ONE-WAY LEFT WAY TRAFFIC/0BLACK TWO-WAY LEFT WAY TRAFFIC",
    "0WHITE TWO-WAY LEFT WAY TRAFFIC/0BLACK LEFT LANE MERGE/0WHITE LEFT LANE MERGE",
    "0DRIVE SLOW SIGN/0HEAVY WHITE DOWN-POINTING TRIANGLE/0LEFT CLOSED ENTRY/0SQUARED SALTIRE",
    "0FALLING DIAGONAL IN WHITE CIRCLE IN BLACK SQUARE/0BLACK TRUCK/0RESTRICTED LEFT ENTRY-1",
    "2ENTRY-2/0ASTRONOMICAL SYMBOL FOR URANUS/0HEAVY CIRCLE WITH STROKE AND TWO DOTS ABOVE",
    "0PENTAGRAM/0RIGHT-HANDED INTERLACED PENTAGRAM/0LEFT-HANDED INTERLACED PENTAGRAM",
    "0INVERTED PENTAGRAM/0BLACK CROSS ON SHIELD/0SHINTO SHRINE/0CHURCH/0CASTLE/0HISTORIC SITE",
    "0GEAR WITHOUT HUB/1WITH HANDLES/0MAP SYMBOL FOR LIGHTHOUSE/0MOUNTAIN/0UMBRELLA ON GROUND",
    "0FOUNTAIN/0FLAG IN HOLE/0FERRY/0SAILBOAT/0SQUARE FOUR CORNERS/0SKIER/0ICE SKATE",
    "0PERSON WITH BALL/0TENT/0JAPANESE BANK SYMBOL/0HEADSTONE GRAVEYARD SYMBOL/0FUEL PUMP",
    "0CUP ON BLACK SQUARE/0WHITE FLAG WITH HORIZONTAL MIDDLE BLACK STRIPE/0BLACK SAFETY SCISSORS",
    "0UPPER BLADE SCISSORS/0BLACK SCISSORS/0LOWER BLADE SCISSORS/0WHITE SCISSORS",
    "1HEAVY CHECK MARK/0TELEPHONE LOCATION SIGN/0TAPE DRIVE/0AIRPLANE/0ENVELOPE/0RAISED FIST",
    "1HAND/0VICTORY HAND/0WRITING HAND/0LOWER RIGHT PENCIL/0PENCIL/0UPPER RIGHT PENCIL/0WHITE NIB",
    "0BLACK NIB/0CHECK MARK/0HEAVY CHECK MARK/0MULTIPLICATION X/0HEAVY MULTIPLICATION X/0BALLOT X",
    "0HEAVY BALLOT X/0OUTLINED GREEK CROSS/0HEAVY GREEK CROSS/0OPEN CENTRE CROSS",
    "0HEAVY OPEN CENTRE CROSS/0LATIN CROSS/0SHADOWED WHITE LATIN CROSS/0OUTLINED LATIN CROSS",
    "0MALTESE CROSS/0STAR OF DAVID/0FOUR TEARDROP-SPOKED ASTERISK/1BALLOON-SPOKED ASTERISK",
    "0HEAVY FOUR BALLOON-SPOKED ASTERISK/0FOUR CLUB-SPOKED ASTERISK/0BLACK FOUR POINTED STAR",
    "0WHITE FOUR POINTED STAR/0SPARKLES/0STRESS OUTLINED WHITE STAR/0CIRCLED WHITE STAR",
    "0OPEN CENTRE BLACK STAR/0BLACK CENTRE WHITE STAR/0OUTLINED BLACK STAR",
    "0HEAVY OUTLINED BLACK STAR/0PINWHEEL STAR/0SHADOWED WHITE STAR/0HEAVY ASTERISK",
    "0OPEN CENTRE ASTERISK/0EIGHT SPOKED ASTERISK/1POINTED BLACK STAR/2PINWHEEL STAR",
    "0SIX POINTED BLACK STAR/0EIGHT POINTED RECTILINEAR BLACK STAR",
    "0HEAVY EIGHT POINTED RECTILINEAR BLACK STAR/0TWELVE POINTED BLACK STAR",
    "0SIXTEEN POINTED ASTERISK/0TEARDROP-SPOKED ASTERISK/0OPEN CENTRE TEARDROP-SPOKED ASTERISK",
    "0HEAVY TEARDROP-SPOKED ASTERISK/0SIX PETALLED BLACK AND WHITE FLORETTE/0BLACK FLORETTE",
    "0WHITE FLORETTE/0EIGHT PETALLED OUTLINED BLACK FLORETTE",
    "0CIRCLED OPEN CENTRE EIGHT POINTED STAR/0HEAVY TEARDROP-SPOKED PINWHEEL ASTERISK/0SNOWFLAKE",
    "0TIGHT TRIFOLIATE SNOWFLAKE/0HEAVY CHEVRON SNOWFLAKE/0SPARKLE/0HEAVY SPARKLE",
    "0BALLOON-SPOKED ASTERISK/0EIGHT TEARDROP-SPOKED PROPELLER ASTERISK",
    "0HEAVY EIGHT TEARDROP-SPOKED PROPELLER ASTERISK/0CROSS MARK/0SHADOWED WHITE CIRCLE",
    "0NEGATIVE SQUARED CROSS MARK/0LOWER RIGHT DROP-SHADOWED WHITE SQUARE",
    "0UPPER RIGHT DROP-SHADOWED WHITE SQUARE/0LOWER RIGHT SHADOWED WHITE SQUARE",
    "0UPPER RIGHT SHADOWED WHITE SQUARE/0BLACK QUESTION MARK ORNAMENT",
    "0WHITE QUESTION MARK ORNAMENT/1EXCLAMATION MARK ORNAMENT/0BLACK DIAMOND MINUS WHITE X",
    "0HEAVY EXCLAMATION MARK SYMBOL/0LIGHT VERTICAL BAR/0MEDIUM VERTICAL BAR/0HEAVY VERTICAL BAR",
    "1SINGLE TURNED COMMA QUOTATION MARK ORNAMENT/2COMMA QUOTATION MARK ORNAMENT",
    "1DOUBLE TURNED COMMA QUOTATION MARK ORNAMENT/2COMMA QUOTATION MARK ORNAMENT",
    "1LOW SINGLE COMMA QUOTATION MARK ORNAMENT/2DOUBLE COMMA QUOTATION MARK ORNAMENT",
    "0CURVED STEM PARAGRAPH SIGN ORNAMENT/0HEAVY EXCLAMATION MARK ORNAMENT",
    "1HEART EXCLAMATION MARK ORNAMENT/1BLACK HEART/0ROTATED HEAVY BLACK HEART BULLET",
    "0FLORAL HEART/0ROTATED FLORAL HEART BULLET/0MEDIUM LEFT PARENTHESIS ORNAMENT",
    "1RIGHT PARENTHESIS ORNAMENT/1FLATTENED LEFT PARENTHESIS ORNAMENT/2RIGHT PARENTHESIS ORNAMENT",
    "1LEFT-POINTING ANGLE BRACKET ORNAMENT/1RIGHT-POINTING ANGLE BRACKET ORNAMENT",
    "0HEAVY LEFT-POINTING ANGLE QUOTATION MARK ORNAMENT",
    "1RIGHT-POINTING ANGLE QUOTATION MARK ORNAMENT/1LEFT-POINTING ANGLE BRACKET ORNAMENT",
    "1RIGHT-POINTING ANGLE BRACKET ORNAMENT/0LIGHT LEFT TORTOISE SHELL BRACKET ORNAMENT",
    "1RIGHT TORTOISE SHELL BRACKET ORNAMENT/0MEDIUM LEFT CURLY BRACKET ORNAMENT",
    "1RIGHT CURLY BRACKET ORNAMENT/0DINGBAT NEGATIVE CIRCLED DIGIT ONE/4TWO/4THREE/4FOUR/4FIVE",
    "4SIX/4SEVEN/4EIGHT/4NINE/3NUMBER TEN/1CIRCLED SANS-SERIF DIGIT ONE/4TWO/4THREE/4FOUR/4FIVE",
    "4SIX/4SEVEN/4EIGHT/4NINE/3NUMBER TEN/1NEGATIVE CIRCLED SANS-SERIF DIGIT ONE/5TWO/5THREE",
    "5FOUR/5FIVE/5SIX/5SEVEN/5EIGHT/5NINE/4NUMBER TEN/0HEAVY WIDE-HEADED RIGHTWARDS ARROW",
    "1PLUS SIGN/1MINUS SIGN/1DIVISION SIGN/1SOUTH EAST ARROW/1RIGHTWARDS ARROW/1NORTH EAST ARROW",
    "0DRAFTING POINT RIGHTWARDS ARROW/0HEAVY ROUND-TIPPED RIGHTWARDS ARROW",
    "0TRIANGLE-HEADED RIGHTWARDS ARROW/0HEAVY TRIANGLE-HEADED RIGHTWARDS ARROW",
    "0DASHED TRIANGLE-HEADED RIGHTWARDS ARROW/0HEAVY DASHED TRIANGLE-HEADED RIGHTWARDS ARROW",
    "0BLACK RIGHTWARDS ARROW/0THREE-D TOP-LIGHTED RIGHTWARDS ARROWHEAD",
    "1BOTTOM-LIGHTED RIGHTWARDS ARROWHEAD/0BLACK RIGHTWARDS ARROWHEAD",
    "0HEAVY BLACK CURVED DOWNWARDS AND RIGHTWARDS ARROW/3UPWARDS AND RIGHTWARDS ARROW",
    "0SQUAT BLACK RIGHTWARDS ARROW/0HEAVY CONCAVE-POINTED BLACK RIGHTWARDS ARROW",
    "0RIGHT-SHADED WHITE RIGHTWARDS ARROW/0LEFT-SHADED WHITE RIGHTWARDS ARROW",
    "0BACK-TILTED SHADOWED WHITE RIGHTWARDS ARROW/0FRONT-TILTED SHADOWED WHITE RIGHTWARDS ARROW",
    "0HEAVY LOWER RIGHT-SHADOWED WHITE RIGHTWARDS ARROW",
    "1UPPER RIGHT-SHADOWED WHITE RIGHTWARDS ARROW",
    "0NOTCHED LOWER RIGHT-SHADOWED WHITE RIGHTWARDS ARROW/0CURLY LOOP",
    "0NOTCHED UPPER RIGHT-SHADOWED WHITE RIGHTWARDS ARROW/0CIRCLED HEAVY WHITE RIGHTWARDS ARROW",
    "0WHITE-FEATHERED RIGHTWARDS ARROW/0BLACK-FEATHERED SOUTH EAST ARROW/1RIGHTWARDS ARROW",
    "1NORTH EAST ARROW/0HEAVY BLACK-FEATHERED SOUTH EAST ARROW/2RIGHTWARDS ARROW",
    "2NORTH EAST ARROW/0TEARDROP-BARBED RIGHTWARDS ARROW/0HEAVY TEARDROP-SHANKED RIGHTWARDS ARROW",
    "0WEDGE-TAILED RIGHTWARDS ARROW/0HEAVY WEDGE-TAILED RIGHTWARDS ARROW",
    "0OPEN-OUTLINED RIGHTWARDS ARROW/0DOUBLE CURLY LOOP/0THREE DIMENSIONAL ANGLE",
    "0WHITE TRIANGLE CONTAINING SMALL WHITE TRIANGLE/0PERPENDICULAR/0OPEN SUBSET/1SUPERSET",
    "0LEFT S-SHAPED BAG DELIMITER/0RIGHT S-SHAPED BAG DELIMITER/0OR WITH DOT INSIDE",
    "0REVERSE SOLIDUS PRECEDING SUBSET/0SUPERSET PRECEDING SOLIDUS",
    "0VERTICAL BAR WITH HORIZONTAL STROKE/0MATHEMATICAL RISING DIAGONAL/0LONG DIVISION",
    "0MATHEMATICAL FALLING DIAGONAL/0SQUARED LOGICAL AND/2OR/0WHITE DIAMOND WITH CENTRED DOT",
    "0AND WITH DOT/0ELEMENT OF OPENING UPWARDS/0LOWER RIGHT CORNER WITH DOT",
    "0UPPER LEFT CORNER WITH DOT/0LEFT OUTER JOIN/0RIGHT OUTER JOIN/0FULL OUTER JOIN",
    "0LARGE UP TACK/1DOWN TACK/0LEFT AND RIGHT DOUBLE TURNSTILE/3TACK/1MULTIMAP/0LONG RIGHT TACK",
    "1LEFT TACK/0UP TACK WITH CIRCLE ABOVE/0LOZENGE DIVIDED BY HORIZONTAL RULE",
    "0WHITE CONCAVE-SIDED DIAMOND/3WITH LEFTWARDS TICK/4RIGHTWARDS TICK",
    "1SQUARE WITH LEFTWARDS TICK/3RIGHTWARDS TICK/0MATHEMATICAL LEFT WHITE SQUARE BRACKET",
    "1RIGHT WHITE SQUARE BRACKET/1LEFT ANGLE BRACKET/1RIGHT ANGLE BRACKET",
    "1LEFT DOUBLE ANGLE BRACKET/1RIGHT DOUBLE ANGLE BRACKET/1LEFT WHITE TORTOISE SHELL BRACKET",
    "1RIGHT WHITE TORTOISE SHELL BRACKET/1LEFT FLATTENED PARENTHESIS/1RIGHT FLATTENED PARENTHESIS",
    "0UPWARDS QUADRUPLE ARROW/0DOWNWARDS QUADRUPLE ARROW/0ANTICLOCKWISE GAPPED CIRCLE ARROW",
    "0CLOCKWISE GAPPED CIRCLE ARROW/0RIGHT ARROW WITH CIRCLED PLUS/0LONG LEFTWARDS ARROW",
    "1RIGHTWARDS ARROW/1LEFT RIGHT ARROW/1LEFTWARDS DOUBLE ARROW/1RIGHTWARDS DOUBLE ARROW",
    "1LEFT RIGHT DOUBLE ARROW/1LEFTWARDS ARROW FROM BAR/1RIGHTWARDS ARROW FROM BAR",
    "1LEFTWARDS DOUBLE ARROW FROM BAR/1RIGHTWARDS DOUBLE ARROW FROM BAR/2SQUIGGLE ARROW",
    "0BRAILLE PATTERN BLANK/2DOTS-1/2DOTS-2/2DOTS-12/2DOTS-3/2DOTS-13/2DOTS-23/2DOTS-123/2DOTS-4",
    "2DOTS-14/2DOTS-24/2DOTS-124/2DOTS-34/2DOTS-134/2DOTS-234/2DOTS-1234/2DOTS-5/2DOTS-15",
    "2DOTS-25/2DOTS-125/2DOTS-35/2DOTS-135/2DOTS-235/2DOTS-1235/2DOTS-45/2DOTS-145/2DOTS-245",
    "2DOTS-1245/2DOTS-345/2DOTS-1345/2DOTS-2345/2DOTS-12345/2DOTS-6/2DOTS-16/2DOTS-26/2DOTS-126",
    "2DOTS-36/2DOTS-136/2DOTS-236/2DOTS-1236/2DOTS-46/2DOTS-146/2DOTS-246/2DOTS-1246/2DOTS-346",
    "2DOTS-1346/2DOTS-2346/2DOTS-12346/2DOTS-56/2DOTS-156/2DOTS-256/2DOTS-1256/2DOTS-356",
    "2DOTS-1356/2DOTS-2356/2DOTS-12356/2DOTS-456/2DOTS-1456/2DOTS-2456/2DOTS-12456/2DOTS-3456",
    "2DOTS-13456/2DOTS-23456/2DOTS-123456/2DOTS-7/2DOTS-17/2DOTS-27/2DOTS-127/2DOTS-37/2DOTS-137",
    "2DOTS-237/2DOTS-1237/2DOTS-47/2DOTS-147/2DOTS-247/2DOTS-1247/2DOTS-347/2DOTS-1347/2DOTS-2347",
    "2DOTS-12347/2DOTS-57/2DOTS-157/2DOTS-257/2DOTS-1257/2DOTS-357/2DOTS-1357/2DOTS-2357",
    "2DOTS-12357/2DOTS-457/2DOTS-1457/2DOTS-2457/2DOTS-12457/2DOTS-3457/2DOTS-13457/2DOTS-23457",
    "2DOTS-123457/2DOTS-67/2DOTS-167/2DOTS-267/2DOTS-1267/2DOTS-367/2DOTS-1367/2DOTS-2367",
    "2DOTS-12367/2DOTS-467/2DOTS-1467/2DOTS-2467/2DOTS-12467/2DOTS-3467/2DOTS-13467/2DOTS-23467",
    "2DOTS-123467/2DOTS-567/2DOTS-1567/2DOTS-2567/2DOTS-12567/2DOTS-3567/2DOTS-13567/2DOTS-23567",
    "2DOTS-123567/2DOTS-4567/2DOTS-14567/2DOTS-24567/2DOTS-124567/2DOTS-34567/2DOTS-134567",
    "2DOTS-234567/2DOTS-1234567/2DOTS-8/2DOTS-18/2DOTS-28/2DOTS-128/2DOTS-38/2DOTS-138/2DOTS-238",
    "2DOTS-1238/2DOTS-48/2DOTS-148/2DOTS-248/2DOTS-1248/2DOTS-348/2DOTS-1348/2DOTS-2348",
    "2DOTS-12348/2DOTS-58/2DOTS-158/2DOTS-258/2DOTS-1258/2DOTS-358/2DOTS-1358/2DOTS-2358",
    "2DOTS-12358/2DOTS-458/2DOTS-1458/2DOTS-2458/2DOTS-12458/2DOTS-3458/2DOTS-13458/2DOTS-23458",
    "2DOTS-123458/2DOTS-68/2DOTS-168/2DOTS-268/2DOTS-1268/2DOTS-368/2DOTS-1368/2DOTS-2368",
    "2DOTS-12368/2DOTS-468/2DOTS-1468/2DOTS-2468/2DOTS-12468/2DOTS-3468/2DOTS-13468/2DOTS-23468",
    "2DOTS-123468/2DOTS-568/2DOTS-1568/2DOTS-2568/2DOTS-12568/2DOTS-3568/2DOTS-13568/2DOTS-23568",
    "2DOTS-123568/2DOTS-4568/2DOTS-14568/2DOTS-24568/2DOTS-124568/2DOTS-34568/2DOTS-134568",
    "2DOTS-234568/2DOTS-1234568/2DOTS-78/2DOTS-178/2DOTS-278/2DOTS-1278/2DOTS-378/2DOTS-1378",
    "2DOTS-2378/2DOTS-12378/2DOTS-478/2DOTS-1478/2DOTS-2478/2DOTS-12478/2DOTS-3478/2DOTS-13478",
    "2DOTS-23478/2DOTS-123478/2DOTS-578/2DOTS-1578/2DOTS-2578/2DOTS-12578/2DOTS-3578/2DOTS-13578",
    "2DOTS-23578/2DOTS-123578/2DOTS-4578/2DOTS-14578/2DOTS-24578/2DOTS-124578/2DOTS-34578",
    "2DOTS-134578/2DOTS-234578/2DOTS-1234578/2DOTS-678/2DOTS-1678/2DOTS-2678/2DOTS-12678",
    "2DOTS-3678/2DOTS-13678/2DOTS-23678/2DOTS-123678/2DOTS-4678/2DOTS-14678/2DOTS-24678",
    "2DOTS-124678/2DOTS-34678/2DOTS-134678/2DOTS-234678/2DOTS-1234678/2DOTS-5678/2DOTS-15678",
    "2DOTS-25678/2DOTS-125678/2DOTS-35678/2DOTS-135678/2DOTS-235678/2DOTS-1235678/2DOTS-45678",
    "2DOTS-145678/2DOTS-245678/2DOTS-1245678/2DOTS-345678/2DOTS-1345678/2DOTS-2345678",
    "2DOTS-12345678/0RIGHTWARDS TWO-HEADED ARROW WITH VERTICAL STROKE/4DOUBLE VERTICAL STROKE",
    "0LEFTWARDS DOUBLE ARROW WITH VERTICAL STROKE/0RIGHTWARDS DOUBLE ARROW WITH VERTICAL STROKE",
    "0LEFT RIGHT DOUBLE ARROW WITH VERTICAL STROKE/0RIGHTWARDS TWO-HEADED ARROW FROM BAR",
    "0LEFTWARDS DOUBLE ARROW FROM BAR/0RIGHTWARDS DOUBLE ARROW FROM BAR",
    "0DOWNWARDS ARROW WITH HORIZONTAL STROKE/0UPWARDS ARROW WITH HORIZONTAL STROKE/1TRIPLE ARROW",
    "0DOWNWARDS TRIPLE ARROW/0LEFTWARDS DOUBLE DASH ARROW/0RIGHTWARDS DOUBLE DASH ARROW",
    "0LEFTWARDS TRIPLE DASH ARROW/0RIGHTWARDS TRIPLE DASH ARROW/1TWO-HEADED TRIPLE DASH ARROW",
    "1ARROW WITH DOTTED STEM/0UPWARDS ARROW TO BAR/0DOWNWARDS ARROW TO BAR",
    "0RIGHTWARDS ARROW WITH TAIL WITH VERTICAL STROKE/5DOUBLE VERTICAL STROKE",
    "1TWO-HEADED ARROW WITH TAIL/5WITH VERTICAL STROKE/6DOUBLE VERTICAL STROKE",
    "0LEFTWARDS ARROW-TAIL/0RIGHTWARDS ARROW-TAIL/0LEFTWARDS DOUBLE ARROW-TAIL",
    "0RIGHTWARDS DOUBLE ARROW-TAIL/0LEFTWARDS ARROW TO BLACK DIAMOND",
    "0RIGHTWARDS ARROW TO BLACK DIAMOND/0LEFTWARDS ARROW FROM BAR TO BLACK DIAMOND",
    "0RIGHTWARDS ARROW FROM BAR TO BLACK DIAMOND/0NORTH WEST AND SOUTH EAST ARROW",
    "1EAST AND SOUTH WEST ARROW/1WEST ARROW WITH HOOK/1EAST ARROW WITH HOOK",
    "0SOUTH EAST ARROW WITH HOOK/1WEST ARROW WITH HOOK/0NORTH WEST ARROW AND NORTH EAST ARROW",
    "1EAST ARROW AND SOUTH EAST ARROW/0SOUTH EAST ARROW AND SOUTH WEST ARROW",
    "1WEST ARROW AND NORTH WEST ARROW/0RISING DIAGONAL CROSSING FALLING DIAGONAL",
    "0FALLING DIAGONAL CROSSING RISING DIAGONAL/0SOUTH EAST ARROW CROSSING NORTH EAST ARROW",
    "0NORTH EAST ARROW CROSSING SOUTH EAST ARROW/0FALLING DIAGONAL CROSSING NORTH EAST ARROW",
    "0RISING DIAGONAL CROSSING SOUTH EAST ARROW/0NORTH EAST ARROW CROSSING NORTH WEST ARROW",
    "1WEST ARROW CROSSING NORTH EAST ARROW/0WAVE ARROW POINTING DIRECTLY RIGHT",
    "0ARROW POINTING RIGHTWARDS THEN CURVING UPWARDS/5DOWNWARDS/2DOWNWARDS THEN CURVING LEFTWARDS",
    "5RIGHTWARDS/0RIGHT-SIDE ARC CLOCKWISE ARROW/0LEFT-SIDE ARC ANTICLOCKWISE ARROW",
    "0TOP ARC ANTICLOCKWISE ARROW/0BOTTOM ARC ANTICLOCKWISE ARROW",
    "0TOP ARC CLOCKWISE ARROW WITH MINUS/2ANTICLOCKWISE ARROW WITH PLUS",
    "0LOWER RIGHT SEMICIRCULAR CLOCKWISE ARROW/1LEFT SEMICIRCULAR ANTICLOCKWISE ARROW",
    "0ANTICLOCKWISE CLOSED CIRCLE ARROW/0CLOCKWISE CLOSED CIRCLE ARROW",
    "0RIGHTWARDS ARROW ABOVE SHORT LEFTWARDS ARROW/0LEFTWARDS ARROW ABOVE SHORT RIGHTWARDS ARROW",
    "0SHORT RIGHTWARDS ARROW ABOVE LEFTWARDS ARROW/0RIGHTWARDS ARROW WITH PLUS BELOW",
    "0LEFTWARDS ARROW WITH PLUS BELOW/0RIGHTWARDS ARROW THROUGH X",
    "0LEFT RIGHT ARROW THROUGH SMALL CIRCLE/0UPWARDS TWO-HEADED ARROW FROM SMALL CIRCLE",
    "0LEFT BARB UP RIGHT BARB DOWN HARPOON/2DOWN RIGHT BARB UP HARPOON",
    "0UP BARB RIGHT DOWN BARB LEFT HARPOON/2LEFT DOWN BARB RIGHT HARPOON",
    "0LEFT BARB UP RIGHT BARB UP HARPOON/0UP BARB RIGHT DOWN BARB RIGHT HARPOON",
    "0LEFT BARB DOWN RIGHT BARB DOWN HARPOON/0UP BARB LEFT DOWN BARB LEFT HARPOON",
    "0LEFTWARDS HARPOON WITH BARB UP TO BAR/0RIGHTWARDS HARPOON WITH BARB UP TO BAR",
    "0UPWARDS HARPOON WITH BARB RIGHT TO BAR/0DOWNWARDS HARPOON WITH BARB RIGHT TO BAR",
    "0LEFTWARDS HARPOON WITH BARB DOWN TO BAR/0RIGHTWARDS HARPOON WITH BARB DOWN TO BAR",
    "0UPWARDS HARPOON WITH BARB LEFT TO BAR/0DOWNWARDS HARPOON WITH BARB LEFT TO BAR",
    "0LEFTWARDS HARPOON WITH BARB UP FROM BAR/0RIGHTWARDS HARPOON WITH BARB UP FROM BAR",
    "0UPWARDS HARPOON WITH BARB RIGHT FROM BAR/0DOWNWARDS HARPOON WITH BARB RIGHT FROM BAR",
    "0LEFTWARDS HARPOON WITH BARB DOWN FROM BAR/0RIGHTWARDS HARPOON WITH BARB DOWN FROM BAR",
    "0UPWARDS HARPOON WITH BARB LEFT FROM BAR/0DOWNWARDS HARPOON WITH BARB LEFT FROM BAR",
    "0LEFTWARDS HARPOON WITH BARB UP ABOVE LEFTWARDS HARPOON WITH BARB DOWN",
    "0UPWARDS HARPOON WITH BARB LEFT BESIDE UPWARDS HARPOON WITH BARB RIGHT",
    "0RIGHTWARDS HARPOON WITH BARB UP ABOVE RIGHTWARDS HARPOON WITH BARB DOWN",
    "0DOWNWARDS HARPOON WITH BARB LEFT BESIDE DOWNWARDS HARPOON WITH BARB RIGHT",
    "0LEFTWARDS HARPOON WITH BARB UP ABOVE RIGHTWARDS HARPOON WITH BARB UP",
    "4DOWN ABOVE RIGHTWARDS HARPOON WITH BARB DOWN",
    "0RIGHTWARDS HARPOON WITH BARB UP ABOVE LEFTWARDS HARPOON WITH BARB UP",
    "4DOWN ABOVE LEFTWARDS HARPOON WITH BARB DOWN/0LEFTWARDS HARPOON WITH BARB UP ABOVE LONG DASH",
    "4DOWN BELOW LONG DASH/0RIGHTWARDS HARPOON WITH BARB UP ABOVE LONG DASH/4DOWN BELOW LONG DASH",
    "0UPWARDS HARPOON WITH BARB LEFT BESIDE DOWNWARDS HARPOON WITH BARB RIGHT",
    "0DOWNWARDS HARPOON WITH BARB LEFT BESIDE UPWARDS HARPOON WITH BARB RIGHT",
    "0RIGHT DOUBLE ARROW WITH ROUNDED HEAD/0EQUALS SIGN ABOVE RIGHTWARDS ARROW",
    "0TILDE OPERATOR ABOVE RIGHTWARDS ARROW/0LEFTWARDS ARROW ABOVE TILDE OPERATOR",
    "0RIGHTWARDS ARROW ABOVE TILDE OPERATOR/3ALMOST EQUAL TO/0LESS-THAN ABOVE LEFTWARDS ARROW",
    "0LEFTWARDS ARROW THROUGH LESS-THAN/0GREATER-THAN ABOVE RIGHTWARDS ARROW",
    "0SUBSET ABOVE RIGHTWARDS ARROW/0LEFTWARDS ARROW THROUGH SUBSET",
    "0SUPERSET ABOVE LEFTWARDS ARROW/0LEFT FISH TAIL/0RIGHT FISH TAIL/0UP FISH TAIL",
    "0DOWN FISH TAIL/0TRIPLE VERTICAL BAR DELIMITER/0Z NOTATION SPOT/2TYPE COLON",
    "0LEFT WHITE CURLY BRACKET/0RIGHT WHITE CURLY BRACKET/0LEFT WHITE PARENTHESIS",
    "0RIGHT WHITE PARENTHESIS/0Z NOTATION LEFT IMAGE BRACKET/2RIGHT IMAGE BRACKET",
    "2LEFT BINDING BRACKET/2RIGHT BINDING BRACKET/0LEFT SQUARE BRACKET WITH UNDERBAR",
    "0RIGHT SQUARE BRACKET WITH UNDERBAR/0LEFT SQUARE BRACKET WITH TICK IN TOP CORNER",
    "0RIGHT SQUARE BRACKET WITH TICK IN BOTTOM CORNER",
    "0LEFT SQUARE BRACKET WITH TICK IN BOTTOM CORNER",
    "0RIGHT SQUARE BRACKET WITH TICK IN TOP CORNER/0LEFT ANGLE BRACKET WITH DOT",
    "0RIGHT ANGLE BRACKET WITH DOT/0LEFT ARC LESS-THAN BRACKET/0RIGHT ARC GREATER-THAN BRACKET",
    "0DOUBLE LEFT ARC GREATER-THAN BRACKET/1RIGHT ARC LESS-THAN BRACKET",
    "0LEFT BLACK TORTOISE SHELL BRACKET/0RIGHT BLACK TORTOISE SHELL BRACKET/0DOTTED FENCE",
    "0VERTICAL ZIGZAG LINE/0MEASURED ANGLE OPENING LEFT/0RIGHT ANGLE VARIANT WITH SQUARE",
    "0MEASURED RIGHT ANGLE WITH DOT/0ANGLE WITH S INSIDE/0ACUTE ANGLE",
    "0SPHERICAL ANGLE OPENING LEFT/3UP/0TURNED ANGLE/0REVERSED ANGLE/0ANGLE WITH UNDERBAR",
    "0REVERSED ANGLE WITH UNDERBAR/0OBLIQUE ANGLE OPENING UP/3DOWN",
    "0MEASURED ANGLE WITH OPEN ARM ENDING IN ARROW POINTING UP AND RIGHT/9UP AND LEFT",
    "9DOWN AND RIGHT/9DOWN AND LEFT/9RIGHT AND UP/9LEFT AND UP/9RIGHT AND DOWN/9LEFT AND DOWN",
    "0REVERSED EMPTY SET/0EMPTY SET WITH OVERBAR/3SMALL CIRCLE ABOVE/3RIGHT ARROW ABOVE",
    "3LEFT ARROW ABOVE/0CIRCLE WITH HORIZONTAL BAR/0CIRCLED VERTICAL BAR/1PARALLEL",
    "1REVERSE SOLIDUS/1PERPENDICULAR",
    "0CIRCLE DIVIDED BY HORIZONTAL BAR AND TOP HALF DIVIDED BY VERTICAL BAR/1WITH SUPERIMPOSED X",
    "0CIRCLED ANTICLOCKWISE-ROTATED DIVISION SIGN/0UP ARROW THROUGH CIRCLE/0CIRCLED WHITE BULLET",
    "1BULLET/1LESS-THAN/1GREATER-THAN/0CIRCLE WITH SMALL CIRCLE TO THE RIGHT",
    "2TWO HORIZONTAL STROKES TO THE RIGHT/0SQUARED RISING DIAGONAL SLASH/1FALLING DIAGONAL SLASH",
    "1ASTERISK/1SMALL CIRCLE/1SQUARE/0TWO JOINED SQUARES/0TRIANGLE WITH DOT ABOVE/2UNDERBAR",
    "0S IN TRIANGLE/0TRIANGLE WITH SERIFS AT BOTTOM/0RIGHT TRIANGLE ABOVE LEFT TRIANGLE",
    "0LEFT TRIANGLE BESIDE VERTICAL BAR/0VERTICAL BAR BESIDE RIGHT TRIANGLE",
    "0BOWTIE WITH LEFT HALF BLACK/2RIGHT HALF BLACK/0BLACK BOWTIE/0TIMES WITH LEFT HALF BLACK",
    "2RIGHT HALF BLACK/0WHITE HOURGLASS/0BLACK HOURGLASS/0LEFT WIGGLY FENCE/0RIGHT WIGGLY FENCE",
    "0LEFT DOUBLE WIGGLY FENCE/0RIGHT DOUBLE WIGGLY FENCE/0INCOMPLETE INFINITY/0TIE OVER INFINITY",
    "0INFINITY NEGATED WITH VERTICAL BAR/0DOUBLE-ENDED MULTIMAP/0SQUARE WITH CONTOURED OUTLINE",
    "0INCREASES AS/0SHUFFLE PRODUCT/0EQUALS SIGN AND SLANTED PARALLEL/5WITH TILDE ABOVE",
    "0IDENTICAL TO AND SLANTED PARALLEL/0GLEICH STARK/0THERMODYNAMIC",
    "0DOWN-POINTING TRIANGLE WITH LEFT HALF BLACK/3RIGHT HALF BLACK",
    "0BLACK DIAMOND WITH DOWN ARROW/1LOZENGE/0WHITE CIRCLE WITH DOWN ARROW",
    "0BLACK CIRCLE WITH DOWN ARROW/0ERROR-BARRED WHITE SQUARE/1BLACK SQUARE/1WHITE DIAMOND",
    "1BLACK DIAMOND/1WHITE CIRCLE/1BLACK CIRCLE/0RULE-DELAYED/0REVERSE SOLIDUS OPERATOR",
    "0SOLIDUS WITH OVERBAR/0REVERSE SOLIDUS WITH HORIZONTAL STROKE/0BIG SOLIDUS/1REVERSE SOLIDUS",
    "0DOUBLE PLUS/0TRIPLE PLUS/0LEFT-POINTING CURVED ANGLE BRACKET",
    "0RIGHT-POINTING CURVED ANGLE BRACKET/0TINY/0MINY/0N-ARY CIRCLED DOT OPERATOR/2PLUS OPERATOR",
    "2TIMES OPERATOR/1UNION OPERATOR WITH DOT/4PLUS/1SQUARE INTERSECTION OPERATOR/2UNION OPERATOR",
    "0TWO LOGICAL AND OPERATOR/2OR OPERATOR/0N-ARY TIMES OPERATOR/0MODULO TWO SUM",
    "0SUMMATION WITH INTEGRAL/0QUADRUPLE INTEGRAL OPERATOR/0FINITE PART INTEGRAL",
    "0INTEGRAL WITH DOUBLE STROKE/1AVERAGE WITH SLASH/0CIRCULATION FUNCTION",
    "0ANTICLOCKWISE INTEGRATION/0LINE INTEGRATION WITH RECTANGULAR PATH AROUND POLE",
    "3SEMICIRCULAR PATH AROUND POLE/2NOT INCLUDING THE POLE/0INTEGRAL AROUND A POINT OPERATOR",
    "0QUATERNION INTEGRAL OPERATOR/0INTEGRAL WITH LEFTWARDS ARROW WITH HOOK/2TIMES SIGN",
    "2INTERSECTION/2UNION/2OVERBAR/2UNDERBAR/0JOIN/0LARGE LEFT TRIANGLE OPERATOR",
    "0Z NOTATION SCHEMA COMPOSITION/3PIPING/3PROJECTION/0PLUS SIGN WITH SMALL CIRCLE ABOVE",
    "3CIRCUMFLEX ACCENT ABOVE/3TILDE ABOVE/3DOT BELOW/3TILDE BELOW/3SUBSCRIPT TWO/3BLACK TRIANGLE",
    "0MINUS SIGN WITH COMMA ABOVE/3DOT BELOW/3FALLING DOTS/3RISING DOTS",
    "0PLUS SIGN IN LEFT HALF CIRCLE/3RIGHT HALF CIRCLE/0VECTOR OR CROSS PRODUCT",
    "0MULTIPLICATION SIGN WITH DOT ABOVE/3UNDERBAR/0SEMIDIRECT PRODUCT WITH BOTTOM CLOSED",
    "0SMASH PRODUCT/0MULTIPLICATION SIGN IN LEFT HALF CIRCLE/3RIGHT HALF CIRCLE",
    "0CIRCLED MULTIPLICATION SIGN WITH CIRCUMFLEX ACCENT/0MULTIPLICATION SIGN IN DOUBLE CIRCLE",
    "0CIRCLED DIVISION SIGN/0PLUS SIGN IN TRIANGLE/0MINUS SIGN IN TRIANGLE",
    "0MULTIPLICATION SIGN IN TRIANGLE/0INTERIOR PRODUCT/0RIGHTHAND INTERIOR PRODUCT",
    "0Z NOTATION RELATIONAL COMPOSITION/0AMALGAMATION OR COPRODUCT/0INTERSECTION WITH DOT",
    "0UNION WITH MINUS SIGN/2OVERBAR/0INTERSECTION WITH OVERBAR/2LOGICAL AND",
    "0UNION WITH LOGICAL OR/1ABOVE INTERSECTION/0INTERSECTION ABOVE UNION",
    "0UNION ABOVE BAR ABOVE INTERSECTION/0INTERSECTION ABOVE BAR ABOVE UNION",
    "0UNION BESIDE AND JOINED WITH UNION/0INTERSECTION BESIDE AND JOINED WITH INTERSECTION",
    "0CLOSED UNION WITH SERIFS/1INTERSECTION WITH SERIFS/0DOUBLE SQUARE INTERSECTION/2UNION",
    "0CLOSED UNION WITH SERIFS AND SMASH PRODUCT/0LOGICAL AND WITH DOT ABOVE/1OR WITH DOT ABOVE",
    "0DOUBLE LOGICAL AND/2OR/0TWO INTERSECTING LOGICAL AND/3OR/0SLOPING LARGE OR/2AND",
    "0LOGICAL OR OVERLAPPING LOGICAL AND/1AND WITH MIDDLE STEM/1OR WITH MIDDLE STEM",
    "1AND WITH HORIZONTAL DASH/1OR WITH HORIZONTAL DASH/1AND WITH DOUBLE OVERBAR/3UNDERBAR",
    "3DOUBLE UNDERBAR/0SMALL VEE WITH UNDERBAR/0LOGICAL OR WITH DOUBLE OVERBAR/4UNDERBAR",
    "0Z NOTATION DOMAIN ANTIRESTRICTION/2RANGE ANTIRESTRICTION/0EQUALS SIGN WITH DOT BELOW",
    "0IDENTICAL WITH DOT ABOVE/0TRIPLE HORIZONTAL BAR WITH DOUBLE VERTICAL STROKE",
    "4TRIPLE VERTICAL STROKE/0TILDE OPERATOR WITH DOT ABOVE/3RISING DOTS/0SIMILAR MINUS SIMILAR",
    "0CONGRUENT WITH DOT ABOVE/0EQUALS WITH ASTERISK/0ALMOST EQUAL TO WITH CIRCUMFLEX ACCENT",
    "0APPROXIMATELY EQUAL OR EQUAL TO/0EQUALS SIGN ABOVE PLUS SIGN/0PLUS SIGN ABOVE EQUALS SIGN",
    "0EQUALS SIGN ABOVE TILDE OPERATOR/0DOUBLE COLON EQUAL/0TWO CONSECUTIVE EQUALS SIGNS",
    "0THREE CONSECUTIVE EQUALS SIGNS/0EQUALS SIGN WITH TWO DOTS ABOVE AND TWO DOTS BELOW",
    "0EQUIVALENT WITH FOUR DOTS ABOVE/0LESS-THAN WITH CIRCLE INSIDE",
    "0GREATER-THAN WITH CIRCLE INSIDE/0LESS-THAN WITH QUESTION MARK ABOVE",
    "0GREATER-THAN WITH QUESTION MARK ABOVE/0LESS-THAN OR SLANTED EQUAL TO",
    "0GREATER-THAN OR SLANTED EQUAL TO/0LESS-THAN OR SLANTED EQUAL TO WITH DOT INSIDE",
    "0GREATER-THAN OR SLANTED EQUAL TO WITH DOT INSIDE",
    "0LESS-THAN OR SLANTED EQUAL TO WITH DOT ABOVE",
    "0GREATER-THAN OR SLANTED EQUAL TO WITH DOT ABOVE",
    "0LESS-THAN OR SLANTED EQUAL TO WITH DOT ABOVE RIGHT",
    "0GREATER-THAN OR SLANTED EQUAL TO WITH DOT ABOVE LEFT/0LESS-THAN OR APPROXIMATE",
    "0GREATER-THAN OR APPROXIMATE/0LESS-THAN AND SINGLE-LINE NOT EQUAL TO",
    "0GREATER-THAN AND SINGLE-LINE NOT EQUAL TO/0LESS-THAN AND NOT APPROXIMATE",
    "0GREATER-THAN AND NOT APPROXIMATE/0LESS-THAN ABOVE DOUBLE-LINE EQUAL ABOVE GREATER-THAN",
    "0GREATER-THAN ABOVE DOUBLE-LINE EQUAL ABOVE LESS-THAN/0LESS-THAN ABOVE SIMILAR OR EQUAL",
    "0GREATER-THAN ABOVE SIMILAR OR EQUAL/0LESS-THAN ABOVE SIMILAR ABOVE GREATER-THAN",
    "0GREATER-THAN ABOVE SIMILAR ABOVE LESS-THAN",
    "0LESS-THAN ABOVE GREATER-THAN ABOVE DOUBLE-LINE EQUAL",
    "0GREATER-THAN ABOVE LESS-THAN ABOVE DOUBLE-LINE EQUAL",
    "0LESS-THAN ABOVE SLANTED EQUAL ABOVE GREATER-THAN ABOVE SLANTED EQUAL",
    "0GREATER-THAN ABOVE SLANTED EQUAL ABOVE LESS-THAN ABOVE SLANTED EQUAL",
    "0SLANTED EQUAL TO OR LESS-THAN/4GREATER-THAN/4LESS-THAN WITH DOT INSIDE",
    "4GREATER-THAN WITH DOT INSIDE/0DOUBLE-LINE EQUAL TO OR LESS-THAN/4GREATER-THAN",
    "1SLANTED EQUAL TO OR LESS-THAN/5GREATER-THAN/0SIMILAR OR LESS-THAN/2GREATER-THAN",
    "1ABOVE LESS-THAN ABOVE EQUALS SIGN/2GREATER-THAN ABOVE EQUALS SIGN/0DOUBLE NESTED LESS-THAN",
    "2GREATER-THAN/2LESS-THAN WITH UNDERBAR/0GREATER-THAN OVERLAPPING LESS-THAN/1BESIDE LESS-THAN",
    "0LESS-THAN CLOSED BY CURVE/0GREATER-THAN CLOSED BY CURVE",
    "0LESS-THAN CLOSED BY CURVE ABOVE SLANTED EQUAL",
    "0GREATER-THAN CLOSED BY CURVE ABOVE SLANTED EQUAL/0SMALLER THAN/0LARGER THAN",
    "0SMALLER THAN OR EQUAL TO/0LARGER THAN OR EQUAL TO/0EQUALS SIGN WITH BUMPY ABOVE",
    "0PRECEDES ABOVE SINGLE-LINE EQUALS SIGN/0SUCCEEDS ABOVE SINGLE-LINE EQUALS SIGN",
    "0PRECEDES ABOVE SINGLE-LINE NOT EQUAL TO/0SUCCEEDS ABOVE SINGLE-LINE NOT EQUAL TO",
    "0PRECEDES ABOVE EQUALS SIGN/0SUCCEEDS ABOVE EQUALS SIGN/0PRECEDES ABOVE NOT EQUAL TO",
    "0SUCCEEDS ABOVE NOT EQUAL TO/0PRECEDES ABOVE ALMOST EQUAL TO/0SUCCEEDS ABOVE ALMOST EQUAL TO",
    "0PRECEDES ABOVE NOT ALMOST EQUAL TO/0SUCCEEDS ABOVE NOT ALMOST EQUAL TO/0DOUBLE PRECEDES",
    "1SUCCEEDS/0SUBSET WITH DOT/0SUPERSET WITH DOT/0SUBSET WITH PLUS SIGN BELOW",
    "0SUPERSET WITH PLUS SIGN BELOW/0SUBSET WITH MULTIPLICATION SIGN BELOW",
    "0SUPERSET WITH MULTIPLICATION SIGN BELOW/0SUBSET OF OR EQUAL TO WITH DOT ABOVE",
    "0SUPERSET OF OR EQUAL TO WITH DOT ABOVE/0SUBSET OF ABOVE EQUALS SIGN",
    "0SUPERSET OF ABOVE EQUALS SIGN/0SUBSET OF ABOVE TILDE OPERATOR",
    "0SUPERSET OF ABOVE TILDE OPERATOR/0SUBSET OF ABOVE ALMOST EQUAL TO",
    "0SUPERSET OF ABOVE ALMOST EQUAL TO/0SUBSET OF ABOVE NOT EQUAL TO",
    "0SUPERSET OF ABOVE NOT EQUAL TO/0SQUARE LEFT OPEN BOX OPERATOR/1RIGHT OPEN BOX OPERATOR",
    "0CLOSED SUBSET/1SUPERSET/1SUBSET OR EQUAL TO/1SUPERSET OR EQUAL TO/0SUBSET ABOVE SUPERSET",
    "0SUPERSET ABOVE SUBSET/0SUBSET ABOVE SUBSET/0SUPERSET ABOVE SUPERSET/1BESIDE SUBSET",
    "2AND JOINED BY DASH WITH SUBSET/0ELEMENT OF OPENING DOWNWARDS/0PITCHFORK WITH TEE TOP",
    "0TRANSVERSAL INTERSECTION/0FORKING/0NONFORKING/0SHORT LEFT TACK/1DOWN TACK/1UP TACK",
    "0PERPENDICULAR WITH S/0VERTICAL BAR TRIPLE RIGHT TURNSTILE",
    "0DOUBLE VERTICAL BAR LEFT TURNSTILE/0VERTICAL BAR DOUBLE LEFT TURNSTILE",
    "0DOUBLE VERTICAL BAR DOUBLE LEFT TURNSTILE/0LONG DASH FROM LEFT MEMBER OF DOUBLE VERTICAL",
    "0SHORT DOWN TACK WITH OVERBAR/1UP TACK WITH UNDERBAR/3ABOVE SHORT DOWN TACK",
    "0DOUBLE DOWN TACK/1UP TACK/1STROKE NOT SIGN/0REVERSED DOUBLE STROKE NOT SIGN",
    "0DOES NOT DIVIDE WITH REVERSED NEGATION SLASH/0VERTICAL LINE WITH CIRCLE ABOVE/4BELOW",
    "0DOWN TACK WITH CIRCLE BELOW/0PARALLEL WITH HORIZONTAL STROKE/2TILDE OPERATOR",
    "0TRIPLE VERTICAL BAR BINARY RELATION/3WITH HORIZONTAL STROKE/1COLON OPERATOR",
    "1NESTED LESS-THAN/2GREATER-THAN/0DOUBLE-LINE SLANTED LESS-THAN OR EQUAL TO",
    "2GREATER-THAN OR EQUAL TO/0TRIPLE SOLIDUS BINARY RELATION",
    "0LARGE TRIPLE VERTICAL BAR OPERATOR/0DOUBLE SOLIDUS OPERATOR/0WHITE VERTICAL BAR",
    "0N-ARY WHITE VERTICAL BAR/0NORTH EAST WHITE ARROW/1WEST WHITE ARROW/0SOUTH EAST WHITE ARROW",
    "1WEST WHITE ARROW/0LEFT RIGHT WHITE ARROW/0LEFTWARDS BLACK ARROW/0UPWARDS BLACK ARROW",
    "0DOWNWARDS BLACK ARROW/0NORTH EAST BLACK ARROW/1WEST BLACK ARROW/0SOUTH EAST BLACK ARROW",
    "1WEST BLACK ARROW/0LEFT RIGHT BLACK ARROW/0UP DOWN BLACK ARROW",
    "0RIGHTWARDS ARROW WITH TIP DOWNWARDS/4UPWARDS/0LEFTWARDS ARROW WITH TIP DOWNWARDS/4UPWARDS",
    "0SQUARE WITH TOP HALF BLACK/2BOTTOM HALF BLACK/2UPPER RIGHT DIAGONAL HALF BLACK",
    "2LOWER LEFT DIAGONAL HALF BLACK/0DIAMOND WITH LEFT HALF BLACK/2RIGHT HALF BLACK",
    "2TOP HALF BLACK/2BOTTOM HALF BLACK/0DOTTED SQUARE/0BLACK LARGE SQUARE/0WHITE LARGE SQUARE",
    "0BLACK VERY SMALL SQUARE/0WHITE VERY SMALL SQUARE/0BLACK PENTAGON/0WHITE PENTAGON/1HEXAGON",
    "0BLACK HEXAGON/0HORIZONTAL BLACK HEXAGON/0BLACK LARGE CIRCLE/1MEDIUM DIAMOND",
    "0WHITE MEDIUM DIAMOND/0BLACK MEDIUM LOZENGE/0WHITE MEDIUM LOZENGE/0BLACK SMALL DIAMOND",
    "2LOZENGE/0WHITE SMALL LOZENGE/0BLACK HORIZONTAL ELLIPSE/0WHITE HORIZONTAL ELLIPSE",
    "0BLACK VERTICAL ELLIPSE/0WHITE VERTICAL ELLIPSE/0LEFT ARROW WITH SMALL CIRCLE",
    "0THREE LEFTWARDS ARROWS/0LEFT ARROW WITH CIRCLED PLUS/0LONG LEFTWARDS SQUIGGLE ARROW",
    "0LEFTWARDS TWO-HEADED ARROW WITH VERTICAL STROKE/4DOUBLE VERTICAL STROKE/3FROM BAR",
    "2TRIPLE DASH ARROW/1ARROW WITH DOTTED STEM/3TAIL WITH VERTICAL STROKE",
    "5DOUBLE VERTICAL STROKE/1TWO-HEADED ARROW WITH TAIL/5WITH VERTICAL STROKE",
    "6DOUBLE VERTICAL STROKE/1ARROW THROUGH X/0WAVE ARROW POINTING DIRECTLY LEFT",
    "0EQUALS SIGN ABOVE LEFTWARDS ARROW/0REVERSE TILDE OPERATOR ABOVE LEFTWARDS ARROW",
    "0LEFTWARDS ARROW ABOVE REVERSE ALMOST EQUAL TO/0RIGHTWARDS ARROW THROUGH GREATER-THAN",
    "3SUPERSET/0LEFTWARDS QUADRUPLE ARROW/0RIGHTWARDS QUADRUPLE ARROW",
    "0REVERSE TILDE OPERATOR ABOVE RIGHTWARDS ARROW",
    "0RIGHTWARDS ARROW ABOVE REVERSE ALMOST EQUAL TO/0TILDE OPERATOR ABOVE LEFTWARDS ARROW",
    "0LEFTWARDS ARROW ABOVE ALMOST EQUAL TO/3REVERSE TILDE OPERATOR",
    "0RIGHTWARDS ARROW ABOVE REVERSE TILDE OPERATOR/0DOWNWARDS TRIANGLE-HEADED ZIGZAG ARROW",
    "0SHORT SLANTED NORTH ARROW/1BACKSLANTED SOUTH ARROW/0WHITE MEDIUM STAR/0BLACK SMALL STAR",
    "0WHITE SMALL STAR/0BLACK RIGHT-POINTING PENTAGON/0WHITE RIGHT-POINTING PENTAGON",
    "0HEAVY LARGE CIRCLE/1OVAL WITH OVAL INSIDE/1CIRCLE WITH CIRCLE INSIDE/2/1CIRCLED SALTIRE",
    "0SLANTED NORTH ARROW WITH HOOKED HEAD/0BACKSLANTED SOUTH ARROW WITH HOOKED TAIL",
    "0SLANTED NORTH ARROW WITH HORIZONTAL TAIL/0BACKSLANTED SOUTH ARROW WITH HORIZONTAL TAIL",
    "0BENT ARROW POINTING DOWNWARDS THEN NORTH EAST",
    "0SHORT BENT ARROW POINTING DOWNWARDS THEN NORTH EAST/0LEFTWARDS TRIANGLE-HEADED ARROW",
    "0UPWARDS TRIANGLE-HEADED ARROW/0RIGHTWARDS TRIANGLE-HEADED ARROW",
    "0DOWNWARDS TRIANGLE-HEADED ARROW/0LEFT RIGHT TRIANGLE-HEADED ARROW",
    "0UP DOWN TRIANGLE-HEADED ARROW/0NORTH WEST TRIANGLE-HEADED ARROW/1EAST TRIANGLE-HEADED ARROW",
    "0SOUTH EAST TRIANGLE-HEADED ARROW/1WEST TRIANGLE-HEADED ARROW",
    "0LEFTWARDS TRIANGLE-HEADED DASHED ARROW/0UPWARDS TRIANGLE-HEADED DASHED ARROW",
    "0RIGHTWARDS TRIANGLE-HEADED DASHED ARROW/0DOWNWARDS TRIANGLE-HEADED DASHED ARROW",
    "0CLOCKWISE TRIANGLE-HEADED OPEN CIRCLE ARROW",
    "0ANTICLOCKWISE TRIANGLE-HEADED OPEN CIRCLE ARROW/0LEFTWARDS TRIANGLE-HEADED ARROW TO BAR",
    "0UPWARDS TRIANGLE-HEADED ARROW TO BAR/0RIGHTWARDS TRIANGLE-HEADED ARROW TO BAR",
    "0DOWNWARDS TRIANGLE-HEADED ARROW TO BAR/@2B76/0NORTH WEST TRIANGLE-HEADED ARROW TO BAR",
    "1EAST TRIANGLE-HEADED ARROW TO BAR/0SOUTH EAST TRIANGLE-HEADED ARROW TO BAR",
    "1WEST TRIANGLE-HEADED ARROW TO BAR",
    "0LEFTWARDS TRIANGLE-HEADED ARROW WITH DOUBLE HORIZONTAL STROKE",
    "0UPWARDS TRIANGLE-HEADED ARROW WITH DOUBLE HORIZONTAL STROKE",
    "0RIGHTWARDS TRIANGLE-HEADED ARROW WITH DOUBLE HORIZONTAL STROKE",
    "0DOWNWARDS TRIANGLE-HEADED ARROW WITH DOUBLE HORIZONTAL STROKE/0HORIZONTAL TAB KEY",
    "0VERTICAL TAB KEY/0LEFTWARDS TRIANGLE-HEADED ARROW OVER RIGHTWARDS TRIANGLE-HEADED ARROW",
    "0UPWARDS TRIANGLE-HEADED ARROW LEFTWARDS OF DOWNWARDS TRIANGLE-HEADED ARROW",
    "0RIGHTWARDS TRIANGLE-HEADED ARROW OVER LEFTWARDS TRIANGLE-HEADED ARROW",
    "0DOWNWARDS TRIANGLE-HEADED ARROW LEFTWARDS OF UPWARDS TRIANGLE-HEADED ARROW",
    "0LEFTWARDS TRIANGLE-HEADED PAIRED ARROWS/0UPWARDS TRIANGLE-HEADED PAIRED ARROWS",
    "0RIGHTWARDS TRIANGLE-HEADED PAIRED ARROWS/0DOWNWARDS TRIANGLE-HEADED PAIRED ARROWS",
    "0LEFTWARDS BLACK CIRCLED WHITE ARROW/0UPWARDS BLACK CIRCLED WHITE ARROW",
    "0RIGHTWARDS BLACK CIRCLED WHITE ARROW/0DOWNWARDS BLACK CIRCLED WHITE ARROW",
    "0ANTICLOCKWISE TRIANGLE-HEADED RIGHT U-SHAPED ARROW/2BOTTOM U-SHAPED ARROW",
    "2LEFT U-SHAPED ARROW/2TOP U-SHAPED ARROW/0RETURN LEFT/1RIGHT/0NEWLINE LEFT/1RIGHT",
    "0FOUR CORNER ARROWS CIRCLING ANTICLOCKWISE/0RIGHTWARDS BLACK ARROW",
    "@2B97/0SYMBOL FOR TYPE A ELECTRONICS/0THREE-D TOP-LIGHTED LEFTWARDS EQUILATERAL ARROWHEAD",
    "1RIGHT-LIGHTED UPWARDS EQUILATERAL ARROWHEAD/1TOP-LIGHTED RIGHTWARDS EQUILATERAL ARROWHEAD",
    "1LEFT-LIGHTED DOWNWARDS EQUILATERAL ARROWHEAD/0BLACK LEFTWARDS EQUILATERAL ARROWHEAD",
    "1UPWARDS EQUILATERAL ARROWHEAD/1RIGHTWARDS EQUILATERAL ARROWHEAD",
    "1DOWNWARDS EQUILATERAL ARROWHEAD/0DOWNWARDS TRIANGLE-HEADED ARROW WITH LONG TIP LEFTWARDS",
    "6RIGHTWARDS/0UPWARDS TRIANGLE-HEADED ARROW WITH LONG TIP LEFTWARDS/6RIGHTWARDS",
    "0LEFTWARDS TRIANGLE-HEADED ARROW WITH LONG TIP UPWARDS",
    "0RIGHTWARDS TRIANGLE-HEADED ARROW WITH LONG TIP UPWARDS",
    "0LEFTWARDS TRIANGLE-HEADED ARROW WITH LONG TIP DOWNWARDS",
    "0RIGHTWARDS TRIANGLE-HEADED ARROW WITH LONG TIP DOWNWARDS",
    "0BLACK CURVED DOWNWARDS AND LEFTWARDS ARROW/4RIGHTWARDS ARROW/2UPWARDS AND LEFTWARDS ARROW",
    "4RIGHTWARDS ARROW/2LEFTWARDS AND UPWARDS ARROW/2RIGHTWARDS AND UPWARDS ARROW",
    "2LEFTWARDS AND DOWNWARDS ARROW/2RIGHTWARDS AND DOWNWARDS ARROW/0RIBBON ARROW DOWN LEFT",
    "3RIGHT/2UP LEFT/3RIGHT/2LEFT UP/2RIGHT UP/2LEFT DOWN/2RIGHT DOWN",
    "0UPWARDS WHITE ARROW FROM BAR WITH HORIZONTAL BAR/0UP ARROWHEAD IN A RECTANGLE BOX",
    "0OVERLAPPING WHITE SQUARES/2AND BLACK SQUARES/1BLACK SQUARES/0BALLOT BOX WITH LIGHT X",
    "0CIRCLED X/1BOLD X/0BLACK SQUARE CENTRED/1DIAMOND CENTRED/0TURNED BLACK PENTAGON",
    "0HORIZONTAL BLACK OCTAGON/0BLACK OCTAGON/1MEDIUM UP-POINTING TRIANGLE CENTRED",
    "2DOWN-POINTING TRIANGLE CENTRED/2LEFT-POINTING TRIANGLE CENTRED",
    "2RIGHT-POINTING TRIANGLE CENTRED/0NEPTUNE FORM TWO/0TOP HALF BLACK CIRCLE",
    "0BOTTOM HALF BLACK CIRCLE/0LIGHT FOUR POINTED BLACK CUSP",
    "0ROTATED LIGHT FOUR POINTED BLACK CUSP/0WHITE FOUR POINTED CUSP",
    "0ROTATED WHITE FOUR POINTED CUSP/0SQUARE POSITION INDICATOR/0UNCERTAINTY SIGN/0GROUP MARK",
    "0PLUTO FORM TWO/2THREE/2FOUR/2FIVE/0TRANSPLUTO/0PROSERPINA/0ASTRAEA/0HYGIEA/0PHOLUS/0NESSUS",
    "0WHITE MOON SELENA/0BLACK DIAMOND ON CROSS/0TRUE LIGHT MOON ARTA/0CUPIDO/0HADES/0ZEUS",
    "0KRONOS/0APOLLON/0ADMETOS/0VULCANUS/0POSEIDON/0LEFT HALF BLACK STAR/0RIGHT HALF BLACK STAR",
    "0STAR WITH LEFT HALF BLACK/2RIGHT HALF BLACK",
    "0LEFTWARDS TWO-HEADED ARROW WITH TRIANGLE ARROWHEADS",
    "0UPWARDS TWO-HEADED ARROW WITH TRIANGLE ARROWHEADS",
    "0RIGHTWARDS TWO-HEADED ARROW WITH TRIANGLE ARROWHEADS",
    "0DOWNWARDS TWO-HEADED ARROW WITH TRIANGLE ARROWHEADS/0ERIS FORM ONE/2TWO/0SEDNA",
    "0RUSSIAN ASTROLOGICAL SYMBOL VIGINTILE/3NOVILE/3QUINTILE/3BINOVILE/3SENTAGON/3TREDECILE",
    "0EQUALS SIGN WITH INFINITY BELOW/0UNITED SYMBOL/0SEPARATED SYMBOL/0DOUBLED SYMBOL",
    "0PASSED SYMBOL/0REVERSED RIGHT ANGLE/0HELLSCHREIBER PAUSE SYMBOL",
    "0GLAGOLITIC CAPITAL LETTER AZU/3BUKY/3VEDE/3GLAGOLI/3DOBRO/3YESTU/3ZHIVETE/3DZELO/3ZEMLJA",
    "3IZHE/3INITIAL IZHE/3I/3DJERVI/3KAKO/3LJUDIJE/3MYSLITE/3NASHI/3ONU/3POKOJI/3RITSI/3SLOVO",
    "3TVRIDO/3UKU/3FRITU/3HERU/3OTU/3PE/3SHTA/3TSI/3CHRIVI/3SHA/3YERU/3YERI/3YATI/3SPIDERY HA/3YU",
    "3SMALL YUS/5WITH TAIL/3YO/3IOTATED SMALL YUS/3BIG YUS/3IOTATED BIG YUS/3FITA/3IZHITSA",
    "3SHTAPIC/3TROKUTASTI A/3LATINATE MYSLITE/3CAUDATE CHRIVI/1SMALL LETTER AZU/3BUKY/3VEDE",
    "3GLAGOLI/3DOBRO/3YESTU/3ZHIVETE/3DZELO/3ZEMLJA/3IZHE/3INITIAL IZHE/3I/3DJERVI/3KAKO/3LJUDIJE",
    "3MYSLITE/3NASHI/3ONU/3POKOJI/3RITSI/3SLOVO/3TVRIDO/3UKU/3FRITU/3HERU/3OTU/3PE/3SHTA/3TSI",
    "3CHRIVI/3SHA/3YERU/3YERI/3YATI/3SPIDERY HA/3YU/3SMALL YUS/5WITH TAIL/3YO/3IOTATED SMALL YUS",
    "3BIG YUS/3IOTATED BIG YUS/3FITA/3IZHITSA/3SHTAPIC/3TROKUTASTI A/3LATINATE MYSLITE",
    "3CAUDATE CHRIVI/0LATIN CAPITAL LETTER L WITH DOUBLE BAR/1SMALL LETTER L WITH DOUBLE BAR",
    "1CAPITAL LETTER L WITH MIDDLE TILDE/3P WITH STROKE/3R WITH TAIL/1SMALL LETTER A WITH STROKE",
    "3T WITH DIAGONAL STROKE/1CAPITAL LETTER H WITH DESCENDER/1SMALL LETTER H WITH DESCENDER",
    "1CAPITAL LETTER K WITH DESCENDER/1SMALL LETTER K WITH DESCENDER",
    "1CAPITAL LETTER Z WITH DESCENDER/1SMALL LETTER Z WITH DESCENDER/1CAPITAL LETTER ALPHA",
    "3M WITH HOOK/3TURNED A/4ALPHA/1SMALL LETTER V WITH RIGHT HOOK/1CAPITAL LETTER W WITH HOOK",
    "1SMALL LETTER W WITH HOOK/3V WITH CURL/1CAPITAL LETTER HALF H/1SMALL LETTER HALF H",
    "3TAILLESS PHI/3E WITH NOTCH/3TURNED R WITH TAIL/3O WITH LOW RING INSIDE",
    "1LETTER SMALL CAPITAL TURNED E/1SUBSCRIPT SMALL LETTER J/0MODIFIER LETTER CAPITAL V",
    "0LATIN CAPITAL LETTER S WITH SWASH TAIL/3Z WITH SWASH TAIL/0COPTIC CAPITAL LETTER ALFA",
    "1SMALL LETTER ALFA/1CAPITAL LETTER VIDA/1SMALL LETTER VIDA/1CAPITAL LETTER GAMMA",
    "1SMALL LETTER GAMMA/1CAPITAL LETTER DALDA/1SMALL LETTER DALDA/1CAPITAL LETTER EIE",
    "1SMALL LETTER EIE/1CAPITAL LETTER SOU/1SMALL LETTER SOU/1CAPITAL LETTER ZATA",
    "1SMALL LETTER ZATA/1CAPITAL LETTER HATE/1SMALL LETTER HATE/1CAPITAL LETTER THETHE",
    "1SMALL LETTER THETHE/1CAPITAL LETTER IAUDA/1SMALL LETTER IAUDA/1CAPITAL LETTER KAPA",
    "1SMALL LETTER KAPA/1CAPITAL LETTER LAULA/1SMALL LETTER LAULA/1CAPITAL LETTER MI",
    "1SMALL LETTER MI/1CAPITAL LETTER NI/1SMALL LETTER NI/1CAPITAL LETTER KSI/1SMALL LETTER KSI",
    "1CAPITAL LETTER O/1SMALL LETTER O/1CAPITAL LETTER PI/1SMALL LETTER PI/1CAPITAL LETTER RO",
    "1SMALL LETTER RO/1CAPITAL LETTER SIMA/1SMALL LETTER SIMA/1CAPITAL LETTER TAU",
    "1SMALL LETTER TAU/1CAPITAL LETTER UA/1SMALL LETTER UA/1CAPITAL LETTER FI/1SMALL LETTER FI",
    "1CAPITAL LETTER KHI/1SMALL LETTER KHI/1CAPITAL LETTER PSI/1SMALL LETTER PSI",
    "1CAPITAL LETTER OOU/1SMALL LETTER OOU/1CAPITAL LETTER DIALECT-P ALEF",
    "1SMALL LETTER DIALECT-P ALEF/1CAPITAL LETTER OLD COPTIC AIN/1SMALL LETTER OLD COPTIC AIN",
    "1CAPITAL LETTER CRYPTOGRAMMIC EIE/1SMALL LETTER CRYPTOGRAMMIC EIE",
    "1CAPITAL LETTER DIALECT-P KAPA/1SMALL LETTER DIALECT-P KAPA/1CAPITAL LETTER DIALECT-P NI",
    "1SMALL LETTER DIALECT-P NI/1CAPITAL LETTER CRYPTOGRAMMIC NI/1SMALL LETTER CRYPTOGRAMMIC NI",
    "1CAPITAL LETTER OLD COPTIC OOU/1SMALL LETTER OLD COPTIC OOU/1CAPITAL LETTER SAMPI",
    "1SMALL LETTER SAMPI/1CAPITAL LETTER CROSSED SHEI/1SMALL LETTER CROSSED SHEI",
    "1CAPITAL LETTER OLD COPTIC SHEI/1SMALL LETTER OLD COPTIC SHEI/1CAPITAL LETTER OLD COPTIC ESH",
    "1SMALL LETTER OLD COPTIC ESH/1CAPITAL LETTER AKHMIMIC KHEI/1SMALL LETTER AKHMIMIC KHEI",
    "1CAPITAL LETTER DIALECT-P HORI/1SMALL LETTER DIALECT-P HORI/1CAPITAL LETTER OLD COPTIC HORI",
    "1SMALL LETTER OLD COPTIC HORI/1CAPITAL LETTER OLD COPTIC HA/1SMALL LETTER OLD COPTIC HA",
    "1CAPITAL LETTER L-SHAPED HA/1SMALL LETTER L-SHAPED HA/1CAPITAL LETTER OLD COPTIC HEI",
    "1SMALL LETTER OLD COPTIC HEI/1CAPITAL LETTER OLD COPTIC HAT/1SMALL LETTER OLD COPTIC HAT",
    "1CAPITAL LETTER OLD COPTIC GANGIA/1SMALL LETTER OLD COPTIC GANGIA",
    "1CAPITAL LETTER OLD COPTIC DJA/1SMALL LETTER OLD COPTIC DJA/1CAPITAL LETTER OLD COPTIC SHIMA",
    "1SMALL LETTER OLD COPTIC SHIMA/1CAPITAL LETTER OLD NUBIAN SHIMA",
    "1SMALL LETTER OLD NUBIAN SHIMA/1CAPITAL LETTER OLD NUBIAN NGI/1SMALL LETTER OLD NUBIAN NGI",
    "1CAPITAL LETTER OLD NUBIAN NYI/1SMALL LETTER OLD NUBIAN NYI/1CAPITAL LETTER OLD NUBIAN WAU",
    "1SMALL LETTER OLD NUBIAN WAU/1SYMBOL KAI/2MI RO/2PI RO/2STAUROS/2TAU RO/2KHI RO/2SHIMA SIMA",
    "1CAPITAL LETTER CRYPTOGRAMMIC SHEI/1SMALL LETTER CRYPTOGRAMMIC SHEI",
    "1CAPITAL LETTER CRYPTOGRAMMIC GANGIA/1SMALL LETTER CRYPTOGRAMMIC GANGIA/1COMBINING NI ABOVE",
    "2SPIRITUS ASPER/3LENIS/1CAPITAL LETTER BOHAIRIC KHEI/1SMALL LETTER BOHAIRIC KHEI",
    "@2CF9/1OLD NUBIAN FULL STOP/3DIRECT QUESTION MARK/3INDIRECT QUESTION MARK/3VERSE DIVIDER",
    "1FRACTION ONE HALF/1FULL STOP/1MORPHOLOGICAL DIVIDER/0GEORGIAN SMALL LETTER AN/3BAN/3GAN",
    "3DON/3EN/3VIN/3ZEN/3TAN/3IN/3KAN/3LAS/3MAN/3NAR/3ON/3PAR/3ZHAR/3RAE/3SAN/3TAR/3UN/3PHAR",
    "3KHAR/3GHAN/3QAR/3SHIN/3CHIN/3CAN/3JIL/3CIL/3CHAR/3XAN/3JHAN/3HAE/3HE/3HIE/3WE/3HAR/3HOE",
    "@2D27/3YN/@2D2D/3AEN/@2D30/0TIFINAGH LETTER YA/2YAB/2YABH/2YAG/2YAGHH/2BERBER ACADEMY YAJ",
    "2YAJ/2YAD/2YADH/2YADD/2YADDH/2YEY/2YAF/2YAK/2TUAREG YAK/2YAKHH/2YAH/2BERBER ACADEMY YAH",
    "2TUAREG YAH/2YAHH/2YAA/2YAKH/2TUAREG YAKH/2YAQ/2TUAREG YAQ/2YI/2YAZH/2AHAGGAR YAZH",
    "2TUAREG YAZH/2YAL/2YAM/2YAN/2TUAREG YAGN/3YANG/2YAP/2YU/2YAR/2YARR/2YAGH/2TUAREG YAGH",
    "2AYER YAGH/2YAS/2YASS/2YASH/2YAT/2YATH/2YACH/2YATT/2YAV/2YAW/2YAY/2YAZ/2TAWELLEMET YAZ/2YAZZ",
    "2YE/2YO/@2D6F/1MODIFIER LETTER LABIALIZATION MARK/1SEPARATOR MARK/@2D7F/1CONSONANT JOINER",
    "0ETHIOPIC SYLLABLE LOA/2MOA/2ROA/2SOA/2SHOA/2BOA/2TOA/2COA/2NOA/2NYOA/2GLOTTAL OA/2ZOA/2DOA",
    "2DDOA/2JOA/2THOA/2CHOA/2PHOA/2POA/2GGWA/2GGWI/2GGWEE/2GGWE/@2DA0/2SSA/2SSU/2SSI/2SSAA/2SSEE",
    "2SSE/2SSO/@2DA8/2CCA/2CCU/2CCI/2CCAA/2CCEE/2CCE/2CCO/@2DB0/2ZZA/2ZZU/2ZZI/2ZZAA/2ZZEE/2ZZE",
    "2ZZO/@2DB8/2CCHA/2CCHU/2CCHI/2CCHAA/2CCHEE/2CCHE/2CCHO/@2DC0/2QYA/2QYU/2QYI/2QYAA/2QYEE/2QYE",
    "2QYO/@2DC8/2KYA/2KYU/2KYI/2KYAA/2KYEE/2KYE/2KYO/@2DD0/2XYA/2XYU/2XYI/2XYAA/2XYEE/2XYE/2XYO",
    "@2DD8/2GYA/2GYU/2GYI/2GYAA/2GYEE/2GYE/2GYO/@2DE0/0COMBINING CYRILLIC LETTER BE/3VE/3GHE/3DE",
    "3ZHE/3ZE/3KA/3EL/3EM/3EN/3O/3PE/3ER/3ES/3TE/3HA/3TSE/3CHE/3SHA/3SHCHA/3FITA/3ES-TE/3A/3IE",
    "3DJERV/3MONOGRAPH UK/3YAT/3YU/3IOTIFIED A/3LITTLE YUS/3BIG YUS/3IOTIFIED BIG YUS",
    "0RIGHT ANGLE SUBSTITUTION MARKER/2DOTTED SUBSTITUTION MARKER/0LEFT SUBSTITUTION BRACKET",
    "0RIGHT SUBSTITUTION BRACKET/0LEFT DOTTED SUBSTITUTION BRACKET",
    "0RIGHT DOTTED SUBSTITUTION BRACKET/0RAISED INTERPOLATION MARKER/1DOTTED INTERPOLATION MARKER",
    "0DOTTED TRANSPOSITION MARKER/0LEFT TRANSPOSITION BRACKET/0RIGHT TRANSPOSITION BRACKET",
    "0RAISED SQUARE/0LEFT RAISED OMISSION BRACKET/0RIGHT RAISED OMISSION BRACKET",
    "0EDITORIAL CORONIS/0PARAGRAPHOS/0FORKED PARAGRAPHOS/0REVERSED FORKED PARAGRAPHOS",
    "0HYPODIASTOLE/0DOTTED OBELOS/0DOWNWARDS ANCORA/0UPWARDS ANCORA/0DOTTED RIGHT-POINTING ANGLE",
    "0DOUBLE OBLIQUE HYPHEN/0INVERTED INTERROBANG/0PALM BRANCH/0HYPHEN WITH DIAERESIS",
    "0TILDE WITH RING ABOVE/0LEFT LOW PARAPHRASE BRACKET/0RIGHT LOW PARAPHRASE BRACKET",
    "0TILDE WITH DOT ABOVE/3BELOW/0LEFT VERTICAL BAR WITH QUILL/0RIGHT VERTICAL BAR WITH QUILL",
    "0TOP LEFT HALF BRACKET/1RIGHT HALF BRACKET/0BOTTOM LEFT HALF BRACKET/1RIGHT HALF BRACKET",
    "0LEFT SIDEWAYS U BRACKET/0RIGHT SIDEWAYS U BRACKET/0LEFT DOUBLE PARENTHESIS",
    "0RIGHT DOUBLE PARENTHESIS/0TWO DOTS OVER ONE DOT PUNCTUATION",
    "0ONE DOT OVER TWO DOTS PUNCTUATION/0SQUARED FOUR DOT PUNCTUATION/0FIVE DOT MARK",
    "0REVERSED QUESTION MARK/0VERTICAL TILDE/0RING POINT/0WORD SEPARATOR MIDDLE DOT/0TURNED COMMA",
    "0RAISED DOT/1COMMA/0TURNED SEMICOLON/0DAGGER WITH LEFT GUARD/2RIGHT GUARD/0TURNED DAGGER",
    "0TOP HALF SECTION SIGN/0TWO-EM DASH/0THREE-EM DASH/0STENOGRAPHIC FULL STOP",
    "0VERTICAL SIX DOTS/0WIGGLY VERTICAL LINE/0CAPITULUM/0DOUBLE HYPHEN/0REVERSED COMMA",
    "0DOUBLE LOW-REVERSED-9 QUOTATION MARK/0DASH WITH LEFT UPTURN/0DOUBLE SUSPENSION MARK",
    "0INVERTED LOW KAVYKA/3WITH KAVYKA ABOVE/0LOW KAVYKA/2WITH DOT/0DOUBLE STACKED COMMA",
    "0DOTTED SOLIDUS/0TRIPLE DAGGER/0MEDIEVAL COMMA/0PARAGRAPHUS MARK/0PUNCTUS ELEVATUS MARK",
    "0CORNISH VERSE DIVIDER/0CROSS PATTY WITH RIGHT CROSSBAR/3LEFT CROSSBAR",
    "0TIRONIAN SIGN CAPITAL ET/0MEDIEVAL EXCLAMATION MARK/1QUESTION MARK",
    "0LEFT SQUARE BRACKET WITH STROKE/0RIGHT SQUARE BRACKET WITH STROKE",
    "0LEFT SQUARE BRACKET WITH DOUBLE STROKE/0RIGHT SQUARE BRACKET WITH DOUBLE STROKE",
    "0TOP HALF LEFT PARENTHESIS/2RIGHT PARENTHESIS/0BOTTOM HALF LEFT PARENTHESIS",
    "2RIGHT PARENTHESIS/0OBLIQUE HYPHEN/@2E80/0CJK RADICAL REPEAT/2CLIFF/2SECOND ONE/3TWO/3THREE",
    "2PERSON/2BOX/2TABLE/2KNIFE ONE/3TWO/2DIVINATION/2SEAL/2SMALL ONE/3TWO/2LAME ONE/3TWO/3THREE",
    "3FOUR/2SNAKE/2THREAD/2SNOUT ONE/3TWO/2HEART ONE/3TWO/2HAND/2RAP/@2E9B/2CHOKE/2SUN/2MOON",
    "2DEATH/2MOTHER/2CIVILIAN/2WATER ONE/3TWO/2FIRE/2PAW ONE/3TWO/2SIMPLIFIED HALF TREE TRUNK",
    "2COW/2DOG/2JADE/2BOLT OF CLOTH/2EYE/2SPIRIT ONE/3TWO/2BAMBOO/2SILK/2C-SIMPLIFIED SILK",
    "2NET ONE/3TWO/3THREE/3FOUR/2MESH/2SHEEP/2RAM/2EWE/2OLD/2BRUSH ONE/3TWO/2MEAT/2MORTAR",
    "2GRASS ONE/3TWO/3THREE/2TIGER/2CLOTHES/2WEST ONE/3TWO/2C-SIMPLIFIED SEE/2SIMPLIFIED HORN",
    "2HORN/2C-SIMPLIFIED SPEECH/3SHELL/2FOOT/2C-SIMPLIFIED CART/2SIMPLIFIED WALK/2WALK ONE/3TWO",
    "2CITY/2C-SIMPLIFIED GOLD/2LONG ONE/3TWO/2C-SIMPLIFIED LONG/3GATE/2MOUND ONE/3TWO/2RAIN/2BLUE",
    "2C-SIMPLIFIED TANNED LEATHER/3LEAF/3WIND/3FLY/2EAT ONE/3TWO/3THREE/2C-SIMPLIFIED EAT/2HEAD",
    "2C-SIMPLIFIED HORSE/2BONE/2GHOST/2C-SIMPLIFIED FISH/3BIRD/3SALT/2SIMPLIFIED WHEAT/3YELLOW",
    "2C-SIMPLIFIED FROG/2J-SIMPLIFIED EVEN/2C-SIMPLIFIED EVEN/2J-SIMPLIFIED TOOTH",
    "2C-SIMPLIFIED TOOTH/2J-SIMPLIFIED DRAGON/2C-SIMPLIFIED DRAGON/2TURTLE/2J-SIMPLIFIED TURTLE",
    "2C-SIMPLIFIED TURTLE/@2F00/0KANGXI RADICAL ONE/2LINE/2DOT/2SLASH/2SECOND/2HOOK/2TWO/2LID",
    "2MAN/2LEGS/2ENTER/2EIGHT/2DOWN BOX/2COVER/2ICE/2TABLE/2OPEN BOX/2KNIFE/2POWER/2WRAP/2SPOON",
    "2RIGHT OPEN BOX/2HIDING ENCLOSURE/2TEN/2DIVINATION/2SEAL/2CLIFF/2PRIVATE/2AGAIN/2MOUTH",
    "2ENCLOSURE/2EARTH/2SCHOLAR/2GO/3SLOWLY/2EVENING/2BIG/2WOMAN/2CHILD/2ROOF/2INCH/2SMALL/2LAME",
    "2CORPSE/2SPROUT/2MOUNTAIN/2RIVER/2WORK/2ONESELF/2TURBAN/2DRY/2SHORT THREAD/2DOTTED CLIFF",
    "2LONG STRIDE/2TWO HANDS/2SHOOT/2BOW/2SNOUT/2BRISTLE/2STEP/2HEART/2HALBERD/2DOOR/2HAND",
    "2BRANCH/2RAP/2SCRIPT/2DIPPER/2AXE/2SQUARE/2NOT/2SUN/2SAY/2MOON/2TREE/2LACK/2STOP/2DEATH",
    "2WEAPON/2DO NOT/2COMPARE/2FUR/2CLAN/2STEAM/2WATER/2FIRE/2CLAW/2FATHER/2DOUBLE X",
    "2HALF TREE TRUNK/2SLICE/2FANG/2COW/2DOG/2PROFOUND/2JADE/2MELON/2TILE/2SWEET/2LIFE/2USE",
    "2FIELD/2BOLT OF CLOTH/2SICKNESS/2DOTTED TENT/2WHITE/2SKIN/2DISH/2EYE/2SPEAR/2ARROW/2STONE",
    "2SPIRIT/2TRACK/2GRAIN/2CAVE/2STAND/2BAMBOO/2RICE/2SILK/2JAR/2NET/2SHEEP/2FEATHER/2OLD/2AND",
    "2PLOW/2EAR/2BRUSH/2MEAT/2MINISTER/2SELF/2ARRIVE/2MORTAR/2TONGUE/2OPPOSE/2BOAT/2STOPPING",
    "2COLOR/2GRASS/2TIGER/2INSECT/2BLOOD/2WALK ENCLOSURE/2CLOTHES/2WEST/2SEE/2HORN/2SPEECH",
    "2VALLEY/2BEAN/2PIG/2BADGER/2SHELL/2RED/2RUN/2FOOT/2BODY/2CART/2BITTER/2MORNING/2WALK/2CITY",
    "2WINE/2DISTINGUISH/2VILLAGE/2GOLD/2LONG/2GATE/2MOUND/2SLAVE/2SHORT TAILED BIRD/2RAIN/2BLUE",
    "2WRONG/2FACE/2LEATHER/2TANNED LEATHER/2LEEK/2SOUND/2LEAF/2WIND/2FLY/2EAT/2HEAD/2FRAGRANT",
    "2HORSE/2BONE/2TALL/2HAIR/2FIGHT/2SACRIFICIAL WINE/2CAULDRON/2GHOST/2FISH/2BIRD/2SALT/2DEER",
    "2WHEAT/2HEMP/2YELLOW/2MILLET/2BLACK/2EMBROIDERY/2FROG/2TRIPOD/2DRUM/2RAT/2NOSE/2EVEN/2TOOTH",
    "2DRAGON/2TURTLE/2FLUTE/@2FF0/0IDEOGRAPHIC DESCRIPTION CHARACTER LEFT TO RIGHT",
    "3ABOVE TO BELOW/3LEFT TO MIDDLE AND RIGHT/3ABOVE TO MIDDLE AND BELOW/3FULL SURROUND",
    "3SURROUND FROM ABOVE/5BELOW/5LEFT/5UPPER LEFT/6RIGHT/5LOWER LEFT/3OVERLAID"]

end Crontab.Text.Names
