import StoryCatalog.Text.CharacterName.Block

/-!
# Names of characters: symbol

The names of punctuation, arrows, operators, shapes and signs.
-/

namespace StoryCatalog

/-- The names of punctuation, arrows, operators, shapes and signs. -/
def symbolNames : List NameBlock := [
  ⟨0x2000, "", [
    "EN QUAD,EM QUAD,EN SPACE,EM SPACE,THREE-PER-EM SPACE,FOUR-PER-EM SPACE,SIX-PER-EM SPACE",
    "FIGURE SPACE,PUNCTUATION SPACE,THIN SPACE,HAIR SPACE,ZERO WIDTH SPACE",
    "ZERO WIDTH NON-JOINER,ZERO WIDTH JOINER,LEFT-TO-RIGHT MARK,RIGHT-TO-LEFT MARK,HYPHEN",
    "NON-BREAKING HYPHEN,FIGURE DASH,EN DASH,EM DASH,HORIZONTAL BAR,DOUBLE VERTICAL LINE",
    "DOUBLE LOW LINE,LEFT SINGLE QUOTATION MARK,RIGHT SINGLE QUOTATION MARK",
    "SINGLE LOW-9 QUOTATION MARK,SINGLE HIGH-REVERSED-9 QUOTATION MARK",
    "LEFT DOUBLE QUOTATION MARK,RIGHT DOUBLE QUOTATION MARK,DOUBLE LOW-9 QUOTATION MARK",
    "DOUBLE HIGH-REVERSED-9 QUOTATION MARK,DAGGER,DOUBLE DAGGER,BULLET,TRIANGULAR BULLET",
    "ONE DOT LEADER,TWO DOT LEADER,HORIZONTAL ELLIPSIS,HYPHENATION POINT,LINE SEPARATOR",
    "PARAGRAPH SEPARATOR,LEFT-TO-RIGHT EMBEDDING,RIGHT-TO-LEFT EMBEDDING",
    "POP DIRECTIONAL FORMATTING,LEFT-TO-RIGHT OVERRIDE,RIGHT-TO-LEFT OVERRIDE",
    "NARROW NO-BREAK SPACE,PER MILLE SIGN,PER TEN THOUSAND SIGN,PRIME,DOUBLE PRIME",
    "TRIPLE PRIME,REVERSED PRIME,REVERSED DOUBLE PRIME,REVERSED TRIPLE PRIME,CARET",
    "SINGLE LEFT-POINTING ANGLE QUOTATION MARK,SINGLE RIGHT-POINTING ANGLE QUOTATION MARK",
    "REFERENCE MARK,DOUBLE EXCLAMATION MARK,INTERROBANG,OVERLINE,UNDERTIE,CHARACTER TIE",
    "CARET INSERTION POINT,ASTERISM,HYPHEN BULLET,FRACTION SLASH",
    "LEFT SQUARE BRACKET WITH QUILL,RIGHT SQUARE BRACKET WITH QUILL,DOUBLE QUESTION MARK",
    "QUESTION EXCLAMATION MARK,EXCLAMATION QUESTION MARK,TIRONIAN SIGN ET",
    "REVERSED PILCROW SIGN,BLACK LEFTWARDS BULLET,BLACK RIGHTWARDS BULLET,LOW ASTERISK",
    "REVERSED SEMICOLON,CLOSE UP,TWO ASTERISKS ALIGNED VERTICALLY,COMMERCIAL MINUS SIGN",
    "SWUNG DASH,INVERTED UNDERTIE,FLOWER PUNCTUATION MARK,THREE DOT PUNCTUATION",
    "QUADRUPLE PRIME,FOUR DOT PUNCTUATION,FIVE DOT PUNCTUATION,TWO DOT PUNCTUATION",
    "FOUR DOT MARK,DOTTED CROSS,TRICOLON,VERTICAL FOUR DOTS,MEDIUM MATHEMATICAL SPACE",
    "WORD JOINER,FUNCTION APPLICATION,INVISIBLE TIMES,INVISIBLE SEPARATOR,INVISIBLE PLUS,",
    "LEFT-TO-RIGHT ISOLATE,RIGHT-TO-LEFT ISOLATE,FIRST STRONG ISOLATE,POP DIRECTIONAL ISOLATE",
    "INHIBIT SYMMETRIC SWAPPING,ACTIVATE SYMMETRIC SWAPPING,INHIBIT ARABIC FORM SHAPING",
    "ACTIVATE ARABIC FORM SHAPING,NATIONAL DIGIT SHAPES,NOMINAL DIGIT SHAPES"]⟩,
  ⟨0x2070, "SUPERSCRIPT", [
    "ZERO,LATIN SMALL LETTER I,,,FOUR,FIVE,SIX,SEVEN,EIGHT,NINE,PLUS SIGN,MINUS,EQUALS SIGN",
    "LEFT PARENTHESIS,RIGHT PARENTHESIS,LATIN SMALL LETTER N"]⟩,
  ⟨0x2080, "SUBSCRIPT", [
    "ZERO,ONE,TWO,THREE,FOUR,FIVE,SIX,SEVEN,EIGHT,NINE,PLUS SIGN,MINUS,EQUALS SIGN",
    "LEFT PARENTHESIS,RIGHT PARENTHESIS"]⟩,
  ⟨0x2090, "LATIN SUBSCRIPT SMALL LETTER", ["A,E,O,X,SCHWA,H,K,L,M,N,P,S,T"]⟩,
  ⟨0x20A0, "", [
    "EURO-CURRENCY SIGN,COLON SIGN,CRUZEIRO SIGN,FRENCH FRANC SIGN,LIRA SIGN,MILL SIGN",
    "NAIRA SIGN,PESETA SIGN,RUPEE SIGN,WON SIGN,NEW SHEQEL SIGN,DONG SIGN,EURO SIGN,KIP SIGN",
    "TUGRIK SIGN,DRACHMA SIGN,GERMAN PENNY SIGN,PESO SIGN,GUARANI SIGN,AUSTRAL SIGN",
    "HRYVNIA SIGN,CEDI SIGN,LIVRE TOURNOIS SIGN,SPESMILO SIGN,TENGE SIGN,INDIAN RUPEE SIGN",
    "TURKISH LIRA SIGN,NORDIC MARK SIGN,MANAT SIGN,RUBLE SIGN,LARI SIGN,BITCOIN SIGN,SOM SIGN"]⟩,
  ⟨0x20D0, "COMBINING", [
    "LEFT HARPOON ABOVE,RIGHT HARPOON ABOVE,LONG VERTICAL LINE OVERLAY",
    "SHORT VERTICAL LINE OVERLAY,ANTICLOCKWISE ARROW ABOVE,CLOCKWISE ARROW ABOVE",
    "LEFT ARROW ABOVE,RIGHT ARROW ABOVE,RING OVERLAY,CLOCKWISE RING OVERLAY",
    "ANTICLOCKWISE RING OVERLAY,THREE DOTS ABOVE,FOUR DOTS ABOVE,ENCLOSING CIRCLE",
    "ENCLOSING SQUARE,ENCLOSING DIAMOND,ENCLOSING CIRCLE BACKSLASH,LEFT RIGHT ARROW ABOVE",
    "ENCLOSING SCREEN,ENCLOSING KEYCAP,ENCLOSING UPWARD POINTING TRIANGLE",
    "REVERSE SOLIDUS OVERLAY,DOUBLE VERTICAL STROKE OVERLAY,ANNUITY SYMBOL,TRIPLE UNDERDOT",
    "WIDE BRIDGE ABOVE,LEFTWARDS ARROW OVERLAY,LONG DOUBLE SOLIDUS OVERLAY",
    "RIGHTWARDS HARPOON WITH BARB DOWNWARDS,LEFTWARDS HARPOON WITH BARB DOWNWARDS",
    "LEFT ARROW BELOW,RIGHT ARROW BELOW,ASTERISK ABOVE"]⟩,
  ⟨0x2100, "", [
    "ACCOUNT OF,ADDRESSED TO THE SUBJECT,DOUBLE-STRUCK CAPITAL C,DEGREE CELSIUS",
    "CENTRE LINE SYMBOL,CARE OF,CADA UNA,EULER CONSTANT,SCRUPLE,DEGREE FAHRENHEIT",
    "SCRIPT SMALL G,SCRIPT CAPITAL H,BLACK-LETTER CAPITAL H,DOUBLE-STRUCK CAPITAL H",
    "PLANCK CONSTANT,PLANCK CONSTANT OVER TWO PI,SCRIPT CAPITAL I,BLACK-LETTER CAPITAL I",
    "SCRIPT CAPITAL L,SCRIPT SMALL L,L B BAR SYMBOL,DOUBLE-STRUCK CAPITAL N,NUMERO SIGN,",
    "SCRIPT CAPITAL P,DOUBLE-STRUCK CAPITAL P,DOUBLE-STRUCK CAPITAL Q,SCRIPT CAPITAL R",
    "BLACK-LETTER CAPITAL R,DOUBLE-STRUCK CAPITAL R,PRESCRIPTION TAKE,RESPONSE,SERVICE MARK",
    "TELEPHONE SIGN,TRADE MARK SIGN,VERSICLE,DOUBLE-STRUCK CAPITAL Z,OUNCE SIGN,OHM SIGN",
    "INVERTED OHM SIGN,BLACK-LETTER CAPITAL Z,TURNED GREEK SMALL LETTER IOTA,KELVIN SIGN",
    "ANGSTROM SIGN,SCRIPT CAPITAL B,BLACK-LETTER CAPITAL C,ESTIMATED SYMBOL,SCRIPT SMALL E",
    "SCRIPT CAPITAL E,SCRIPT CAPITAL F,TURNED CAPITAL F,SCRIPT CAPITAL M,SCRIPT SMALL O",
    "ALEF SYMBOL,BET SYMBOL,GIMEL SYMBOL,DALET SYMBOL,INFORMATION SOURCE,ROTATED CAPITAL Q",
    "FACSIMILE SIGN,DOUBLE-STRUCK SMALL PI,DOUBLE-STRUCK SMALL GAMMA",
    "DOUBLE-STRUCK CAPITAL GAMMA,DOUBLE-STRUCK CAPITAL PI,DOUBLE-STRUCK N-ARY SUMMATION",
    "TURNED SANS-SERIF CAPITAL G,TURNED SANS-SERIF CAPITAL L,REVERSED SANS-SERIF CAPITAL L",
    "TURNED SANS-SERIF CAPITAL Y"]⟩,
  ⟨0x2145, "DOUBLE-STRUCK ITALIC", ["CAPITAL D,SMALL D,SMALL E,SMALL I,SMALL J"]⟩,
  ⟨0x214A, "", [
    "PROPERTY LINE,TURNED AMPERSAND,PER SIGN,AKTIESELSKAB,TURNED SMALL F",
    "SYMBOL FOR SAMARITAN SOURCE"]⟩,
  ⟨0x2150, "VULGAR FRACTION", [
    "ONE SEVENTH,ONE NINTH,ONE TENTH,ONE THIRD,TWO THIRDS,ONE FIFTH,TWO FIFTHS,THREE FIFTHS",
    "FOUR FIFTHS,ONE SIXTH,FIVE SIXTHS,ONE EIGHTH,THREE EIGHTHS,FIVE EIGHTHS,SEVEN EIGHTHS"]⟩,
  ⟨0x215F, "FRACTION NUMERATOR", ["ONE"]⟩,
  ⟨0x2160, "ROMAN NUMERAL", [
    "ONE,TWO,THREE,FOUR,FIVE,SIX,SEVEN,EIGHT,NINE,TEN,ELEVEN,TWELVE,FIFTY,ONE HUNDRED",
    "FIVE HUNDRED,ONE THOUSAND"]⟩,
  ⟨0x2170, "SMALL ROMAN NUMERAL", [
    "ONE,TWO,THREE,FOUR,FIVE,SIX,SEVEN,EIGHT,NINE,TEN,ELEVEN,TWELVE,FIFTY,ONE HUNDRED",
    "FIVE HUNDRED,ONE THOUSAND"]⟩,
  ⟨0x2180, "ROMAN NUMERAL", ["ONE THOUSAND C D,FIVE THOUSAND,TEN THOUSAND,REVERSED ONE HUNDRED"]⟩,
  ⟨0x2184, "", [
    "LATIN SMALL LETTER REVERSED C,ROMAN NUMERAL SIX LATE FORM,ROMAN NUMERAL FIFTY EARLY FORM",
    "ROMAN NUMERAL FIFTY THOUSAND,ROMAN NUMERAL ONE HUNDRED THOUSAND",
    "VULGAR FRACTION ZERO THIRDS,TURNED DIGIT TWO,TURNED DIGIT THREE,,,,,LEFTWARDS ARROW",
    "UPWARDS ARROW,RIGHTWARDS ARROW,DOWNWARDS ARROW,LEFT RIGHT ARROW,UP DOWN ARROW",
    "NORTH WEST ARROW,NORTH EAST ARROW,SOUTH EAST ARROW,SOUTH WEST ARROW",
    "LEFTWARDS ARROW WITH STROKE,RIGHTWARDS ARROW WITH STROKE,LEFTWARDS WAVE ARROW",
    "RIGHTWARDS WAVE ARROW,LEFTWARDS TWO HEADED ARROW,UPWARDS TWO HEADED ARROW",
    "RIGHTWARDS TWO HEADED ARROW,DOWNWARDS TWO HEADED ARROW,LEFTWARDS ARROW WITH TAIL",
    "RIGHTWARDS ARROW WITH TAIL,LEFTWARDS ARROW FROM BAR,UPWARDS ARROW FROM BAR",
    "RIGHTWARDS ARROW FROM BAR,DOWNWARDS ARROW FROM BAR,UP DOWN ARROW WITH BASE",
    "LEFTWARDS ARROW WITH HOOK,RIGHTWARDS ARROW WITH HOOK,LEFTWARDS ARROW WITH LOOP",
    "RIGHTWARDS ARROW WITH LOOP,LEFT RIGHT WAVE ARROW,LEFT RIGHT ARROW WITH STROKE",
    "DOWNWARDS ZIGZAG ARROW,UPWARDS ARROW WITH TIP LEFTWARDS",
    "UPWARDS ARROW WITH TIP RIGHTWARDS,DOWNWARDS ARROW WITH TIP LEFTWARDS",
    "DOWNWARDS ARROW WITH TIP RIGHTWARDS,RIGHTWARDS ARROW WITH CORNER DOWNWARDS",
    "DOWNWARDS ARROW WITH CORNER LEFTWARDS,ANTICLOCKWISE TOP SEMICIRCLE ARROW",
    "CLOCKWISE TOP SEMICIRCLE ARROW,NORTH WEST ARROW TO LONG BAR",
    "LEFTWARDS ARROW TO BAR OVER RIGHTWARDS ARROW TO BAR,ANTICLOCKWISE OPEN CIRCLE ARROW",
    "CLOCKWISE OPEN CIRCLE ARROW,LEFTWARDS HARPOON WITH BARB UPWARDS",
    "LEFTWARDS HARPOON WITH BARB DOWNWARDS,UPWARDS HARPOON WITH BARB RIGHTWARDS",
    "UPWARDS HARPOON WITH BARB LEFTWARDS,RIGHTWARDS HARPOON WITH BARB UPWARDS",
    "RIGHTWARDS HARPOON WITH BARB DOWNWARDS,DOWNWARDS HARPOON WITH BARB RIGHTWARDS",
    "DOWNWARDS HARPOON WITH BARB LEFTWARDS,RIGHTWARDS ARROW OVER LEFTWARDS ARROW",
    "UPWARDS ARROW LEFTWARDS OF DOWNWARDS ARROW,LEFTWARDS ARROW OVER RIGHTWARDS ARROW",
    "LEFTWARDS PAIRED ARROWS,UPWARDS PAIRED ARROWS,RIGHTWARDS PAIRED ARROWS",
    "DOWNWARDS PAIRED ARROWS,LEFTWARDS HARPOON OVER RIGHTWARDS HARPOON",
    "RIGHTWARDS HARPOON OVER LEFTWARDS HARPOON,LEFTWARDS DOUBLE ARROW WITH STROKE",
    "LEFT RIGHT DOUBLE ARROW WITH STROKE,RIGHTWARDS DOUBLE ARROW WITH STROKE",
    "LEFTWARDS DOUBLE ARROW,UPWARDS DOUBLE ARROW,RIGHTWARDS DOUBLE ARROW",
    "DOWNWARDS DOUBLE ARROW,LEFT RIGHT DOUBLE ARROW,UP DOWN DOUBLE ARROW",
    "NORTH WEST DOUBLE ARROW,NORTH EAST DOUBLE ARROW,SOUTH EAST DOUBLE ARROW",
    "SOUTH WEST DOUBLE ARROW,LEFTWARDS TRIPLE ARROW,RIGHTWARDS TRIPLE ARROW",
    "LEFTWARDS SQUIGGLE ARROW,RIGHTWARDS SQUIGGLE ARROW,UPWARDS ARROW WITH DOUBLE STROKE",
    "DOWNWARDS ARROW WITH DOUBLE STROKE,LEFTWARDS DASHED ARROW,UPWARDS DASHED ARROW",
    "RIGHTWARDS DASHED ARROW,DOWNWARDS DASHED ARROW,LEFTWARDS ARROW TO BAR",
    "RIGHTWARDS ARROW TO BAR,LEFTWARDS WHITE ARROW,UPWARDS WHITE ARROW,RIGHTWARDS WHITE ARROW",
    "DOWNWARDS WHITE ARROW,UPWARDS WHITE ARROW FROM BAR,UPWARDS WHITE ARROW ON PEDESTAL",
    "UPWARDS WHITE ARROW ON PEDESTAL WITH HORIZONTAL BAR",
    "UPWARDS WHITE ARROW ON PEDESTAL WITH VERTICAL BAR,UPWARDS WHITE DOUBLE ARROW",
    "UPWARDS WHITE DOUBLE ARROW ON PEDESTAL,RIGHTWARDS WHITE ARROW FROM WALL",
    "NORTH WEST ARROW TO CORNER,SOUTH EAST ARROW TO CORNER,UP DOWN WHITE ARROW",
    "RIGHT ARROW WITH SMALL CIRCLE,DOWNWARDS ARROW LEFTWARDS OF UPWARDS ARROW",
    "THREE RIGHTWARDS ARROWS,LEFTWARDS ARROW WITH VERTICAL STROKE",
    "RIGHTWARDS ARROW WITH VERTICAL STROKE,LEFT RIGHT ARROW WITH VERTICAL STROKE",
    "LEFTWARDS ARROW WITH DOUBLE VERTICAL STROKE,RIGHTWARDS ARROW WITH DOUBLE VERTICAL STROKE",
    "LEFT RIGHT ARROW WITH DOUBLE VERTICAL STROKE,LEFTWARDS OPEN-HEADED ARROW",
    "RIGHTWARDS OPEN-HEADED ARROW,LEFT RIGHT OPEN-HEADED ARROW,FOR ALL,COMPLEMENT",
    "PARTIAL DIFFERENTIAL,THERE EXISTS,THERE DOES NOT EXIST,EMPTY SET,INCREMENT,NABLA",
    "ELEMENT OF,NOT AN ELEMENT OF,SMALL ELEMENT OF,CONTAINS AS MEMBER",
    "DOES NOT CONTAIN AS MEMBER,SMALL CONTAINS AS MEMBER,END OF PROOF,N-ARY PRODUCT",
    "N-ARY COPRODUCT,N-ARY SUMMATION,MINUS SIGN,MINUS-OR-PLUS SIGN,DOT PLUS,DIVISION SLASH",
    "SET MINUS,ASTERISK OPERATOR,RING OPERATOR,BULLET OPERATOR,SQUARE ROOT,CUBE ROOT",
    "FOURTH ROOT,PROPORTIONAL TO,INFINITY,RIGHT ANGLE,ANGLE,MEASURED ANGLE,SPHERICAL ANGLE",
    "DIVIDES,DOES NOT DIVIDE,PARALLEL TO,NOT PARALLEL TO,LOGICAL AND,LOGICAL OR,INTERSECTION",
    "UNION,INTEGRAL,DOUBLE INTEGRAL,TRIPLE INTEGRAL,CONTOUR INTEGRAL,SURFACE INTEGRAL",
    "VOLUME INTEGRAL,CLOCKWISE INTEGRAL,CLOCKWISE CONTOUR INTEGRAL",
    "ANTICLOCKWISE CONTOUR INTEGRAL,THEREFORE,BECAUSE,RATIO,PROPORTION,DOT MINUS,EXCESS",
    "GEOMETRIC PROPORTION,HOMOTHETIC,TILDE OPERATOR,REVERSED TILDE,INVERTED LAZY S,SINE WAVE",
    "WREATH PRODUCT,NOT TILDE,MINUS TILDE,ASYMPTOTICALLY EQUAL TO,NOT ASYMPTOTICALLY EQUAL TO",
    "APPROXIMATELY EQUAL TO,APPROXIMATELY BUT NOT ACTUALLY EQUAL TO",
    "NEITHER APPROXIMATELY NOR ACTUALLY EQUAL TO,ALMOST EQUAL TO,NOT ALMOST EQUAL TO",
    "ALMOST EQUAL OR EQUAL TO,TRIPLE TILDE,ALL EQUAL TO,EQUIVALENT TO",
    "GEOMETRICALLY EQUIVALENT TO,DIFFERENCE BETWEEN,APPROACHES THE LIMIT",
    "GEOMETRICALLY EQUAL TO,APPROXIMATELY EQUAL TO OR THE IMAGE OF",
    "IMAGE OF OR APPROXIMATELY EQUAL TO,COLON EQUALS,EQUALS COLON,RING IN EQUAL TO",
    "RING EQUAL TO,CORRESPONDS TO,ESTIMATES,EQUIANGULAR TO,STAR EQUALS,DELTA EQUAL TO",
    "EQUAL TO BY DEFINITION,MEASURED BY,QUESTIONED EQUAL TO,NOT EQUAL TO,IDENTICAL TO",
    "NOT IDENTICAL TO,STRICTLY EQUIVALENT TO,LESS-THAN OR EQUAL TO,GREATER-THAN OR EQUAL TO",
    "LESS-THAN OVER EQUAL TO,GREATER-THAN OVER EQUAL TO,LESS-THAN BUT NOT EQUAL TO",
    "GREATER-THAN BUT NOT EQUAL TO,MUCH LESS-THAN,MUCH GREATER-THAN,BETWEEN,NOT EQUIVALENT TO",
    "NOT LESS-THAN,NOT GREATER-THAN,NEITHER LESS-THAN NOR EQUAL TO",
    "NEITHER GREATER-THAN NOR EQUAL TO,LESS-THAN OR EQUIVALENT TO",
    "GREATER-THAN OR EQUIVALENT TO,NEITHER LESS-THAN NOR EQUIVALENT TO",
    "NEITHER GREATER-THAN NOR EQUIVALENT TO,LESS-THAN OR GREATER-THAN",
    "GREATER-THAN OR LESS-THAN,NEITHER LESS-THAN NOR GREATER-THAN",
    "NEITHER GREATER-THAN NOR LESS-THAN,PRECEDES,SUCCEEDS,PRECEDES OR EQUAL TO",
    "SUCCEEDS OR EQUAL TO,PRECEDES OR EQUIVALENT TO,SUCCEEDS OR EQUIVALENT TO",
    "DOES NOT PRECEDE,DOES NOT SUCCEED,SUBSET OF,SUPERSET OF,NOT A SUBSET OF",
    "NOT A SUPERSET OF,SUBSET OF OR EQUAL TO,SUPERSET OF OR EQUAL TO",
    "NEITHER A SUBSET OF NOR EQUAL TO,NEITHER A SUPERSET OF NOR EQUAL TO",
    "SUBSET OF WITH NOT EQUAL TO,SUPERSET OF WITH NOT EQUAL TO,MULTISET",
    "MULTISET MULTIPLICATION,MULTISET UNION,SQUARE IMAGE OF,,SQUARE IMAGE OF OR EQUAL TO,",
    "SQUARE CAP,SQUARE CUP,CIRCLED PLUS,CIRCLED MINUS,CIRCLED TIMES,CIRCLED DIVISION SLASH",
    "CIRCLED DOT OPERATOR,CIRCLED RING OPERATOR,CIRCLED ASTERISK OPERATOR,CIRCLED EQUALS",
    "CIRCLED DASH,SQUARED PLUS,SQUARED MINUS,SQUARED TIMES,SQUARED DOT OPERATOR,RIGHT TACK",
    "LEFT TACK,DOWN TACK,UP TACK,ASSERTION,MODELS,TRUE,FORCES",
    "TRIPLE VERTICAL BAR RIGHT TURNSTILE,DOUBLE VERTICAL BAR DOUBLE RIGHT TURNSTILE",
    "DOES NOT PROVE,NOT TRUE,DOES NOT FORCE",
    "NEGATED DOUBLE VERTICAL BAR DOUBLE RIGHT TURNSTILE,PRECEDES UNDER RELATION",
    "SUCCEEDS UNDER RELATION,NORMAL SUBGROUP OF,CONTAINS AS NORMAL SUBGROUP",
    "NORMAL SUBGROUP OF OR EQUAL TO,CONTAINS AS NORMAL SUBGROUP OR EQUAL TO,,IMAGE OF",
    "MULTIMAP,HERMITIAN CONJUGATE MATRIX,INTERCALATE,XOR,NAND,NOR,RIGHT ANGLE WITH ARC",
    "RIGHT TRIANGLE,N-ARY LOGICAL AND,N-ARY LOGICAL OR,N-ARY INTERSECTION,N-ARY UNION",
    "DIAMOND OPERATOR,DOT OPERATOR,STAR OPERATOR,DIVISION TIMES,BOWTIE",
    "LEFT NORMAL FACTOR SEMIDIRECT PRODUCT,RIGHT NORMAL FACTOR SEMIDIRECT PRODUCT",
    "LEFT SEMIDIRECT PRODUCT,RIGHT SEMIDIRECT PRODUCT,REVERSED TILDE EQUALS,CURLY LOGICAL OR",
    "CURLY LOGICAL AND,DOUBLE SUBSET,DOUBLE SUPERSET,DOUBLE INTERSECTION,DOUBLE UNION",
    "PITCHFORK,EQUAL AND PARALLEL TO,LESS-THAN WITH DOT,GREATER-THAN WITH DOT",
    "VERY MUCH LESS-THAN,VERY MUCH GREATER-THAN,LESS-THAN EQUAL TO OR GREATER-THAN",
    "GREATER-THAN EQUAL TO OR LESS-THAN,EQUAL TO OR LESS-THAN,EQUAL TO OR GREATER-THAN",
    "EQUAL TO OR PRECEDES,EQUAL TO OR SUCCEEDS,DOES NOT PRECEDE OR EQUAL",
    "DOES NOT SUCCEED OR EQUAL,NOT SQUARE IMAGE OF OR EQUAL TO,",
    "SQUARE IMAGE OF OR NOT EQUAL TO,,LESS-THAN BUT NOT EQUIVALENT TO",
    "GREATER-THAN BUT NOT EQUIVALENT TO,PRECEDES BUT NOT EQUIVALENT TO",
    "SUCCEEDS BUT NOT EQUIVALENT TO,NOT NORMAL SUBGROUP OF",
    "DOES NOT CONTAIN AS NORMAL SUBGROUP,NOT NORMAL SUBGROUP OF OR EQUAL TO",
    "DOES NOT CONTAIN AS NORMAL SUBGROUP OR EQUAL,VERTICAL ELLIPSIS",
    "MIDLINE HORIZONTAL ELLIPSIS,UP RIGHT DIAGONAL ELLIPSIS,DOWN RIGHT DIAGONAL ELLIPSIS",
    "ELEMENT OF WITH LONG HORIZONTAL STROKE",
    "ELEMENT OF WITH VERTICAL BAR AT END OF HORIZONTAL STROKE",
    "SMALL ELEMENT OF WITH VERTICAL BAR AT END OF HORIZONTAL STROKE,ELEMENT OF WITH DOT ABOVE",
    "ELEMENT OF WITH OVERBAR,SMALL ELEMENT OF WITH OVERBAR,ELEMENT OF WITH UNDERBAR",
    "ELEMENT OF WITH TWO HORIZONTAL STROKES,CONTAINS WITH LONG HORIZONTAL STROKE",
    "CONTAINS WITH VERTICAL BAR AT END OF HORIZONTAL STROKE",
    "SMALL CONTAINS WITH VERTICAL BAR AT END OF HORIZONTAL STROKE,CONTAINS WITH OVERBAR",
    "SMALL CONTAINS WITH OVERBAR,Z NOTATION BAG MEMBERSHIP,DIAMETER SIGN,ELECTRIC ARROW,HOUSE",
    "UP ARROWHEAD,DOWN ARROWHEAD,PROJECTIVE,PERSPECTIVE,WAVY LINE,LEFT CEILING,RIGHT CEILING",
    "LEFT FLOOR,RIGHT FLOOR,BOTTOM RIGHT CROP,BOTTOM LEFT CROP,TOP RIGHT CROP,TOP LEFT CROP",
    "REVERSED NOT SIGN,SQUARE LOZENGE,ARC,SEGMENT,SECTOR,TELEPHONE RECORDER",
    "POSITION INDICATOR,VIEWDATA SQUARE,PLACE OF INTEREST SIGN,TURNED NOT SIGN,WATCH",
    "HOURGLASS,TOP LEFT CORNER,TOP RIGHT CORNER,BOTTOM LEFT CORNER,BOTTOM RIGHT CORNER",
    "TOP HALF INTEGRAL,BOTTOM HALF INTEGRAL,FROWN,SMILE",
    "UP ARROWHEAD BETWEEN TWO HORIZONTAL BARS,OPTION KEY,ERASE TO THE RIGHT",
    "X IN A RECTANGLE BOX,KEYBOARD,LEFT-POINTING ANGLE BRACKET,RIGHT-POINTING ANGLE BRACKET",
    "ERASE TO THE LEFT,BENZENE RING,CYLINDRICITY,ALL AROUND-PROFILE,SYMMETRY,TOTAL RUNOUT",
    "DIMENSION ORIGIN,CONICAL TAPER,SLOPE,COUNTERBORE,COUNTERSINK"]⟩,
  ⟨0x2336, "APL FUNCTIONAL SYMBOL", [
    "I-BEAM,SQUISH QUAD,QUAD EQUAL,QUAD DIVIDE,QUAD DIAMOND,QUAD JOT,QUAD CIRCLE,CIRCLE STILE",
    "CIRCLE JOT,SLASH BAR,BACKSLASH BAR,QUAD SLASH,QUAD BACKSLASH,QUAD LESS-THAN",
    "QUAD GREATER-THAN,LEFTWARDS VANE,RIGHTWARDS VANE,QUAD LEFTWARDS ARROW",
    "QUAD RIGHTWARDS ARROW,CIRCLE BACKSLASH,DOWN TACK UNDERBAR,DELTA STILE,QUAD DOWN CARET",
    "QUAD DELTA,DOWN TACK JOT,UPWARDS VANE,QUAD UPWARDS ARROW,UP TACK OVERBAR,DEL STILE",
    "QUAD UP CARET,QUAD DEL,UP TACK JOT,DOWNWARDS VANE,QUAD DOWNWARDS ARROW,QUOTE UNDERBAR",
    "DELTA UNDERBAR,DIAMOND UNDERBAR,JOT UNDERBAR,CIRCLE UNDERBAR,UP SHOE JOT,QUOTE QUAD",
    "CIRCLE STAR,QUAD COLON,UP TACK DIAERESIS,DEL DIAERESIS,STAR DIAERESIS,JOT DIAERESIS",
    "CIRCLE DIAERESIS,DOWN SHOE STILE,LEFT SHOE STILE,TILDE DIAERESIS,GREATER-THAN DIAERESIS",
    "COMMA BAR,DEL TILDE,ZILDE,STILE TILDE,SEMICOLON UNDERBAR,QUAD NOT EQUAL,QUAD QUESTION",
    "DOWN CARET TILDE,UP CARET TILDE,IOTA,RHO,OMEGA,ALPHA UNDERBAR,EPSILON UNDERBAR",
    "IOTA UNDERBAR,OMEGA UNDERBAR,ALPHA"]⟩,
  ⟨0x237B, "", [
    "NOT CHECK MARK,RIGHT ANGLE WITH DOWNWARDS ZIGZAG ARROW,SHOULDERED OPEN BOX,BELL SYMBOL",
    "VERTICAL LINE WITH MIDDLE DOT,INSERTION SYMBOL,CONTINUOUS UNDERLINE SYMBOL",
    "DISCONTINUOUS UNDERLINE SYMBOL,EMPHASIS SYMBOL,COMPOSITION SYMBOL",
    "WHITE SQUARE WITH CENTRE VERTICAL LINE,ENTER SYMBOL,ALTERNATIVE KEY SYMBOL,HELM SYMBOL",
    "CIRCLED HORIZONTAL BAR WITH NOTCH,CIRCLED TRIANGLE DOWN",
    "BROKEN CIRCLE WITH NORTHWEST ARROW,UNDO SYMBOL,MONOSTABLE SYMBOL,HYSTERESIS SYMBOL",
    "OPEN-CIRCUIT-OUTPUT H-TYPE SYMBOL,OPEN-CIRCUIT-OUTPUT L-TYPE SYMBOL",
    "PASSIVE-PULL-DOWN-OUTPUT SYMBOL,PASSIVE-PULL-UP-OUTPUT SYMBOL",
    "DIRECT CURRENT SYMBOL FORM TWO,SOFTWARE-FUNCTION SYMBOL,APL FUNCTIONAL SYMBOL QUAD",
    "DECIMAL SEPARATOR KEY SYMBOL,PREVIOUS PAGE,NEXT PAGE,PRINT SCREEN SYMBOL",
    "CLEAR SCREEN SYMBOL,LEFT PARENTHESIS UPPER HOOK,LEFT PARENTHESIS EXTENSION",
    "LEFT PARENTHESIS LOWER HOOK,RIGHT PARENTHESIS UPPER HOOK,RIGHT PARENTHESIS EXTENSION",
    "RIGHT PARENTHESIS LOWER HOOK,LEFT SQUARE BRACKET UPPER CORNER",
    "LEFT SQUARE BRACKET EXTENSION,LEFT SQUARE BRACKET LOWER CORNER",
    "RIGHT SQUARE BRACKET UPPER CORNER,RIGHT SQUARE BRACKET EXTENSION",
    "RIGHT SQUARE BRACKET LOWER CORNER,LEFT CURLY BRACKET UPPER HOOK",
    "LEFT CURLY BRACKET MIDDLE PIECE,LEFT CURLY BRACKET LOWER HOOK,CURLY BRACKET EXTENSION",
    "RIGHT CURLY BRACKET UPPER HOOK,RIGHT CURLY BRACKET MIDDLE PIECE",
    "RIGHT CURLY BRACKET LOWER HOOK,INTEGRAL EXTENSION,HORIZONTAL LINE EXTENSION",
    "UPPER LEFT OR LOWER RIGHT CURLY BRACKET SECTION",
    "UPPER RIGHT OR LOWER LEFT CURLY BRACKET SECTION,SUMMATION TOP,SUMMATION BOTTOM",
    "TOP SQUARE BRACKET,BOTTOM SQUARE BRACKET,BOTTOM SQUARE BRACKET OVER TOP SQUARE BRACKET",
    "RADICAL SYMBOL BOTTOM,LEFT VERTICAL BOX LINE,RIGHT VERTICAL BOX LINE"]⟩,
  ⟨0x23BA, "HORIZONTAL SCAN", ["LINE-1,LINE-3,LINE-7,LINE-9"]⟩,
  ⟨0x23BE, "DENTISTRY SYMBOL LIGHT", [
    "VERTICAL AND TOP RIGHT,VERTICAL AND BOTTOM RIGHT,VERTICAL WITH CIRCLE",
    "DOWN AND HORIZONTAL WITH CIRCLE,UP AND HORIZONTAL WITH CIRCLE,VERTICAL WITH TRIANGLE",
    "DOWN AND HORIZONTAL WITH TRIANGLE,UP AND HORIZONTAL WITH TRIANGLE,VERTICAL AND WAVE",
    "DOWN AND HORIZONTAL WITH WAVE,UP AND HORIZONTAL WITH WAVE,DOWN AND HORIZONTAL",
    "UP AND HORIZONTAL,VERTICAL AND TOP LEFT,VERTICAL AND BOTTOM LEFT"]⟩,
  ⟨0x23CD, "", [
    "SQUARE FOOT,RETURN SYMBOL,EJECT SYMBOL,VERTICAL LINE EXTENSION,METRICAL BREVE",
    "METRICAL LONG OVER SHORT,METRICAL SHORT OVER LONG,METRICAL LONG OVER TWO SHORTS",
    "METRICAL TWO SHORTS OVER LONG,METRICAL TWO SHORTS JOINED,METRICAL TRISEME",
    "METRICAL TETRASEME,METRICAL PENTASEME,EARTH GROUND,FUSE,TOP PARENTHESIS",
    "BOTTOM PARENTHESIS,TOP CURLY BRACKET,BOTTOM CURLY BRACKET,TOP TORTOISE SHELL BRACKET",
    "BOTTOM TORTOISE SHELL BRACKET,WHITE TRAPEZIUM,BENZENE RING WITH CIRCLE,STRAIGHTNESS",
    "FLATNESS,AC CURRENT,ELECTRICAL INTERSECTION,DECIMAL EXPONENT SYMBOL",
    "BLACK RIGHT-POINTING DOUBLE TRIANGLE,BLACK LEFT-POINTING DOUBLE TRIANGLE",
    "BLACK UP-POINTING DOUBLE TRIANGLE,BLACK DOWN-POINTING DOUBLE TRIANGLE",
    "BLACK RIGHT-POINTING DOUBLE TRIANGLE WITH VERTICAL BAR",
    "BLACK LEFT-POINTING DOUBLE TRIANGLE WITH VERTICAL BAR",
    "BLACK RIGHT-POINTING TRIANGLE WITH DOUBLE VERTICAL BAR,ALARM CLOCK,STOPWATCH,TIMER CLOCK",
    "HOURGLASS WITH FLOWING SAND,BLACK MEDIUM LEFT-POINTING TRIANGLE",
    "BLACK MEDIUM RIGHT-POINTING TRIANGLE,BLACK MEDIUM UP-POINTING TRIANGLE",
    "BLACK MEDIUM DOWN-POINTING TRIANGLE,DOUBLE VERTICAL BAR,BLACK SQUARE FOR STOP",
    "BLACK CIRCLE FOR RECORD,POWER SYMBOL,POWER ON-OFF SYMBOL,POWER ON SYMBOL",
    "POWER SLEEP SYMBOL,OBSERVER EYE SYMBOL"]⟩,
  ⟨0x2400, "SYMBOL FOR", [
    "NULL,START OF HEADING,START OF TEXT,END OF TEXT,END OF TRANSMISSION,ENQUIRY,ACKNOWLEDGE",
    "BELL,BACKSPACE,HORIZONTAL TABULATION,LINE FEED,VERTICAL TABULATION,FORM FEED",
    "CARRIAGE RETURN,SHIFT OUT,SHIFT IN,DATA LINK ESCAPE,DEVICE CONTROL ONE",
    "DEVICE CONTROL TWO,DEVICE CONTROL THREE,DEVICE CONTROL FOUR,NEGATIVE ACKNOWLEDGE",
    "SYNCHRONOUS IDLE,END OF TRANSMISSION BLOCK,CANCEL,END OF MEDIUM,SUBSTITUTE,ESCAPE",
    "FILE SEPARATOR,GROUP SEPARATOR,RECORD SEPARATOR,UNIT SEPARATOR,SPACE,DELETE"]⟩,
  ⟨0x2422, "", [
    "BLANK SYMBOL,OPEN BOX,SYMBOL FOR NEWLINE,SYMBOL FOR DELETE FORM TWO",
    "SYMBOL FOR SUBSTITUTE FORM TWO"]⟩,
  ⟨0x2440, "OCR", [
    "HOOK,CHAIR,FORK,INVERTED FORK,BELT BUCKLE,BOW TIE,BRANCH BANK IDENTIFICATION",
    "AMOUNT OF CHECK,DASH,CUSTOMER ACCOUNT NUMBER,DOUBLE BACKSLASH"]⟩,
  ⟨0x2460, "CIRCLED DIGIT", ["ONE,TWO,THREE,FOUR,FIVE,SIX,SEVEN,EIGHT,NINE"]⟩,
  ⟨0x2469, "CIRCLED NUMBER", [
    "TEN,ELEVEN,TWELVE,THIRTEEN,FOURTEEN,FIFTEEN,SIXTEEN,SEVENTEEN,EIGHTEEN,NINETEEN,TWENTY"]⟩,
  ⟨0x2474, "PARENTHESIZED DIGIT", ["ONE,TWO,THREE,FOUR,FIVE,SIX,SEVEN,EIGHT,NINE"]⟩,
  ⟨0x247D, "PARENTHESIZED NUMBER", [
    "TEN,ELEVEN,TWELVE,THIRTEEN,FOURTEEN,FIFTEEN,SIXTEEN,SEVENTEEN,EIGHTEEN,NINETEEN,TWENTY"]⟩,
  ⟨0x2488, "DIGIT", [
    "ONE FULL STOP,TWO FULL STOP,THREE FULL STOP,FOUR FULL STOP,FIVE FULL STOP,SIX FULL STOP",
    "SEVEN FULL STOP,EIGHT FULL STOP,NINE FULL STOP"]⟩,
  ⟨0x2491, "NUMBER", [
    "TEN FULL STOP,ELEVEN FULL STOP,TWELVE FULL STOP,THIRTEEN FULL STOP,FOURTEEN FULL STOP",
    "FIFTEEN FULL STOP,SIXTEEN FULL STOP,SEVENTEEN FULL STOP,EIGHTEEN FULL STOP",
    "NINETEEN FULL STOP,TWENTY FULL STOP"]⟩,
  ⟨0x249C, "PARENTHESIZED LATIN SMALL LETTER", [
    "A,B,C,D,E,F,G,H,I,J,K,L,M,N,O,P,Q,R,S,T,U,V,W,X,Y,Z"]⟩,
  ⟨0x24B6, "CIRCLED LATIN CAPITAL LETTER", [
    "A,B,C,D,E,F,G,H,I,J,K,L,M,N,O,P,Q,R,S,T,U,V,W,X,Y,Z"]⟩,
  ⟨0x24D0, "CIRCLED LATIN SMALL LETTER", ["A,B,C,D,E,F,G,H,I,J,K,L,M,N,O,P,Q,R,S,T,U,V,W,X,Y,Z"]⟩,
  ⟨0x24EA, "CIRCLED DIGIT", ["ZERO"]⟩,
  ⟨0x24EB, "NEGATIVE CIRCLED NUMBER", [
    "ELEVEN,TWELVE,THIRTEEN,FOURTEEN,FIFTEEN,SIXTEEN,SEVENTEEN,EIGHTEEN,NINETEEN,TWENTY"]⟩,
  ⟨0x24F5, "DOUBLE CIRCLED DIGIT", ["ONE,TWO,THREE,FOUR,FIVE,SIX,SEVEN,EIGHT,NINE"]⟩,
  ⟨0x24FE, "", ["DOUBLE CIRCLED NUMBER TEN,NEGATIVE CIRCLED DIGIT ZERO"]⟩,
  ⟨0x2500, "BOX DRAWINGS", [
    "LIGHT HORIZONTAL,HEAVY HORIZONTAL,LIGHT VERTICAL,HEAVY VERTICAL",
    "LIGHT TRIPLE DASH HORIZONTAL,HEAVY TRIPLE DASH HORIZONTAL,LIGHT TRIPLE DASH VERTICAL",
    "HEAVY TRIPLE DASH VERTICAL,LIGHT QUADRUPLE DASH HORIZONTAL",
    "HEAVY QUADRUPLE DASH HORIZONTAL,LIGHT QUADRUPLE DASH VERTICAL",
    "HEAVY QUADRUPLE DASH VERTICAL,LIGHT DOWN AND RIGHT,DOWN LIGHT AND RIGHT HEAVY",
    "DOWN HEAVY AND RIGHT LIGHT,HEAVY DOWN AND RIGHT,LIGHT DOWN AND LEFT",
    "DOWN LIGHT AND LEFT HEAVY,DOWN HEAVY AND LEFT LIGHT,HEAVY DOWN AND LEFT",
    "LIGHT UP AND RIGHT,UP LIGHT AND RIGHT HEAVY,UP HEAVY AND RIGHT LIGHT,HEAVY UP AND RIGHT",
    "LIGHT UP AND LEFT,UP LIGHT AND LEFT HEAVY,UP HEAVY AND LEFT LIGHT,HEAVY UP AND LEFT",
    "LIGHT VERTICAL AND RIGHT,VERTICAL LIGHT AND RIGHT HEAVY,UP HEAVY AND RIGHT DOWN LIGHT",
    "DOWN HEAVY AND RIGHT UP LIGHT,VERTICAL HEAVY AND RIGHT LIGHT",
    "DOWN LIGHT AND RIGHT UP HEAVY,UP LIGHT AND RIGHT DOWN HEAVY,HEAVY VERTICAL AND RIGHT",
    "LIGHT VERTICAL AND LEFT,VERTICAL LIGHT AND LEFT HEAVY,UP HEAVY AND LEFT DOWN LIGHT",
    "DOWN HEAVY AND LEFT UP LIGHT,VERTICAL HEAVY AND LEFT LIGHT,DOWN LIGHT AND LEFT UP HEAVY",
    "UP LIGHT AND LEFT DOWN HEAVY,HEAVY VERTICAL AND LEFT,LIGHT DOWN AND HORIZONTAL",
    "LEFT HEAVY AND RIGHT DOWN LIGHT,RIGHT HEAVY AND LEFT DOWN LIGHT",
    "DOWN LIGHT AND HORIZONTAL HEAVY,DOWN HEAVY AND HORIZONTAL LIGHT",
    "RIGHT LIGHT AND LEFT DOWN HEAVY,LEFT LIGHT AND RIGHT DOWN HEAVY",
    "HEAVY DOWN AND HORIZONTAL,LIGHT UP AND HORIZONTAL,LEFT HEAVY AND RIGHT UP LIGHT",
    "RIGHT HEAVY AND LEFT UP LIGHT,UP LIGHT AND HORIZONTAL HEAVY",
    "UP HEAVY AND HORIZONTAL LIGHT,RIGHT LIGHT AND LEFT UP HEAVY",
    "LEFT LIGHT AND RIGHT UP HEAVY,HEAVY UP AND HORIZONTAL,LIGHT VERTICAL AND HORIZONTAL",
    "LEFT HEAVY AND RIGHT VERTICAL LIGHT,RIGHT HEAVY AND LEFT VERTICAL LIGHT",
    "VERTICAL LIGHT AND HORIZONTAL HEAVY,UP HEAVY AND DOWN HORIZONTAL LIGHT",
    "DOWN HEAVY AND UP HORIZONTAL LIGHT,VERTICAL HEAVY AND HORIZONTAL LIGHT",
    "LEFT UP HEAVY AND RIGHT DOWN LIGHT,RIGHT UP HEAVY AND LEFT DOWN LIGHT",
    "LEFT DOWN HEAVY AND RIGHT UP LIGHT,RIGHT DOWN HEAVY AND LEFT UP LIGHT",
    "DOWN LIGHT AND UP HORIZONTAL HEAVY,UP LIGHT AND DOWN HORIZONTAL HEAVY",
    "RIGHT LIGHT AND LEFT VERTICAL HEAVY,LEFT LIGHT AND RIGHT VERTICAL HEAVY",
    "HEAVY VERTICAL AND HORIZONTAL,LIGHT DOUBLE DASH HORIZONTAL,HEAVY DOUBLE DASH HORIZONTAL",
    "LIGHT DOUBLE DASH VERTICAL,HEAVY DOUBLE DASH VERTICAL,DOUBLE HORIZONTAL,DOUBLE VERTICAL",
    "DOWN SINGLE AND RIGHT DOUBLE,DOWN DOUBLE AND RIGHT SINGLE,DOUBLE DOWN AND RIGHT",
    "DOWN SINGLE AND LEFT DOUBLE,DOWN DOUBLE AND LEFT SINGLE,DOUBLE DOWN AND LEFT",
    "UP SINGLE AND RIGHT DOUBLE,UP DOUBLE AND RIGHT SINGLE,DOUBLE UP AND RIGHT",
    "UP SINGLE AND LEFT DOUBLE,UP DOUBLE AND LEFT SINGLE,DOUBLE UP AND LEFT",
    "VERTICAL SINGLE AND RIGHT DOUBLE,VERTICAL DOUBLE AND RIGHT SINGLE",
    "DOUBLE VERTICAL AND RIGHT,VERTICAL SINGLE AND LEFT DOUBLE",
    "VERTICAL DOUBLE AND LEFT SINGLE,DOUBLE VERTICAL AND LEFT",
    "DOWN SINGLE AND HORIZONTAL DOUBLE,DOWN DOUBLE AND HORIZONTAL SINGLE",
    "DOUBLE DOWN AND HORIZONTAL,UP SINGLE AND HORIZONTAL DOUBLE",
    "UP DOUBLE AND HORIZONTAL SINGLE,DOUBLE UP AND HORIZONTAL",
    "VERTICAL SINGLE AND HORIZONTAL DOUBLE,VERTICAL DOUBLE AND HORIZONTAL SINGLE",
    "DOUBLE VERTICAL AND HORIZONTAL,LIGHT ARC DOWN AND RIGHT,LIGHT ARC DOWN AND LEFT",
    "LIGHT ARC UP AND LEFT,LIGHT ARC UP AND RIGHT,LIGHT DIAGONAL UPPER RIGHT TO LOWER LEFT",
    "LIGHT DIAGONAL UPPER LEFT TO LOWER RIGHT,LIGHT DIAGONAL CROSS,LIGHT LEFT,LIGHT UP",
    "LIGHT RIGHT,LIGHT DOWN,HEAVY LEFT,HEAVY UP,HEAVY RIGHT,HEAVY DOWN",
    "LIGHT LEFT AND HEAVY RIGHT,LIGHT UP AND HEAVY DOWN,HEAVY LEFT AND LIGHT RIGHT",
    "HEAVY UP AND LIGHT DOWN"]⟩,
  ⟨0x2580, "", [
    "UPPER HALF BLOCK,LOWER ONE EIGHTH BLOCK,LOWER ONE QUARTER BLOCK",
    "LOWER THREE EIGHTHS BLOCK,LOWER HALF BLOCK,LOWER FIVE EIGHTHS BLOCK",
    "LOWER THREE QUARTERS BLOCK,LOWER SEVEN EIGHTHS BLOCK,FULL BLOCK,LEFT SEVEN EIGHTHS BLOCK",
    "LEFT THREE QUARTERS BLOCK,LEFT FIVE EIGHTHS BLOCK,LEFT HALF BLOCK",
    "LEFT THREE EIGHTHS BLOCK,LEFT ONE QUARTER BLOCK,LEFT ONE EIGHTH BLOCK,RIGHT HALF BLOCK",
    "LIGHT SHADE,MEDIUM SHADE,DARK SHADE,UPPER ONE EIGHTH BLOCK,RIGHT ONE EIGHTH BLOCK",
    "QUADRANT LOWER LEFT,QUADRANT LOWER RIGHT"]⟩,
  ⟨0x2598, "QUADRANT UPPER", [
    "LEFT,LEFT AND LOWER LEFT AND LOWER RIGHT,LEFT AND LOWER RIGHT",
    "LEFT AND UPPER RIGHT AND LOWER LEFT,LEFT AND UPPER RIGHT AND LOWER RIGHT,RIGHT",
    "RIGHT AND LOWER LEFT,RIGHT AND LOWER LEFT AND LOWER RIGHT"]⟩,
  ⟨0x25A0, "", [
    "BLACK SQUARE,WHITE SQUARE,WHITE SQUARE WITH ROUNDED CORNERS",
    "WHITE SQUARE CONTAINING BLACK SMALL SQUARE,SQUARE WITH HORIZONTAL FILL",
    "SQUARE WITH VERTICAL FILL,SQUARE WITH ORTHOGONAL CROSSHATCH FILL",
    "SQUARE WITH UPPER LEFT TO LOWER RIGHT FILL,SQUARE WITH UPPER RIGHT TO LOWER LEFT FILL",
    "SQUARE WITH DIAGONAL CROSSHATCH FILL,BLACK SMALL SQUARE,WHITE SMALL SQUARE",
    "BLACK RECTANGLE,WHITE RECTANGLE,BLACK VERTICAL RECTANGLE,WHITE VERTICAL RECTANGLE",
    "BLACK PARALLELOGRAM,WHITE PARALLELOGRAM,BLACK UP-POINTING TRIANGLE",
    "WHITE UP-POINTING TRIANGLE,BLACK UP-POINTING SMALL TRIANGLE",
    "WHITE UP-POINTING SMALL TRIANGLE,BLACK RIGHT-POINTING TRIANGLE",
    "WHITE RIGHT-POINTING TRIANGLE,BLACK RIGHT-POINTING SMALL TRIANGLE",
    "WHITE RIGHT-POINTING SMALL TRIANGLE,BLACK RIGHT-POINTING POINTER",
    "WHITE RIGHT-POINTING POINTER,BLACK DOWN-POINTING TRIANGLE,WHITE DOWN-POINTING TRIANGLE",
    "BLACK DOWN-POINTING SMALL TRIANGLE,WHITE DOWN-POINTING SMALL TRIANGLE",
    "BLACK LEFT-POINTING TRIANGLE,WHITE LEFT-POINTING TRIANGLE",
    "BLACK LEFT-POINTING SMALL TRIANGLE,WHITE LEFT-POINTING SMALL TRIANGLE",
    "BLACK LEFT-POINTING POINTER,WHITE LEFT-POINTING POINTER,BLACK DIAMOND,WHITE DIAMOND",
    "WHITE DIAMOND CONTAINING BLACK SMALL DIAMOND,FISHEYE,LOZENGE,WHITE CIRCLE,DOTTED CIRCLE",
    "CIRCLE WITH VERTICAL FILL,BULLSEYE,BLACK CIRCLE,CIRCLE WITH LEFT HALF BLACK",
    "CIRCLE WITH RIGHT HALF BLACK,CIRCLE WITH LOWER HALF BLACK,CIRCLE WITH UPPER HALF BLACK",
    "CIRCLE WITH UPPER RIGHT QUADRANT BLACK,CIRCLE WITH ALL BUT UPPER LEFT QUADRANT BLACK",
    "LEFT HALF BLACK CIRCLE,RIGHT HALF BLACK CIRCLE,INVERSE BULLET,INVERSE WHITE CIRCLE",
    "UPPER HALF INVERSE WHITE CIRCLE,LOWER HALF INVERSE WHITE CIRCLE",
    "UPPER LEFT QUADRANT CIRCULAR ARC,UPPER RIGHT QUADRANT CIRCULAR ARC",
    "LOWER RIGHT QUADRANT CIRCULAR ARC,LOWER LEFT QUADRANT CIRCULAR ARC,UPPER HALF CIRCLE",
    "LOWER HALF CIRCLE,BLACK LOWER RIGHT TRIANGLE,BLACK LOWER LEFT TRIANGLE",
    "BLACK UPPER LEFT TRIANGLE,BLACK UPPER RIGHT TRIANGLE,WHITE BULLET",
    "SQUARE WITH LEFT HALF BLACK,SQUARE WITH RIGHT HALF BLACK",
    "SQUARE WITH UPPER LEFT DIAGONAL HALF BLACK,SQUARE WITH LOWER RIGHT DIAGONAL HALF BLACK",
    "WHITE SQUARE WITH VERTICAL BISECTING LINE,WHITE UP-POINTING TRIANGLE WITH DOT",
    "UP-POINTING TRIANGLE WITH LEFT HALF BLACK,UP-POINTING TRIANGLE WITH RIGHT HALF BLACK",
    "LARGE CIRCLE,WHITE SQUARE WITH UPPER LEFT QUADRANT,WHITE SQUARE WITH LOWER LEFT QUADRANT",
    "WHITE SQUARE WITH LOWER RIGHT QUADRANT,WHITE SQUARE WITH UPPER RIGHT QUADRANT",
    "WHITE CIRCLE WITH UPPER LEFT QUADRANT,WHITE CIRCLE WITH LOWER LEFT QUADRANT",
    "WHITE CIRCLE WITH LOWER RIGHT QUADRANT,WHITE CIRCLE WITH UPPER RIGHT QUADRANT",
    "UPPER LEFT TRIANGLE,UPPER RIGHT TRIANGLE,LOWER LEFT TRIANGLE,WHITE MEDIUM SQUARE",
    "BLACK MEDIUM SQUARE,WHITE MEDIUM SMALL SQUARE,BLACK MEDIUM SMALL SQUARE",
    "LOWER RIGHT TRIANGLE,BLACK SUN WITH RAYS,CLOUD,UMBRELLA,SNOWMAN,COMET,BLACK STAR",
    "WHITE STAR,LIGHTNING,THUNDERSTORM,SUN,ASCENDING NODE,DESCENDING NODE,CONJUNCTION",
    "OPPOSITION,BLACK TELEPHONE,WHITE TELEPHONE,BALLOT BOX,BALLOT BOX WITH CHECK",
    "BALLOT BOX WITH X,SALTIRE,UMBRELLA WITH RAIN DROPS,HOT BEVERAGE,WHITE SHOGI PIECE",
    "BLACK SHOGI PIECE,SHAMROCK,REVERSED ROTATED FLORAL HEART BULLET",
    "BLACK LEFT POINTING INDEX,BLACK RIGHT POINTING INDEX,WHITE LEFT POINTING INDEX",
    "WHITE UP POINTING INDEX,WHITE RIGHT POINTING INDEX,WHITE DOWN POINTING INDEX",
    "SKULL AND CROSSBONES,CAUTION SIGN,RADIOACTIVE SIGN,BIOHAZARD SIGN,CADUCEUS,ANKH",
    "ORTHODOX CROSS,CHI RHO,CROSS OF LORRAINE,CROSS OF JERUSALEM,STAR AND CRESCENT",
    "FARSI SYMBOL,ADI SHAKTI,HAMMER AND SICKLE,PEACE SYMBOL,YIN YANG"]⟩,
  ⟨0x2630, "TRIGRAM FOR", ["HEAVEN,LAKE,FIRE,THUNDER,WIND,WATER,MOUNTAIN,EARTH"]⟩,
  ⟨0x2638, "", [
    "WHEEL OF DHARMA,WHITE FROWNING FACE,WHITE SMILING FACE,BLACK SMILING FACE",
    "WHITE SUN WITH RAYS,FIRST QUARTER MOON,LAST QUARTER MOON,MERCURY,FEMALE SIGN,EARTH",
    "MALE SIGN,JUPITER,SATURN,URANUS,NEPTUNE,PLUTO,ARIES,TAURUS,GEMINI,CANCER,LEO,VIRGO,LIBRA",
    "SCORPIUS,SAGITTARIUS,CAPRICORN,AQUARIUS,PISCES"]⟩,
  ⟨0x2654, "WHITE CHESS", ["KING,QUEEN,ROOK,BISHOP,KNIGHT,PAWN"]⟩,
  ⟨0x265A, "BLACK CHESS", ["KING,QUEEN,ROOK,BISHOP,KNIGHT,PAWN"]⟩,
  ⟨0x2660, "", [
    "BLACK SPADE SUIT,WHITE HEART SUIT,WHITE DIAMOND SUIT,BLACK CLUB SUIT,WHITE SPADE SUIT",
    "BLACK HEART SUIT,BLACK DIAMOND SUIT,WHITE CLUB SUIT,HOT SPRINGS,QUARTER NOTE,EIGHTH NOTE",
    "BEAMED EIGHTH NOTES,BEAMED SIXTEENTH NOTES,MUSIC FLAT SIGN,MUSIC NATURAL SIGN",
    "MUSIC SHARP SIGN,WEST SYRIAC CROSS,EAST SYRIAC CROSS,UNIVERSAL RECYCLING SYMBOL"]⟩,
  ⟨0x2673, "RECYCLING SYMBOL FOR", [
    "TYPE-1 PLASTICS,TYPE-2 PLASTICS,TYPE-3 PLASTICS,TYPE-4 PLASTICS,TYPE-5 PLASTICS",
    "TYPE-6 PLASTICS,TYPE-7 PLASTICS,GENERIC MATERIALS"]⟩,
  ⟨0x267B, "", [
    "BLACK UNIVERSAL RECYCLING SYMBOL,RECYCLED PAPER SYMBOL,PARTIALLY-RECYCLED PAPER SYMBOL",
    "PERMANENT PAPER SIGN,WHEELCHAIR SYMBOL,DIE FACE-1,DIE FACE-2,DIE FACE-3,DIE FACE-4",
    "DIE FACE-5,DIE FACE-6,WHITE CIRCLE WITH DOT RIGHT,WHITE CIRCLE WITH TWO DOTS",
    "BLACK CIRCLE WITH WHITE DOT RIGHT,BLACK CIRCLE WITH TWO WHITE DOTS,MONOGRAM FOR YANG",
    "MONOGRAM FOR YIN,DIGRAM FOR GREATER YANG,DIGRAM FOR LESSER YIN,DIGRAM FOR LESSER YANG",
    "DIGRAM FOR GREATER YIN,WHITE FLAG,BLACK FLAG,HAMMER AND PICK,ANCHOR,CROSSED SWORDS",
    "STAFF OF AESCULAPIUS,SCALES,ALEMBIC,FLOWER,GEAR,STAFF OF HERMES,ATOM SYMBOL,FLEUR-DE-LIS",
    "OUTLINED WHITE STAR,THREE LINES CONVERGING RIGHT,THREE LINES CONVERGING LEFT",
    "WARNING SIGN,HIGH VOLTAGE SIGN,DOUBLED FEMALE SIGN,DOUBLED MALE SIGN",
    "INTERLOCKED FEMALE AND MALE SIGN,MALE AND FEMALE SIGN,MALE WITH STROKE SIGN",
    "MALE WITH STROKE AND MALE AND FEMALE SIGN,VERTICAL MALE WITH STROKE SIGN",
    "HORIZONTAL MALE WITH STROKE SIGN,MEDIUM WHITE CIRCLE,MEDIUM BLACK CIRCLE",
    "MEDIUM SMALL WHITE CIRCLE,MARRIAGE SYMBOL,DIVORCE SYMBOL,UNMARRIED PARTNERSHIP SYMBOL",
    "COFFIN,FUNERAL URN,NEUTER,CERES,PALLAS,JUNO,VESTA,CHIRON,BLACK MOON LILITH,SEXTILE",
    "SEMISEXTILE,QUINCUNX,SESQUIQUADRATE,SOCCER BALL,BASEBALL,SQUARED KEY,WHITE DRAUGHTS MAN",
    "WHITE DRAUGHTS KING,BLACK DRAUGHTS MAN,BLACK DRAUGHTS KING,SNOWMAN WITHOUT SNOW",
    "SUN BEHIND CLOUD,RAIN,BLACK SNOWMAN,THUNDER CLOUD AND RAIN,TURNED WHITE SHOGI PIECE",
    "TURNED BLACK SHOGI PIECE,WHITE DIAMOND IN SQUARE,CROSSING LANES,DISABLED CAR,OPHIUCHUS",
    "PICK,CAR SLIDING,HELMET WITH WHITE CROSS,CIRCLED CROSSING LANES,CHAINS,NO ENTRY",
    "ALTERNATE ONE-WAY LEFT WAY TRAFFIC,BLACK TWO-WAY LEFT WAY TRAFFIC",
    "WHITE TWO-WAY LEFT WAY TRAFFIC,BLACK LEFT LANE MERGE,WHITE LEFT LANE MERGE",
    "DRIVE SLOW SIGN,HEAVY WHITE DOWN-POINTING TRIANGLE,LEFT CLOSED ENTRY,SQUARED SALTIRE",
    "FALLING DIAGONAL IN WHITE CIRCLE IN BLACK SQUARE,BLACK TRUCK,RESTRICTED LEFT ENTRY-1",
    "RESTRICTED LEFT ENTRY-2,ASTRONOMICAL SYMBOL FOR URANUS",
    "HEAVY CIRCLE WITH STROKE AND TWO DOTS ABOVE,PENTAGRAM,RIGHT-HANDED INTERLACED PENTAGRAM",
    "LEFT-HANDED INTERLACED PENTAGRAM,INVERTED PENTAGRAM,BLACK CROSS ON SHIELD,SHINTO SHRINE",
    "CHURCH,CASTLE,HISTORIC SITE,GEAR WITHOUT HUB,GEAR WITH HANDLES,MAP SYMBOL FOR LIGHTHOUSE",
    "MOUNTAIN,UMBRELLA ON GROUND,FOUNTAIN,FLAG IN HOLE,FERRY,SAILBOAT,SQUARE FOUR CORNERS",
    "SKIER,ICE SKATE,PERSON WITH BALL,TENT,JAPANESE BANK SYMBOL,HEADSTONE GRAVEYARD SYMBOL",
    "FUEL PUMP,CUP ON BLACK SQUARE,WHITE FLAG WITH HORIZONTAL MIDDLE BLACK STRIPE",
    "BLACK SAFETY SCISSORS,UPPER BLADE SCISSORS,BLACK SCISSORS,LOWER BLADE SCISSORS",
    "WHITE SCISSORS,WHITE HEAVY CHECK MARK,TELEPHONE LOCATION SIGN,TAPE DRIVE,AIRPLANE",
    "ENVELOPE,RAISED FIST,RAISED HAND,VICTORY HAND,WRITING HAND,LOWER RIGHT PENCIL,PENCIL",
    "UPPER RIGHT PENCIL,WHITE NIB,BLACK NIB,CHECK MARK,HEAVY CHECK MARK,MULTIPLICATION X",
    "HEAVY MULTIPLICATION X,BALLOT X,HEAVY BALLOT X,OUTLINED GREEK CROSS,HEAVY GREEK CROSS",
    "OPEN CENTRE CROSS,HEAVY OPEN CENTRE CROSS,LATIN CROSS,SHADOWED WHITE LATIN CROSS",
    "OUTLINED LATIN CROSS,MALTESE CROSS,STAR OF DAVID,FOUR TEARDROP-SPOKED ASTERISK",
    "FOUR BALLOON-SPOKED ASTERISK,HEAVY FOUR BALLOON-SPOKED ASTERISK",
    "FOUR CLUB-SPOKED ASTERISK,BLACK FOUR POINTED STAR,WHITE FOUR POINTED STAR,SPARKLES",
    "STRESS OUTLINED WHITE STAR,CIRCLED WHITE STAR,OPEN CENTRE BLACK STAR",
    "BLACK CENTRE WHITE STAR,OUTLINED BLACK STAR,HEAVY OUTLINED BLACK STAR,PINWHEEL STAR",
    "SHADOWED WHITE STAR,HEAVY ASTERISK,OPEN CENTRE ASTERISK,EIGHT SPOKED ASTERISK",
    "EIGHT POINTED BLACK STAR,EIGHT POINTED PINWHEEL STAR,SIX POINTED BLACK STAR",
    "EIGHT POINTED RECTILINEAR BLACK STAR,HEAVY EIGHT POINTED RECTILINEAR BLACK STAR",
    "TWELVE POINTED BLACK STAR,SIXTEEN POINTED ASTERISK,TEARDROP-SPOKED ASTERISK",
    "OPEN CENTRE TEARDROP-SPOKED ASTERISK,HEAVY TEARDROP-SPOKED ASTERISK",
    "SIX PETALLED BLACK AND WHITE FLORETTE,BLACK FLORETTE,WHITE FLORETTE",
    "EIGHT PETALLED OUTLINED BLACK FLORETTE,CIRCLED OPEN CENTRE EIGHT POINTED STAR",
    "HEAVY TEARDROP-SPOKED PINWHEEL ASTERISK,SNOWFLAKE,TIGHT TRIFOLIATE SNOWFLAKE",
    "HEAVY CHEVRON SNOWFLAKE,SPARKLE,HEAVY SPARKLE,BALLOON-SPOKED ASTERISK",
    "EIGHT TEARDROP-SPOKED PROPELLER ASTERISK,HEAVY EIGHT TEARDROP-SPOKED PROPELLER ASTERISK",
    "CROSS MARK,SHADOWED WHITE CIRCLE,NEGATIVE SQUARED CROSS MARK",
    "LOWER RIGHT DROP-SHADOWED WHITE SQUARE,UPPER RIGHT DROP-SHADOWED WHITE SQUARE",
    "LOWER RIGHT SHADOWED WHITE SQUARE,UPPER RIGHT SHADOWED WHITE SQUARE",
    "BLACK QUESTION MARK ORNAMENT,WHITE QUESTION MARK ORNAMENT",
    "WHITE EXCLAMATION MARK ORNAMENT,BLACK DIAMOND MINUS WHITE X",
    "HEAVY EXCLAMATION MARK SYMBOL,LIGHT VERTICAL BAR,MEDIUM VERTICAL BAR,HEAVY VERTICAL BAR",
    "HEAVY SINGLE TURNED COMMA QUOTATION MARK ORNAMENT",
    "HEAVY SINGLE COMMA QUOTATION MARK ORNAMENT",
    "HEAVY DOUBLE TURNED COMMA QUOTATION MARK ORNAMENT",
    "HEAVY DOUBLE COMMA QUOTATION MARK ORNAMENT",
    "HEAVY LOW SINGLE COMMA QUOTATION MARK ORNAMENT",
    "HEAVY LOW DOUBLE COMMA QUOTATION MARK ORNAMENT,CURVED STEM PARAGRAPH SIGN ORNAMENT",
    "HEAVY EXCLAMATION MARK ORNAMENT,HEAVY HEART EXCLAMATION MARK ORNAMENT,HEAVY BLACK HEART",
    "ROTATED HEAVY BLACK HEART BULLET,FLORAL HEART,ROTATED FLORAL HEART BULLET",
    "MEDIUM LEFT PARENTHESIS ORNAMENT,MEDIUM RIGHT PARENTHESIS ORNAMENT",
    "MEDIUM FLATTENED LEFT PARENTHESIS ORNAMENT,MEDIUM FLATTENED RIGHT PARENTHESIS ORNAMENT",
    "MEDIUM LEFT-POINTING ANGLE BRACKET ORNAMENT,MEDIUM RIGHT-POINTING ANGLE BRACKET ORNAMENT",
    "HEAVY LEFT-POINTING ANGLE QUOTATION MARK ORNAMENT",
    "HEAVY RIGHT-POINTING ANGLE QUOTATION MARK ORNAMENT",
    "HEAVY LEFT-POINTING ANGLE BRACKET ORNAMENT,HEAVY RIGHT-POINTING ANGLE BRACKET ORNAMENT",
    "LIGHT LEFT TORTOISE SHELL BRACKET ORNAMENT,LIGHT RIGHT TORTOISE SHELL BRACKET ORNAMENT",
    "MEDIUM LEFT CURLY BRACKET ORNAMENT,MEDIUM RIGHT CURLY BRACKET ORNAMENT"]⟩,
  ⟨0x2776, "DINGBAT NEGATIVE CIRCLED", [
    "DIGIT ONE,DIGIT TWO,DIGIT THREE,DIGIT FOUR,DIGIT FIVE,DIGIT SIX,DIGIT SEVEN,DIGIT EIGHT",
    "DIGIT NINE,NUMBER TEN"]⟩,
  ⟨0x2780, "DINGBAT CIRCLED SANS-SERIF", [
    "DIGIT ONE,DIGIT TWO,DIGIT THREE,DIGIT FOUR,DIGIT FIVE,DIGIT SIX,DIGIT SEVEN,DIGIT EIGHT",
    "DIGIT NINE,NUMBER TEN"]⟩,
  ⟨0x278A, "DINGBAT NEGATIVE CIRCLED SANS-SERIF DIGIT", [
    "ONE,TWO,THREE,FOUR,FIVE,SIX,SEVEN,EIGHT,NINE"]⟩,
  ⟨0x2793, "", [
    "DINGBAT NEGATIVE CIRCLED SANS-SERIF NUMBER TEN,HEAVY WIDE-HEADED RIGHTWARDS ARROW",
    "HEAVY PLUS SIGN,HEAVY MINUS SIGN,HEAVY DIVISION SIGN,HEAVY SOUTH EAST ARROW",
    "HEAVY RIGHTWARDS ARROW,HEAVY NORTH EAST ARROW,DRAFTING POINT RIGHTWARDS ARROW",
    "HEAVY ROUND-TIPPED RIGHTWARDS ARROW,TRIANGLE-HEADED RIGHTWARDS ARROW",
    "HEAVY TRIANGLE-HEADED RIGHTWARDS ARROW,DASHED TRIANGLE-HEADED RIGHTWARDS ARROW",
    "HEAVY DASHED TRIANGLE-HEADED RIGHTWARDS ARROW,BLACK RIGHTWARDS ARROW",
    "THREE-D TOP-LIGHTED RIGHTWARDS ARROWHEAD,THREE-D BOTTOM-LIGHTED RIGHTWARDS ARROWHEAD",
    "BLACK RIGHTWARDS ARROWHEAD,HEAVY BLACK CURVED DOWNWARDS AND RIGHTWARDS ARROW",
    "HEAVY BLACK CURVED UPWARDS AND RIGHTWARDS ARROW,SQUAT BLACK RIGHTWARDS ARROW",
    "HEAVY CONCAVE-POINTED BLACK RIGHTWARDS ARROW,RIGHT-SHADED WHITE RIGHTWARDS ARROW",
    "LEFT-SHADED WHITE RIGHTWARDS ARROW,BACK-TILTED SHADOWED WHITE RIGHTWARDS ARROW",
    "FRONT-TILTED SHADOWED WHITE RIGHTWARDS ARROW",
    "HEAVY LOWER RIGHT-SHADOWED WHITE RIGHTWARDS ARROW",
    "HEAVY UPPER RIGHT-SHADOWED WHITE RIGHTWARDS ARROW",
    "NOTCHED LOWER RIGHT-SHADOWED WHITE RIGHTWARDS ARROW,CURLY LOOP",
    "NOTCHED UPPER RIGHT-SHADOWED WHITE RIGHTWARDS ARROW,CIRCLED HEAVY WHITE RIGHTWARDS ARROW",
    "WHITE-FEATHERED RIGHTWARDS ARROW,BLACK-FEATHERED SOUTH EAST ARROW",
    "BLACK-FEATHERED RIGHTWARDS ARROW,BLACK-FEATHERED NORTH EAST ARROW",
    "HEAVY BLACK-FEATHERED SOUTH EAST ARROW,HEAVY BLACK-FEATHERED RIGHTWARDS ARROW",
    "HEAVY BLACK-FEATHERED NORTH EAST ARROW,TEARDROP-BARBED RIGHTWARDS ARROW",
    "HEAVY TEARDROP-SHANKED RIGHTWARDS ARROW,WEDGE-TAILED RIGHTWARDS ARROW",
    "HEAVY WEDGE-TAILED RIGHTWARDS ARROW,OPEN-OUTLINED RIGHTWARDS ARROW,DOUBLE CURLY LOOP",
    "THREE DIMENSIONAL ANGLE,WHITE TRIANGLE CONTAINING SMALL WHITE TRIANGLE,PERPENDICULAR",
    "OPEN SUBSET,OPEN SUPERSET,LEFT S-SHAPED BAG DELIMITER,RIGHT S-SHAPED BAG DELIMITER",
    "OR WITH DOT INSIDE,REVERSE SOLIDUS PRECEDING SUBSET,SUPERSET PRECEDING SOLIDUS",
    "VERTICAL BAR WITH HORIZONTAL STROKE,MATHEMATICAL RISING DIAGONAL,LONG DIVISION",
    "MATHEMATICAL FALLING DIAGONAL,SQUARED LOGICAL AND,SQUARED LOGICAL OR",
    "WHITE DIAMOND WITH CENTRED DOT,AND WITH DOT,ELEMENT OF OPENING UPWARDS",
    "LOWER RIGHT CORNER WITH DOT,UPPER LEFT CORNER WITH DOT,LEFT OUTER JOIN,RIGHT OUTER JOIN",
    "FULL OUTER JOIN,LARGE UP TACK,LARGE DOWN TACK,LEFT AND RIGHT DOUBLE TURNSTILE",
    "LEFT AND RIGHT TACK,LEFT MULTIMAP,LONG RIGHT TACK,LONG LEFT TACK",
    "UP TACK WITH CIRCLE ABOVE,LOZENGE DIVIDED BY HORIZONTAL RULE,WHITE CONCAVE-SIDED DIAMOND",
    "WHITE CONCAVE-SIDED DIAMOND WITH LEFTWARDS TICK",
    "WHITE CONCAVE-SIDED DIAMOND WITH RIGHTWARDS TICK,WHITE SQUARE WITH LEFTWARDS TICK",
    "WHITE SQUARE WITH RIGHTWARDS TICK"]⟩,
  ⟨0x27E6, "MATHEMATICAL", [
    "LEFT WHITE SQUARE BRACKET,RIGHT WHITE SQUARE BRACKET,LEFT ANGLE BRACKET",
    "RIGHT ANGLE BRACKET,LEFT DOUBLE ANGLE BRACKET,RIGHT DOUBLE ANGLE BRACKET",
    "LEFT WHITE TORTOISE SHELL BRACKET,RIGHT WHITE TORTOISE SHELL BRACKET",
    "LEFT FLATTENED PARENTHESIS,RIGHT FLATTENED PARENTHESIS"]⟩,
  ⟨0x27F0, "", [
    "UPWARDS QUADRUPLE ARROW,DOWNWARDS QUADRUPLE ARROW,ANTICLOCKWISE GAPPED CIRCLE ARROW",
    "CLOCKWISE GAPPED CIRCLE ARROW,RIGHT ARROW WITH CIRCLED PLUS"]⟩,
  ⟨0x27F5, "LONG", [
    "LEFTWARDS ARROW,RIGHTWARDS ARROW,LEFT RIGHT ARROW,LEFTWARDS DOUBLE ARROW",
    "RIGHTWARDS DOUBLE ARROW,LEFT RIGHT DOUBLE ARROW,LEFTWARDS ARROW FROM BAR",
    "RIGHTWARDS ARROW FROM BAR,LEFTWARDS DOUBLE ARROW FROM BAR",
    "RIGHTWARDS DOUBLE ARROW FROM BAR,RIGHTWARDS SQUIGGLE ARROW"]⟩]

end StoryCatalog
