/-!
# Names of characters: punctuation, arrows, operators and other symbols

The names of the characters from 2000 to 27FF, as of Unicode 14, in the short form of name tables.
-/

namespace RecordDocs.Text

def symbolsNames : List String :=
  ["2000=0EN QUAD;1M QUAD;1N SPACE;1M SPACE;0THREE-PER-EM SPACE;0FOUR-PER-EM SPACE",
    "0SIX-PER-EM SPACE;0FIGURE SPACE;0PUNCTUATION SPACE;0THIN SPACE;0HAIR SPACE;0ZERO WIDTH SPACE",
    "BNON-JOINER;BJOINER;0LEFT-TO-RIGHT MARK;0RIGHT-TO-LEFT MARK;0HYPHEN;0NON-BREAKING HYPHEN",
    "0FIGURE DASH;0EN DASH;1M DASH;0HORIZONTAL BAR;0DOUBLE VERTICAL LINE;7LOW LINE",
    "0LEFT SINGLE QUOTATION MARK;0RIGHT SINGLE QUOTATION MARK;0SINGLE LOW-9 QUOTATION MARK",
    "7HIGH-REVERSED-9 QUOTATION MARK;0LEFT DOUBLE QUOTATION MARK;0RIGHT DOUBLE QUOTATION MARK",
    "0DOUBLE LOW-9 QUOTATION MARK;7HIGH-REVERSED-9 QUOTATION MARK;1AGGER;1OUBLE DAGGER;0BULLET",
    "0TRIANGULAR BULLET;0ONE DOT LEADER;0TWO DOT LEADER;0HORIZONTAL ELLIPSIS;1YPHENATION POINT",
    "0LINE SEPARATOR;0PARAGRAPH SEPARATOR;0LEFT-TO-RIGHT EMBEDDING;0RIGHT-TO-LEFT EMBEDDING",
    "0POP DIRECTIONAL FORMATTING;0LEFT-TO-RIGHT OVERRIDE;0RIGHT-TO-LEFT OVERRIDE",
    "0NARROW NO-BREAK SPACE;0PER MILLE SIGN;4TEN THOUSAND SIGN;1RIME;0DOUBLE PRIME;0TRIPLE PRIME",
    "0REVERSED PRIME;9DOUBLE PRIME;9TRIPLE PRIME;0CARET",
    "0SINGLE LEFT-POINTING ANGLE QUOTATION MARK;7RIGHT-POINTING ANGLE QUOTATION MARK",
    "0REFERENCE MARK;0DOUBLE EXCLAMATION MARK;0INTERROBANG;0OVERLINE;0UNDERTIE;0CHARACTER TIE",
    "1ARET INSERTION POINT;0ASTERISM;0HYPHEN BULLET;0FRACTION SLASH",
    "0LEFT SQUARE BRACKET WITH QUILL;0RIGHT SQUARE BRACKET WITH QUILL;0DOUBLE QUESTION MARK",
    "0QUESTION EXCLAMATION MARK;0EXCLAMATION QUESTION MARK;0TIRONIAN SIGN ET",
    "0REVERSED PILCROW SIGN;0BLACK LEFTWARDS BULLET;6RIGHTWARDS BULLET;0LOW ASTERISK",
    "0REVERSED SEMICOLON;0CLOSE UP;0TWO ASTERISKS ALIGNED VERTICALLY;0COMMERCIAL MINUS SIGN",
    "0SWUNG DASH;0INVERTED UNDERTIE;0FLOWER PUNCTUATION MARK;0THREE DOT PUNCTUATION",
    "0QUADRUPLE PRIME;0FOUR DOT PUNCTUATION;1IVE DOT PUNCTUATION;0TWO DOT PUNCTUATION",
    "0FOUR DOT MARK;0DOTTED CROSS;0TRICOLON;0VERTICAL FOUR DOTS;0MEDIUM MATHEMATICAL SPACE",
    "0WORD JOINER;0FUNCTION APPLICATION;0INVISIBLE TIMES;ASEPARATOR;APLUS",
    "2066=0LEFT-TO-RIGHT ISOLATE;0RIGHT-TO-LEFT ISOLATE;0FIRST STRONG ISOLATE",
    "0POP DIRECTIONAL ISOLATE;0INHIBIT SYMMETRIC SWAPPING;0ACTIVATE SYMMETRIC SWAPPING",
    "0INHIBIT ARABIC FORM SHAPING;0ACTIVATE ARABIC FORM SHAPING;0NATIONAL DIGIT SHAPES",
    "1OMINAL DIGIT SHAPES;0SUPERSCRIPT ZERO;CLATIN SMALL LETTER I;2074=CFOUR;DIVE;CSIX;DEVEN",
    "CEIGHT;CNINE;CPLUS SIGN;CMINUS;CEQUALS SIGN;CLEFT PARENTHESIS;CRIGHT PARENTHESIS",
    "CLATIN SMALL LETTER N;2BSCRIPT ZERO;AONE;ATWO;BHREE;AFOUR;BIVE;ASIX;BEVEN;AEIGHT;ANINE",
    "APLUS SIGN;AMINUS;AEQUALS SIGN;ALEFT PARENTHESIS;ARIGHT PARENTHESIS",
    "2090=0LATIN SUBSCRIPT SMALL LETTER A;TE;TO;TX;TSCHWA;TH;TK;TL;TM;TN;TP;TS;TT",
    "20A0=0EURO-CURRENCY SIGN;0COLON SIGN;1RUZEIRO SIGN;0FRENCH FRANC SIGN;0LIRA SIGN;0MILL SIGN",
    "0NAIRA SIGN;0PESETA SIGN;0RUPEE SIGN;0WON SIGN;0NEW SHEQEL SIGN;0DONG SIGN;0EURO SIGN",
    "0KIP SIGN;0TUGRIK SIGN;0DRACHMA SIGN;0GERMAN PENNY SIGN;0PESO SIGN;0GUARANI SIGN",
    "0AUSTRAL SIGN;0HRYVNIA SIGN;0CEDI SIGN;0LIVRE TOURNOIS SIGN;0SPESMILO SIGN;0TENGE SIGN",
    "0INDIAN RUPEE SIGN;0TURKISH LIRA SIGN;0NORDIC MARK SIGN;0MANAT SIGN;0RUBLE SIGN;0LARI SIGN",
    "0BITCOIN SIGN;0SOM SIGN;20D0=0COMBINING LEFT HARPOON ABOVE;ARIGHT HARPOON ABOVE",
    "ALONG VERTICAL LINE OVERLAY;ASHORT VERTICAL LINE OVERLAY;AANTICLOCKWISE ARROW ABOVE",
    "ACLOCKWISE ARROW ABOVE;ALEFT ARROW ABOVE;ARIGHT ARROW ABOVE;CNG OVERLAY",
    "ACLOCKWISE RING OVERLAY;AANTICLOCKWISE RING OVERLAY;ATHREE DOTS ABOVE;AFOUR DOTS ABOVE",
    "AENCLOSING CIRCLE;KSQUARE;KDIAMOND;KCIRCLE BACKSLASH;ALEFT RIGHT ARROW ABOVE",
    "AENCLOSING SCREEN;KKEYCAP;KUPWARD POINTING TRIANGLE;AREVERSE SOLIDUS OVERLAY",
    "ADOUBLE VERTICAL STROKE OVERLAY;AANNUITY SYMBOL;ATRIPLE UNDERDOT;AWIDE BRIDGE ABOVE",
    "ALEFTWARDS ARROW OVERLAY;BONG DOUBLE SOLIDUS OVERLAY;ARIGHTWARDS HARPOON WITH BARB DOWNWARDS",
    "ALEFTWARDS HARPOON WITH BARB DOWNWARDS;E ARROW BELOW;ARIGHT ARROW BELOW;AASTERISK ABOVE",
    "2100=0ACCOUNT OF;1DDRESSED TO THE SUBJECT;0DOUBLE-STRUCK CAPITAL C;1EGREE CELSIUS",
    "0CENTRE LINE SYMBOL;1ARE OF;2DA UNA;0EULER CONSTANT;0SCRUPLE;0DEGREE FAHRENHEIT",
    "0SCRIPT SMALL G;7CAPITAL H;0BLACK-LETTER CAPITAL H;0DOUBLE-STRUCK CAPITAL H;0PLANCK CONSTANT",
    "F OVER TWO PI;0SCRIPT CAPITAL I;0BLACK-LETTER CAPITAL I;0SCRIPT CAPITAL L;7SMALL L",
    "0L B BAR SYMBOL;0DOUBLE-STRUCK CAPITAL N;0NUMERO SIGN;0SOUND RECORDING COPYRIGHT",
    "1CRIPT CAPITAL P;0DOUBLE-STRUCK CAPITAL P;MQ;0SCRIPT CAPITAL R;0BLACK-LETTER CAPITAL R",
    "0DOUBLE-STRUCK CAPITAL R;0PRESCRIPTION TAKE;0RESPONSE;0SERVICE MARK;0TELEPHONE SIGN",
    "1RADE MARK SIGN;0VERSICLE;0DOUBLE-STRUCK CAPITAL Z;0OUNCE SIGN;1HM SIGN;0INVERTED OHM SIGN",
    "0BLACK-LETTER CAPITAL Z;0TURNED GREEK SMALL LETTER IOTA;0KELVIN SIGN;0ANGSTROM SIGN",
    "0SCRIPT CAPITAL B;0BLACK-LETTER CAPITAL C;0ESTIMATED SYMBOL;0SCRIPT SMALL E;7CAPITAL E;FF",
    "0TURNED CAPITAL F;0SCRIPT CAPITAL M;7SMALL O;0ALEF SYMBOL;0BET SYMBOL;0GIMEL SYMBOL",
    "0DALET SYMBOL;0INFORMATION SOURCE;0ROTATED CAPITAL Q;0FACSIMILE SIGN;0DOUBLE-STRUCK SMALL PI",
    "KGAMMA;ECAPITAL GAMMA;MPI;EN-ARY SUMMATION;0TURNED SANS-SERIF CAPITAL G;QL",
    "0REVERSED SANS-SERIF CAPITAL L;0TURNED SANS-SERIF CAPITAL Y;0DOUBLE-STRUCK ITALIC CAPITAL D",
    "LSMALL D;RE;RI;RJ;0PROPERTY LINE;0TURNED AMPERSAND;0PER SIGN;0AKTIESELSKAB;0TURNED SMALL F",
    "0SYMBOL FOR SAMARITAN SOURCE;0VULGAR FRACTION ONE SEVENTH;KNINTH;KTENTH;LHIRD;GTWO THIRDS",
    "GONE FIFTH;GTWO FIFTHS;HHREE FIFTHS;GFOUR FIFTHS;GONE SIXTH;GFIVE SIXTHS;GONE EIGHTH",
    "GTHREE EIGHTHS;GFIVE EIGHTHS;GSEVEN EIGHTHS;0FRACTION NUMERATOR ONE;0ROMAN NUMERAL ONE;ETWO",
    "FHREE;EFOUR;FIVE;ESIX;FEVEN;EEIGHT;ENINE;ETEN;EELEVEN;ETWELVE;EFIFTY;EONE HUNDRED",
    "EFIVE HUNDRED;EONE THOUSAND;0SMALL ROMAN NUMERAL ONE;KTWO;LHREE;KFOUR;LIVE;KSIX;LEVEN;KEIGHT",
    "KNINE;KTEN;KELEVEN;KTWELVE;KFIFTY;KONE HUNDRED;KFIVE HUNDRED;KONE THOUSAND",
    "0ROMAN NUMERAL ONE THOUSAND C D;EFIVE THOUSAND;ETEN THOUSAND;EREVERSED ONE HUNDRED",
    "0LATIN SMALL LETTER REVERSED C;0ROMAN NUMERAL SIX LATE FORM;EFIFTY EARLY FORM;KTHOUSAND",
    "EONE HUNDRED THOUSAND;0VULGAR FRACTION ZERO THIRDS;0TURNED DIGIT TWO;EHREE",
    "2190=0LEFTWARDS ARROW;0UPWARDS ARROW;0RIGHTWARDS ARROW;0DOWNWARDS ARROW;0LEFT RIGHT ARROW",
    "0UP DOWN ARROW;0NORTH WEST ARROW;6EAST ARROW;0SOUTH EAST ARROW;6WEST ARROW",
    "0LEFTWARDS ARROW WITH STROKE;0RIGHTWARDS ARROW WITH STROKE;0LEFTWARDS WAVE ARROW",
    "0RIGHTWARDS WAVE ARROW;0LEFTWARDS TWO HEADED ARROW;0UPWARDS TWO HEADED ARROW",
    "0RIGHTWARDS TWO HEADED ARROW;0DOWNWARDS TWO HEADED ARROW;0LEFTWARDS ARROW WITH TAIL",
    "0RIGHTWARDS ARROW WITH TAIL;0LEFTWARDS ARROW FROM BAR;0UPWARDS ARROW FROM BAR",
    "0RIGHTWARDS ARROW FROM BAR;0DOWNWARDS ARROW FROM BAR;0UP DOWN ARROW WITH BASE",
    "0LEFTWARDS ARROW WITH HOOK;0RIGHTWARDS ARROW WITH HOOK;0LEFTWARDS ARROW WITH LOOP",
    "0RIGHTWARDS ARROW WITH LOOP;0LEFT RIGHT WAVE ARROW;BARROW WITH STROKE",
    "0DOWNWARDS ZIGZAG ARROW;0UPWARDS ARROW WITH TIP LEFTWARDS;NRIGHTWARDS",
    "0DOWNWARDS ARROW WITH TIP LEFTWARDS;PRIGHTWARDS;0RIGHTWARDS ARROW WITH CORNER DOWNWARDS",
    "0DOWNWARDS ARROW WITH CORNER LEFTWARDS;0ANTICLOCKWISE TOP SEMICIRCLE ARROW",
    "0CLOCKWISE TOP SEMICIRCLE ARROW;0NORTH WEST ARROW TO LONG BAR",
    "0LEFTWARDS ARROW TO BAR OVER RIGHTWARDS ARROW TO BAR;0ANTICLOCKWISE OPEN CIRCLE ARROW",
    "0CLOCKWISE OPEN CIRCLE ARROW;0LEFTWARDS HARPOON WITH BARB UPWARDS;SDOWNWARDS",
    "0UPWARDS HARPOON WITH BARB RIGHTWARDS;QLEFTWARDS;0RIGHTWARDS HARPOON WITH BARB UPWARDS",
    "TDOWNWARDS;0DOWNWARDS HARPOON WITH BARB RIGHTWARDS;SLEFTWARDS",
    "0RIGHTWARDS ARROW OVER LEFTWARDS ARROW;0UPWARDS ARROW LEFTWARDS OF DOWNWARDS ARROW",
    "0LEFTWARDS ARROW OVER RIGHTWARDS ARROW;APAIRED ARROWS;0UPWARDS PAIRED ARROWS",
    "0RIGHTWARDS PAIRED ARROWS;0DOWNWARDS PAIRED ARROWS",
    "0LEFTWARDS HARPOON OVER RIGHTWARDS HARPOON;0RIGHTWARDS HARPOON OVER LEFTWARDS HARPOON",
    "0LEFTWARDS DOUBLE ARROW WITH STROKE;4 RIGHT DOUBLE ARROW WITH STROKE",
    "0RIGHTWARDS DOUBLE ARROW WITH STROKE;0LEFTWARDS DOUBLE ARROW;0UPWARDS DOUBLE ARROW",
    "0RIGHTWARDS DOUBLE ARROW;0DOWNWARDS DOUBLE ARROW;0LEFT RIGHT DOUBLE ARROW",
    "0UP DOWN DOUBLE ARROW;0NORTH WEST DOUBLE ARROW;6EAST DOUBLE ARROW;0SOUTH EAST DOUBLE ARROW",
    "6WEST DOUBLE ARROW;0LEFTWARDS TRIPLE ARROW;0RIGHTWARDS TRIPLE ARROW",
    "0LEFTWARDS SQUIGGLE ARROW;0RIGHTWARDS SQUIGGLE ARROW;0UPWARDS ARROW WITH DOUBLE STROKE",
    "0DOWNWARDS ARROW WITH DOUBLE STROKE;0LEFTWARDS DASHED ARROW;0UPWARDS DASHED ARROW",
    "0RIGHTWARDS DASHED ARROW;0DOWNWARDS DASHED ARROW;0LEFTWARDS ARROW TO BAR",
    "0RIGHTWARDS ARROW TO BAR;0LEFTWARDS WHITE ARROW;0UPWARDS WHITE ARROW;0RIGHTWARDS WHITE ARROW",
    "0DOWNWARDS WHITE ARROW;0UPWARDS WHITE ARROW FROM BAR;KON PEDESTAL;V WITH HORIZONTAL BAR",
    "bVERTICAL BAR;EDOUBLE ARROW;Q ON PEDESTAL;0RIGHTWARDS WHITE ARROW FROM WALL",
    "0NORTH WEST ARROW TO CORNER;0SOUTH EAST ARROW TO CORNER;0UP DOWN WHITE ARROW",
    "0RIGHT ARROW WITH SMALL CIRCLE;0DOWNWARDS ARROW LEFTWARDS OF UPWARDS ARROW",
    "0THREE RIGHTWARDS ARROWS;0LEFTWARDS ARROW WITH VERTICAL STROKE",
    "0RIGHTWARDS ARROW WITH VERTICAL STROKE;0LEFT RIGHT ARROW WITH VERTICAL STROKE",
    "4WARDS ARROW WITH DOUBLE VERTICAL STROKE;0RIGHTWARDS ARROW WITH DOUBLE VERTICAL STROKE",
    "0LEFT RIGHT ARROW WITH DOUBLE VERTICAL STROKE;4WARDS OPEN-HEADED ARROW",
    "0RIGHTWARDS OPEN-HEADED ARROW;0LEFT RIGHT OPEN-HEADED ARROW;0FOR ALL;0COMPLEMENT",
    "0PARTIAL DIFFERENTIAL;0THERE EXISTS;6DOES NOT EXIST;0EMPTY SET;0INCREMENT;0NABLA;0ELEMENT OF",
    "0NOT AN ELEMENT OF;0SMALL ELEMENT OF;0CONTAINS AS MEMBER;0DOES NOT CONTAIN AS MEMBER",
    "0SMALL CONTAINS AS MEMBER;0END OF PROOF;0N-ARY PRODUCT;6COPRODUCT;6SUMMATION;0MINUS SIGN",
    "5-OR-PLUS SIGN;0DOT PLUS;1IVISION SLASH;0SET MINUS;0ASTERISK OPERATOR;0RING OPERATOR",
    "0BULLET OPERATOR;0SQUARE ROOT;0CUBE ROOT;0FOURTH ROOT;0PROPORTIONAL TO;0INFINITY",
    "0RIGHT ANGLE;0ANGLE;0MEASURED ANGLE;0SPHERICAL ANGLE;0DIVIDES;1OES NOT DIVIDE;0PARALLEL TO",
    "0NOT PARALLEL TO;0LOGICAL AND;8OR;0INTERSECTION;0UNION;0INTEGRAL;0DOUBLE INTEGRAL",
    "0TRIPLE INTEGRAL;0CONTOUR INTEGRAL;0SURFACE INTEGRAL;0VOLUME INTEGRAL;0CLOCKWISE INTEGRAL",
    "ACONTOUR INTEGRAL;0ANTICLOCKWISE CONTOUR INTEGRAL;0THEREFORE;0BECAUSE;0RATIO;0PROPORTION",
    "0DOT MINUS;0EXCESS;0GEOMETRIC PROPORTION;0HOMOTHETIC;0TILDE OPERATOR;0REVERSED TILDE",
    "0INVERTED LAZY S;0SINE WAVE;0WREATH PRODUCT;0NOT TILDE;0MINUS TILDE;0ASYMPTOTICALLY EQUAL TO",
    "0NOT ASYMPTOTICALLY EQUAL TO;0APPROXIMATELY EQUAL TO;EBUT NOT ACTUALLY EQUAL TO",
    "0NEITHER APPROXIMATELY NOR ACTUALLY EQUAL TO;0ALMOST EQUAL TO;0NOT ALMOST EQUAL TO",
    "0ALMOST EQUAL OR EQUAL TO;0TRIPLE TILDE;0ALL EQUAL TO;0EQUIVALENT TO",
    "0GEOMETRICALLY EQUIVALENT TO;0DIFFERENCE BETWEEN;0APPROACHES THE LIMIT",
    "0GEOMETRICALLY EQUAL TO;0APPROXIMATELY EQUAL TO OR THE IMAGE OF",
    "0IMAGE OF OR APPROXIMATELY EQUAL TO;0COLON EQUALS;0EQUALS COLON;0RING IN EQUAL TO;5EQUAL TO",
    "0CORRESPONDS TO;0ESTIMATES;1QUIANGULAR TO;0STAR EQUALS;0DELTA EQUAL TO",
    "0EQUAL TO BY DEFINITION;0MEASURED BY;0QUESTIONED EQUAL TO;0NOT EQUAL TO;0IDENTICAL TO",
    "0NOT IDENTICAL TO;0STRICTLY EQUIVALENT TO;0LESS-THAN OR EQUAL TO;0GREATER-THAN OR EQUAL TO",
    "0LESS-THAN OVER EQUAL TO;0GREATER-THAN OVER EQUAL TO;0LESS-THAN BUT NOT EQUAL TO",
    "0GREATER-THAN BUT NOT EQUAL TO;0MUCH LESS-THAN;5GREATER-THAN;0BETWEEN;0NOT EQUIVALENT TO",
    "4LESS-THAN;4GREATER-THAN;1EITHER LESS-THAN NOR EQUAL TO;8GREATER-THAN NOR EQUAL TO",
    "0LESS-THAN OR EQUIVALENT TO;0GREATER-THAN OR EQUIVALENT TO",
    "0NEITHER LESS-THAN NOR EQUIVALENT TO;8GREATER-THAN NOR EQUIVALENT TO",
    "0LESS-THAN OR GREATER-THAN;0GREATER-THAN OR LESS-THAN;0NEITHER LESS-THAN NOR GREATER-THAN",
    "8GREATER-THAN NOR LESS-THAN;0PRECEDES;0SUCCEEDS;0PRECEDES OR EQUAL TO;0SUCCEEDS OR EQUAL TO",
    "0PRECEDES OR EQUIVALENT TO;0SUCCEEDS OR EQUIVALENT TO;0DOES NOT PRECEDE;9SUCCEED;0SUBSET OF",
    "2PERSET OF;0NOT A SUBSET OF;8PERSET OF;0SUBSET OF OR EQUAL TO;2PERSET OF OR EQUAL TO",
    "0NEITHER A SUBSET OF NOR EQUAL TO;CPERSET OF NOR EQUAL TO;0SUBSET OF WITH NOT EQUAL TO",
    "2PERSET OF WITH NOT EQUAL TO;0MULTISET;8 MULTIPLICATION;9UNION;0SQUARE IMAGE OF;7ORIGINAL OF",
    "7IMAGE OF OR EQUAL TO;7ORIGINAL OF OR EQUAL TO;7CAP;8UP;0CIRCLED PLUS;8MINUS;8TIMES",
    "8DIVISION SLASH;9OT OPERATOR;8RING OPERATOR;8ASTERISK OPERATOR;8EQUALS;8DASH;0SQUARED PLUS",
    "8MINUS;8TIMES;8DOT OPERATOR;0RIGHT TACK;0LEFT TACK;0DOWN TACK;0UP TACK;0ASSERTION;0MODELS",
    "0TRUE;0FORCES;0TRIPLE VERTICAL BAR RIGHT TURNSTILE",
    "0DOUBLE VERTICAL BAR DOUBLE RIGHT TURNSTILE;2ES NOT PROVE;0NOT TRUE;0DOES NOT FORCE",
    "0NEGATED DOUBLE VERTICAL BAR DOUBLE RIGHT TURNSTILE;0PRECEDES UNDER RELATION",
    "0SUCCEEDS UNDER RELATION;0NORMAL SUBGROUP OF;0CONTAINS AS NORMAL SUBGROUP",
    "0NORMAL SUBGROUP OF OR EQUAL TO;0CONTAINS AS NORMAL SUBGROUP OR EQUAL TO;0ORIGINAL OF",
    "0IMAGE OF;0MULTIMAP;0HERMITIAN CONJUGATE MATRIX;0INTERCALATE;0XOR;0NAND;1OR",
    "0RIGHT ANGLE WITH ARC;6TRIANGLE;0N-ARY LOGICAL AND;EOR;6INTERSECTION;6UNION",
    "0DIAMOND OPERATOR;1OT OPERATOR;0STAR OPERATOR;0DIVISION TIMES;0BOWTIE",
    "0LEFT NORMAL FACTOR SEMIDIRECT PRODUCT;0RIGHT NORMAL FACTOR SEMIDIRECT PRODUCT",
    "0LEFT SEMIDIRECT PRODUCT;0RIGHT SEMIDIRECT PRODUCT;1EVERSED TILDE EQUALS;0CURLY LOGICAL OR",
    "EAND;0DOUBLE SUBSET;9PERSET;7INTERSECTION;7UNION;0PITCHFORK;0EQUAL AND PARALLEL TO",
    "0LESS-THAN WITH DOT;0GREATER-THAN WITH DOT;0VERY MUCH LESS-THAN;AGREATER-THAN",
    "0LESS-THAN EQUAL TO OR GREATER-THAN;0GREATER-THAN EQUAL TO OR LESS-THAN",
    "0EQUAL TO OR LESS-THAN;CGREATER-THAN;CPRECEDES;CSUCCEEDS;0DOES NOT PRECEDE OR EQUAL",
    "9SUCCEED OR EQUAL;0NOT SQUARE IMAGE OF OR EQUAL TO;BORIGINAL OF OR EQUAL TO",
    "0SQUARE IMAGE OF OR NOT EQUAL TO;7ORIGINAL OF OR NOT EQUAL TO",
    "0LESS-THAN BUT NOT EQUIVALENT TO;0GREATER-THAN BUT NOT EQUIVALENT TO",
    "0PRECEDES BUT NOT EQUIVALENT TO;0SUCCEEDS BUT NOT EQUIVALENT TO;0NOT NORMAL SUBGROUP OF",
    "0DOES NOT CONTAIN AS NORMAL SUBGROUP;0NOT NORMAL SUBGROUP OF OR EQUAL TO",
    "0DOES NOT CONTAIN AS NORMAL SUBGROUP OR EQUAL;0VERTICAL ELLIPSIS",
    "0MIDLINE HORIZONTAL ELLIPSIS;0UP RIGHT DIAGONAL ELLIPSIS;0DOWN RIGHT DIAGONAL ELLIPSIS",
    "0ELEMENT OF WITH LONG HORIZONTAL STROKE;GVERTICAL BAR AT END OF HORIZONTAL STROKE",
    "0SMALL ELEMENT OF WITH VERTICAL BAR AT END OF HORIZONTAL STROKE;0ELEMENT OF WITH DOT ABOVE",
    "GOVERBAR;0SMALL ELEMENT OF WITH OVERBAR;0ELEMENT OF WITH UNDERBAR;GTWO HORIZONTAL STROKES",
    "0CONTAINS WITH LONG HORIZONTAL STROKE;EVERTICAL BAR AT END OF HORIZONTAL STROKE",
    "0SMALL CONTAINS WITH VERTICAL BAR AT END OF HORIZONTAL STROKE;0CONTAINS WITH OVERBAR",
    "0SMALL CONTAINS WITH OVERBAR;0Z NOTATION BAG MEMBERSHIP;0DIAMETER SIGN;0ELECTRIC ARROW",
    "0HOUSE;0UP ARROWHEAD;0DOWN ARROWHEAD;0PROJECTIVE;1ERSPECTIVE;0WAVY LINE;0LEFT CEILING",
    "0RIGHT CEILING;0LEFT FLOOR;0RIGHT FLOOR;0BOTTOM RIGHT CROP;7LEFT CROP;0TOP RIGHT CROP",
    "4LEFT CROP;0REVERSED NOT SIGN;0SQUARE LOZENGE;0ARC;0SEGMENT;2CTOR;0TELEPHONE RECORDER",
    "0POSITION INDICATOR;0VIEWDATA SQUARE;0PLACE OF INTEREST SIGN;0TURNED NOT SIGN;0WATCH",
    "0HOURGLASS;0TOP LEFT CORNER;4RIGHT CORNER;0BOTTOM LEFT CORNER;7RIGHT CORNER",
    "0TOP HALF INTEGRAL;0BOTTOM HALF INTEGRAL;0FROWN;0SMILE",
    "0UP ARROWHEAD BETWEEN TWO HORIZONTAL BARS;0OPTION KEY;0ERASE TO THE RIGHT",
    "0X IN A RECTANGLE BOX;0KEYBOARD;0LEFT-POINTING ANGLE BRACKET;0RIGHT-POINTING ANGLE BRACKET",
    "0ERASE TO THE LEFT;0BENZENE RING;0CYLINDRICITY;0ALL AROUND-PROFILE;0SYMMETRY;0TOTAL RUNOUT",
    "0DIMENSION ORIGIN;0CONICAL TAPER;0SLOPE;0COUNTERBORE;7SINK;0APL FUNCTIONAL SYMBOL I-BEAM",
    "MSQUISH QUAD;MQUAD EQUAL;RDIVIDE;TAMOND;RJOT;RCIRCLE;MCIRCLE STILE;TJOT;MSLASH BAR",
    "MBACKSLASH BAR;MQUAD SLASH;RBACKSLASH;RLESS-THAN;RGREATER-THAN;MLEFTWARDS VANE",
    "MRIGHTWARDS VANE;MQUAD LEFTWARDS ARROW;RRIGHTWARDS ARROW;MCIRCLE BACKSLASH",
    "MDOWN TACK UNDERBAR;NELTA STILE;MQUAD DOWN CARET;SELTA;MDOWN TACK JOT;MUPWARDS VANE",
    "MQUAD UPWARDS ARROW;MUP TACK OVERBAR;MDEL STILE;MQUAD UP CARET;RDEL;MUP TACK JOT",
    "MDOWNWARDS VANE;MQUAD DOWNWARDS ARROW;OOTE UNDERBAR;MDELTA UNDERBAR;NIAMOND UNDERBAR",
    "MJOT UNDERBAR;MCIRCLE UNDERBAR;MUP SHOE JOT;MQUOTE QUAD;MCIRCLE STAR;MQUAD COLON",
    "MUP TACK DIAERESIS;MDEL DIAERESIS;MSTAR DIAERESIS;MJOT DIAERESIS;MCIRCLE DIAERESIS",
    "MDOWN SHOE STILE;MLEFT SHOE STILE;MTILDE DIAERESIS;MGREATER-THAN DIAERESIS;MCOMMA BAR",
    "MDEL TILDE;MZILDE;MSTILE TILDE;NEMICOLON UNDERBAR;MQUAD NOT EQUAL;RQUESTION",
    "MDOWN CARET TILDE;MUP CARET TILDE;MIOTA;MRHO;MOMEGA;MALPHA UNDERBAR;MEPSILON UNDERBAR",
    "MIOTA UNDERBAR;MOMEGA UNDERBAR;MALPHA;0NOT CHECK MARK",
    "0RIGHT ANGLE WITH DOWNWARDS ZIGZAG ARROW;0SHOULDERED OPEN BOX;0BELL SYMBOL",
    "0VERTICAL LINE WITH MIDDLE DOT;0INSERTION SYMBOL;0CONTINUOUS UNDERLINE SYMBOL",
    "0DISCONTINUOUS UNDERLINE SYMBOL;0EMPHASIS SYMBOL;0COMPOSITION SYMBOL",
    "0WHITE SQUARE WITH CENTRE VERTICAL LINE;0ENTER SYMBOL;0ALTERNATIVE KEY SYMBOL;0HELM SYMBOL",
    "0CIRCLED HORIZONTAL BAR WITH NOTCH;8TRIANGLE DOWN;0BROKEN CIRCLE WITH NORTHWEST ARROW",
    "0UNDO SYMBOL;0MONOSTABLE SYMBOL;0HYSTERESIS SYMBOL;0OPEN-CIRCUIT-OUTPUT H-TYPE SYMBOL",
    "KL-TYPE SYMBOL;0PASSIVE-PULL-DOWN-OUTPUT SYMBOL;DUP-OUTPUT SYMBOL",
    "0DIRECT CURRENT SYMBOL FORM TWO;0SOFTWARE-FUNCTION SYMBOL;0APL FUNCTIONAL SYMBOL QUAD",
    "0DECIMAL SEPARATOR KEY SYMBOL;0PREVIOUS PAGE;0NEXT PAGE;0PRINT SCREEN SYMBOL",
    "0CLEAR SCREEN SYMBOL;0LEFT PARENTHESIS UPPER HOOK;HEXTENSION;HLOWER HOOK",
    "0RIGHT PARENTHESIS UPPER HOOK;IEXTENSION;ILOWER HOOK;0LEFT SQUARE BRACKET UPPER CORNER",
    "KEXTENSION;KLOWER CORNER;0RIGHT SQUARE BRACKET UPPER CORNER;LEXTENSION;LLOWER CORNER",
    "0LEFT CURLY BRACKET UPPER HOOK;JMIDDLE PIECE;JLOWER HOOK;0CURLY BRACKET EXTENSION",
    "0RIGHT CURLY BRACKET UPPER HOOK;KMIDDLE PIECE;KLOWER HOOK;0INTEGRAL EXTENSION",
    "0HORIZONTAL LINE EXTENSION;0UPPER LEFT OR LOWER RIGHT CURLY BRACKET SECTION",
    "6RIGHT OR LOWER LEFT CURLY BRACKET SECTION;0SUMMATION TOP;ABOTTOM;0TOP SQUARE BRACKET",
    "0BOTTOM SQUARE BRACKET;L OVER TOP SQUARE BRACKET;0RADICAL SYMBOL BOTTOM",
    "0LEFT VERTICAL BOX LINE;0RIGHT VERTICAL BOX LINE;0HORIZONTAL SCAN LINE-1;L3;L7;L9",
    "0DENTISTRY SYMBOL LIGHT VERTICAL AND TOP RIGHT;aBOTTOM RIGHT;WWITH CIRCLE",
    "NDOWN AND HORIZONTAL WITH CIRCLE;NUP AND HORIZONTAL WITH CIRCLE;NVERTICAL WITH TRIANGLE",
    "NDOWN AND HORIZONTAL WITH TRIANGLE;NUP AND HORIZONTAL WITH TRIANGLE;NVERTICAL AND WAVE",
    "NDOWN AND HORIZONTAL WITH WAVE;NUP AND HORIZONTAL WITH WAVE;NDOWN AND HORIZONTAL",
    "NUP AND HORIZONTAL;NVERTICAL AND TOP LEFT;aBOTTOM LEFT;0SQUARE FOOT;0RETURN SYMBOL",
    "0EJECT SYMBOL;0VERTICAL LINE EXTENSION;0METRICAL BREVE;9LONG OVER SHORT;9SHORT OVER LONG",
    "9LONG OVER TWO SHORTS;9TWO SHORTS OVER LONG;KJOINED;ARISEME;AETRASEME;9PENTASEME",
    "0EARTH GROUND;0FUSE;0TOP PARENTHESIS;0BOTTOM PARENTHESIS;0TOP CURLY BRACKET",
    "0BOTTOM CURLY BRACKET;0TOP TORTOISE SHELL BRACKET;0BOTTOM TORTOISE SHELL BRACKET",
    "0WHITE TRAPEZIUM;0BENZENE RING WITH CIRCLE;0STRAIGHTNESS;0FLATNESS;0AC CURRENT",
    "0ELECTRICAL INTERSECTION;0DECIMAL EXPONENT SYMBOL;0BLACK RIGHT-POINTING DOUBLE TRIANGLE",
    "6LEFT-POINTING DOUBLE TRIANGLE;6UP-POINTING DOUBLE TRIANGLE;6DOWN-POINTING DOUBLE TRIANGLE",
    "6RIGHT-POINTING DOUBLE TRIANGLE WITH VERTICAL BAR",
    "6LEFT-POINTING DOUBLE TRIANGLE WITH VERTICAL BAR",
    "6RIGHT-POINTING TRIANGLE WITH DOUBLE VERTICAL BAR;0ALARM CLOCK;0STOPWATCH;0TIMER CLOCK",
    "0HOURGLASS WITH FLOWING SAND;0BLACK MEDIUM LEFT-POINTING TRIANGLE;DRIGHT-POINTING TRIANGLE",
    "DUP-POINTING TRIANGLE;DDOWN-POINTING TRIANGLE;0DOUBLE VERTICAL BAR;0BLACK SQUARE FOR STOP",
    "6CIRCLE FOR RECORD;0POWER SYMBOL;6ON-OFF SYMBOL;8 SYMBOL;6SLEEP SYMBOL;0OBSERVER EYE SYMBOL",
    "0SYMBOL FOR NULL;BSTART OF HEADING;KTEXT;BEND OF TEXT;JRANSMISSION;DQUIRY;BACKNOWLEDGE;BBELL",
    "CACKSPACE;BHORIZONTAL TABULATION;BLINE FEED;BVERTICAL TABULATION;BFORM FEED;BCARRIAGE RETURN",
    "BSHIFT OUT;HIN;BDATA LINK ESCAPE;CEVICE CONTROL ONE;QTWO;RHREE;QFOUR;BNEGATIVE ACKNOWLEDGE",
    "BSYNCHRONOUS IDLE;BEND OF TRANSMISSION BLOCK;BCANCEL;BEND OF MEDIUM;BSUBSTITUTE;BESCAPE",
    "BFILE SEPARATOR;BGROUP SEPARATOR;BRECORD SEPARATOR;BUNIT SEPARATOR;BSPACE;BDELETE",
    "0BLANK SYMBOL;0OPEN BOX;0SYMBOL FOR NEWLINE;BDELETE FORM TWO;BSUBSTITUTE FORM TWO",
    "2440=0OCR HOOK;4CHAIR;4FORK;4INVERTED FORK;4BELT BUCKLE;5OW TIE;5RANCH BANK IDENTIFICATION",
    "4AMOUNT OF CHECK;4DASH;4CUSTOMER ACCOUNT NUMBER;4DOUBLE BACKSLASH;2460=0CIRCLED DIGIT ONE",
    "ETWO;FHREE;EFOUR;FIVE;ESIX;FEVEN;EEIGHT;ENINE;8NUMBER TEN;FELEVEN;FTWELVE;GHIRTEEN;FFOURTEEN",
    "GIFTEEN;FSIXTEEN;GEVENTEEN;FEIGHTEEN;FNINETEEN;FTWENTY;0PARENTHESIZED DIGIT ONE;KTWO;LHREE",
    "KFOUR;LIVE;KSIX;LEVEN;KEIGHT;KNINE;ENUMBER TEN;LELEVEN;LTWELVE;MHIRTEEN;LFOURTEEN;MIFTEEN",
    "LSIXTEEN;MEVENTEEN;LEIGHTEEN;LNINETEEN;LTWENTY;0DIGIT ONE FULL STOP;6TWO FULL STOP",
    "7HREE FULL STOP;6FOUR FULL STOP;7IVE FULL STOP;6SIX FULL STOP;7EVEN FULL STOP",
    "6EIGHT FULL STOP;6NINE FULL STOP;0NUMBER TEN FULL STOP;7ELEVEN FULL STOP;7TWELVE FULL STOP",
    "8HIRTEEN FULL STOP;7FOURTEEN FULL STOP;8IFTEEN FULL STOP;7SIXTEEN FULL STOP",
    "8EVENTEEN FULL STOP;7EIGHTEEN FULL STOP;7NINETEEN FULL STOP;7TWENTY FULL STOP",
    "0PARENTHESIZED LATIN SMALL LETTER A;XB;XC;XD;XE;XF;XG;XH;XI;XJ;XK;XL;XM;XN;XO;XP;XQ;XR;XS;XT",
    "XU;XV;XW;XX;XY;XZ;0CIRCLED LATIN CAPITAL LETTER A;TB;TC;TD;TE;TF;TG;TH;TI;TJ;TK;TL;TM;TN;TO",
    "TP;TQ;TR;TS;TT;TU;TV;TW;TX;TY;TZ;ESMALL LETTER A;RB;RC;RD;RE;RF;RG;RH;RI;RJ;RK;RL;RM;RN;RO",
    "RP;RQ;RR;RS;RT;RU;RV;RW;RX;RY;RZ;8DIGIT ZERO;0NEGATIVE CIRCLED NUMBER ELEVEN;OTWELVE",
    "PHIRTEEN;OFOURTEEN;PIFTEEN;OSIXTEEN;PEVENTEEN;OEIGHTEEN;ONINETEEN;OTWENTY",
    "0DOUBLE CIRCLED DIGIT ONE;LTWO;MHREE;LFOUR;MIVE;LSIX;MEVEN;LEIGHT;LNINE;FNUMBER TEN",
    "0NEGATIVE CIRCLED DIGIT ZERO;0BOX DRAWINGS LIGHT HORIZONTAL;DHEAVY HORIZONTAL",
    "DLIGHT VERTICAL;DHEAVY VERTICAL;DLIGHT TRIPLE DASH HORIZONTAL;DHEAVY TRIPLE DASH HORIZONTAL",
    "DLIGHT TRIPLE DASH VERTICAL;DHEAVY TRIPLE DASH VERTICAL;DLIGHT QUADRUPLE DASH HORIZONTAL",
    "DHEAVY QUADRUPLE DASH HORIZONTAL;DLIGHT QUADRUPLE DASH VERTICAL",
    "DHEAVY QUADRUPLE DASH VERTICAL;DLIGHT DOWN AND RIGHT;DDOWN LIGHT AND RIGHT HEAVY",
    "IHEAVY AND RIGHT LIGHT;DHEAVY DOWN AND RIGHT;DLIGHT DOWN AND LEFT;DDOWN LIGHT AND LEFT HEAVY",
    "IHEAVY AND LEFT LIGHT;DHEAVY DOWN AND LEFT;DLIGHT UP AND RIGHT;DUP LIGHT AND RIGHT HEAVY",
    "GHEAVY AND RIGHT LIGHT;DHEAVY UP AND RIGHT;DLIGHT UP AND LEFT;DUP LIGHT AND LEFT HEAVY",
    "GHEAVY AND LEFT LIGHT;DHEAVY UP AND LEFT;DLIGHT VERTICAL AND RIGHT",
    "DVERTICAL LIGHT AND RIGHT HEAVY;DUP HEAVY AND RIGHT DOWN LIGHT",
    "DDOWN HEAVY AND RIGHT UP LIGHT;DVERTICAL HEAVY AND RIGHT LIGHT",
    "DDOWN LIGHT AND RIGHT UP HEAVY;DUP LIGHT AND RIGHT DOWN HEAVY;DHEAVY VERTICAL AND RIGHT",
    "DLIGHT VERTICAL AND LEFT;DVERTICAL LIGHT AND LEFT HEAVY;DUP HEAVY AND LEFT DOWN LIGHT",
    "DDOWN HEAVY AND LEFT UP LIGHT;DVERTICAL HEAVY AND LEFT LIGHT;DDOWN LIGHT AND LEFT UP HEAVY",
    "DUP LIGHT AND LEFT DOWN HEAVY;DHEAVY VERTICAL AND LEFT;DLIGHT DOWN AND HORIZONTAL",
    "EEFT HEAVY AND RIGHT DOWN LIGHT;DRIGHT HEAVY AND LEFT DOWN LIGHT",
    "DDOWN LIGHT AND HORIZONTAL HEAVY;IHEAVY AND HORIZONTAL LIGHT",
    "DRIGHT LIGHT AND LEFT DOWN HEAVY;DLEFT LIGHT AND RIGHT DOWN HEAVY;DHEAVY DOWN AND HORIZONTAL",
    "DLIGHT UP AND HORIZONTAL;EEFT HEAVY AND RIGHT UP LIGHT;DRIGHT HEAVY AND LEFT UP LIGHT",
    "DUP LIGHT AND HORIZONTAL HEAVY;GHEAVY AND HORIZONTAL LIGHT;DRIGHT LIGHT AND LEFT UP HEAVY",
    "DLEFT LIGHT AND RIGHT UP HEAVY;DHEAVY UP AND HORIZONTAL;DLIGHT VERTICAL AND HORIZONTAL",
    "EEFT HEAVY AND RIGHT VERTICAL LIGHT;DRIGHT HEAVY AND LEFT VERTICAL LIGHT",
    "DVERTICAL LIGHT AND HORIZONTAL HEAVY;DUP HEAVY AND DOWN HORIZONTAL LIGHT",
    "DDOWN HEAVY AND UP HORIZONTAL LIGHT;DVERTICAL HEAVY AND HORIZONTAL LIGHT",
    "DLEFT UP HEAVY AND RIGHT DOWN LIGHT;DRIGHT UP HEAVY AND LEFT DOWN LIGHT",
    "DLEFT DOWN HEAVY AND RIGHT UP LIGHT;DRIGHT DOWN HEAVY AND LEFT UP LIGHT",
    "DDOWN LIGHT AND UP HORIZONTAL HEAVY;DUP LIGHT AND DOWN HORIZONTAL HEAVY",
    "DRIGHT LIGHT AND LEFT VERTICAL HEAVY;DLEFT LIGHT AND RIGHT VERTICAL HEAVY",
    "DHEAVY VERTICAL AND HORIZONTAL;DLIGHT DOUBLE DASH HORIZONTAL;DHEAVY DOUBLE DASH HORIZONTAL",
    "DLIGHT DOUBLE DASH VERTICAL;DHEAVY DOUBLE DASH VERTICAL;DDOUBLE HORIZONTAL;KVERTICAL",
    "FWN SINGLE AND RIGHT DOUBLE;IDOUBLE AND RIGHT SINGLE;FUBLE DOWN AND RIGHT",
    "FWN SINGLE AND LEFT DOUBLE;IDOUBLE AND LEFT SINGLE;FUBLE DOWN AND LEFT",
    "DUP SINGLE AND RIGHT DOUBLE;GDOUBLE AND RIGHT SINGLE;DDOUBLE UP AND RIGHT",
    "DUP SINGLE AND LEFT DOUBLE;GDOUBLE AND LEFT SINGLE;DDOUBLE UP AND LEFT",
    "DVERTICAL SINGLE AND RIGHT DOUBLE;MDOUBLE AND RIGHT SINGLE;DDOUBLE VERTICAL AND RIGHT",
    "DVERTICAL SINGLE AND LEFT DOUBLE;MDOUBLE AND LEFT SINGLE;DDOUBLE VERTICAL AND LEFT",
    "FWN SINGLE AND HORIZONTAL DOUBLE;IDOUBLE AND HORIZONTAL SINGLE;FUBLE DOWN AND HORIZONTAL",
    "DUP SINGLE AND HORIZONTAL DOUBLE;GDOUBLE AND HORIZONTAL SINGLE;DDOUBLE UP AND HORIZONTAL",
    "DVERTICAL SINGLE AND HORIZONTAL DOUBLE;MDOUBLE AND HORIZONTAL SINGLE",
    "DDOUBLE VERTICAL AND HORIZONTAL;DLIGHT ARC DOWN AND RIGHT;WLEFT;NUP AND LEFT;URIGHT",
    "JDIAGONAL UPPER RIGHT TO LOWER LEFT;YLEFT TO LOWER RIGHT;SCROSS;JLEFT;JUP;JRIGHT;JDOWN",
    "DHEAVY LEFT;JUP;JRIGHT;JDOWN;DLIGHT LEFT AND HEAVY RIGHT;JUP AND HEAVY DOWN",
    "DHEAVY LEFT AND LIGHT RIGHT;JUP AND LIGHT DOWN;0UPPER HALF BLOCK;0LOWER ONE EIGHTH BLOCK",
    "AQUARTER BLOCK;6THREE EIGHTHS BLOCK;6HALF BLOCK;6FIVE EIGHTHS BLOCK;6THREE QUARTERS BLOCK",
    "6SEVEN EIGHTHS BLOCK;0FULL BLOCK;0LEFT SEVEN EIGHTHS BLOCK;5THREE QUARTERS BLOCK",
    "5FIVE EIGHTHS BLOCK;5HALF BLOCK;5THREE EIGHTHS BLOCK;5ONE QUARTER BLOCK;9EIGHTH BLOCK",
    "0RIGHT HALF BLOCK;0LIGHT SHADE;0MEDIUM SHADE;0DARK SHADE;0UPPER ONE EIGHTH BLOCK",
    "0RIGHT ONE EIGHTH BLOCK;0QUADRANT LOWER LEFT;FRIGHT;9UPPER LEFT",
    "J AND LOWER LEFT AND LOWER RIGHT;URIGHT;OUPPER RIGHT AND LOWER LEFT;kRIGHT;FRIGHT",
    "K AND LOWER LEFT;Z AND LOWER RIGHT;0BLACK SQUARE;0WHITE SQUARE;C WITH ROUNDED CORNERS",
    "DCONTAINING BLACK SMALL SQUARE;0SQUARE WITH HORIZONTAL FILL;CVERTICAL FILL",
    "CORTHOGONAL CROSSHATCH FILL;CUPPER LEFT TO LOWER RIGHT FILL;IRIGHT TO LOWER LEFT FILL",
    "CDIAGONAL CROSSHATCH FILL;0BLACK SMALL SQUARE;0WHITE SMALL SQUARE;0BLACK RECTANGLE",
    "0WHITE RECTANGLE;0BLACK VERTICAL RECTANGLE;0WHITE VERTICAL RECTANGLE;0BLACK PARALLELOGRAM",
    "0WHITE PARALLELOGRAM;0BLACK UP-POINTING TRIANGLE;0WHITE UP-POINTING TRIANGLE",
    "0BLACK UP-POINTING SMALL TRIANGLE;0WHITE UP-POINTING SMALL TRIANGLE",
    "0BLACK RIGHT-POINTING TRIANGLE;0WHITE RIGHT-POINTING TRIANGLE",
    "0BLACK RIGHT-POINTING SMALL TRIANGLE;0WHITE RIGHT-POINTING SMALL TRIANGLE",
    "0BLACK RIGHT-POINTING POINTER;0WHITE RIGHT-POINTING POINTER;0BLACK DOWN-POINTING TRIANGLE",
    "0WHITE DOWN-POINTING TRIANGLE;0BLACK DOWN-POINTING SMALL TRIANGLE",
    "0WHITE DOWN-POINTING SMALL TRIANGLE;0BLACK LEFT-POINTING TRIANGLE",
    "0WHITE LEFT-POINTING TRIANGLE;0BLACK LEFT-POINTING SMALL TRIANGLE",
    "0WHITE LEFT-POINTING SMALL TRIANGLE;0BLACK LEFT-POINTING POINTER",
    "0WHITE LEFT-POINTING POINTER;0BLACK DIAMOND;0WHITE DIAMOND;D CONTAINING BLACK SMALL DIAMOND",
    "0FISHEYE;0LOZENGE;0WHITE CIRCLE;0DOTTED CIRCLE;0CIRCLE WITH VERTICAL FILL;0BULLSEYE",
    "1LACK CIRCLE;0CIRCLE WITH LEFT HALF BLACK;CRIGHT HALF BLACK;CLOWER HALF BLACK",
    "CUPPER HALF BLACK;IRIGHT QUADRANT BLACK;CALL BUT UPPER LEFT QUADRANT BLACK",
    "0LEFT HALF BLACK CIRCLE;0RIGHT HALF BLACK CIRCLE;0INVERSE BULLET;8WHITE CIRCLE",
    "0UPPER HALF INVERSE WHITE CIRCLE;0LOWER HALF INVERSE WHITE CIRCLE",
    "0UPPER LEFT QUADRANT CIRCULAR ARC;6RIGHT QUADRANT CIRCULAR ARC",
    "0LOWER RIGHT QUADRANT CIRCULAR ARC;6LEFT QUADRANT CIRCULAR ARC;0UPPER HALF CIRCLE",
    "0LOWER HALF CIRCLE;0BLACK LOWER RIGHT TRIANGLE;CLEFT TRIANGLE;6UPPER LEFT TRIANGLE",
    "CRIGHT TRIANGLE;0WHITE BULLET;0SQUARE WITH LEFT HALF BLACK;CRIGHT HALF BLACK",
    "CUPPER LEFT DIAGONAL HALF BLACK;CLOWER RIGHT DIAGONAL HALF BLACK",
    "0WHITE SQUARE WITH VERTICAL BISECTING LINE;6UP-POINTING TRIANGLE WITH DOT",
    "0UP-POINTING TRIANGLE WITH LEFT HALF BLACK;QRIGHT HALF BLACK;0LARGE CIRCLE",
    "0WHITE SQUARE WITH UPPER LEFT QUADRANT;ILOWER LEFT QUADRANT;ORIGHT QUADRANT",
    "IUPPER RIGHT QUADRANT;6CIRCLE WITH UPPER LEFT QUADRANT;ILOWER LEFT QUADRANT;ORIGHT QUADRANT",
    "IUPPER RIGHT QUADRANT;0UPPER LEFT TRIANGLE;6RIGHT TRIANGLE;0LOWER LEFT TRIANGLE",
    "0WHITE MEDIUM SQUARE;0BLACK MEDIUM SQUARE;0WHITE MEDIUM SMALL SQUARE",
    "0BLACK MEDIUM SMALL SQUARE;0LOWER RIGHT TRIANGLE;0BLACK SUN WITH RAYS;0CLOUD;0UMBRELLA",
    "0SNOWMAN;0COMET;0BLACK STAR;0WHITE STAR;0LIGHTNING;0THUNDERSTORM;0SUN;0ASCENDING NODE",
    "0DESCENDING NODE;0CONJUNCTION;0OPPOSITION;0BLACK TELEPHONE;0WHITE TELEPHONE;0BALLOT BOX",
    "A WITH CHECK;GX;0SALTIRE;0UMBRELLA WITH RAIN DROPS;0HOT BEVERAGE;0WHITE SHOGI PIECE",
    "0BLACK SHOGI PIECE;0SHAMROCK;0REVERSED ROTATED FLORAL HEART BULLET",
    "0BLACK LEFT POINTING INDEX;6RIGHT POINTING INDEX;0WHITE LEFT POINTING INDEX",
    "6UP POINTING INDEX;6RIGHT POINTING INDEX;6DOWN POINTING INDEX;0SKULL AND CROSSBONES",
    "0CAUTION SIGN;0RADIOACTIVE SIGN;0BIOHAZARD SIGN;0CADUCEUS;0ANKH;0ORTHODOX CROSS;0CHI RHO",
    "1ROSS OF LORRAINE;9JERUSALEM;0STAR AND CRESCENT;0FARSI SYMBOL;0ADI SHAKTI;0HAMMER AND SICKLE",
    "0PEACE SYMBOL;0YIN YANG;0TRIGRAM FOR HEAVEN;CLAKE;CFIRE;CTHUNDER;CWIND;DATER;CMOUNTAIN",
    "CEARTH;0WHEEL OF DHARMA;2ITE FROWNING FACE;6SMILING FACE;0BLACK SMILING FACE",
    "0WHITE SUN WITH RAYS;0FIRST QUARTER MOON;0LAST QUARTER MOON;0MERCURY;0FEMALE SIGN;0EARTH",
    "0MALE SIGN;0JUPITER;0SATURN;0URANUS;0NEPTUNE;0PLUTO;0ARIES;0TAURUS;0GEMINI;0CANCER;0LEO",
    "0VIRGO;0LIBRA;0SCORPIUS;1AGITTARIUS;0CAPRICORN;0AQUARIUS;0PISCES;0WHITE CHESS KING;CQUEEN",
    "CROOK;CBISHOP;CKNIGHT;CPAWN;0BLACK CHESS KING;CQUEEN;CROOK;CBISHOP;CKNIGHT;CPAWN;6SPADE SUIT",
    "0WHITE HEART SUIT;6DIAMOND SUIT;0BLACK CLUB SUIT;0WHITE SPADE SUIT;0BLACK HEART SUIT",
    "6DIAMOND SUIT;0WHITE CLUB SUIT;0HOT SPRINGS;0QUARTER NOTE;0EIGHTH NOTE;0BEAMED EIGHTH NOTES",
    "7SIXTEENTH NOTES;0MUSIC FLAT SIGN;6NATURAL SIGN;6SHARP SIGN;0WEST SYRIAC CROSS",
    "0EAST SYRIAC CROSS;0UNIVERSAL RECYCLING SYMBOL;0RECYCLING SYMBOL FOR TYPE-1 PLASTICS",
    "Q2 PLASTICS;Q3 PLASTICS;Q4 PLASTICS;Q5 PLASTICS;Q6 PLASTICS;Q7 PLASTICS;LGENERIC MATERIALS",
    "0BLACK UNIVERSAL RECYCLING SYMBOL;0RECYCLED PAPER SYMBOL;0PARTIALLY-RECYCLED PAPER SYMBOL",
    "1ERMANENT PAPER SIGN;0WHEELCHAIR SYMBOL;0DIE FACE-1;92;93;94;95;96",
    "0WHITE CIRCLE WITH DOT RIGHT;ITWO DOTS;0BLACK CIRCLE WITH WHITE DOT RIGHT;ITWO WHITE DOTS",
    "0MONOGRAM FOR YANG;EIN;0DIGRAM FOR GREATER YANG;BLESSER YIN;JANG;BGREATER YIN;0WHITE FLAG",
    "0BLACK FLAG;0HAMMER AND PICK;0ANCHOR;0CROSSED SWORDS;0STAFF OF AESCULAPIUS;1CALES;0ALEMBIC",
    "0FLOWER;0GEAR;0STAFF OF HERMES;0ATOM SYMBOL;0FLEUR-DE-LIS;0OUTLINED WHITE STAR",
    "0THREE LINES CONVERGING RIGHT;NLEFT;0WARNING SIGN;0HIGH VOLTAGE SIGN;0DOUBLED FEMALE SIGN",
    "8MALE SIGN;0INTERLOCKED FEMALE AND MALE SIGN;0MALE AND FEMALE SIGN;5WITH STROKE SIGN",
    "HAND MALE AND FEMALE SIGN;0VERTICAL MALE WITH STROKE SIGN;0HORIZONTAL MALE WITH STROKE SIGN",
    "0MEDIUM WHITE CIRCLE;7BLACK CIRCLE;7SMALL WHITE CIRCLE;1ARRIAGE SYMBOL;0DIVORCE SYMBOL",
    "0UNMARRIED PARTNERSHIP SYMBOL;0COFFIN;0FUNERAL URN;0NEUTER;0CERES;0PALLAS;0JUNO;0VESTA",
    "0CHIRON;0BLACK MOON LILITH;0SEXTILE;2MISEXTILE;0QUINCUNX;0SESQUIQUADRATE;1OCCER BALL",
    "0BASEBALL;0SQUARED KEY;0WHITE DRAUGHTS MAN;FKING;0BLACK DRAUGHTS MAN;FKING",
    "0SNOWMAN WITHOUT SNOW;1UN BEHIND CLOUD;0RAIN;0BLACK SNOWMAN;0THUNDER CLOUD AND RAIN",
    "1URNED WHITE SHOGI PIECE;7BLACK SHOGI PIECE;0WHITE DIAMOND IN SQUARE;0CROSSING LANES",
    "0DISABLED CAR;0OPHIUCHUS;0PICK;0CAR SLIDING;0HELMET WITH WHITE CROSS;0CIRCLED CROSSING LANES",
    "1HAINS;0NO ENTRY;0ALTERNATE ONE-WAY LEFT WAY TRAFFIC;0BLACK TWO-WAY LEFT WAY TRAFFIC",
    "0WHITE TWO-WAY LEFT WAY TRAFFIC;0BLACK LEFT LANE MERGE;0WHITE LEFT LANE MERGE",
    "0DRIVE SLOW SIGN;0HEAVY WHITE DOWN-POINTING TRIANGLE;0LEFT CLOSED ENTRY;0SQUARED SALTIRE",
    "0FALLING DIAGONAL IN WHITE CIRCLE IN BLACK SQUARE;0BLACK TRUCK;0RESTRICTED LEFT ENTRY-1;M2",
    "0ASTRONOMICAL SYMBOL FOR URANUS;0HEAVY CIRCLE WITH STROKE AND TWO DOTS ABOVE;0PENTAGRAM",
    "0RIGHT-HANDED INTERLACED PENTAGRAM;0LEFT-HANDED INTERLACED PENTAGRAM;0INVERTED PENTAGRAM",
    "0BLACK CROSS ON SHIELD;0SHINTO SHRINE;0CHURCH;1ASTLE;0HISTORIC SITE;0GEAR WITHOUT HUB",
    "9 HANDLES;0MAP SYMBOL FOR LIGHTHOUSE;1OUNTAIN;0UMBRELLA ON GROUND;0FOUNTAIN;1LAG IN HOLE",
    "1ERRY;0SAILBOAT;1QUARE FOUR CORNERS;1KIER;0ICE SKATE;0PERSON WITH BALL;0TENT",
    "0JAPANESE BANK SYMBOL;0HEADSTONE GRAVEYARD SYMBOL;0FUEL PUMP;0CUP ON BLACK SQUARE",
    "0WHITE FLAG WITH HORIZONTAL MIDDLE BLACK STRIPE;0BLACK SAFETY SCISSORS;0UPPER BLADE SCISSORS",
    "0BLACK SCISSORS;0LOWER BLADE SCISSORS;0WHITE SCISSORS;6HEAVY CHECK MARK",
    "0TELEPHONE LOCATION SIGN;1APE DRIVE;0AIRPLANE;0ENVELOPE;0RAISED FIST;7HAND;0VICTORY HAND",
    "0WRITING HAND;0LOWER RIGHT PENCIL;0PENCIL;0UPPER RIGHT PENCIL;0WHITE NIB;0BLACK NIB",
    "0CHECK MARK;0HEAVY CHECK MARK;0MULTIPLICATION X;0HEAVY MULTIPLICATION X;0BALLOT X",
    "0HEAVY BALLOT X;0OUTLINED GREEK CROSS;0HEAVY GREEK CROSS;0OPEN CENTRE CROSS",
    "0HEAVY OPEN CENTRE CROSS;0LATIN CROSS;0SHADOWED WHITE LATIN CROSS;0OUTLINED LATIN CROSS",
    "0MALTESE CROSS;0STAR OF DAVID;0FOUR TEARDROP-SPOKED ASTERISK;5BALLOON-SPOKED ASTERISK",
    "0HEAVY FOUR BALLOON-SPOKED ASTERISK;0FOUR CLUB-SPOKED ASTERISK;0BLACK FOUR POINTED STAR",
    "0WHITE FOUR POINTED STAR;0SPARKLES;1TRESS OUTLINED WHITE STAR;0CIRCLED WHITE STAR",
    "0OPEN CENTRE BLACK STAR;0BLACK CENTRE WHITE STAR;0OUTLINED BLACK STAR",
    "0HEAVY OUTLINED BLACK STAR;0PINWHEEL STAR;0SHADOWED WHITE STAR;0HEAVY ASTERISK",
    "0OPEN CENTRE ASTERISK;0EIGHT SPOKED ASTERISK;6POINTED BLACK STAR;EPINWHEEL STAR",
    "0SIX POINTED BLACK STAR;0EIGHT POINTED RECTILINEAR BLACK STAR",
    "0HEAVY EIGHT POINTED RECTILINEAR BLACK STAR;0TWELVE POINTED BLACK STAR",
    "0SIXTEEN POINTED ASTERISK;0TEARDROP-SPOKED ASTERISK;0OPEN CENTRE TEARDROP-SPOKED ASTERISK",
    "0HEAVY TEARDROP-SPOKED ASTERISK;0SIX PETALLED BLACK AND WHITE FLORETTE;0BLACK FLORETTE",
    "0WHITE FLORETTE;0EIGHT PETALLED OUTLINED BLACK FLORETTE",
    "0CIRCLED OPEN CENTRE EIGHT POINTED STAR;0HEAVY TEARDROP-SPOKED PINWHEEL ASTERISK;0SNOWFLAKE",
    "0TIGHT TRIFOLIATE SNOWFLAKE;0HEAVY CHEVRON SNOWFLAKE;0SPARKLE;0HEAVY SPARKLE",
    "0BALLOON-SPOKED ASTERISK;0EIGHT TEARDROP-SPOKED PROPELLER ASTERISK",
    "0HEAVY EIGHT TEARDROP-SPOKED PROPELLER ASTERISK;0CROSS MARK;0SHADOWED WHITE CIRCLE",
    "0NEGATIVE SQUARED CROSS MARK;0LOWER RIGHT DROP-SHADOWED WHITE SQUARE",
    "0UPPER RIGHT DROP-SHADOWED WHITE SQUARE;0LOWER RIGHT SHADOWED WHITE SQUARE",
    "0UPPER RIGHT SHADOWED WHITE SQUARE;0BLACK QUESTION MARK ORNAMENT",
    "0WHITE QUESTION MARK ORNAMENT;6EXCLAMATION MARK ORNAMENT;0BLACK DIAMOND MINUS WHITE X",
    "0HEAVY EXCLAMATION MARK SYMBOL;0LIGHT VERTICAL BAR;0MEDIUM VERTICAL BAR;0HEAVY VERTICAL BAR",
    "6SINGLE TURNED COMMA QUOTATION MARK ORNAMENT;DCOMMA QUOTATION MARK ORNAMENT",
    "6DOUBLE TURNED COMMA QUOTATION MARK ORNAMENT;DCOMMA QUOTATION MARK ORNAMENT",
    "6LOW SINGLE COMMA QUOTATION MARK ORNAMENT;ADOUBLE COMMA QUOTATION MARK ORNAMENT",
    "0CURVED STEM PARAGRAPH SIGN ORNAMENT;0HEAVY EXCLAMATION MARK ORNAMENT",
    "6HEART EXCLAMATION MARK ORNAMENT;6BLACK HEART;0ROTATED HEAVY BLACK HEART BULLET",
    "0FLORAL HEART;0ROTATED FLORAL HEART BULLET;0MEDIUM LEFT PARENTHESIS ORNAMENT",
    "7RIGHT PARENTHESIS ORNAMENT;7FLATTENED LEFT PARENTHESIS ORNAMENT;HRIGHT PARENTHESIS ORNAMENT",
    "7LEFT-POINTING ANGLE BRACKET ORNAMENT;7RIGHT-POINTING ANGLE BRACKET ORNAMENT",
    "0HEAVY LEFT-POINTING ANGLE QUOTATION MARK ORNAMENT",
    "6RIGHT-POINTING ANGLE QUOTATION MARK ORNAMENT;6LEFT-POINTING ANGLE BRACKET ORNAMENT",
    "6RIGHT-POINTING ANGLE BRACKET ORNAMENT;0LIGHT LEFT TORTOISE SHELL BRACKET ORNAMENT",
    "6RIGHT TORTOISE SHELL BRACKET ORNAMENT;0MEDIUM LEFT CURLY BRACKET ORNAMENT",
    "7RIGHT CURLY BRACKET ORNAMENT;0DINGBAT NEGATIVE CIRCLED DIGIT ONE;VTWO;WHREE;VFOUR;WIVE;VSIX",
    "WEVEN;VEIGHT;VNINE;PNUMBER TEN;8CIRCLED SANS-SERIF DIGIT ONE;XTWO;YHREE;XFOUR;YIVE;XSIX",
    "YEVEN;XEIGHT;XNINE;RNUMBER TEN;8NEGATIVE CIRCLED SANS-SERIF DIGIT ONE;gTWO;hHREE;gFOUR;hIVE",
    "gSIX;hEVEN;gEIGHT;gNINE;aNUMBER TEN;0HEAVY WIDE-HEADED RIGHTWARDS ARROW;6PLUS SIGN",
    "6MINUS SIGN;6DIVISION SIGN;6SOUTH EAST ARROW;6RIGHTWARDS ARROW;6NORTH EAST ARROW",
    "0DRAFTING POINT RIGHTWARDS ARROW;0HEAVY ROUND-TIPPED RIGHTWARDS ARROW",
    "0TRIANGLE-HEADED RIGHTWARDS ARROW;0HEAVY TRIANGLE-HEADED RIGHTWARDS ARROW",
    "0DASHED TRIANGLE-HEADED RIGHTWARDS ARROW;0HEAVY DASHED TRIANGLE-HEADED RIGHTWARDS ARROW",
    "0BLACK RIGHTWARDS ARROW;0THREE-D TOP-LIGHTED RIGHTWARDS ARROWHEAD",
    "8BOTTOM-LIGHTED RIGHTWARDS ARROWHEAD;0BLACK RIGHTWARDS ARROWHEAD",
    "0HEAVY BLACK CURVED DOWNWARDS AND RIGHTWARDS ARROW;JUPWARDS AND RIGHTWARDS ARROW",
    "0SQUAT BLACK RIGHTWARDS ARROW;0HEAVY CONCAVE-POINTED BLACK RIGHTWARDS ARROW",
    "0RIGHT-SHADED WHITE RIGHTWARDS ARROW;0LEFT-SHADED WHITE RIGHTWARDS ARROW",
    "0BACK-TILTED SHADOWED WHITE RIGHTWARDS ARROW;0FRONT-TILTED SHADOWED WHITE RIGHTWARDS ARROW",
    "0HEAVY LOWER RIGHT-SHADOWED WHITE RIGHTWARDS ARROW",
    "6UPPER RIGHT-SHADOWED WHITE RIGHTWARDS ARROW",
    "0NOTCHED LOWER RIGHT-SHADOWED WHITE RIGHTWARDS ARROW;0CURLY LOOP",
    "0NOTCHED UPPER RIGHT-SHADOWED WHITE RIGHTWARDS ARROW;0CIRCLED HEAVY WHITE RIGHTWARDS ARROW",
    "0WHITE-FEATHERED RIGHTWARDS ARROW;0BLACK-FEATHERED SOUTH EAST ARROW;GRIGHTWARDS ARROW",
    "GNORTH EAST ARROW;0HEAVY BLACK-FEATHERED SOUTH EAST ARROW;MRIGHTWARDS ARROW",
    "MNORTH EAST ARROW;0TEARDROP-BARBED RIGHTWARDS ARROW;0HEAVY TEARDROP-SHANKED RIGHTWARDS ARROW",
    "0WEDGE-TAILED RIGHTWARDS ARROW;0HEAVY WEDGE-TAILED RIGHTWARDS ARROW",
    "0OPEN-OUTLINED RIGHTWARDS ARROW;0DOUBLE CURLY LOOP;0THREE DIMENSIONAL ANGLE",
    "0WHITE TRIANGLE CONTAINING SMALL WHITE TRIANGLE;0PERPENDICULAR;0OPEN SUBSET;7PERSET",
    "0LEFT S-SHAPED BAG DELIMITER;0RIGHT S-SHAPED BAG DELIMITER;0OR WITH DOT INSIDE",
    "0REVERSE SOLIDUS PRECEDING SUBSET;0SUPERSET PRECEDING SOLIDUS",
    "0VERTICAL BAR WITH HORIZONTAL STROKE;0MATHEMATICAL RISING DIAGONAL;0LONG DIVISION",
    "0MATHEMATICAL FALLING DIAGONAL;0SQUARED LOGICAL AND;GOR;0WHITE DIAMOND WITH CENTRED DOT",
    "0AND WITH DOT;0ELEMENT OF OPENING UPWARDS;0LOWER RIGHT CORNER WITH DOT",
    "0UPPER LEFT CORNER WITH DOT;0LEFT OUTER JOIN;0RIGHT OUTER JOIN;0FULL OUTER JOIN",
    "0LARGE UP TACK;6DOWN TACK;1EFT AND RIGHT DOUBLE TURNSTILE;FTACK;5MULTIMAP;1ONG RIGHT TACK",
    "5LEFT TACK;0UP TACK WITH CIRCLE ABOVE;0LOZENGE DIVIDED BY HORIZONTAL RULE",
    "0WHITE CONCAVE-SIDED DIAMOND;R WITH LEFTWARDS TICK;XRIGHTWARDS TICK",
    "6SQUARE WITH LEFTWARDS TICK;IRIGHTWARDS TICK;0MATHEMATICAL LEFT WHITE SQUARE BRACKET",
    "DRIGHT WHITE SQUARE BRACKET;DLEFT ANGLE BRACKET;DRIGHT ANGLE BRACKET",
    "DLEFT DOUBLE ANGLE BRACKET;DRIGHT DOUBLE ANGLE BRACKET;DLEFT WHITE TORTOISE SHELL BRACKET",
    "DRIGHT WHITE TORTOISE SHELL BRACKET;DLEFT FLATTENED PARENTHESIS;DRIGHT FLATTENED PARENTHESIS",
    "0UPWARDS QUADRUPLE ARROW;0DOWNWARDS QUADRUPLE ARROW;0ANTICLOCKWISE GAPPED CIRCLE ARROW",
    "0CLOCKWISE GAPPED CIRCLE ARROW;0RIGHT ARROW WITH CIRCLED PLUS;0LONG LEFTWARDS ARROW",
    "5RIGHTWARDS ARROW;5LEFT RIGHT ARROW;9WARDS DOUBLE ARROW;5RIGHTWARDS DOUBLE ARROW",
    "5LEFT RIGHT DOUBLE ARROW;9WARDS ARROW FROM BAR;5RIGHTWARDS ARROW FROM BAR",
    "5LEFTWARDS DOUBLE ARROW FROM BAR;5RIGHTWARDS DOUBLE ARROW FROM BAR;GSQUIGGLE ARROW"]

end RecordDocs.Text
