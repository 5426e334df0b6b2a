/-!
# Names of characters: patterns, further symbols and the scripts of East Asia

The names of the characters from 2800 to 9FFF, as of Unicode 14, in the short form of name tables.
-/

namespace RecordDocs.Text

def shapesNames : List String :=
  ["2800=0BRAILLE PATTERN BLANK;GDOTS-1;L2;L12;L3;L13;L23;L123;L4;L14;L24;L124;L34;L134;L234",
    "L1234;L5;L15;L25;L125;L35;L135;L235;L1235;L45;L145;L245;L1245;L345;L1345;L2345;L12345;L6;L16",
    "L26;L126;L36;L136;L236;L1236;L46;L146;L246;L1246;L346;L1346;L2346;L12346;L56;L156;L256;L1256",
    "L356;L1356;L2356;L12356;L456;L1456;L2456;L12456;L3456;L13456;L23456;L123456;L7;L17;L27;L127",
    "L37;L137;L237;L1237;L47;L147;L247;L1247;L347;L1347;L2347;L12347;L57;L157;L257;L1257;L357",
    "L1357;L2357;L12357;L457;L1457;L2457;L12457;L3457;L13457;L23457;L123457;L67;L167;L267;L1267",
    "L367;L1367;L2367;L12367;L467;L1467;L2467;L12467;L3467;L13467;L23467;L123467;L567;L1567;L2567",
    "L12567;L3567;L13567;L23567;L123567;L4567;L14567;L24567;L124567;L34567;L134567;L234567",
    "L1234567;L8;L18;L28;L128;L38;L138;L238;L1238;L48;L148;L248;L1248;L348;L1348;L2348;L12348;L58",
    "L158;L258;L1258;L358;L1358;L2358;L12358;L458;L1458;L2458;L12458;L3458;L13458;L23458;L123458",
    "L68;L168;L268;L1268;L368;L1368;L2368;L12368;L468;L1468;L2468;L12468;L3468;L13468;L23468",
    "L123468;L568;L1568;L2568;L12568;L3568;L13568;L23568;L123568;L4568;L14568;L24568;L124568",
    "L34568;L134568;L234568;L1234568;L78;L178;L278;L1278;L378;L1378;L2378;L12378;L478;L1478;L2478",
    "L12478;L3478;L13478;L23478;L123478;L578;L1578;L2578;L12578;L3578;L13578;L23578;L123578;L4578",
    "L14578;L24578;L124578;L34578;L134578;L234578;L1234578;L678;L1678;L2678;L12678;L3678;L13678",
    "L23678;L123678;L4678;L14678;L24678;L124678;L34678;L134678;L234678;L1234678;L5678;L15678",
    "L25678;L125678;L35678;L135678;L235678;L1235678;L45678;L145678;L245678;L1245678;L345678",
    "L1345678;L2345678;L12345678;0RIGHTWARDS TWO-HEADED ARROW WITH VERTICAL STROKE",
    "XDOUBLE VERTICAL STROKE;0LEFTWARDS DOUBLE ARROW WITH VERTICAL STROKE",
    "0RIGHTWARDS DOUBLE ARROW WITH VERTICAL STROKE;0LEFT RIGHT DOUBLE ARROW WITH VERTICAL STROKE",
    "0RIGHTWARDS TWO-HEADED ARROW FROM BAR;0LEFTWARDS DOUBLE ARROW FROM BAR",
    "0RIGHTWARDS DOUBLE ARROW FROM BAR;0DOWNWARDS ARROW WITH HORIZONTAL STROKE",
    "0UPWARDS ARROW WITH HORIZONTAL STROKE;8TRIPLE ARROW;0DOWNWARDS TRIPLE ARROW",
    "0LEFTWARDS DOUBLE DASH ARROW;0RIGHTWARDS DOUBLE DASH ARROW;0LEFTWARDS TRIPLE DASH ARROW",
    "0RIGHTWARDS TRIPLE DASH ARROW;CWO-HEADED TRIPLE DASH ARROW;BARROW WITH DOTTED STEM",
    "0UPWARDS ARROW TO BAR;0DOWNWARDS ARROW TO BAR",
    "0RIGHTWARDS ARROW WITH TAIL WITH VERTICAL STROKE;WDOUBLE VERTICAL STROKE",
    "BTWO-HEADED ARROW WITH TAIL;b WITH VERTICAL STROKE;hDOUBLE VERTICAL STROKE",
    "0LEFTWARDS ARROW-TAIL;0RIGHTWARDS ARROW-TAIL;0LEFTWARDS DOUBLE ARROW-TAIL",
    "0RIGHTWARDS DOUBLE ARROW-TAIL;0LEFTWARDS ARROW TO BLACK DIAMOND",
    "0RIGHTWARDS ARROW TO BLACK DIAMOND;0LEFTWARDS ARROW FROM BAR TO BLACK DIAMOND",
    "0RIGHTWARDS ARROW FROM BAR TO BLACK DIAMOND;0NORTH WEST AND SOUTH EAST ARROW",
    "6EAST AND SOUTH WEST ARROW;6WEST ARROW WITH HOOK;6EAST ARROW WITH HOOK",
    "0SOUTH EAST ARROW WITH HOOK;6WEST ARROW WITH HOOK;0NORTH WEST ARROW AND NORTH EAST ARROW",
    "6EAST ARROW AND SOUTH EAST ARROW;0SOUTH EAST ARROW AND SOUTH WEST ARROW",
    "6WEST ARROW AND NORTH WEST ARROW;0RISING DIAGONAL CROSSING FALLING DIAGONAL",
    "0FALLING DIAGONAL CROSSING RISING DIAGONAL;0SOUTH EAST ARROW CROSSING NORTH EAST ARROW",
    "0NORTH EAST ARROW CROSSING SOUTH EAST ARROW;0FALLING DIAGONAL CROSSING NORTH EAST ARROW",
    "0RISING DIAGONAL CROSSING SOUTH EAST ARROW;0NORTH EAST ARROW CROSSING NORTH WEST ARROW",
    "6WEST ARROW CROSSING NORTH EAST ARROW;0WAVE ARROW POINTING DIRECTLY RIGHT",
    "0ARROW POINTING RIGHTWARDS THEN CURVING UPWARDS;dDOWNWARDS;FDOWNWARDS THEN CURVING LEFTWARDS",
    "cRIGHTWARDS;0RIGHT-SIDE ARC CLOCKWISE ARROW;0LEFT-SIDE ARC ANTICLOCKWISE ARROW",
    "0TOP ARC ANTICLOCKWISE ARROW;0BOTTOM ARC ANTICLOCKWISE ARROW",
    "0TOP ARC CLOCKWISE ARROW WITH MINUS;8ANTICLOCKWISE ARROW WITH PLUS",
    "0LOWER RIGHT SEMICIRCULAR CLOCKWISE ARROW;6LEFT SEMICIRCULAR ANTICLOCKWISE ARROW",
    "0ANTICLOCKWISE CLOSED CIRCLE ARROW;0CLOCKWISE CLOSED CIRCLE ARROW",
    "0RIGHTWARDS ARROW ABOVE SHORT LEFTWARDS ARROW;0LEFTWARDS ARROW ABOVE SHORT RIGHTWARDS ARROW",
    "0SHORT RIGHTWARDS ARROW ABOVE LEFTWARDS ARROW;0RIGHTWARDS ARROW WITH PLUS BELOW",
    "0LEFTWARDS ARROW WITH PLUS BELOW;0RIGHTWARDS ARROW THROUGH X",
    "0LEFT RIGHT ARROW THROUGH SMALL CIRCLE;0UPWARDS TWO-HEADED ARROW FROM SMALL CIRCLE",
    "0LEFT BARB UP RIGHT BARB DOWN HARPOON;ADOWN RIGHT BARB UP HARPOON",
    "0UP BARB RIGHT DOWN BARB LEFT HARPOON;8LEFT DOWN BARB RIGHT HARPOON",
    "0LEFT BARB UP RIGHT BARB UP HARPOON;0UP BARB RIGHT DOWN BARB RIGHT HARPOON",
    "0LEFT BARB DOWN RIGHT BARB DOWN HARPOON;0UP BARB LEFT DOWN BARB LEFT HARPOON",
    "0LEFTWARDS HARPOON WITH BARB UP TO BAR;0RIGHTWARDS HARPOON WITH BARB UP TO BAR",
    "0UPWARDS HARPOON WITH BARB RIGHT TO BAR;0DOWNWARDS HARPOON WITH BARB RIGHT TO BAR",
    "0LEFTWARDS HARPOON WITH BARB DOWN TO BAR;0RIGHTWARDS HARPOON WITH BARB DOWN TO BAR",
    "0UPWARDS HARPOON WITH BARB LEFT TO BAR;0DOWNWARDS HARPOON WITH BARB LEFT TO BAR",
    "0LEFTWARDS HARPOON WITH BARB UP FROM BAR;0RIGHTWARDS HARPOON WITH BARB UP FROM BAR",
    "0UPWARDS HARPOON WITH BARB RIGHT FROM BAR;0DOWNWARDS HARPOON WITH BARB RIGHT FROM BAR",
    "0LEFTWARDS HARPOON WITH BARB DOWN FROM BAR;0RIGHTWARDS HARPOON WITH BARB DOWN FROM BAR",
    "0UPWARDS HARPOON WITH BARB LEFT FROM BAR;0DOWNWARDS HARPOON WITH BARB LEFT FROM BAR",
    "0LEFTWARDS HARPOON WITH BARB UP ABOVE LEFTWARDS HARPOON WITH BARB DOWN",
    "0UPWARDS HARPOON WITH BARB LEFT BESIDE UPWARDS HARPOON WITH BARB RIGHT",
    "0RIGHTWARDS HARPOON WITH BARB UP ABOVE RIGHTWARDS HARPOON WITH BARB DOWN",
    "0DOWNWARDS HARPOON WITH BARB LEFT BESIDE DOWNWARDS HARPOON WITH BARB RIGHT",
    "0LEFTWARDS HARPOON WITH BARB UP ABOVE RIGHTWARDS HARPOON WITH BARB UP",
    "SDOWN ABOVE RIGHTWARDS HARPOON WITH BARB DOWN",
    "0RIGHTWARDS HARPOON WITH BARB UP ABOVE LEFTWARDS HARPOON WITH BARB UP",
    "TDOWN ABOVE LEFTWARDS HARPOON WITH BARB DOWN;0LEFTWARDS HARPOON WITH BARB UP ABOVE LONG DASH",
    "SDOWN BELOW LONG DASH;0RIGHTWARDS HARPOON WITH BARB UP ABOVE LONG DASH;TDOWN BELOW LONG DASH",
    "0UPWARDS HARPOON WITH BARB LEFT BESIDE DOWNWARDS HARPOON WITH BARB RIGHT",
    "0DOWNWARDS HARPOON WITH BARB LEFT BESIDE UPWARDS HARPOON WITH BARB RIGHT",
    "0RIGHT DOUBLE ARROW WITH ROUNDED HEAD;0EQUALS SIGN ABOVE RIGHTWARDS ARROW",
    "0TILDE OPERATOR ABOVE RIGHTWARDS ARROW;0LEFTWARDS ARROW ABOVE TILDE OPERATOR",
    "0RIGHTWARDS ARROW ABOVE TILDE OPERATOR;NALMOST EQUAL TO;0LESS-THAN ABOVE LEFTWARDS ARROW",
    "2FTWARDS ARROW THROUGH LESS-THAN;0GREATER-THAN ABOVE RIGHTWARDS ARROW",
    "0SUBSET ABOVE RIGHTWARDS ARROW;0LEFTWARDS ARROW THROUGH SUBSET",
    "0SUPERSET ABOVE LEFTWARDS ARROW;0LEFT FISH TAIL;0RIGHT FISH TAIL;0UP FISH TAIL",
    "0DOWN FISH TAIL;0TRIPLE VERTICAL BAR DELIMITER;0Z NOTATION SPOT;BTYPE COLON",
    "0LEFT WHITE CURLY BRACKET;0RIGHT WHITE CURLY BRACKET;0LEFT WHITE PARENTHESIS",
    "0RIGHT WHITE PARENTHESIS;0Z NOTATION LEFT IMAGE BRACKET;BRIGHT IMAGE BRACKET",
    "BLEFT BINDING BRACKET;BRIGHT BINDING BRACKET;0LEFT SQUARE BRACKET WITH UNDERBAR",
    "0RIGHT SQUARE BRACKET WITH UNDERBAR;0LEFT SQUARE BRACKET WITH TICK IN TOP CORNER",
    "0RIGHT SQUARE BRACKET WITH TICK IN BOTTOM CORNER",
    "0LEFT SQUARE BRACKET WITH TICK IN BOTTOM CORNER",
    "0RIGHT SQUARE BRACKET WITH TICK IN TOP CORNER;0LEFT ANGLE BRACKET WITH DOT",
    "0RIGHT ANGLE BRACKET WITH DOT;0LEFT ARC LESS-THAN BRACKET;0RIGHT ARC GREATER-THAN BRACKET",
    "0DOUBLE LEFT ARC GREATER-THAN BRACKET;7RIGHT ARC LESS-THAN BRACKET",
    "0LEFT BLACK TORTOISE SHELL BRACKET;0RIGHT BLACK TORTOISE SHELL BRACKET;0DOTTED FENCE",
    "0VERTICAL ZIGZAG LINE;0MEASURED ANGLE OPENING LEFT;0RIGHT ANGLE VARIANT WITH SQUARE",
    "0MEASURED RIGHT ANGLE WITH DOT;0ANGLE WITH S INSIDE;1CUTE ANGLE",
    "0SPHERICAL ANGLE OPENING LEFT;OUP;0TURNED ANGLE;0REVERSED ANGLE;0ANGLE WITH UNDERBAR",
    "0REVERSED ANGLE WITH UNDERBAR;0OBLIQUE ANGLE OPENING UP;MDOWN",
    "0MEASURED ANGLE WITH OPEN ARM ENDING IN ARROW POINTING UP AND RIGHT;zLEFT;sDOWN AND RIGHT",
    "zD LEFT;sRIGHT AND UP;sLEFT AND UP;sRIGHT AND DOWN;sLEFT AND DOWN;0REVERSED EMPTY SET",
    "0EMPTY SET WITH OVERBAR;FSMALL CIRCLE ABOVE;FRIGHT ARROW ABOVE;FLEFT ARROW ABOVE",
    "0CIRCLE WITH HORIZONTAL BAR;6D VERTICAL BAR;8PARALLEL;8REVERSE SOLIDUS;8PERPENDICULAR",
    "6 DIVIDED BY HORIZONTAL BAR AND TOP HALF DIVIDED BY VERTICAL BAR;7WITH SUPERIMPOSED X",
    "6D ANTICLOCKWISE-ROTATED DIVISION SIGN;0UP ARROW THROUGH CIRCLE;0CIRCLED WHITE BULLET",
    "8BULLET;8LESS-THAN;8GREATER-THAN;6 WITH SMALL CIRCLE TO THE RIGHT",
    "CTWO HORIZONTAL STROKES TO THE RIGHT;0SQUARED RISING DIAGONAL SLASH;8FALLING DIAGONAL SLASH",
    "8ASTERISK;8SMALL CIRCLE;9QUARE;0TWO JOINED SQUARES;1RIANGLE WITH DOT ABOVE;EUNDERBAR",
    "0S IN TRIANGLE;0TRIANGLE WITH SERIFS AT BOTTOM;0RIGHT TRIANGLE ABOVE LEFT TRIANGLE",
    "0LEFT TRIANGLE BESIDE VERTICAL BAR;0VERTICAL BAR BESIDE RIGHT TRIANGLE",
    "0BOWTIE WITH LEFT HALF BLACK;CRIGHT HALF BLACK;1LACK BOWTIE;0TIMES WITH LEFT HALF BLACK",
    "BRIGHT HALF BLACK;0WHITE HOURGLASS;0BLACK HOURGLASS;0LEFT WIGGLY FENCE;0RIGHT WIGGLY FENCE",
    "0LEFT DOUBLE WIGGLY FENCE;0RIGHT DOUBLE WIGGLY FENCE;0INCOMPLETE INFINITY;0TIE OVER INFINITY",
    "0INFINITY NEGATED WITH VERTICAL BAR;0DOUBLE-ENDED MULTIMAP;0SQUARE WITH CONTOURED OUTLINE",
    "0INCREASES AS;0SHUFFLE PRODUCT;0EQUALS SIGN AND SLANTED PARALLEL;W WITH TILDE ABOVE",
    "0IDENTICAL TO AND SLANTED PARALLEL;0GLEICH STARK;0THERMODYNAMIC",
    "0DOWN-POINTING TRIANGLE WITH LEFT HALF BLACK;SRIGHT HALF BLACK",
    "0BLACK DIAMOND WITH DOWN ARROW;6LOZENGE;0WHITE CIRCLE WITH DOWN ARROW",
    "0BLACK CIRCLE WITH DOWN ARROW;0ERROR-BARRED WHITE SQUARE;DBLACK SQUARE;DWHITE DIAMOND",
    "DBLACK DIAMOND;DWHITE CIRCLE;DBLACK CIRCLE;0RULE-DELAYED;1EVERSE SOLIDUS OPERATOR",
    "0SOLIDUS WITH OVERBAR;0REVERSE SOLIDUS WITH HORIZONTAL STROKE;0BIG SOLIDUS;4REVERSE SOLIDUS",
    "0DOUBLE PLUS;0TRIPLE PLUS;0LEFT-POINTING CURVED ANGLE BRACKET",
    "0RIGHT-POINTING CURVED ANGLE BRACKET;0TINY;0MINY;0N-ARY CIRCLED DOT OPERATOR;EPLUS OPERATOR",
    "ETIMES OPERATOR;6UNION OPERATOR WITH DOT;QPLUS;6SQUARE INTERSECTION OPERATOR;DUNION OPERATOR",
    "0TWO LOGICAL AND OPERATOR;COR OPERATOR;0N-ARY TIMES OPERATOR;0MODULO TWO SUM",
    "0SUMMATION WITH INTEGRAL;0QUADRUPLE INTEGRAL OPERATOR;0FINITE PART INTEGRAL",
    "0INTEGRAL WITH DOUBLE STROKE;9AVERAGE WITH SLASH;0CIRCULATION FUNCTION",
    "0ANTICLOCKWISE INTEGRATION;0LINE INTEGRATION WITH RECTANGULAR PATH AROUND POLE",
    "MSEMICIRCULAR PATH AROUND POLE;HNOT INCLUDING THE POLE;0INTEGRAL AROUND A POINT OPERATOR",
    "0QUATERNION INTEGRAL OPERATOR;0INTEGRAL WITH LEFTWARDS ARROW WITH HOOK;ETIMES SIGN",
    "EINTERSECTION;EUNION;EOVERBAR;EUNDERBAR;0JOIN;0LARGE LEFT TRIANGLE OPERATOR",
    "0Z NOTATION SCHEMA COMPOSITION;IPIPING;JROJECTION;0PLUS SIGN WITH SMALL CIRCLE ABOVE",
    "FCIRCUMFLEX ACCENT ABOVE;FTILDE ABOVE;FDOT BELOW;FTILDE BELOW;FSUBSCRIPT TWO;FBLACK TRIANGLE",
    "0MINUS SIGN WITH COMMA ABOVE;GDOT BELOW;GFALLING DOTS;GRISING DOTS",
    "0PLUS SIGN IN LEFT HALF CIRCLE;DRIGHT HALF CIRCLE;0VECTOR OR CROSS PRODUCT",
    "0MULTIPLICATION SIGN WITH DOT ABOVE;PUNDERBAR;0SEMIDIRECT PRODUCT WITH BOTTOM CLOSED",
    "1MASH PRODUCT;0MULTIPLICATION SIGN IN LEFT HALF CIRCLE;NRIGHT HALF CIRCLE",
    "0CIRCLED MULTIPLICATION SIGN WITH CIRCUMFLEX ACCENT;0MULTIPLICATION SIGN IN DOUBLE CIRCLE",
    "0CIRCLED DIVISION SIGN;0PLUS SIGN IN TRIANGLE;0MINUS SIGN IN TRIANGLE",
    "1ULTIPLICATION SIGN IN TRIANGLE;0INTERIOR PRODUCT;0RIGHTHAND INTERIOR PRODUCT",
    "0Z NOTATION RELATIONAL COMPOSITION;0AMALGAMATION OR COPRODUCT;0INTERSECTION WITH DOT",
    "0UNION WITH MINUS SIGN;BOVERBAR;0INTERSECTION WITH OVERBAR;ILOGICAL AND",
    "0UNION WITH LOGICAL OR;6ABOVE INTERSECTION;0INTERSECTION ABOVE UNION",
    "0UNION ABOVE BAR ABOVE INTERSECTION;0INTERSECTION ABOVE BAR ABOVE UNION",
    "0UNION BESIDE AND JOINED WITH UNION;0INTERSECTION BESIDE AND JOINED WITH INTERSECTION",
    "0CLOSED UNION WITH SERIFS;7INTERSECTION WITH SERIFS;0DOUBLE SQUARE INTERSECTION;EUNION",
    "0CLOSED UNION WITH SERIFS AND SMASH PRODUCT;0LOGICAL AND WITH DOT ABOVE;8OR WITH DOT ABOVE",
    "0DOUBLE LOGICAL AND;FOR;0TWO INTERSECTING LOGICAL AND;POR;0SLOPING LARGE OR;EAND",
    "0LOGICAL OR OVERLAPPING LOGICAL AND;8AND WITH MIDDLE STEM;8OR WITH MIDDLE STEM",
    "8AND WITH HORIZONTAL DASH;8OR WITH HORIZONTAL DASH;8AND WITH DOUBLE OVERBAR;HUNDERBAR",
    "HDOUBLE UNDERBAR;0SMALL VEE WITH UNDERBAR;0LOGICAL OR WITH DOUBLE OVERBAR;NUNDERBAR",
    "0Z NOTATION DOMAIN ANTIRESTRICTION;BRANGE ANTIRESTRICTION;0EQUALS SIGN WITH DOT BELOW",
    "0IDENTICAL WITH DOT ABOVE;0TRIPLE HORIZONTAL BAR WITH DOUBLE VERTICAL STROKE",
    "RTRIPLE VERTICAL STROKE;1ILDE OPERATOR WITH DOT ABOVE;KRISING DOTS;0SIMILAR MINUS SIMILAR",
    "0CONGRUENT WITH DOT ABOVE;0EQUALS WITH ASTERISK;0ALMOST EQUAL TO WITH CIRCUMFLEX ACCENT",
    "1PPROXIMATELY EQUAL OR EQUAL TO;0EQUALS SIGN ABOVE PLUS SIGN;0PLUS SIGN ABOVE EQUALS SIGN",
    "0EQUALS SIGN ABOVE TILDE OPERATOR;0DOUBLE COLON EQUAL;0TWO CONSECUTIVE EQUALS SIGNS",
    "1HREE CONSECUTIVE EQUALS SIGNS;0EQUALS SIGN WITH TWO DOTS ABOVE AND TWO DOTS BELOW",
    "3IVALENT WITH FOUR DOTS ABOVE;0LESS-THAN WITH CIRCLE INSIDE;0GREATER-THAN WITH CIRCLE INSIDE",
    "0LESS-THAN WITH QUESTION MARK ABOVE;0GREATER-THAN WITH QUESTION MARK ABOVE",
    "0LESS-THAN OR SLANTED EQUAL TO;0GREATER-THAN OR SLANTED EQUAL TO",
    "0LESS-THAN OR SLANTED EQUAL TO WITH DOT INSIDE",
    "0GREATER-THAN OR SLANTED EQUAL TO WITH DOT INSIDE",
    "0LESS-THAN OR SLANTED EQUAL TO WITH DOT ABOVE",
    "0GREATER-THAN OR SLANTED EQUAL TO WITH DOT ABOVE",
    "0LESS-THAN OR SLANTED EQUAL TO WITH DOT ABOVE RIGHT",
    "0GREATER-THAN OR SLANTED EQUAL TO WITH DOT ABOVE LEFT;0LESS-THAN OR APPROXIMATE",
    "0GREATER-THAN OR APPROXIMATE;0LESS-THAN AND SINGLE-LINE NOT EQUAL TO",
    "0GREATER-THAN AND SINGLE-LINE NOT EQUAL TO;0LESS-THAN AND NOT APPROXIMATE",
    "0GREATER-THAN AND NOT APPROXIMATE;0LESS-THAN ABOVE DOUBLE-LINE EQUAL ABOVE GREATER-THAN",
    "0GREATER-THAN ABOVE DOUBLE-LINE EQUAL ABOVE LESS-THAN;0LESS-THAN ABOVE SIMILAR OR EQUAL",
    "0GREATER-THAN ABOVE SIMILAR OR EQUAL;0LESS-THAN ABOVE SIMILAR ABOVE GREATER-THAN",
    "0GREATER-THAN ABOVE SIMILAR ABOVE LESS-THAN",
    "0LESS-THAN ABOVE GREATER-THAN ABOVE DOUBLE-LINE EQUAL",
    "0GREATER-THAN ABOVE LESS-THAN ABOVE DOUBLE-LINE EQUAL",
    "0LESS-THAN ABOVE SLANTED EQUAL ABOVE GREATER-THAN ABOVE SLANTED EQUAL",
    "0GREATER-THAN ABOVE SLANTED EQUAL ABOVE LESS-THAN ABOVE SLANTED EQUAL",
    "0SLANTED EQUAL TO OR LESS-THAN;KGREATER-THAN;KLESS-THAN WITH DOT INSIDE",
    "KGREATER-THAN WITH DOT INSIDE;0DOUBLE-LINE EQUAL TO OR LESS-THAN;OGREATER-THAN",
    "CSLANTED EQUAL TO OR LESS-THAN;WGREATER-THAN;0SIMILAR OR LESS-THAN;BGREATER-THAN",
    "8ABOVE LESS-THAN ABOVE EQUALS SIGN;EGREATER-THAN ABOVE EQUALS SIGN;0DOUBLE NESTED LESS-THAN",
    "EGREATER-THAN;ELESS-THAN WITH UNDERBAR;0GREATER-THAN OVERLAPPING LESS-THAN;DBESIDE LESS-THAN",
    "0LESS-THAN CLOSED BY CURVE;0GREATER-THAN CLOSED BY CURVE",
    "0LESS-THAN CLOSED BY CURVE ABOVE SLANTED EQUAL",
    "0GREATER-THAN CLOSED BY CURVE ABOVE SLANTED EQUAL;0SMALLER THAN;0LARGER THAN",
    "0SMALLER THAN OR EQUAL TO;0LARGER THAN OR EQUAL TO;0EQUALS SIGN WITH BUMPY ABOVE",
    "0PRECEDES ABOVE SINGLE-LINE EQUALS SIGN;0SUCCEEDS ABOVE SINGLE-LINE EQUALS SIGN",
    "0PRECEDES ABOVE SINGLE-LINE NOT EQUAL TO;0SUCCEEDS ABOVE SINGLE-LINE NOT EQUAL TO",
    "0PRECEDES ABOVE EQUALS SIGN;0SUCCEEDS ABOVE EQUALS SIGN;0PRECEDES ABOVE NOT EQUAL TO",
    "0SUCCEEDS ABOVE NOT EQUAL TO;0PRECEDES ABOVE ALMOST EQUAL TO;0SUCCEEDS ABOVE ALMOST EQUAL TO",
    "0PRECEDES ABOVE NOT ALMOST EQUAL TO;0SUCCEEDS ABOVE NOT ALMOST EQUAL TO;0DOUBLE PRECEDES",
    "7SUCCEEDS;0SUBSET WITH DOT;2PERSET WITH DOT;2BSET WITH PLUS SIGN BELOW",
    "2PERSET WITH PLUS SIGN BELOW;2BSET WITH MULTIPLICATION SIGN BELOW",
    "2PERSET WITH MULTIPLICATION SIGN BELOW;2BSET OF OR EQUAL TO WITH DOT ABOVE",
    "2PERSET OF OR EQUAL TO WITH DOT ABOVE;2BSET OF ABOVE EQUALS SIGN",
    "2PERSET OF ABOVE EQUALS SIGN;2BSET OF ABOVE TILDE OPERATOR;2PERSET OF ABOVE TILDE OPERATOR",
    "2BSET OF ABOVE ALMOST EQUAL TO;2PERSET OF ABOVE ALMOST EQUAL TO;2BSET OF ABOVE NOT EQUAL TO",
    "2PERSET OF ABOVE NOT EQUAL TO;1QUARE LEFT OPEN BOX OPERATOR;7RIGHT OPEN BOX OPERATOR",
    "0CLOSED SUBSET;9PERSET;9BSET OR EQUAL TO;9PERSET OR EQUAL TO;0SUBSET ABOVE SUPERSET",
    "2PERSET ABOVE SUBSET;2BSET ABOVE SUBSET;2PERSET ABOVE SUPERSET;9BESIDE SUBSET",
    "GAND JOINED BY DASH WITH SUBSET;0ELEMENT OF OPENING DOWNWARDS;0PITCHFORK WITH TEE TOP",
    "0TRANSVERSAL INTERSECTION;0FORKING;0NONFORKING;0SHORT LEFT TACK;6DOWN TACK;6UP TACK",
    "0PERPENDICULAR WITH S;0VERTICAL BAR TRIPLE RIGHT TURNSTILE",
    "0DOUBLE VERTICAL BAR LEFT TURNSTILE;0VERTICAL BAR DOUBLE LEFT TURNSTILE",
    "0DOUBLE VERTICAL BAR DOUBLE LEFT TURNSTILE;0LONG DASH FROM LEFT MEMBER OF DOUBLE VERTICAL",
    "0SHORT DOWN TACK WITH OVERBAR;6UP TACK WITH UNDERBAR;EABOVE SHORT DOWN TACK",
    "0DOUBLE DOWN TACK;7UP TACK;7STROKE NOT SIGN;0REVERSED DOUBLE STROKE NOT SIGN",
    "0DOES NOT DIVIDE WITH REVERSED NEGATION SLASH;0VERTICAL LINE WITH CIRCLE ABOVE;QBELOW",
    "0DOWN TACK WITH CIRCLE BELOW;0PARALLEL WITH HORIZONTAL STROKE;ETILDE OPERATOR",
    "0TRIPLE VERTICAL BAR BINARY RELATION;KWITH HORIZONTAL STROKE;7COLON OPERATOR",
    "7NESTED LESS-THAN;EGREATER-THAN;0DOUBLE-LINE SLANTED LESS-THAN OR EQUAL TO",
    "KGREATER-THAN OR EQUAL TO;0TRIPLE SOLIDUS BINARY RELATION",
    "0LARGE TRIPLE VERTICAL BAR OPERATOR;0DOUBLE SOLIDUS OPERATOR;0WHITE VERTICAL BAR",
    "0N-ARY WHITE VERTICAL BAR;1ORTH EAST WHITE ARROW;6WEST WHITE ARROW;0SOUTH EAST WHITE ARROW",
    "6WEST WHITE ARROW;0LEFT RIGHT WHITE ARROW;4WARDS BLACK ARROW;0UPWARDS BLACK ARROW",
    "0DOWNWARDS BLACK ARROW;0NORTH EAST BLACK ARROW;6WEST BLACK ARROW;0SOUTH EAST BLACK ARROW",
    "6WEST BLACK ARROW;0LEFT RIGHT BLACK ARROW;0UP DOWN BLACK ARROW",
    "0RIGHTWARDS ARROW WITH TIP DOWNWARDS;QUPWARDS;0LEFTWARDS ARROW WITH TIP DOWNWARDS;PUPWARDS",
    "0SQUARE WITH TOP HALF BLACK;CBOTTOM HALF BLACK;CUPPER RIGHT DIAGONAL HALF BLACK",
    "CLOWER LEFT DIAGONAL HALF BLACK;0DIAMOND WITH LEFT HALF BLACK;DRIGHT HALF BLACK",
    "DTOP HALF BLACK;DBOTTOM HALF BLACK;1OTTED SQUARE;0BLACK LARGE SQUARE;0WHITE LARGE SQUARE",
    "0BLACK VERY SMALL SQUARE;0WHITE VERY SMALL SQUARE;0BLACK PENTAGON;0WHITE PENTAGON;6HEXAGON",
    "0BLACK HEXAGON;0HORIZONTAL BLACK HEXAGON;0BLACK LARGE CIRCLE;6MEDIUM DIAMOND",
    "0WHITE MEDIUM DIAMOND;0BLACK MEDIUM LOZENGE;0WHITE MEDIUM LOZENGE;0BLACK SMALL DIAMOND",
    "CLOZENGE;0WHITE SMALL LOZENGE;0BLACK HORIZONTAL ELLIPSE;0WHITE HORIZONTAL ELLIPSE",
    "0BLACK VERTICAL ELLIPSE;0WHITE VERTICAL ELLIPSE;0LEFT ARROW WITH SMALL CIRCLE",
    "0THREE LEFTWARDS ARROWS;0LEFT ARROW WITH CIRCLED PLUS;1ONG LEFTWARDS SQUIGGLE ARROW",
    "1EFTWARDS TWO-HEADED ARROW WITH VERTICAL STROKE;WDOUBLE VERTICAL STROKE;RFROM BAR",
    "LTRIPLE DASH ARROW;AARROW WITH DOTTED STEM;LTAIL WITH VERTICAL STROKE",
    "VDOUBLE VERTICAL STROKE;ATWO-HEADED ARROW WITH TAIL;a WITH VERTICAL STROKE",
    "gDOUBLE VERTICAL STROKE;AARROW THROUGH X;0WAVE ARROW POINTING DIRECTLY LEFT",
    "0EQUALS SIGN ABOVE LEFTWARDS ARROW;0REVERSE TILDE OPERATOR ABOVE LEFTWARDS ARROW",
    "0LEFTWARDS ARROW ABOVE REVERSE ALMOST EQUAL TO;0RIGHTWARDS ARROW THROUGH GREATER-THAN",
    "PSUPERSET;0LEFTWARDS QUADRUPLE ARROW;0RIGHTWARDS QUADRUPLE ARROW",
    "1EVERSE TILDE OPERATOR ABOVE RIGHTWARDS ARROW;1IGHTWARDS ARROW ABOVE REVERSE ALMOST EQUAL TO",
    "0TILDE OPERATOR ABOVE LEFTWARDS ARROW;0LEFTWARDS ARROW ABOVE ALMOST EQUAL TO",
    "MREVERSE TILDE OPERATOR;0RIGHTWARDS ARROW ABOVE REVERSE TILDE OPERATOR",
    "0DOWNWARDS TRIANGLE-HEADED ZIGZAG ARROW;0SHORT SLANTED NORTH ARROW;6BACKSLANTED SOUTH ARROW",
    "0WHITE MEDIUM STAR;0BLACK SMALL STAR;0WHITE SMALL STAR;0BLACK RIGHT-POINTING PENTAGON",
    "0WHITE RIGHT-POINTING PENTAGON;0HEAVY LARGE CIRCLE;6OVAL WITH OVAL INSIDE",
    "6CIRCLE WITH CIRCLE INSIDE;C;CD SALTIRE;0SLANTED NORTH ARROW WITH HOOKED HEAD",
    "0BACKSLANTED SOUTH ARROW WITH HOOKED TAIL;0SLANTED NORTH ARROW WITH HORIZONTAL TAIL",
    "0BACKSLANTED SOUTH ARROW WITH HORIZONTAL TAIL;1ENT ARROW POINTING DOWNWARDS THEN NORTH EAST",
    "0SHORT BENT ARROW POINTING DOWNWARDS THEN NORTH EAST;0LEFTWARDS TRIANGLE-HEADED ARROW",
    "0UPWARDS TRIANGLE-HEADED ARROW;0RIGHTWARDS TRIANGLE-HEADED ARROW",
    "0DOWNWARDS TRIANGLE-HEADED ARROW;0LEFT RIGHT TRIANGLE-HEADED ARROW",
    "0UP DOWN TRIANGLE-HEADED ARROW;0NORTH WEST TRIANGLE-HEADED ARROW;6EAST TRIANGLE-HEADED ARROW",
    "0SOUTH EAST TRIANGLE-HEADED ARROW;6WEST TRIANGLE-HEADED ARROW",
    "0LEFTWARDS TRIANGLE-HEADED DASHED ARROW;0UPWARDS TRIANGLE-HEADED DASHED ARROW",
    "0RIGHTWARDS TRIANGLE-HEADED DASHED ARROW;0DOWNWARDS TRIANGLE-HEADED DASHED ARROW",
    "0CLOCKWISE TRIANGLE-HEADED OPEN CIRCLE ARROW",
    "0ANTICLOCKWISE TRIANGLE-HEADED OPEN CIRCLE ARROW;0LEFTWARDS TRIANGLE-HEADED ARROW TO BAR",
    "0UPWARDS TRIANGLE-HEADED ARROW TO BAR;0RIGHTWARDS TRIANGLE-HEADED ARROW TO BAR",
    "0DOWNWARDS TRIANGLE-HEADED ARROW TO BAR;2B76=0NORTH WEST TRIANGLE-HEADED ARROW TO BAR",
    "6EAST TRIANGLE-HEADED ARROW TO BAR;0SOUTH EAST TRIANGLE-HEADED ARROW TO BAR",
    "6WEST TRIANGLE-HEADED ARROW TO BAR",
    "0LEFTWARDS TRIANGLE-HEADED ARROW WITH DOUBLE HORIZONTAL STROKE",
    "0UPWARDS TRIANGLE-HEADED ARROW WITH DOUBLE HORIZONTAL STROKE",
    "0RIGHTWARDS TRIANGLE-HEADED ARROW WITH DOUBLE HORIZONTAL STROKE",
    "0DOWNWARDS TRIANGLE-HEADED ARROW WITH DOUBLE HORIZONTAL STROKE;0HORIZONTAL TAB KEY",
    "0VERTICAL TAB KEY;0LEFTWARDS TRIANGLE-HEADED ARROW OVER RIGHTWARDS TRIANGLE-HEADED ARROW",
    "0UPWARDS TRIANGLE-HEADED ARROW LEFTWARDS OF DOWNWARDS TRIANGLE-HEADED ARROW",
    "0RIGHTWARDS TRIANGLE-HEADED ARROW OVER LEFTWARDS TRIANGLE-HEADED ARROW",
    "0DOWNWARDS TRIANGLE-HEADED ARROW LEFTWARDS OF UPWARDS TRIANGLE-HEADED ARROW",
    "0LEFTWARDS TRIANGLE-HEADED PAIRED ARROWS;0UPWARDS TRIANGLE-HEADED PAIRED ARROWS",
    "0RIGHTWARDS TRIANGLE-HEADED PAIRED ARROWS;0DOWNWARDS TRIANGLE-HEADED PAIRED ARROWS",
    "0LEFTWARDS BLACK CIRCLED WHITE ARROW;0UPWARDS BLACK CIRCLED WHITE ARROW",
    "0RIGHTWARDS BLACK CIRCLED WHITE ARROW;0DOWNWARDS BLACK CIRCLED WHITE ARROW",
    "0ANTICLOCKWISE TRIANGLE-HEADED RIGHT U-SHAPED ARROW;UBOTTOM U-SHAPED ARROW",
    "ULEFT U-SHAPED ARROW;UTOP U-SHAPED ARROW;0RETURN LEFT;7RIGHT;0NEWLINE LEFT;8RIGHT",
    "0FOUR CORNER ARROWS CIRCLING ANTICLOCKWISE;0RIGHTWARDS BLACK ARROW",
    "2B97=0SYMBOL FOR TYPE A ELECTRONICS;0THREE-D TOP-LIGHTED LEFTWARDS EQUILATERAL ARROWHEAD",
    "8RIGHT-LIGHTED UPWARDS EQUILATERAL ARROWHEAD;8TOP-LIGHTED RIGHTWARDS EQUILATERAL ARROWHEAD",
    "8LEFT-LIGHTED DOWNWARDS EQUILATERAL ARROWHEAD;0BLACK LEFTWARDS EQUILATERAL ARROWHEAD",
    "6UPWARDS EQUILATERAL ARROWHEAD;6RIGHTWARDS EQUILATERAL ARROWHEAD",
    "6DOWNWARDS EQUILATERAL ARROWHEAD;0DOWNWARDS TRIANGLE-HEADED ARROW WITH LONG TIP LEFTWARDS",
    "kRIGHTWARDS;0UPWARDS TRIANGLE-HEADED ARROW WITH LONG TIP LEFTWARDS;iRIGHTWARDS",
    "0LEFTWARDS TRIANGLE-HEADED ARROW WITH LONG TIP UPWARDS",
    "0RIGHTWARDS TRIANGLE-HEADED ARROW WITH LONG TIP UPWARDS",
    "0LEFTWARDS TRIANGLE-HEADED ARROW WITH LONG TIP DOWNWARDS",
    "0RIGHTWARDS TRIANGLE-HEADED ARROW WITH LONG TIP DOWNWARDS",
    "0BLACK CURVED DOWNWARDS AND LEFTWARDS ARROW;RRIGHTWARDS ARROW;DUPWARDS AND LEFTWARDS ARROW",
    "PRIGHTWARDS ARROW;DLEFTWARDS AND UPWARDS ARROW;DRIGHTWARDS AND UPWARDS ARROW",
    "DLEFTWARDS AND DOWNWARDS ARROW;DRIGHTWARDS AND DOWNWARDS ARROW;0RIBBON ARROW DOWN LEFT",
    "IRIGHT;DUP LEFT;GRIGHT;DLEFT UP;DRIGHT UP;DLEFT DOWN;DRIGHT DOWN",
    "0UPWARDS WHITE ARROW FROM BAR WITH HORIZONTAL BAR;2 ARROWHEAD IN A RECTANGLE BOX",
    "0OVERLAPPING WHITE SQUARES;IAND BLACK SQUARES;CBLACK SQUARES;0BALLOT BOX WITH LIGHT X",
    "0CIRCLED X;8BOLD X;0BLACK SQUARE CENTRED;6DIAMOND CENTRED;0TURNED BLACK PENTAGON",
    "0HORIZONTAL BLACK OCTAGON;0BLACK OCTAGON;6MEDIUM UP-POINTING TRIANGLE CENTRED",
    "DDOWN-POINTING TRIANGLE CENTRED;DLEFT-POINTING TRIANGLE CENTRED",
    "DRIGHT-POINTING TRIANGLE CENTRED;0NEPTUNE FORM TWO;0TOP HALF BLACK CIRCLE",
    "0BOTTOM HALF BLACK CIRCLE;0LIGHT FOUR POINTED BLACK CUSP",
    "0ROTATED LIGHT FOUR POINTED BLACK CUSP;0WHITE FOUR POINTED CUSP",
    "0ROTATED WHITE FOUR POINTED CUSP;0SQUARE POSITION INDICATOR;0UNCERTAINTY SIGN;0GROUP MARK",
    "0PLUTO FORM TWO;CHREE;BFOUR;CIVE;0TRANSPLUTO;0PROSERPINA;0ASTRAEA;0HYGIEA;0PHOLUS;0NESSUS",
    "0WHITE MOON SELENA;0BLACK DIAMOND ON CROSS;0TRUE LIGHT MOON ARTA;0CUPIDO;0HADES;0ZEUS",
    "0KRONOS;0APOLLON;1DMETOS;0VULCANUS;0POSEIDON;0LEFT HALF BLACK STAR;0RIGHT HALF BLACK STAR",
    "0STAR WITH LEFT HALF BLACK;ARIGHT HALF BLACK",
    "0LEFTWARDS TWO-HEADED ARROW WITH TRIANGLE ARROWHEADS",
    "0UPWARDS TWO-HEADED ARROW WITH TRIANGLE ARROWHEADS",
    "0RIGHTWARDS TWO-HEADED ARROW WITH TRIANGLE ARROWHEADS",
    "0DOWNWARDS TWO-HEADED ARROW WITH TRIANGLE ARROWHEADS;0ERIS FORM ONE;ATWO;0SEDNA",
    "0RUSSIAN ASTROLOGICAL SYMBOL VIGINTILE;SNOVILE;SQUINTILE;SBINOVILE;SSENTAGON;STREDECILE",
    "0EQUALS SIGN WITH INFINITY BELOW;0UNITED SYMBOL;0SEPARATED SYMBOL;0DOUBLED SYMBOL",
    "0PASSED SYMBOL;0REVERSED RIGHT ANGLE;0HELLSCHREIBER PAUSE SYMBOL",
    "0GLAGOLITIC CAPITAL LETTER AZU;QBUKY;QVEDE;QGLAGOLI;QDOBRO;QYESTU;QZHIVETE;QDZELO;QZEMLJA",
    "QIZHE;RNITIAL IZHE;R;QDJERVI;QKAKO;QLJUDIJE;QMYSLITE;QNASHI;QONU;QPOKOJI;QRITSI;QSLOVO",
    "QTVRIDO;QUKU;QFRITU;QHERU;QOTU;QPE;QSHTA;QTSI;QCHRIVI;QSHA;QYERU;TI;RATI;QSPIDERY HA;QYU",
    "QSMALL YUS;Z WITH TAIL;QYO;QIOTATED SMALL YUS;QBIG YUS;QIOTATED BIG YUS;QFITA;QIZHITSA",
    "QSHTAPIC;QTROKUTASTI A;QLATINATE MYSLITE;QCAUDATE CHRIVI;BSMALL LETTER AZU;OBUKY;OVEDE",
    "OGLAGOLI;ODOBRO;OYESTU;OZHIVETE;ODZELO;OZEMLJA;OIZHE;PNITIAL IZHE;P;ODJERVI;OKAKO;OLJUDIJE",
    "OMYSLITE;ONASHI;OONU;OPOKOJI;ORITSI;OSLOVO;OTVRIDO;OUKU;OFRITU;OHERU;OOTU;OPE;OSHTA;OTSI",
    "OCHRIVI;OSHA;OYERU;RI;PATI;OSPIDERY HA;OYU;OSMALL YUS;X WITH TAIL;OYO;OIOTATED SMALL YUS",
    "OBIG YUS;OIOTATED BIG YUS;OFITA;OIZHITSA;OSHTAPIC;OTROKUTASTI A;OLATINATE MYSLITE",
    "OCAUDATE CHRIVI;0LATIN CAPITAL LETTER L WITH DOUBLE BAR;6SMALL LETTER L WITH DOUBLE BAR",
    "6CAPITAL LETTER L WITH MIDDLE TILDE;LP WITH STROKE;LR WITH TAIL;6SMALL LETTER A WITH STROKE",
    "JT WITH DIAGONAL STROKE;6CAPITAL LETTER H WITH DESCENDER;6SMALL LETTER H WITH DESCENDER",
    "6CAPITAL LETTER K WITH DESCENDER;6SMALL LETTER K WITH DESCENDER",
    "6CAPITAL LETTER Z WITH DESCENDER;6SMALL LETTER Z WITH DESCENDER;6CAPITAL LETTER ALPHA",
    "LM WITH HOOK;LTURNED A;TLPHA;6SMALL LETTER V WITH RIGHT HOOK;6CAPITAL LETTER W WITH HOOK",
    "6SMALL LETTER W WITH HOOK;JV WITH CURL;6CAPITAL LETTER HALF H;6SMALL LETTER HALF H",
    "JTAILLESS PHI;JE WITH NOTCH;JTURNED R WITH TAIL;JO WITH LOW RING INSIDE",
    "6LETTER SMALL CAPITAL TURNED E;6SUBSCRIPT SMALL LETTER J;0MODIFIER LETTER CAPITAL V",
    "0LATIN CAPITAL LETTER S WITH SWASH TAIL;LZ WITH SWASH TAIL;0COPTIC CAPITAL LETTER ALFA",
    "7SMALL LETTER ALFA;7CAPITAL LETTER VIDA;7SMALL LETTER VIDA;7CAPITAL LETTER GAMMA",
    "7SMALL LETTER GAMMA;7CAPITAL LETTER DALDA;7SMALL LETTER DALDA;7CAPITAL LETTER EIE",
    "7SMALL LETTER EIE;7CAPITAL LETTER SOU;7SMALL LETTER SOU;7CAPITAL LETTER ZATA",
    "7SMALL LETTER ZATA;7CAPITAL LETTER HATE;7SMALL LETTER HATE;7CAPITAL LETTER THETHE",
    "7SMALL LETTER THETHE;7CAPITAL LETTER IAUDA;7SMALL LETTER IAUDA;7CAPITAL LETTER KAPA",
    "7SMALL LETTER KAPA;7CAPITAL LETTER LAULA;7SMALL LETTER LAULA;7CAPITAL LETTER MI",
    "7SMALL LETTER MI;7CAPITAL LETTER NI;7SMALL LETTER NI;7CAPITAL LETTER KSI;7SMALL LETTER KSI",
    "7CAPITAL LETTER O;7SMALL LETTER O;7CAPITAL LETTER PI;7SMALL LETTER PI;7CAPITAL LETTER RO",
    "7SMALL LETTER RO;7CAPITAL LETTER SIMA;7SMALL LETTER SIMA;7CAPITAL LETTER TAU",
    "7SMALL LETTER TAU;7CAPITAL LETTER UA;7SMALL LETTER UA;7CAPITAL LETTER FI;7SMALL LETTER FI",
    "7CAPITAL LETTER KHI;7SMALL LETTER KHI;7CAPITAL LETTER PSI;7SMALL LETTER PSI",
    "7CAPITAL LETTER OOU;7SMALL LETTER OOU;7CAPITAL LETTER DIALECT-P ALEF",
    "7SMALL LETTER DIALECT-P ALEF;7CAPITAL LETTER OLD COPTIC AIN;7SMALL LETTER OLD COPTIC AIN",
    "7CAPITAL LETTER CRYPTOGRAMMIC EIE;7SMALL LETTER CRYPTOGRAMMIC EIE",
    "7CAPITAL LETTER DIALECT-P KAPA;7SMALL LETTER DIALECT-P KAPA;7CAPITAL LETTER DIALECT-P NI",
    "7SMALL LETTER DIALECT-P NI;7CAPITAL LETTER CRYPTOGRAMMIC NI;7SMALL LETTER CRYPTOGRAMMIC NI",
    "7CAPITAL LETTER OLD COPTIC OOU;7SMALL LETTER OLD COPTIC OOU;7CAPITAL LETTER SAMPI",
    "7SMALL LETTER SAMPI;7CAPITAL LETTER CROSSED SHEI;7SMALL LETTER CROSSED SHEI",
    "7CAPITAL LETTER OLD COPTIC SHEI;7SMALL LETTER OLD COPTIC SHEI;7CAPITAL LETTER OLD COPTIC ESH",
    "7SMALL LETTER OLD COPTIC ESH;7CAPITAL LETTER AKHMIMIC KHEI;7SMALL LETTER AKHMIMIC KHEI",
    "7CAPITAL LETTER DIALECT-P HORI;7SMALL LETTER DIALECT-P HORI;7CAPITAL LETTER OLD COPTIC HORI",
    "7SMALL LETTER OLD COPTIC HORI;7CAPITAL LETTER OLD COPTIC HA;7SMALL LETTER OLD COPTIC HA",
    "7CAPITAL LETTER L-SHAPED HA;7SMALL LETTER L-SHAPED HA;7CAPITAL LETTER OLD COPTIC HEI",
    "7SMALL LETTER OLD COPTIC HEI;7CAPITAL LETTER OLD COPTIC HAT;7SMALL LETTER OLD COPTIC HAT",
    "7CAPITAL LETTER OLD COPTIC GANGIA;7SMALL LETTER OLD COPTIC GANGIA",
    "7CAPITAL LETTER OLD COPTIC DJA;7SMALL LETTER OLD COPTIC DJA;7CAPITAL LETTER OLD COPTIC SHIMA",
    "7SMALL LETTER OLD COPTIC SHIMA;7CAPITAL LETTER OLD NUBIAN SHIMA",
    "7SMALL LETTER OLD NUBIAN SHIMA;7CAPITAL LETTER OLD NUBIAN NGI;7SMALL LETTER OLD NUBIAN NGI",
    "7CAPITAL LETTER OLD NUBIAN NYI;7SMALL LETTER OLD NUBIAN NYI;7CAPITAL LETTER OLD NUBIAN WAU",
    "7SMALL LETTER OLD NUBIAN WAU;8YMBOL KAI;EMI RO;EPI RO;ESTAUROS;ETAU RO;EKHI RO;ESHIMA SIMA",
    "7CAPITAL LETTER CRYPTOGRAMMIC SHEI;7SMALL LETTER CRYPTOGRAMMIC SHEI",
    "7CAPITAL LETTER CRYPTOGRAMMIC GANGIA;7SMALL LETTER CRYPTOGRAMMIC GANGIA;7COMBINING NI ABOVE",
    "HSPIRITUS ASPER;QLENIS;8APITAL LETTER BOHAIRIC KHEI;7SMALL LETTER BOHAIRIC KHEI",
    "2CF9=7OLD NUBIAN FULL STOP;IDIRECT QUESTION MARK;IINDIRECT QUESTION MARK;IVERSE DIVIDER",
    "7FRACTION ONE HALF;8ULL STOP;7MORPHOLOGICAL DIVIDER;0GEORGIAN SMALL LETTER AN;MBAN;MGAN;MDON",
    "MEN;MVIN;MZEN;MTAN;MIN;MKAN;MLAS;MMAN;MNAR;MON;MPAR;MZHAR;MRAE;MSAN;MTAR;MUN;MPHAR;MKHAR",
    "MGHAN;MQAR;MSHIN;MCHIN;NAN;MJIL;MCIL;NHAR;MXAN;MJHAN;MHAE;NE;NIE;MWE;MHAR;NOE;2D27=MYN",
    "2D2D=MAEN;2D30=0TIFINAGH LETTER YA;IB;JH;IG;JHH;GBERBER ACADEMY YAJ;GYAJ;ID;JH;JD;KH;HEY;HAF",
    "IK;GTUAREG YAK;GYAKHH;IH;GBERBER ACADEMY YAH;GTUAREG YAH;GYAHH;IA;IKH;GTUAREG YAKH;GYAQ",
    "GTUAREG YAQ;GYI;HAZH;GAHAGGAR YAZH;GTUAREG YAZH;GYAL;IM;IN;GTUAREG YAGN;PNG;GYAP;HU;HAR;JR",
    "IGH;GTUAREG YAGH;GAYER YAGH;GYAS;JS;JH;IT;JH;ICH;ITT;IV;IW;IY;IZ;GTAWELLEMET YAZ;GYAZZ;HE;HO",
    "2D6F=9MODIFIER LETTER LABIALIZATION MARK;9SEPARATOR MARK;2D7F=9CONSONANT JOINER",
    "0ETHIOPIC SYLLABLE LOA;IMOA;IROA;ISOA;JHOA;IBOA;ITOA;ICOA;INOA;JYOA;IGLOTTAL OA;IZOA;IDOA",
    "JDOA;IJOA;ITHOA;ICHOA;IPHOA;JOA;IGGWA;LI;LEE;M;2DA0=ISSA;KU;KI;KAA;KEE;L;KO;2DA8=ICCA;KU;KI",
    "KAA;KEE;L;KO;2DB0=IZZA;KU;KI;KAA;KEE;L;KO;2DB8=ICCHA;LU;LI;LAA;LEE;M;LO;2DC0=IQYA;KU;KI;KAA",
    "KEE;L;KO;2DC8=IKYA;KU;KI;KAA;KEE;L;KO;2DD0=IXYA;KU;KI;KAA;KEE;L;KO;2DD8=IGYA;KU;KI;KAA;KEE;L",
    "KO;2DE0=0COMBINING CYRILLIC LETTER BE;QVE;QGHE;QDE;QZHE;RE;QKA;QEL;RM;RN;QO;QPE;QER;RS;QTE",
    "QHA;QTSE;QCHE;QSHA;SCHA;QFITA;QES-TE;QA;QIE;QDJERV;QMONOGRAPH UK;QYAT;RU;QIOTIFIED A",
    "QLITTLE YUS;QBIG YUS;QIOTIFIED BIG YUS;0RIGHT ANGLE SUBSTITUTION MARKER",
    "CDOTTED SUBSTITUTION MARKER;0LEFT SUBSTITUTION BRACKET;0RIGHT SUBSTITUTION BRACKET",
    "0LEFT DOTTED SUBSTITUTION BRACKET;0RIGHT DOTTED SUBSTITUTION BRACKET",
    "1AISED INTERPOLATION MARKER;7DOTTED INTERPOLATION MARKER;0DOTTED TRANSPOSITION MARKER",
    "0LEFT TRANSPOSITION BRACKET;0RIGHT TRANSPOSITION BRACKET;1AISED SQUARE",
    "0LEFT RAISED OMISSION BRACKET;0RIGHT RAISED OMISSION BRACKET;0EDITORIAL CORONIS;0PARAGRAPHOS",
    "0FORKED PARAGRAPHOS;0REVERSED FORKED PARAGRAPHOS;0HYPODIASTOLE;0DOTTED OBELOS",
    "2WNWARDS ANCORA;0UPWARDS ANCORA;0DOTTED RIGHT-POINTING ANGLE;2UBLE OBLIQUE HYPHEN",
    "0INVERTED INTERROBANG;0PALM BRANCH;0HYPHEN WITH DIAERESIS;0TILDE WITH RING ABOVE",
    "0LEFT LOW PARAPHRASE BRACKET;0RIGHT LOW PARAPHRASE BRACKET;0TILDE WITH DOT ABOVE;FBELOW",
    "0LEFT VERTICAL BAR WITH QUILL;0RIGHT VERTICAL BAR WITH QUILL;0TOP LEFT HALF BRACKET",
    "4RIGHT HALF BRACKET;0BOTTOM LEFT HALF BRACKET;7RIGHT HALF BRACKET;0LEFT SIDEWAYS U BRACKET",
    "0RIGHT SIDEWAYS U BRACKET;0LEFT DOUBLE PARENTHESIS;0RIGHT DOUBLE PARENTHESIS",
    "0TWO DOTS OVER ONE DOT PUNCTUATION;0ONE DOT OVER TWO DOTS PUNCTUATION",
    "0SQUARED FOUR DOT PUNCTUATION;0FIVE DOT MARK;0REVERSED QUESTION MARK;0VERTICAL TILDE",
    "0RING POINT;0WORD SEPARATOR MIDDLE DOT;0TURNED COMMA;0RAISED DOT;7COMMA;0TURNED SEMICOLON",
    "0DAGGER WITH LEFT GUARD;CRIGHT GUARD;0TURNED DAGGER;1OP HALF SECTION SIGN;1WO-EM DASH",
    "1HREE-EM DASH;0STENOGRAPHIC FULL STOP;0VERTICAL SIX DOTS;0WIGGLY VERTICAL LINE;0CAPITULUM",
    "0DOUBLE HYPHEN;0REVERSED COMMA;0DOUBLE LOW-REVERSED-9 QUOTATION MARK;1ASH WITH LEFT UPTURN",
    "1OUBLE SUSPENSION MARK;0INVERTED LOW KAVYKA;J WITH KAVYKA ABOVE;0LOW KAVYKA;A WITH DOT",
    "0DOUBLE STACKED COMMA;2TTED SOLIDUS;0TRIPLE DAGGER;0MEDIEVAL COMMA;0PARAGRAPHUS MARK",
    "1UNCTUS ELEVATUS MARK;0CORNISH VERSE DIVIDER;1ROSS PATTY WITH RIGHT CROSSBAR;HLEFT CROSSBAR",
    "0TIRONIAN SIGN CAPITAL ET;0MEDIEVAL EXCLAMATION MARK;9QUESTION MARK",
    "0LEFT SQUARE BRACKET WITH STROKE;0RIGHT SQUARE BRACKET WITH STROKE",
    "0LEFT SQUARE BRACKET WITH DOUBLE STROKE;0RIGHT SQUARE BRACKET WITH DOUBLE STROKE",
    "0TOP HALF LEFT PARENTHESIS;9RIGHT PARENTHESIS;0BOTTOM HALF LEFT PARENTHESIS",
    "CRIGHT PARENTHESIS;0OBLIQUE HYPHEN;2E80=0CJK RADICAL REPEAT;CCLIFF;CSECOND ONE;JTWO;KHREE",
    "CPERSON;CBOX;CTABLE;CKNIFE ONE;ITWO;CDIVINATION;CSEAL;DMALL ONE;ITWO;CLAME ONE;HTWO;IHREE",
    "HFOUR;CSNAKE;CTHREAD;CSNOUT ONE;ITWO;CHEART ONE;ITWO;DAND;CRAP;2E9B=CCHOKE;CSUN;CMOON;CDEATH",
    "CMOTHER;CCIVILIAN;CWATER ONE;ITWO;CFIRE;CPAW ONE;GTWO;CSIMPLIFIED HALF TREE TRUNK;CCOW;CDOG",
    "CJADE;CBOLT OF CLOTH;CEYE;CSPIRIT ONE;JTWO;CBAMBOO;CSILK;CC-SIMPLIFIED SILK;CNET ONE;GTWO",
    "HHREE;GFOUR;CMESH;CSHEEP;CRAM;CEWE;COLD;CBRUSH ONE;ITWO;CMEAT;DORTAR;CGRASS ONE;ITWO;JHREE",
    "CTIGER;CCLOTHES;CWEST ONE;HTWO;CC-SIMPLIFIED SEE;CSIMPLIFIED HORN;CHORN;CC-SIMPLIFIED SPEECH",
    "QHELL;CFOOT;CC-SIMPLIFIED CART;CSIMPLIFIED WALK;CWALK ONE;HTWO;CCITY;D-SIMPLIFIED GOLD",
    "CLONG ONE;HTWO;CC-SIMPLIFIED LONG;PGATE;CMOUND ONE;ITWO;CRAIN;CBLUE",
    "CC-SIMPLIFIED TANNED LEATHER;PLEAF;PWIND;PFLY;CEAT ONE;GTWO;HHREE;CC-SIMPLIFIED EAT;CHEAD",
    "CC-SIMPLIFIED HORSE;CBONE;CGHOST;CC-SIMPLIFIED FISH;PBIRD;PSALT;CSIMPLIFIED WHEAT;NYELLOW",
    "CC-SIMPLIFIED FROG;CJ-SIMPLIFIED EVEN;CC-SIMPLIFIED EVEN;CJ-SIMPLIFIED TOOTH",
    "CC-SIMPLIFIED TOOTH;CJ-SIMPLIFIED DRAGON;CC-SIMPLIFIED DRAGON;CTURTLE;CJ-SIMPLIFIED TURTLE",
    "CC-SIMPLIFIED TURTLE;2F00=0KANGXI RADICAL ONE;FLINE;FDOT;FSLASH;GECOND;FHOOK;FTWO;FLID;FMAN",
    "FLEGS;FENTER;GIGHT;FDOWN BOX;FCOVER;FICE;FTABLE;FOPEN BOX;FKNIFE;FPOWER;FWRAP;FSPOON",
    "FRIGHT OPEN BOX;FHIDING ENCLOSURE;FTEN;FDIVINATION;FSEAL;FCLIFF;FPRIVATE;FAGAIN;FMOUTH",
    "FENCLOSURE;GARTH;FSCHOLAR;FGO;H SLOWLY;FEVENING;FBIG;FWOMAN;FCHILD;FROOF;FINCH;FSMALL;FLAME",
    "FCORPSE;FSPROUT;FMOUNTAIN;FRIVER;FWORK;FONESELF;FTURBAN;FDRY;FSHORT THREAD;FDOTTED CLIFF",
    "FLONG STRIDE;FTWO HANDS;FSHOOT;FBOW;FSNOUT;FBRISTLE;FSTEP;FHEART;GALBERD;FDOOR;FHAND;FBRANCH",
    "FRAP;FSCRIPT;FDIPPER;FAXE;FSQUARE;FNOT;FSUN;GAY;FMOON;FTREE;FLACK;FSTOP;FDEATH;FWEAPON",
    "FDO NOT;FCOMPARE;FFUR;FCLAN;FSTEAM;FWATER;FFIRE;FCLAW;FFATHER;FDOUBLE X;FHALF TREE TRUNK",
    "FSLICE;FFANG;FCOW;FDOG;FPROFOUND;FJADE;FMELON;FTILE;FSWEET;FLIFE;FUSE;FFIELD;FBOLT OF CLOTH",
    "FSICKNESS;FDOTTED TENT;FWHITE;FSKIN;FDISH;FEYE;FSPEAR;FARROW;FSTONE;GPIRIT;FTRACK;FGRAIN",
    "FCAVE;FSTAND;FBAMBOO;FRICE;FSILK;FJAR;FNET;FSHEEP;FFEATHER;FOLD;FAND;FPLOW;FEAR;FBRUSH;FMEAT",
    "GINISTER;FSELF;FARRIVE;FMORTAR;FTONGUE;FOPPOSE;FBOAT;FSTOPPING;FCOLOR;FGRASS;FTIGER;FINSECT",
    "FBLOOD;FWALK ENCLOSURE;FCLOTHES;FWEST;FSEE;FHORN;FSPEECH;FVALLEY;FBEAN;FPIG;FBADGER;FSHELL",
    "FRED;GUN;FFOOT;FBODY;FCART;FBITTER;FMORNING;FWALK;FCITY;FWINE;FDISTINGUISH;FVILLAGE;FGOLD",
    "FLONG;FGATE;FMOUND;FSLAVE;GHORT TAILED BIRD;FRAIN;FBLUE;FWRONG;FFACE;FLEATHER",
    "FTANNED LEATHER;FLEEK;FSOUND;FLEAF;FWIND;FFLY;FEAT;FHEAD;FFRAGRANT;FHORSE;FBONE;FTALL;FHAIR",
    "FFIGHT;FSACRIFICIAL WINE;FCAULDRON;FGHOST;FFISH;FBIRD;FSALT;FDEER;FWHEAT;FHEMP;FYELLOW",
    "FMILLET;FBLACK;FEMBROIDERY;FFROG;FTRIPOD;FDRUM;FRAT;FNOSE;FEVEN;FTOOTH;FDRAGON;FTURTLE",
    "FFLUTE;2FF0=0IDEOGRAPHIC DESCRIPTION CHARACTER LEFT TO RIGHT;YABOVE TO BELOW",
    "YLEFT TO MIDDLE AND RIGHT;YABOVE TO MIDDLE AND BELOW;YFULL SURROUND;YSURROUND FROM ABOVE",
    "mBELOW;mLEFT;mUPPER LEFT;sRIGHT;mLOWER LEFT;YOVERLAID;3000=CSPACE;CCOMMA;CFULL STOP",
    "0DITTO MARK;0JAPANESE INDUSTRIAL STANDARD SYMBOL;0IDEOGRAPHIC ITERATION MARK;CCLOSING MARK",
    "CNUMBER ZERO;0LEFT ANGLE BRACKET;0RIGHT ANGLE BRACKET;0LEFT DOUBLE ANGLE BRACKET",
    "0RIGHT DOUBLE ANGLE BRACKET;0LEFT CORNER BRACKET;0RIGHT CORNER BRACKET",
    "0LEFT WHITE CORNER BRACKET;0RIGHT WHITE CORNER BRACKET;0LEFT BLACK LENTICULAR BRACKET",
    "0RIGHT BLACK LENTICULAR BRACKET;0POSTAL MARK;0GETA MARK;0LEFT TORTOISE SHELL BRACKET",
    "0RIGHT TORTOISE SHELL BRACKET;0LEFT WHITE LENTICULAR BRACKET;0RIGHT WHITE LENTICULAR BRACKET",
    "0LEFT WHITE TORTOISE SHELL BRACKET;0RIGHT WHITE TORTOISE SHELL BRACKET",
    "0LEFT WHITE SQUARE BRACKET;0RIGHT WHITE SQUARE BRACKET;0WAVE DASH",
    "0REVERSED DOUBLE PRIME QUOTATION MARK;0DOUBLE PRIME QUOTATION MARK",
    "0LOW DOUBLE PRIME QUOTATION MARK;0POSTAL MARK FACE;0HANGZHOU NUMERAL ONE;HTWO;IHREE;HFOUR",
    "IIVE;HSIX;IEVEN;HEIGHT;HNINE;0IDEOGRAPHIC LEVEL TONE MARK;CRISING TONE MARK",
    "CDEPARTING TONE MARK;CENTERING TONE MARK;0HANGUL SINGLE DOT TONE MARK;7DOUBLE DOT TONE MARK",
    "0WAVY DASH;0VERTICAL KANA REPEAT MARK;LWITH VOICED SOUND MARK;LMARK UPPER HALF",
    "LWITH VOICED SOUND MARK UPPER HALF;LMARK LOWER HALF;0CIRCLED POSTAL MARK",
    "0IDEOGRAPHIC TELEGRAPH LINE FEED SEPARATOR SYMBOL;0HANGZHOU NUMERAL TEN;IWENTY;IHIRTY",
    "0VERTICAL IDEOGRAPHIC ITERATION MARK;0MASU MARK;0PART ALTERNATION MARK",
    "0IDEOGRAPHIC VARIATION INDICATOR;CHALF FILL SPACE;3041=0HIRAGANA LETTER SMALL A;GA;GSMALL I",
    "GI;GSMALL U;GU;GSMALL E;GE;GSMALL O;GO;GKA;GGA;GKI;GGI;GKU;GGU;GKE;GGE;GKO;GGO;GSA;GZA;GSI",
    "GZI;GSU;GZU;GSE;GZE;GSO;GZO;GTA;GDA;GTI;GDI;GSMALL TU;GTU;GDU;GTE;GDE;GTO;GDO;GNA;HI;HU;HE",
    "HO;GHA;GBA;GPA;GHI;GBI;GPI;GHU;GBU;GPU;GHE;GBE;GPE;GHO;GBO;GPO;GMA;HI;HU;HE;HO;GSMALL YA;GYA",
    "GSMALL YU;GYU;GSMALL YO;GYO;GRA;HI;HU;HE;HO;GSMALL WA;GWA;HI;HE;HO;GN;GVU;GSMALL KA;NE",
    "3099=0COMBINING KATAKANA-HIRAGANA VOICED SOUND MARK;SSEMI-VOICED SOUND MARK",
    "0KATAKANA-HIRAGANA VOICED SOUND MARK;ISEMI-VOICED SOUND MARK;0HIRAGANA ITERATION MARK",
    "9VOICED ITERATION MARK;9DIGRAPH YORI;0KATAKANA-HIRAGANA DOUBLE HYPHEN;8 LETTER SMALL A;GA",
    "GSMALL I;GI;GSMALL U;GU;GSMALL E;GE;GSMALL O;GO;GKA;GGA;GKI;GGI;GKU;GGU;GKE;GGE;GKO;GGO;GSA",
    "GZA;GSI;GZI;GSU;GZU;GSE;GZE;GSO;GZO;GTA;GDA;GTI;GDI;GSMALL TU;GTU;GDU;GTE;GDE;GTO;GDO;GNA;HI",
    "HU;HE;HO;GHA;GBA;GPA;GHI;GBI;GPI;GHU;GBU;GPU;GHE;GBE;GPE;GHO;GBO;GPO;GMA;HI;HU;HE;HO",
    "GSMALL YA;GYA;GSMALL YU;GYU;GSMALL YO;GYO;GRA;HI;HU;HE;HO;GSMALL WA;GWA;HI;HE;HO;GN;GVU",
    "GSMALL KA;NE;GVA;HI;HE;HO;9MIDDLE DOT;8-HIRAGANA PROLONGED SOUND MARK;8 ITERATION MARK",
    "9VOICED ITERATION MARK;9DIGRAPH KOTO;3105=0BOPOMOFO LETTER B;GP;GM;GF;GD;GT;GN;GL;GG;GK;GH",
    "GJ;GQ;GX;GZH;GCH;GSH;GR;GZ;GC;GS;GA;GO;GE;HH;GAI;GEI;GAU;GOU;GAN;GEN;GANG;GENG;HR;GI;GU;GIU",
    "GV;GNG;GGN;GIH;GO WITH DOT ABOVE;GNN;3131=0HANGUL LETTER KIYEOK;ESSANGKIYEOK;EKIYEOK-SIOS",
    "ENIEUN;J-CIEUC;KHIEUH;ETIKEUT;ESSANGTIKEUT;ERIEUL;J-KIYEOK;KMIEUM;KPIEUP;KSIOS;KTHIEUTH",
    "KPHIEUPH;KHIEUH;EMIEUM;EPIEUP;ESSANGPIEUP;EPIEUP-SIOS;ESIOS;FSANGSIOS;EIEUNG;ECIEUC",
    "ESSANGCIEUC;ECHIEUCH;EKHIEUKH;ETHIEUTH;EPHIEUPH;EHIEUH;EA;FE;EYA;GE;EEO;F;EYEO;G;EO;EWA;GE",
    "EOE;EYO;EU;EWEO;G;FI;EYU;EEU;EYI;EI;7FILLER;7LETTER SSANGNIEUN;ENIEUN-TIKEUT;KSIOS;KPANSIOS",
    "ERIEUL-KIYEOK-SIOS;KTIKEUT;KPIEUP-SIOS;LANSIOS;KYEORINHIEUH;EMIEUM-PIEUP;KSIOS;KPANSIOS",
    "EKAPYEOUNMIEUM;EPIEUP-KIYEOK;KTIKEUT;KSIOS-KIYEOK;PTIKEUT;KCIEUC;KTHIEUTH;EKAPYEOUNPIEUP",
    "MSSANGPIEUP;ESIOS-KIYEOK;JNIEUN;JTIKEUT;JPIEUP;JCIEUC;EPANSIOS;ESSANGIEUNG;EYESIEUNG;M-SIOS",
    "NPANSIOS;EKAPYEOUNPHIEUPH;ESSANGHIEUH;EYEORINHIEUH;FO-YA;JE;HI;FU-YEO;J;HI;EARAEA;JE",
    "3190=0IDEOGRAPHIC ANNOTATION LINKING MARK;NREVERSE MARK;NONE MARK;NTWO MARK;OHREE MARK",
    "NFOUR MARK;NTOP MARK;NMIDDLE MARK;NBOTTOM MARK;NFIRST MARK;NSECOND MARK;NTHIRD MARK",
    "NFOURTH MARK;NHEAVEN MARK;NEARTH MARK;NMAN MARK;0BOPOMOFO LETTER BU;GZI;GJI;GGU;GEE;HNN;GOO",
    "HNN;GIR;GANN;GINN;GUNN;GIM;GNGG;GAINN;HUNN;HM;GOM;HNG;GINNN;9FINAL LETTER P;MT;MK;MH",
    "9LETTER GH;GLH;GZY;9FINAL LETTER G;9LETTER GW;GKW;GOE;GAH;0CJK STROKE T;BWG;BXG;BBXG;BSW",
    "BHZZ;DG;CP;CZWG;BSZWG;BHZT;DZP;CPWG;CZW;DZZ;BN;BH;BS;BP;BSP;BD;BHZ;CG;BSZ;CWZ;CT;CG;BPD;CZ",
    "BTN;BSZZ;CWG;BHXWG;CZZZG;BPG;BQ;31F0=0KATAKANA LETTER SMALL KU;MSI;NU;MTO;MNU;MHA;NI;NU;NE",
    "NO;MMU;MRA;NI;NU;NE;NO;0PARENTHESIZED HANGUL KIYEOK;LNIEUN;LTIKEUT;LRIEUL;LMIEUM;LPIEUP",
    "LSIOS;LIEUNG;LCIEUC;MHIEUCH;LKHIEUKH;LTHIEUTH;LPHIEUPH;LHIEUH;LKIYEOK A;LNIEUN A;LTIKEUT A",
    "LRIEUL A;LMIEUM A;LPIEUP A;LSIOS A;LIEUNG A;LCIEUC A;MHIEUCH A;LKHIEUKH A;LTHIEUTH A",
    "LPHIEUPH A;LHIEUH A;LCIEUC U;EKOREAN CHARACTER OJEON;W HU;3220=EIDEOGRAPH ONE;OTWO;PHREE",
    "OFOUR;PIVE;OSIX;PEVEN;OEIGHT;ONINE;OTEN;OMOON;OFIRE;OWATER;POOD;OMETAL;OEARTH;OSUN;PTOCK",
    "OHAVE;OSOCIETY;ONAME;OSPECIAL;OFINANCIAL;OCONGRATULATION;OLABOR;OREPRESENT;OCALL;OSTUDY",
    "PUPERVISE;OENTERPRISE;ORESOURCE;OALLIANCE;OFESTIVAL;OREST;OSELF;OREACH",
    "0CIRCLED IDEOGRAPH QUESTION;IKINDERGARTEN;ISCHOOL;IKOTO;8NUMBER TEN ON BLACK SQUARE",
    "GWENTY ON BLACK SQUARE;GHIRTY ON BLACK SQUARE;FFORTY ON BLACK SQUARE;GIFTY ON BLACK SQUARE",
    "FSIXTY ON BLACK SQUARE;GEVENTY ON BLACK SQUARE;FEIGHTY ON BLACK SQUARE;0PARTNERSHIP SIGN",
    "0CIRCLED NUMBER TWENTY ONE;MTWO;NHREE;MFOUR;NIVE;MSIX;NEVEN;MEIGHT;MNINE;GHIRTY;L ONE;MTWO",
    "NHREE;MFOUR;NIVE;8HANGUL KIYEOK;FNIEUN;FTIKEUT;FRIEUL;FMIEUM;FPIEUP;FSIOS;FIEUNG;FCIEUC",
    "GHIEUCH;FKHIEUKH;FTHIEUTH;FPHIEUPH;FHIEUH;FKIYEOK A;FNIEUN A;FTIKEUT A;FRIEUL A;FMIEUM A",
    "FPIEUP A;FSIOS A;FIEUNG A;FCIEUC A;GHIEUCH A;FKHIEUKH A;FTHIEUTH A;FPHIEUPH A;FHIEUH A",
    "8KOREAN CHARACTER CHAMKO;PJUEUI;8HANGUL IEUNG U;0KOREAN STANDARD SYMBOL",
    "0CIRCLED IDEOGRAPH ONE;ITWO;JHREE;IFOUR;JIVE;ISIX;JEVEN;IEIGHT;ININE;ITEN;IMOON;IFIRE;IWATER",
    "JOOD;IMETAL;IEARTH;ISUN;JTOCK;IHAVE;ISOCIETY;INAME;ISPECIAL;IFINANCIAL;ICONGRATULATION",
    "ILABOR;ISECRET;IMALE;IFEMALE;ISUITABLE;IEXCELLENT;IPRINT;IATTENTION;IITEM;IREST;ICOPY;KRRECT",
    "IHIGH;ICENTRE;ILOW;JEFT;IRIGHT;IMEDICINE;IRELIGION;ISTUDY;JUPERVISE;IENTERPRISE;IRESOURCE",
    "IALLIANCE;INIGHT;8NUMBER THIRTY SIX;NEVEN;MEIGHT;MNINE;FFORTY;K ONE;LTWO;MHREE;LFOUR;MIVE",
    "LSIX;MEVEN;LEIGHT;LNINE;GIFTY;0IDEOGRAPHIC TELEGRAPH SYMBOL FOR JANUARY;XFEBRUARY;XMARCH",
    "XAPRIL;XMAY;XJUNE;ZLY;XAUGUST;XSEPTEMBER;XOCTOBER;XNOVEMBER;XDECEMBER;0SQUARE HG;7ERG;8V",
    "0LIMITED LIABILITY SIGN;0CIRCLED KATAKANA A;HI;HU;HE;HO;HKA;II;IU;IE;IO;HSA;II;IU;IE;IO;HTA",
    "II;IU;IE;IO;HNA;II;IU;IE;IO;HHA;II;IU;IE;IO;HMA;II;IU;IE;IO;HYA;IU;IO;HRA;II;IU;IE;IO;HWA;II",
    "IE;IO;0SQUARE ERA NAME REIWA;7APAATO;8RUHUA;8NPEA;8ARU;7ININGU;9TI;7UON;7ESUKUUDO;8EKAA",
    "7ONSU;8OMU;7KAIRI;9RATTO;AORII;7GARON;9NMA;8IGA;9NII;7KYURII;7GIRUDAA;7KIRO;BGURAMU;BMEETORU",
    "BWATTO;7GURAMU;DTON;7KURUZEIRO;AOONE;8EESU;8ORUNA;9OPO;7SAIKURU;9NTIIMU;8IRINGU;8ENTI;BO",
    "7DAASU;8ESI;8ORU;7TON;7NANO;8OTTO;7HAITU;7PAASENTO;ATU;7BAARERU;7PIASUTORU;9KURU;AO;7BIRU",
    "7HUARADDO;9IITO;7BUSSYERU;7HURAN;8EKUTAARU;7PESO;9NIHI;7HERUTU;7PENSU;9EZI;7BEETA;7POINTO",
    "7BORUTO;7HON;7PONDO;7HOORU;AN;7MAIKURO;ARU;9HHA;9RUKU;9NSYON;8IKURON;9RI;BBAARU;8EGA;BTON",
    "9ETORU;7YAADO;ARU;8UAN;7RITTORU;9RA;8UPII;9UBURU;8EMU;9NTOGEN;7WATTO",
    "0IDEOGRAPHIC TELEGRAPH SYMBOL FOR HOUR ZERO;cONE;cTWO;dHREE;cFOUR;dIVE;cSIX;dEVEN;cEIGHT",
    "cNINE;cTEN;cELEVEN;cTWELVE;dHIRTEEN;cFOURTEEN;dIFTEEN;cSIXTEEN;dEVENTEEN;cEIGHTEEN;cNINETEEN",
    "cTWENTY;i-ONE;jTWO;kHREE;jFOUR;0SQUARE HPA;7DA;7AU;7BAR;7OV;7PC;7DM;9 SQUARED;ACUBED;7IU",
    "7ERA NAME HEISEI;GSYOUWA;GTAISYOU;GMEIZI;7CORPORATION;7PA AMPS;7NA;7MU A;8A;7KA;8B;7MB;7GB",
    "7CAL;7KCAL;7PF;7NF;7MU F;AG;8G;7KG;7HZ;7KHZ;7MHZ;7GHZ;7THZ;7MU L;8L;7DL;7KL;7FM;7NM;7MU M;8M",
    "7CM;7KM;7MM SQUARED;7CM SQUARED;7M SQUARED;7KM SQUARED;7MM CUBED;7CM CUBED;7M CUBED",
    "7KM CUBED;7M OVER S;F SQUARED;7PA;7KPA;7MPA;7GPA;7RAD;A OVER S;H SQUARED;7PS;7NS;7MU S;8S",
    "7PV;7NV;7MU V;8V;7KV;7MV MEGA;7PW;7NW;7MU W;8W;7KW;7MW MEGA;7K OHM;7M OHM;7AM;7BQ;7CC;8D",
    "8 OVER KG;8O;7DB;7GY;7HA;8P;7IN;7KK;8M CAPITAL;8T;7LM;8N;8OG;8X;7MB SMALL;8IL;8OL;7PH;8M;8PM",
    "8R;7SR;8V;7WB;7V OVER M;7A OVER M;0IDEOGRAPHIC TELEGRAPH SYMBOL FOR DAY ONE;bTWO;cHREE;bFOUR",
    "cIVE;bSIX;cEVEN;bEIGHT;bNINE;bTEN;bELEVEN;bTWELVE;cHIRTEEN;bFOURTEEN;cIFTEEN;bSIXTEEN",
    "cEVENTEEN;bEIGHTEEN;bNINETEEN;bTWENTY;h-ONE;iTWO;jHREE;iFOUR;jIVE;iSIX;jEVEN;iEIGHT;iNINE",
    "cHIRTY;h-ONE;0SQUARE GAL;4DC0=0HEXAGRAM FOR THE CREATIVE HEAVEN;HRECEPTIVE EARTH",
    "DDIFFICULTY AT THE BEGINNING;DYOUTHFUL FOLLY;DWAITING;DCONFLICT;DTHE ARMY;DHOLDING TOGETHER",
    "DSMALL TAMING;DTREADING;DPEACE;DSTANDSTILL;DFELLOWSHIP;DGREAT POSSESSION;DMODESTY",
    "DENTHUSIASM;DFOLLOWING;DWORK ON THE DECAYED;DAPPROACH;DCONTEMPLATION;DBITING THROUGH;DGRACE",
    "DSPLITTING APART;DRETURN;DINNOCENCE;DGREAT TAMING;DMOUTH CORNERS;DGREAT PREPONDERANCE",
    "DTHE ABYSMAL WATER;HCLINGING FIRE;DINFLUENCE;DDURATION;DRETREAT;DGREAT POWER;DPROGRESS",
    "DDARKENING OF THE LIGHT;DTHE FAMILY;DOPPOSITION;EBSTRUCTION;DDELIVERANCE;FCREASE;DINCREASE",
    "DBREAKTHROUGH;DCOMING TO MEET;DGATHERING TOGETHER;DPUSHING UPWARD;DOPPRESSION;DTHE WELL",
    "DREVOLUTION;DTHE CAULDRON;HAROUSING THUNDER;HKEEPING STILL MOUNTAIN;DDEVELOPMENT",
    "DTHE MARRYING MAIDEN;DABUNDANCE;DTHE WANDERER;HGENTLE WIND;HJOYOUS LAKE;DDISPERSION",
    "DLIMITATION;DINNER TRUTH;DSMALL PREPONDERANCE;DAFTER COMPLETION;DBEFORE COMPLETION"]

end RecordDocs.Text
