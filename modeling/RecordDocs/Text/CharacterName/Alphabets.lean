/-!
# Names of characters: the alphabets of Europe, the Near East and South Asia

The names of the characters from 0 to FFF, as of Unicode 14, in the short form of name tables.
-/

namespace RecordDocs.Text

def alphabetsNames : List String :=
  ["20=0SPACE;0EXCLAMATION MARK;0QUOTATION MARK;0NUMBER SIGN;0DOLLAR SIGN;0PERCENT SIGN",
    "0AMPERSAND;1POSTROPHE;0LEFT PARENTHESIS;0RIGHT PARENTHESIS;0ASTERISK;0PLUS SIGN;0COMMA",
    "0HYPHEN-MINUS;0FULL STOP;0SOLIDUS;0DIGIT ZERO;6ONE;6TWO;7HREE;6FOUR;7IVE;6SIX;7EVEN;6EIGHT",
    "6NINE;0COLON;0SEMICOLON;0LESS-THAN SIGN;0EQUALS SIGN;0GREATER-THAN SIGN;0QUESTION MARK",
    "0COMMERCIAL AT;0LATIN CAPITAL LETTER A;LB;LC;LD;LE;LF;LG;LH;LI;LJ;LK;LL;LM;LN;LO;LP;LQ;LR;LS",
    "LT;LU;LV;LW;LX;LY;LZ;1EFT SQUARE BRACKET;0REVERSE SOLIDUS;1IGHT SQUARE BRACKET",
    "0CIRCUMFLEX ACCENT;0LOW LINE;0GRAVE ACCENT;0LATIN SMALL LETTER A;JB;JC;JD;JE;JF;JG;JH;JI;JJ",
    "JK;JL;JM;JN;JO;JP;JQ;JR;JS;JT;JU;JV;JW;JX;JY;JZ;1EFT CURLY BRACKET;0VERTICAL LINE",
    "0RIGHT CURLY BRACKET;0TILDE;A0=0NO-BREAK SPACE;0INVERTED EXCLAMATION MARK;0CENT SIGN",
    "0POUND SIGN;0CURRENCY SIGN;0YEN SIGN;0BROKEN BAR;0SECTION SIGN;0DIAERESIS;0COPYRIGHT SIGN",
    "0FEMININE ORDINAL INDICATOR;0LEFT-POINTING DOUBLE ANGLE QUOTATION MARK;0NOT SIGN",
    "0SOFT HYPHEN;0REGISTERED SIGN;0MACRON;0DEGREE SIGN;0PLUS-MINUS SIGN;0SUPERSCRIPT TWO;DHREE",
    "0ACUTE ACCENT;0MICRO SIGN;0PILCROW SIGN;0MIDDLE DOT;0CEDILLA;0SUPERSCRIPT ONE",
    "0MASCULINE ORDINAL INDICATOR;0RIGHT-POINTING DOUBLE ANGLE QUOTATION MARK",
    "0VULGAR FRACTION ONE QUARTER;KHALF;GTHREE QUARTERS;0INVERTED QUESTION MARK",
    "0LATIN CAPITAL LETTER A WITH GRAVE;SACUTE;SCIRCUMFLEX;STILDE;SDIAERESIS;SRING ABOVE;ME",
    "LC WITH CEDILLA;LE WITH GRAVE;SACUTE;SCIRCUMFLEX;SDIAERESIS;LI WITH GRAVE;SACUTE;SCIRCUMFLEX",
    "SDIAERESIS;LETH;LN WITH TILDE;LO WITH GRAVE;SACUTE;SCIRCUMFLEX;STILDE;SDIAERESIS",
    "0MULTIPLICATION SIGN;0LATIN CAPITAL LETTER O WITH STROKE;LU WITH GRAVE;SACUTE;SCIRCUMFLEX",
    "SDIAERESIS;LY WITH ACUTE;LTHORN;6SMALL LETTER SHARP S;JA WITH GRAVE;QACUTE;QCIRCUMFLEX",
    "QTILDE;QDIAERESIS;QRING ABOVE;KE;JC WITH CEDILLA;JE WITH GRAVE;QACUTE;QCIRCUMFLEX;QDIAERESIS",
    "JI WITH GRAVE;QACUTE;QCIRCUMFLEX;QDIAERESIS;JETH;JN WITH TILDE;JO WITH GRAVE;QACUTE",
    "QCIRCUMFLEX;QTILDE;QDIAERESIS;0DIVISION SIGN;0LATIN SMALL LETTER O WITH STROKE;JU WITH GRAVE",
    "QACUTE;QCIRCUMFLEX;QDIAERESIS;JY WITH ACUTE;JTHORN;JY WITH DIAERESIS",
    "6CAPITAL LETTER A WITH MACRON;6SMALL LETTER A WITH MACRON;6CAPITAL LETTER A WITH BREVE",
    "6SMALL LETTER A WITH BREVE;6CAPITAL LETTER A WITH OGONEK;6SMALL LETTER A WITH OGONEK",
    "6CAPITAL LETTER C WITH ACUTE;6SMALL LETTER C WITH ACUTE;6CAPITAL LETTER C WITH CIRCUMFLEX",
    "6SMALL LETTER C WITH CIRCUMFLEX;6CAPITAL LETTER C WITH DOT ABOVE",
    "6SMALL LETTER C WITH DOT ABOVE;6CAPITAL LETTER C WITH CARON;6SMALL LETTER C WITH CARON",
    "6CAPITAL LETTER D WITH CARON;6SMALL LETTER D WITH CARON;6CAPITAL LETTER D WITH STROKE",
    "6SMALL LETTER D WITH STROKE;6CAPITAL LETTER E WITH MACRON;6SMALL LETTER E WITH MACRON",
    "6CAPITAL LETTER E WITH BREVE;6SMALL LETTER E WITH BREVE;6CAPITAL LETTER E WITH DOT ABOVE",
    "6SMALL LETTER E WITH DOT ABOVE;6CAPITAL LETTER E WITH OGONEK;6SMALL LETTER E WITH OGONEK",
    "6CAPITAL LETTER E WITH CARON;6SMALL LETTER E WITH CARON;6CAPITAL LETTER G WITH CIRCUMFLEX",
    "6SMALL LETTER G WITH CIRCUMFLEX;6CAPITAL LETTER G WITH BREVE;6SMALL LETTER G WITH BREVE",
    "6CAPITAL LETTER G WITH DOT ABOVE;6SMALL LETTER G WITH DOT ABOVE",
    "6CAPITAL LETTER G WITH CEDILLA;6SMALL LETTER G WITH CEDILLA",
    "6CAPITAL LETTER H WITH CIRCUMFLEX;6SMALL LETTER H WITH CIRCUMFLEX",
    "6CAPITAL LETTER H WITH STROKE;6SMALL LETTER H WITH STROKE;6CAPITAL LETTER I WITH TILDE",
    "6SMALL LETTER I WITH TILDE;6CAPITAL LETTER I WITH MACRON;6SMALL LETTER I WITH MACRON",
    "6CAPITAL LETTER I WITH BREVE;6SMALL LETTER I WITH BREVE;6CAPITAL LETTER I WITH OGONEK",
    "6SMALL LETTER I WITH OGONEK;6CAPITAL LETTER I WITH DOT ABOVE;6SMALL LETTER DOTLESS I",
    "6CAPITAL LIGATURE IJ;6SMALL LIGATURE IJ;6CAPITAL LETTER J WITH CIRCUMFLEX",
    "6SMALL LETTER J WITH CIRCUMFLEX;6CAPITAL LETTER K WITH CEDILLA;6SMALL LETTER K WITH CEDILLA",
    "KRA;6CAPITAL LETTER L WITH ACUTE;6SMALL LETTER L WITH ACUTE;6CAPITAL LETTER L WITH CEDILLA",
    "6SMALL LETTER L WITH CEDILLA;6CAPITAL LETTER L WITH CARON;6SMALL LETTER L WITH CARON",
    "6CAPITAL LETTER L WITH MIDDLE DOT;6SMALL LETTER L WITH MIDDLE DOT",
    "6CAPITAL LETTER L WITH STROKE;6SMALL LETTER L WITH STROKE;6CAPITAL LETTER N WITH ACUTE",
    "6SMALL LETTER N WITH ACUTE;6CAPITAL LETTER N WITH CEDILLA;6SMALL LETTER N WITH CEDILLA",
    "6CAPITAL LETTER N WITH CARON;6SMALL LETTER N WITH CARON;LPRECEDED BY APOSTROPHE",
    "6CAPITAL LETTER ENG;6SMALL LETTER ENG;6CAPITAL LETTER O WITH MACRON",
    "6SMALL LETTER O WITH MACRON;6CAPITAL LETTER O WITH BREVE;6SMALL LETTER O WITH BREVE",
    "6CAPITAL LETTER O WITH DOUBLE ACUTE;6SMALL LETTER O WITH DOUBLE ACUTE;6CAPITAL LIGATURE OE",
    "6SMALL LIGATURE OE;6CAPITAL LETTER R WITH ACUTE;6SMALL LETTER R WITH ACUTE",
    "6CAPITAL LETTER R WITH CEDILLA;6SMALL LETTER R WITH CEDILLA;6CAPITAL LETTER R WITH CARON",
    "6SMALL LETTER R WITH CARON;6CAPITAL LETTER S WITH ACUTE;6SMALL LETTER S WITH ACUTE",
    "6CAPITAL LETTER S WITH CIRCUMFLEX;6SMALL LETTER S WITH CIRCUMFLEX",
    "6CAPITAL LETTER S WITH CEDILLA;6SMALL LETTER S WITH CEDILLA;6CAPITAL LETTER S WITH CARON",
    "6SMALL LETTER S WITH CARON;6CAPITAL LETTER T WITH CEDILLA;6SMALL LETTER T WITH CEDILLA",
    "6CAPITAL LETTER T WITH CARON;6SMALL LETTER T WITH CARON;6CAPITAL LETTER T WITH STROKE",
    "6SMALL LETTER T WITH STROKE;6CAPITAL LETTER U WITH TILDE;6SMALL LETTER U WITH TILDE",
    "6CAPITAL LETTER U WITH MACRON;6SMALL LETTER U WITH MACRON;6CAPITAL LETTER U WITH BREVE",
    "6SMALL LETTER U WITH BREVE;6CAPITAL LETTER U WITH RING ABOVE;6SMALL LETTER U WITH RING ABOVE",
    "6CAPITAL LETTER U WITH DOUBLE ACUTE;6SMALL LETTER U WITH DOUBLE ACUTE",
    "6CAPITAL LETTER U WITH OGONEK;6SMALL LETTER U WITH OGONEK;6CAPITAL LETTER W WITH CIRCUMFLEX",
    "6SMALL LETTER W WITH CIRCUMFLEX;6CAPITAL LETTER Y WITH CIRCUMFLEX",
    "6SMALL LETTER Y WITH CIRCUMFLEX;6CAPITAL LETTER Y WITH DIAERESIS;LZ WITH ACUTE",
    "6SMALL LETTER Z WITH ACUTE;6CAPITAL LETTER Z WITH DOT ABOVE;6SMALL LETTER Z WITH DOT ABOVE",
    "6CAPITAL LETTER Z WITH CARON;6SMALL LETTER Z WITH CARON;JLONG S;JB WITH STROKE",
    "6CAPITAL LETTER B WITH HOOK;STOPBAR;6SMALL LETTER B WITH TOPBAR;6CAPITAL LETTER TONE SIX",
    "6SMALL LETTER TONE SIX;6CAPITAL LETTER OPEN O;LC WITH HOOK;6SMALL LETTER C WITH HOOK",
    "6CAPITAL LETTER AFRICAN D;LD WITH HOOK;STOPBAR;6SMALL LETTER D WITH TOPBAR;JTURNED DELTA",
    "6CAPITAL LETTER REVERSED E;LSCHWA;LOPEN E;LF WITH HOOK;6SMALL LETTER F WITH HOOK",
    "6CAPITAL LETTER G WITH HOOK;MAMMA;6SMALL LETTER HV;6CAPITAL LETTER IOTA;M WITH STROKE",
    "LK WITH HOOK;6SMALL LETTER K WITH HOOK;JL WITH BAR;KAMBDA WITH STROKE",
    "6CAPITAL LETTER TURNED M;LN WITH LEFT HOOK;6SMALL LETTER N WITH LONG RIGHT LEG",
    "6CAPITAL LETTER O WITH MIDDLE TILDE;SHORN;6SMALL LETTER O WITH HORN;6CAPITAL LETTER OI",
    "6SMALL LETTER OI;6CAPITAL LETTER P WITH HOOK;6SMALL LETTER P WITH HOOK;6LETTER YR",
    "6CAPITAL LETTER TONE TWO;6SMALL LETTER TONE TWO;6CAPITAL LETTER ESH",
    "6LETTER REVERSED ESH LOOP;6SMALL LETTER T WITH PALATAL HOOK;6CAPITAL LETTER T WITH HOOK",
    "6SMALL LETTER T WITH HOOK;6CAPITAL LETTER T WITH RETROFLEX HOOK;LU WITH HORN",
    "6SMALL LETTER U WITH HORN;6CAPITAL LETTER UPSILON;LV WITH HOOK;LY WITH HOOK",
    "6SMALL LETTER Y WITH HOOK;6CAPITAL LETTER Z WITH STROKE;6SMALL LETTER Z WITH STROKE",
    "6CAPITAL LETTER EZH;O REVERSED;6SMALL LETTER EZH REVERSED;NWITH TAIL;6LETTER TWO WITH STROKE",
    "6CAPITAL LETTER TONE FIVE;6SMALL LETTER TONE FIVE;6LETTER INVERTED GLOTTAL STOP WITH STROKE",
    "DWYNN;DDENTAL CLICK;DLATERAL CLICK;DALVEOLAR CLICK;DRETROFLEX CLICK",
    "6CAPITAL LETTER DZ WITH CARON;M WITH SMALL LETTER Z WITH CARON;6SMALL LETTER DZ WITH CARON",
    "6CAPITAL LETTER LJ;M WITH SMALL LETTER J;6SMALL LETTER LJ;6CAPITAL LETTER NJ",
    "M WITH SMALL LETTER J;6SMALL LETTER NJ;6CAPITAL LETTER A WITH CARON",
    "6SMALL LETTER A WITH CARON;6CAPITAL LETTER I WITH CARON;6SMALL LETTER I WITH CARON",
    "6CAPITAL LETTER O WITH CARON;6SMALL LETTER O WITH CARON;6CAPITAL LETTER U WITH CARON",
    "6SMALL LETTER U WITH CARON;6CAPITAL LETTER U WITH DIAERESIS AND MACRON",
    "6SMALL LETTER U WITH DIAERESIS AND MACRON;6CAPITAL LETTER U WITH DIAERESIS AND ACUTE",
    "6SMALL LETTER U WITH DIAERESIS AND ACUTE;6CAPITAL LETTER U WITH DIAERESIS AND CARON",
    "6SMALL LETTER U WITH DIAERESIS AND CARON;6CAPITAL LETTER U WITH DIAERESIS AND GRAVE",
    "6SMALL LETTER U WITH DIAERESIS AND GRAVE;JTURNED E",
    "6CAPITAL LETTER A WITH DIAERESIS AND MACRON;6SMALL LETTER A WITH DIAERESIS AND MACRON",
    "6CAPITAL LETTER A WITH DOT ABOVE AND MACRON;6SMALL LETTER A WITH DOT ABOVE AND MACRON",
    "6CAPITAL LETTER AE WITH MACRON;6SMALL LETTER AE WITH MACRON;6CAPITAL LETTER G WITH STROKE",
    "6SMALL LETTER G WITH STROKE;6CAPITAL LETTER G WITH CARON;6SMALL LETTER G WITH CARON",
    "6CAPITAL LETTER K WITH CARON;6SMALL LETTER K WITH CARON;6CAPITAL LETTER O WITH OGONEK",
    "6SMALL LETTER O WITH OGONEK;6CAPITAL LETTER O WITH OGONEK AND MACRON",
    "6SMALL LETTER O WITH OGONEK AND MACRON;6CAPITAL LETTER EZH WITH CARON",
    "6SMALL LETTER EZH WITH CARON;JJ WITH CARON;6CAPITAL LETTER DZ;M WITH SMALL LETTER Z",
    "6SMALL LETTER DZ;6CAPITAL LETTER G WITH ACUTE;6SMALL LETTER G WITH ACUTE",
    "6CAPITAL LETTER HWAIR;LWYNN;LN WITH GRAVE;6SMALL LETTER N WITH GRAVE",
    "6CAPITAL LETTER A WITH RING ABOVE AND ACUTE;6SMALL LETTER A WITH RING ABOVE AND ACUTE",
    "6CAPITAL LETTER AE WITH ACUTE;6SMALL LETTER AE WITH ACUTE",
    "6CAPITAL LETTER O WITH STROKE AND ACUTE;6SMALL LETTER O WITH STROKE AND ACUTE",
    "6CAPITAL LETTER A WITH DOUBLE GRAVE;6SMALL LETTER A WITH DOUBLE GRAVE",
    "6CAPITAL LETTER A WITH INVERTED BREVE;6SMALL LETTER A WITH INVERTED BREVE",
    "6CAPITAL LETTER E WITH DOUBLE GRAVE;6SMALL LETTER E WITH DOUBLE GRAVE",
    "6CAPITAL LETTER E WITH INVERTED BREVE;6SMALL LETTER E WITH INVERTED BREVE",
    "6CAPITAL LETTER I WITH DOUBLE GRAVE;6SMALL LETTER I WITH DOUBLE GRAVE",
    "6CAPITAL LETTER I WITH INVERTED BREVE;6SMALL LETTER I WITH INVERTED BREVE",
    "6CAPITAL LETTER O WITH DOUBLE GRAVE;6SMALL LETTER O WITH DOUBLE GRAVE",
    "6CAPITAL LETTER O WITH INVERTED BREVE;6SMALL LETTER O WITH INVERTED BREVE",
    "6CAPITAL LETTER R WITH DOUBLE GRAVE;6SMALL LETTER R WITH DOUBLE GRAVE",
    "6CAPITAL LETTER R WITH INVERTED BREVE;6SMALL LETTER R WITH INVERTED BREVE",
    "6CAPITAL LETTER U WITH DOUBLE GRAVE;6SMALL LETTER U WITH DOUBLE GRAVE",
    "6CAPITAL LETTER U WITH INVERTED BREVE;6SMALL LETTER U WITH INVERTED BREVE",
    "6CAPITAL LETTER S WITH COMMA BELOW;6SMALL LETTER S WITH COMMA BELOW",
    "6CAPITAL LETTER T WITH COMMA BELOW;6SMALL LETTER T WITH COMMA BELOW;6CAPITAL LETTER YOGH",
    "6SMALL LETTER YOGH;6CAPITAL LETTER H WITH CARON;6SMALL LETTER H WITH CARON",
    "6CAPITAL LETTER N WITH LONG RIGHT LEG;6SMALL LETTER D WITH CURL;6CAPITAL LETTER OU",
    "6SMALL LETTER OU;6CAPITAL LETTER Z WITH HOOK;6SMALL LETTER Z WITH HOOK",
    "6CAPITAL LETTER A WITH DOT ABOVE;6SMALL LETTER A WITH DOT ABOVE",
    "6CAPITAL LETTER E WITH CEDILLA;6SMALL LETTER E WITH CEDILLA",
    "6CAPITAL LETTER O WITH DIAERESIS AND MACRON;6SMALL LETTER O WITH DIAERESIS AND MACRON",
    "6CAPITAL LETTER O WITH TILDE AND MACRON;6SMALL LETTER O WITH TILDE AND MACRON",
    "6CAPITAL LETTER O WITH DOT ABOVE;6SMALL LETTER O WITH DOT ABOVE",
    "6CAPITAL LETTER O WITH DOT ABOVE AND MACRON;6SMALL LETTER O WITH DOT ABOVE AND MACRON",
    "6CAPITAL LETTER Y WITH MACRON;6SMALL LETTER Y WITH MACRON;JL WITH CURL;JN WITH CURL",
    "JT WITH CURL;JDOTLESS J;KB DIGRAPH;JQP DIGRAPH;6CAPITAL LETTER A WITH STROKE;LC WITH STROKE",
    "6SMALL LETTER C WITH STROKE;6CAPITAL LETTER L WITH BAR;LT WITH DIAGONAL STROKE",
    "6SMALL LETTER S WITH SWASH TAIL;JZ WITH SWASH TAIL;6CAPITAL LETTER GLOTTAL STOP",
    "6SMALL LETTER GLOTTAL STOP;6CAPITAL LETTER B WITH STROKE;LU BAR;LTURNED V;LE WITH STROKE",
    "6SMALL LETTER E WITH STROKE;6CAPITAL LETTER J WITH STROKE;6SMALL LETTER J WITH STROKE",
    "6CAPITAL LETTER SMALL Q WITH HOOK TAIL;6SMALL LETTER Q WITH HOOK TAIL",
    "6CAPITAL LETTER R WITH STROKE;6SMALL LETTER R WITH STROKE;6CAPITAL LETTER Y WITH STROKE",
    "6SMALL LETTER Y WITH STROKE;JTURNED A;JALPHA;JTURNED ALPHA;JB WITH HOOK;JOPEN O;JC WITH CURL",
    "JD WITH TAIL;QHOOK;JREVERSED E;JSCHWA;O WITH HOOK;JOPEN E;JREVERSED OPEN E;Y WITH HOOK",
    "JCLOSED REVERSED OPEN E;JDOTLESS J WITH STROKE;JG WITH HOOK;JSCRIPT G",
    "6LETTER SMALL CAPITAL G;6SMALL LETTER GAMMA;JRAMS HORN;JTURNED H;JH WITH HOOK;KENG WITH HOOK",
    "JI WITH STROKE;KOTA;6LETTER SMALL CAPITAL I;6SMALL LETTER L WITH MIDDLE TILDE;QBELT",
    "QRETROFLEX HOOK;KEZH;JTURNED M;R WITH LONG LEG;JM WITH HOOK;JN WITH LEFT HOOK",
    "QRETROFLEX HOOK;6LETTER SMALL CAPITAL N;6SMALL LETTER BARRED O;6LETTER SMALL CAPITAL OE",
    "6SMALL LETTER CLOSED OMEGA;JPHI;JTURNED R;R WITH LONG LEG;XHOOK;JR WITH LONG LEG;QTAIL",
    "QFISHHOOK;KEVERSED R WITH FISHHOOK;6LETTER SMALL CAPITAL R;RINVERTED R",
    "6SMALL LETTER S WITH HOOK;JESH;JDOTLESS J WITH STROKE AND HOOK;JSQUAT REVERSED ESH",
    "JESH WITH CURL;JTURNED T;K WITH RETROFLEX HOOK;JU BAR;KPSILON;JV WITH HOOK;JTURNED V;QW;QY",
    "6LETTER SMALL CAPITAL Y;6SMALL LETTER Z WITH RETROFLEX HOOK;QCURL;JEZH;M WITH CURL",
    "6LETTER GLOTTAL STOP;DPHARYNGEAL VOICED FRICATIVE;DINVERTED GLOTTAL STOP;DSTRETCHED C",
    "DBILABIAL CLICK;DSMALL CAPITAL B;6SMALL LETTER CLOSED OPEN E",
    "6LETTER SMALL CAPITAL G WITH HOOK;RH;6SMALL LETTER J WITH CROSSED-TAIL;JTURNED K",
    "6LETTER SMALL CAPITAL L;6SMALL LETTER Q WITH HOOK;6LETTER GLOTTAL STOP WITH STROKE",
    "DREVERSED GLOTTAL STOP WITH STROKE;6SMALL LETTER DZ DIGRAPH;KEZH DIGRAPH",
    "KZ DIGRAPH WITH CURL;JTS DIGRAPH;KESH DIGRAPH;KC DIGRAPH WITH CURL;JFENG DIGRAPH;JLS DIGRAPH",
    "KZ DIGRAPH;6LETTER BILABIAL PERCUSSIVE;FDENTAL PERCUSSIVE",
    "6SMALL LETTER TURNED H WITH FISHHOOK;f AND TAIL;0MODIFIER LETTER SMALL H;N WITH HOOK;MJ;MR",
    "MTURNED R;U WITH HOOK;MCAPITAL INVERTED R;MW;MY;GPRIME;GDOUBLE PRIME;GTURNED COMMA",
    "GAPOSTROPHE;GREVERSED COMMA;HIGHT HALF RING;GLEFT HALF RING;GGLOTTAL STOP",
    "GREVERSED GLOTTAL STOP;GLEFT ARROWHEAD;GRIGHT ARROWHEAD;GUP ARROWHEAD;GDOWN ARROWHEAD",
    "GCIRCUMFLEX ACCENT;0CARON;0MODIFIER LETTER VERTICAL LINE;GMACRON;GACUTE ACCENT;GGRAVE ACCENT",
    "GLOW VERTICAL LINE;KMACRON;KGRAVE ACCENT;KACUTE ACCENT;GTRIANGULAR COLON",
    "GHALF TRIANGULAR COLON;GCENTRED RIGHT HALF RING;OLEFT HALF RING;GUP TACK;GDOWN TACK",
    "GPLUS SIGN;GMINUS SIGN;0BREVE;0DOT ABOVE;0RING ABOVE;0OGONEK;0SMALL TILDE",
    "0DOUBLE ACUTE ACCENT;0MODIFIER LETTER RHOTIC HOOK;GCROSS ACCENT;GSMALL GAMMA;ML;MS;MX",
    "MREVERSED GLOTTAL STOP;GEXTRA-HIGH TONE BAR;GHIGH TONE BAR;GMID TONE BAR;GLOW TONE BAR",
    "GEXTRA-LOW TONE BAR;GYIN DEPARTING TONE MARK;HANG DEPARTING TONE MARK;GVOICING;GUNASPIRATED",
    "GDOUBLE APOSTROPHE;GLOW DOWN ARROWHEAD;KUP ARROWHEAD;KLEFT ARROWHEAD;KRIGHT ARROWHEAD;MNG",
    "GMIDDLE GRAVE ACCENT;NDOUBLE GRAVE ACCENT;UACUTE ACCENT;GLOW TILDE;GRAISED COLON",
    "GBEGIN HIGH TONE;GEND HIGH TONE;GBEGIN LOW TONE;GEND LOW TONE;GSHELF;GOPEN SHELF",
    "GLOW LEFT ARROW;0COMBINING GRAVE ACCENT;AACUTE ACCENT;ACIRCUMFLEX ACCENT;ATILDE;AMACRON",
    "AOVERLINE;ABREVE;ADOT ABOVE;BIAERESIS;AHOOK ABOVE;ARING ABOVE;ADOUBLE ACUTE ACCENT;ACARON",
    "AVERTICAL LINE ABOVE;ADOUBLE VERTICAL LINE ABOVE;HGRAVE ACCENT;ACANDRABINDU;AINVERTED BREVE",
    "ATURNED COMMA ABOVE;ACOMMA ABOVE;AREVERSED COMMA ABOVE;ACOMMA ABOVE RIGHT",
    "AGRAVE ACCENT BELOW;AACUTE ACCENT BELOW;ALEFT TACK BELOW;ARIGHT TACK BELOW;ALEFT ANGLE ABOVE",
    "AHORN;ALEFT HALF RING BELOW;AUP TACK BELOW;ADOWN TACK BELOW;APLUS SIGN BELOW",
    "AMINUS SIGN BELOW;APALATALIZED HOOK BELOW;ARETROFLEX HOOK BELOW;ADOT BELOW;BIAERESIS BELOW",
    "ARING BELOW;ACOMMA BELOW;BEDILLA;AOGONEK;AVERTICAL LINE BELOW;ABRIDGE BELOW",
    "AINVERTED DOUBLE ARCH BELOW;ACARON BELOW;BIRCUMFLEX ACCENT BELOW;ABREVE BELOW",
    "AINVERTED BREVE BELOW;ATILDE BELOW;AMACRON BELOW;ALOW LINE;ADOUBLE LOW LINE;ATILDE OVERLAY",
    "ASHORT STROKE OVERLAY;ALONG STROKE OVERLAY;ASHORT SOLIDUS OVERLAY;ALONG SOLIDUS OVERLAY",
    "ARIGHT HALF RING BELOW;AINVERTED BRIDGE BELOW;ASQUARE BELOW;BEAGULL BELOW;AX ABOVE",
    "AVERTICAL TILDE;ADOUBLE OVERLINE;AGRAVE TONE MARK;AACUTE TONE MARK;AGREEK PERISPOMENI",
    "GKORONIS;GDIALYTIKA TONOS;GYPOGEGRAMMENI;ABRIDGE ABOVE;AEQUALS SIGN BELOW",
    "ADOUBLE VERTICAL LINE BELOW;ALEFT ANGLE BELOW;ANOT TILDE ABOVE;AHOMOTHETIC ABOVE",
    "AALMOST EQUAL TO ABOVE;ALEFT RIGHT ARROW BELOW;AUPWARDS ARROW BELOW;AGRAPHEME JOINER",
    "ARIGHT ARROWHEAD ABOVE;ALEFT HALF RING ABOVE;AFERMATA;AX BELOW;ALEFT ARROWHEAD BELOW",
    "ARIGHT ARROWHEAD BELOW;QAND UP ARROWHEAD BELOW;GHALF RING ABOVE;ADOT ABOVE RIGHT",
    "AASTERISK BELOW;ADOUBLE RING BELOW;AZIGZAG ABOVE;ADOUBLE BREVE BELOW;M;HMACRON;N BELOW",
    "HTILDE;HINVERTED BREVE;HRIGHTWARDS ARROW BELOW;ALATIN SMALL LETTER A;TE;TI;TO;TU;TC;TD;TH;TM",
    "TR;TT;TV;TX;0GREEK CAPITAL LETTER HETA;6SMALL LETTER HETA;6CAPITAL LETTER ARCHAIC SAMPI",
    "6SMALL LETTER ARCHAIC SAMPI;6NUMERAL SIGN;6LOWER NUMERAL SIGN",
    "6CAPITAL LETTER PAMPHYLIAN DIGAMMA;6SMALL LETTER PAMPHYLIAN DIGAMMA;37A=6YPOGEGRAMMENI",
    "6SMALL REVERSED LUNATE SIGMA SYMBOL;CDOTTED LUNATE SIGMA SYMBOL",
    "CREVERSED DOTTED LUNATE SIGMA SYMBOL;6QUESTION MARK;6CAPITAL LETTER YOT;384=6TONOS",
    "6DIALYTIKA TONOS;6CAPITAL LETTER ALPHA WITH TONOS;6ANO TELEIA",
    "6CAPITAL LETTER EPSILON WITH TONOS;MTA WITH TONOS;LIOTA WITH TONOS;38C=LOMICRON WITH TONOS",
    "38E=LUPSILON WITH TONOS;LOMEGA WITH TONOS;6SMALL LETTER IOTA WITH DIALYTIKA AND TONOS",
    "6CAPITAL LETTER ALPHA;LBETA;LGAMMA;LDELTA;LEPSILON;LZETA;LETA;LTHETA;LIOTA;LKAPPA;LLAMDA;LMU",
    "LNU;LXI;LOMICRON;LPI;LRHO;3A3=LSIGMA;LTAU;LUPSILON;LPHI;LCHI;LPSI;LOMEGA",
    "LIOTA WITH DIALYTIKA;LUPSILON WITH DIALYTIKA;6SMALL LETTER ALPHA WITH TONOS",
    "JEPSILON WITH TONOS;KTA WITH TONOS;JIOTA WITH TONOS;JUPSILON WITH DIALYTIKA AND TONOS;JALPHA",
    "JBETA;JGAMMA;JDELTA;JEPSILON;JZETA;JETA;JTHETA;JIOTA;JKAPPA;JLAMDA;JMU;JNU;JXI;JOMICRON;JPI",
    "JRHO;JFINAL SIGMA;JSIGMA;JTAU;JUPSILON;JPHI;JCHI;JPSI;JOMEGA;JIOTA WITH DIALYTIKA",
    "JUPSILON WITH DIALYTIKA;JOMICRON WITH TONOS;JUPSILON WITH TONOS;JOMEGA WITH TONOS",
    "6CAPITAL KAI SYMBOL;6BETA SYMBOL;6THETA SYMBOL;6UPSILON WITH HOOK SYMBOL",
    "JACUTE AND HOOK SYMBOL;JDIAERESIS AND HOOK SYMBOL;6PHI SYMBOL;7I SYMBOL;6KAI SYMBOL",
    "6LETTER ARCHAIC KOPPA;6SMALL LETTER ARCHAIC KOPPA;6LETTER STIGMA;6SMALL LETTER STIGMA",
    "6LETTER DIGAMMA;6SMALL LETTER DIGAMMA;6LETTER KOPPA;6SMALL LETTER KOPPA;6LETTER SAMPI",
    "6SMALL LETTER SAMPI;0COPTIC CAPITAL LETTER SHEI;7SMALL LETTER SHEI;7CAPITAL LETTER FEI",
    "7SMALL LETTER FEI;7CAPITAL LETTER KHEI;7SMALL LETTER KHEI;7CAPITAL LETTER HORI",
    "7SMALL LETTER HORI;7CAPITAL LETTER GANGIA;7SMALL LETTER GANGIA;7CAPITAL LETTER SHIMA",
    "7SMALL LETTER SHIMA;7CAPITAL LETTER DEI;7SMALL LETTER DEI;0GREEK KAPPA SYMBOL;6RHO SYMBOL",
    "6LUNATE SIGMA SYMBOL;7ETTER YOT;6CAPITAL THETA SYMBOL;6LUNATE EPSILON SYMBOL",
    "6REVERSED LUNATE EPSILON SYMBOL;6CAPITAL LETTER SHO;6SMALL LETTER SHO",
    "6CAPITAL LUNATE SIGMA SYMBOL;FETTER SAN;6SMALL LETTER SAN;6RHO WITH STROKE SYMBOL",
    "6CAPITAL REVERSED LUNATE SIGMA SYMBOL;EDOTTED LUNATE SIGMA SYMBOL",
    "EREVERSED DOTTED LUNATE SIGMA SYMBOL;0CYRILLIC CAPITAL LETTER IE WITH GRAVE;PO;ODJE;OGJE",
    "OUKRAINIAN IE;ODZE;OBYELORUSSIAN-UKRAINIAN I;OYI;OJE;OLJE;ONJE;OTSHE;OKJE;OI WITH GRAVE",
    "OSHORT U;ODZHE;OA;OBE;OVE;OGHE;ODE;OIE;OZHE;PE;OI;OSHORT I;OKA;OEL;PM;PN;OO;OPE;OER;PS;OTE",
    "OU;OEF;OHA;OTSE;OCHE;OSHA;QCHA;OHARD SIGN;OYERU;OSOFT SIGN;OE;OYU;PA;9SMALL LETTER A;MBE;MVE",
    "MGHE;MDE;MIE;MZHE;NE;MI;MSHORT I;MKA;MEL;NM;NN;MO;MPE;MER;NS;MTE;MU;MEF;MHA;MTSE;MCHE;MSHA",
    "OCHA;MHARD SIGN;MYERU;MSOFT SIGN;ME;MYU;NA;MIE WITH GRAVE;NO;MDJE;MGJE;MUKRAINIAN IE;MDZE",
    "MBYELORUSSIAN-UKRAINIAN I;MYI;MJE;MLJE;MNJE;MTSHE;MKJE;MI WITH GRAVE;MSHORT U;MDZHE",
    "9CAPITAL LETTER OMEGA;9SMALL LETTER OMEGA;9CAPITAL LETTER YAT;9SMALL LETTER YAT",
    "9CAPITAL LETTER IOTIFIED E;9SMALL LETTER IOTIFIED E;9CAPITAL LETTER LITTLE YUS",
    "9SMALL LETTER LITTLE YUS;9CAPITAL LETTER IOTIFIED LITTLE YUS",
    "9SMALL LETTER IOTIFIED LITTLE YUS;9CAPITAL LETTER BIG YUS;9SMALL LETTER BIG YUS",
    "9CAPITAL LETTER IOTIFIED BIG YUS;9SMALL LETTER IOTIFIED BIG YUS;9CAPITAL LETTER KSI",
    "9SMALL LETTER KSI;9CAPITAL LETTER PSI;9SMALL LETTER PSI;9CAPITAL LETTER FITA",
    "9SMALL LETTER FITA;9CAPITAL LETTER IZHITSA;9SMALL LETTER IZHITSA",
    "9CAPITAL LETTER IZHITSA WITH DOUBLE GRAVE ACCENT",
    "9SMALL LETTER IZHITSA WITH DOUBLE GRAVE ACCENT;9CAPITAL LETTER UK;9SMALL LETTER UK",
    "9CAPITAL LETTER ROUND OMEGA;9SMALL LETTER ROUND OMEGA;9CAPITAL LETTER OMEGA WITH TITLO",
    "9SMALL LETTER OMEGA WITH TITLO;9CAPITAL LETTER OT;9SMALL LETTER OT;9CAPITAL LETTER KOPPA",
    "9SMALL LETTER KOPPA;9THOUSANDS SIGN;1OMBINING CYRILLIC TITLO;JPALATALIZATION;JDASIA PNEUMATA",
    "JPSILI PNEUMATA;KOKRYTIE;JHUNDRED THOUSANDS SIGN;JMILLIONS SIGN",
    "1YRILLIC CAPITAL LETTER SHORT I WITH TAIL;9SMALL LETTER SHORT I WITH TAIL",
    "9CAPITAL LETTER SEMISOFT SIGN;9SMALL LETTER SEMISOFT SIGN;9CAPITAL LETTER ER WITH TICK",
    "9SMALL LETTER ER WITH TICK;9CAPITAL LETTER GHE WITH UPTURN;9SMALL LETTER GHE WITH UPTURN",
    "9CAPITAL LETTER GHE WITH STROKE;9SMALL LETTER GHE WITH STROKE",
    "9CAPITAL LETTER GHE WITH MIDDLE HOOK;9SMALL LETTER GHE WITH MIDDLE HOOK",
    "9CAPITAL LETTER ZHE WITH DESCENDER;9SMALL LETTER ZHE WITH DESCENDER",
    "9CAPITAL LETTER ZE WITH DESCENDER;9SMALL LETTER ZE WITH DESCENDER",
    "9CAPITAL LETTER KA WITH DESCENDER;9SMALL LETTER KA WITH DESCENDER",
    "9CAPITAL LETTER KA WITH VERTICAL STROKE;9SMALL LETTER KA WITH VERTICAL STROKE",
    "9CAPITAL LETTER KA WITH STROKE;9SMALL LETTER KA WITH STROKE;9CAPITAL LETTER BASHKIR KA",
    "9SMALL LETTER BASHKIR KA;9CAPITAL LETTER EN WITH DESCENDER;9SMALL LETTER EN WITH DESCENDER",
    "9CAPITAL LIGATURE EN GHE;9SMALL LIGATURE EN GHE;9CAPITAL LETTER PE WITH MIDDLE HOOK",
    "9SMALL LETTER PE WITH MIDDLE HOOK;9CAPITAL LETTER ABKHASIAN HA;9SMALL LETTER ABKHASIAN HA",
    "9CAPITAL LETTER ES WITH DESCENDER;9SMALL LETTER ES WITH DESCENDER",
    "9CAPITAL LETTER TE WITH DESCENDER;9SMALL LETTER TE WITH DESCENDER;9CAPITAL LETTER STRAIGHT U",
    "9SMALL LETTER STRAIGHT U;9CAPITAL LETTER STRAIGHT U WITH STROKE",
    "9SMALL LETTER STRAIGHT U WITH STROKE;9CAPITAL LETTER HA WITH DESCENDER",
    "9SMALL LETTER HA WITH DESCENDER;9CAPITAL LIGATURE TE TSE;9SMALL LIGATURE TE TSE",
    "9CAPITAL LETTER CHE WITH DESCENDER;9SMALL LETTER CHE WITH DESCENDER",
    "9CAPITAL LETTER CHE WITH VERTICAL STROKE;9SMALL LETTER CHE WITH VERTICAL STROKE",
    "9CAPITAL LETTER SHHA;9SMALL LETTER SHHA;9CAPITAL LETTER ABKHASIAN CHE",
    "9SMALL LETTER ABKHASIAN CHE;9CAPITAL LETTER ABKHASIAN CHE WITH DESCENDER",
    "9SMALL LETTER ABKHASIAN CHE WITH DESCENDER;9LETTER PALOCHKA;9CAPITAL LETTER ZHE WITH BREVE",
    "9SMALL LETTER ZHE WITH BREVE;9CAPITAL LETTER KA WITH HOOK;9SMALL LETTER KA WITH HOOK",
    "9CAPITAL LETTER EL WITH TAIL;9SMALL LETTER EL WITH TAIL;9CAPITAL LETTER EN WITH HOOK",
    "9SMALL LETTER EN WITH HOOK;9CAPITAL LETTER EN WITH TAIL;9SMALL LETTER EN WITH TAIL",
    "9CAPITAL LETTER KHAKASSIAN CHE;9SMALL LETTER KHAKASSIAN CHE;9CAPITAL LETTER EM WITH TAIL",
    "9SMALL LETTER EM WITH TAIL;MPALOCHKA;9CAPITAL LETTER A WITH BREVE;9SMALL LETTER A WITH BREVE",
    "9CAPITAL LETTER A WITH DIAERESIS;9SMALL LETTER A WITH DIAERESIS;9CAPITAL LIGATURE A IE",
    "9SMALL LIGATURE A IE;9CAPITAL LETTER IE WITH BREVE;9SMALL LETTER IE WITH BREVE",
    "9CAPITAL LETTER SCHWA;9SMALL LETTER SCHWA;9CAPITAL LETTER SCHWA WITH DIAERESIS",
    "9SMALL LETTER SCHWA WITH DIAERESIS;9CAPITAL LETTER ZHE WITH DIAERESIS",
    "9SMALL LETTER ZHE WITH DIAERESIS;9CAPITAL LETTER ZE WITH DIAERESIS",
    "9SMALL LETTER ZE WITH DIAERESIS;9CAPITAL LETTER ABKHASIAN DZE;9SMALL LETTER ABKHASIAN DZE",
    "9CAPITAL LETTER I WITH MACRON;9SMALL LETTER I WITH MACRON;9CAPITAL LETTER I WITH DIAERESIS",
    "9SMALL LETTER I WITH DIAERESIS;9CAPITAL LETTER O WITH DIAERESIS",
    "9SMALL LETTER O WITH DIAERESIS;9CAPITAL LETTER BARRED O;9SMALL LETTER BARRED O",
    "9CAPITAL LETTER BARRED O WITH DIAERESIS;9SMALL LETTER BARRED O WITH DIAERESIS",
    "9CAPITAL LETTER E WITH DIAERESIS;9SMALL LETTER E WITH DIAERESIS",
    "9CAPITAL LETTER U WITH MACRON;9SMALL LETTER U WITH MACRON;9CAPITAL LETTER U WITH DIAERESIS",
    "9SMALL LETTER U WITH DIAERESIS;9CAPITAL LETTER U WITH DOUBLE ACUTE",
    "9SMALL LETTER U WITH DOUBLE ACUTE;9CAPITAL LETTER CHE WITH DIAERESIS",
    "9SMALL LETTER CHE WITH DIAERESIS;9CAPITAL LETTER GHE WITH DESCENDER",
    "9SMALL LETTER GHE WITH DESCENDER;9CAPITAL LETTER YERU WITH DIAERESIS",
    "9SMALL LETTER YERU WITH DIAERESIS;9CAPITAL LETTER GHE WITH STROKE AND HOOK",
    "9SMALL LETTER GHE WITH STROKE AND HOOK;9CAPITAL LETTER HA WITH HOOK",
    "9SMALL LETTER HA WITH HOOK;9CAPITAL LETTER HA WITH STROKE;9SMALL LETTER HA WITH STROKE",
    "9CAPITAL LETTER KOMI DE;9SMALL LETTER KOMI DE;9CAPITAL LETTER KOMI DJE",
    "9SMALL LETTER KOMI DJE;9CAPITAL LETTER KOMI ZJE;9SMALL LETTER KOMI ZJE",
    "9CAPITAL LETTER KOMI DZJE;9SMALL LETTER KOMI DZJE;9CAPITAL LETTER KOMI LJE",
    "9SMALL LETTER KOMI LJE;9CAPITAL LETTER KOMI NJE;9SMALL LETTER KOMI NJE",
    "9CAPITAL LETTER KOMI SJE;9SMALL LETTER KOMI SJE;9CAPITAL LETTER KOMI TJE",
    "9SMALL LETTER KOMI TJE;9CAPITAL LETTER REVERSED ZE;9SMALL LETTER REVERSED ZE",
    "9CAPITAL LETTER EL WITH HOOK;9SMALL LETTER EL WITH HOOK;9CAPITAL LETTER LHA",
    "9SMALL LETTER LHA;9CAPITAL LETTER RHA;9SMALL LETTER RHA;9CAPITAL LETTER YAE",
    "9SMALL LETTER YAE;9CAPITAL LETTER QA;9SMALL LETTER QA;9CAPITAL LETTER WE;9SMALL LETTER WE",
    "9CAPITAL LETTER ALEUT KA;9SMALL LETTER ALEUT KA;9CAPITAL LETTER EL WITH MIDDLE HOOK",
    "9SMALL LETTER EL WITH MIDDLE HOOK;9CAPITAL LETTER EN WITH MIDDLE HOOK",
    "9SMALL LETTER EN WITH MIDDLE HOOK;9CAPITAL LETTER PE WITH DESCENDER",
    "9SMALL LETTER PE WITH DESCENDER;9CAPITAL LETTER SHHA WITH DESCENDER",
    "9SMALL LETTER SHHA WITH DESCENDER;9CAPITAL LETTER EN WITH LEFT HOOK",
    "9SMALL LETTER EN WITH LEFT HOOK;9CAPITAL LETTER DZZHE;9SMALL LETTER DZZHE",
    "9CAPITAL LETTER DCHE;9SMALL LETTER DCHE;9CAPITAL LETTER EL WITH DESCENDER",
    "9SMALL LETTER EL WITH DESCENDER;531=0ARMENIAN CAPITAL LETTER AYB;OBEN;OGIM;ODA;OECH;OZA;OEH",
    "PT;OTO;OZHE;OINI;OLIWN;OXEH;OCA;OKEN;OHO;OJA;OGHAD;OCHEH;OMEN;OYI;ONOW;OSHA;OVO;OCHA;OPEH",
    "OJHEH;ORA;OSEH;OVEW;OTIWN;OREH;OCO;OYIWN;OPIWR;OKEH;OOH;OFEH",
    "559=9MODIFIER LETTER LEFT HALF RING;9APOSTROPHE;9EMPHASIS MARK;AXCLAMATION MARK;9COMMA",
    "9QUESTION MARK;9ABBREVIATION MARK;9SMALL LETTER TURNED AYB;MAYB;MBEN;MGIM;MDA;MECH;MZA;MEH",
    "NT;MTO;MZHE;MINI;MLIWN;MXEH;MCA;MKEN;MHO;MJA;MGHAD;MCHEH;MMEN;MYI;MNOW;MSHA;MVO;MCHA;MPEH",
    "MJHEH;MRA;MSEH;MVEW;MTIWN;MREH;MCO;MYIWN;MPIWR;MKEH;MOH;MFEH;GIGATURE ECH YIWN",
    "GETTER YI WITH STROKE;9FULL STOP;9HYPHEN;58D=0RIGHT-FACING ARMENIAN ETERNITY SIGN",
    "0LEFT-FACING ARMENIAN ETERNITY SIGN;0ARMENIAN DRAM SIGN;591=0HEBREW ACCENT ETNAHTA;ESEGOL",
    "FHALSHELET;EZAQEF QATAN;KGADOL;ETIPEHA;EREVIA;EZARQA;EPASHTA;EYETIV;ETEVIR;EGERESH;K MUQDAM",
    "HSHAYIM;EQARNEY PARA;ETELISHA GEDOLA;EPAZER;EATNAH HAFUKH;EMUNAH;FAHAPAKH;FERKHA;K KEFULA",
    "EDARGA;EQADMA;ETELISHA QETANA;EYERAH BEN YOMO;EOLE;EILUY;EDEHI;EZINOR;7MARK MASORA CIRCLE",
    "7POINT SHEVA;DHATAF SEGOL;JPATAH;JQAMATS;EIRIQ;DTSERE;DSEGOL;DPATAH;DQAMATS;DHOLAM",
    "I HASER FOR VAV;DQUBUTS;DDAGESH OR MAPIQ;DMETEG;8UNCTUATION MAQAF;8OINT RAFE",
    "8UNCTUATION PASEQ;8OINT SHIN DOT;EIN DOT;8UNCTUATION SOF PASUQ;7MARK UPPER DOT;CLOWER DOT",
    "7PUNCTUATION NUN HAFUKHA;8OINT QAMATS QATAN;5D0=7LETTER ALEF;EBET;EGIMEL;EDALET;EHE;EVAV",
    "EZAYIN;EHET;ETET;EYOD;EFINAL KAF;EKAF;ELAMED;EFINAL MEM;EMEM;EFINAL NUN;ENUN;ESAMEKH;EAYIN",
    "EFINAL PE;EPE;EFINAL TSADI;ETSADI;EQOF;ERESH;ESHIN;ETAV;5EF=7YOD TRIANGLE",
    "7LIGATURE YIDDISH DOUBLE VAV;OVAV YOD;ODOUBLE YOD;7PUNCTUATION GERESH;MSHAYIM",
    "600=0ARABIC NUMBER SIGN;7SIGN SANAH;7FOOTNOTE MARKER;7SIGN SAFHA;EMVAT;7NUMBER MARK ABOVE",
    "6-INDIC CUBE ROOT;DFOURTH ROOT;6 RAY;6-INDIC PER MILLE SIGN;HTEN THOUSAND SIGN;1FGHANI SIGN",
    "1RABIC COMMA;7DATE SEPARATOR;7POETIC VERSE SIGN;7SIGN MISRA;CSALLALLAHOU ALAYHE WASSALLAM",
    "CALAYHE ASSALLAM;CRAHMATULLAH ALAYHE;EDI ALLAHOU ANHU;CTAKHALLUS;8MALL HIGH TAH",
    "ILIGATURE ALEF WITH LAM WITH YEH;IZAIN;DFATHA;DDAMMA;DKASRA;8EMICOLON;7LETTER MARK",
    "7END OF TEXT MARK;7TRIPLE DOT PUNCTUATION MARK;7QUESTION MARK;7LETTER KASHMIRI YEH;EHAMZA",
    "EALEF WITH MADDA ABOVE;OHAMZA ABOVE;EWAW WITH HAMZA ABOVE;EALEF WITH HAMZA BELOW",
    "EYEH WITH HAMZA ABOVE;EALEF;EBEH;ETEH MARBUTA;H;FHEH;EJEEM;EHAH;EKHAH;EDAL;ETHAL;EREH;EZAIN",
    "ESEEN;FHEEN;FAD;EDAD;ETAH;EZAH;EAIN;EGHAIN;EKEHEH WITH TWO DOTS ABOVE;QHREE DOTS BELOW",
    "EFARSI YEH WITH INVERTED V;TTWO DOTS ABOVE;UHREE DOTS ABOVE;7TATWEEL;7LETTER FEH;EQAF;EKAF",
    "ELAM;EMEEM;ENOON;EHEH;EWAW;EALEF MAKSURA;EYEH;7FATHATAN;7DAMMATAN;7KASRATAN;7FATHA;7DAMMA",
    "7KASRA;7SHADDA;8UKUN;7MADDAH ABOVE;7HAMZA ABOVE;DBELOW;7SUBSCRIPT ALEF;7INVERTED DAMMA",
    "7MARK NOON GHUNNA;7ZWARAKAY;7VOWEL SIGN SMALL V ABOVE;IINVERTED SMALL V ABOVE;IDOT BELOW",
    "7REVERSED DAMMA;7FATHA WITH TWO DOTS;7WAVY HAMZA BELOW;6-INDIC DIGIT ZERO;JONE;JTWO;KHREE",
    "JFOUR;KIVE;JSIX;KEVEN;JEIGHT;JNINE;6 PERCENT SIGN;7DECIMAL SEPARATOR;7THOUSANDS SEPARATOR",
    "7FIVE POINTED STAR;7LETTER DOTLESS BEH;MQAF;ESUPERSCRIPT ALEF;EALEF WASLA",
    "KITH WAVY HAMZA ABOVE;ZBELOW;EHIGH HAMZA;O ALEF;PWAW;EU WITH HAMZA ABOVE;EHIGH HAMZA YEH",
    "ETTEH;IEH;EBEEH;ETEH WITH RING;NTHREE DOTS ABOVE DOWNWARDS;EPEH;ETEHEH;EBEHEH",
    "EHAH WITH HAMZA ABOVE;NTWO DOTS VERTICAL ABOVE;ENYEH;EDYEH;EHAH WITH THREE DOTS ABOVE;ETCHEH",
    "JEH;EDDAL;FAL WITH RING;NDOT BELOW;W AND SMALL TAH;GHAL;FDAHAL;FUL",
    "FAL WITH THREE DOTS ABOVE DOWNWARDS;NFOUR DOTS ABOVE;ERREH;FEH WITH SMALL V;NRING;NDOT BELOW",
    "NSMALL V BELOW;NDOT BELOW AND DOT ABOVE;NTWO DOTS ABOVE;EJEH;EREH WITH FOUR DOTS ABOVE",
    "ESEEN WITH DOT BELOW AND DOT ABOVE;OTHREE DOTS BELOW;e AND THREE DOTS ABOVE",
    "FAD WITH TWO DOTS BELOW;OHREE DOTS ABOVE;ETAH WITH THREE DOTS ABOVE",
    "EAIN WITH THREE DOTS ABOVE;EDOTLESS FEH;EFEH WITH DOT MOVED BELOW;RBELOW;EVEH",
    "EFEH WITH THREE DOTS BELOW;EPEHEH;EQAF WITH DOT ABOVE;NTHREE DOTS ABOVE;EKEHEH;ESWASH KAF",
    "EKAF WITH RING;NDOT ABOVE;ENG;EKAF WITH THREE DOTS BELOW;EGAF;H WITH RING;ENGOEH",
    "EGAF WITH TWO DOTS BELOW;FUEH;FAF WITH THREE DOTS ABOVE;ELAM WITH SMALL V;NDOT ABOVE",
    "NTHREE DOTS ABOVE;YBELOW;ENOON WITH DOT BELOW;JGHUNNA;ERNOON;ENOON WITH RING",
    "OTHREE DOTS ABOVE;EHEH DOACHASHMEE;ETCHEH WITH DOT ABOVE;EHEH WITH YEH ABOVE;IGOAL",
    "M WITH HAMZA ABOVE;ETEH MARBUTA GOAL;EWAW WITH RING;EKIRGHIZ OE;EOE;EU;EYU;EKIRGHIZ YU",
    "EWAW WITH TWO DOTS ABOVE;EVE;EFARSI YEH;EYEH WITH TAIL;NSMALL V;EWAW WITH DOT ABOVE;EE",
    "EYEH WITH THREE DOTS BELOW;IBARREE;O WITH HAMZA ABOVE;7FULL STOP;7LETTER AE",
    "7SMALL HIGH LIGATURE SAD WITH LAM WITH ALEF MAKSURA;RQAF WITH LAM WITH ALEF MAKSURA",
    "IMEEM INITIAL FORM;ILAM ALEF;IJEEM;ITHREE DOTS;ISEEN;7END OF AYAH;7START OF RUB EL HIZB",
    "8MALL HIGH ROUNDED ZERO;IUPRIGHT RECTANGULAR ZERO;IDOTLESS HEAD OF KHAH;IMEEM ISOLATED FORM",
    "DLOW SEEN;DHIGH MADDA;DWAW;DYEH;DHIGH YEH;INOON;7PLACE OF SAJDAH;7EMPTY CENTRE LOW STOP",
    "KHIGH STOP;7ROUNDED HIGH STOP WITH FILLED CENTRE;7SMALL LOW MEEM;7LETTER DAL WITH INVERTED V",
    "EREH WITH INVERTED V;0EXTENDED ARABIC-INDIC DIGIT ZERO;SONE;STWO;THREE;SFOUR;TIVE;SSIX;TEVEN",
    "SEIGHT;SNINE;0ARABIC LETTER SHEEN WITH DOT BELOW;EDAD WITH DOT BELOW;EGHAIN WITH DOT BELOW",
    "7SIGN SINDHI AMPERSAND;JPOSTPOSITION MEN;7LETTER HEH WITH INVERTED V",
    "0SYRIAC END OF PARAGRAPH;7SUPRALINEAR FULL STOP;9BLINEAR FULL STOP;9PRALINEAR COLON",
    "9BLINEAR COLON;7HORIZONTAL COLON;7COLON SKEWED LEFT;KRIGHT;7SUPRALINEAR COLON SKEWED LEFT",
    "9BLINEAR COLON SKEWED RIGHT;7CONTRACTION;7HARKLEAN OBELUS;GMETOBELUS;GASTERISCUS",
    "70F=7ABBREVIATION MARK;7LETTER ALAPH;ESUPERSCRIPT ALAPH;EBETH;EGAMAL;J GARSHUNI;EDALATH",
    "FOTLESS DALATH RISH;EHE;EWAW;EZAIN;EHETH;ETETH;I GARSHUNI;EYUDH;I HE;EKAPH;ELAMADH;EMIM;ENUN",
    "ESEMKATH;EFINAL SEMKATH;EE;EPE;EREVERSED PE;ESADHE;EQAPH;ERISH;ESHIN;ETAW;EPERSIAN BHETH",
    "MGHAMAL;MDHALATH;7PTHAHA ABOVE;EBELOW;EDOTTED;7ZQAPHA ABOVE;EBELOW;EDOTTED;7RBASA ABOVE",
    "DBELOW;7DOTTED ZLAMA HORIZONTAL;KANGULAR;7HBASA ABOVE;DBELOW;C-ESASA DOTTED;7ESASA ABOVE",
    "DBELOW;7RWAHA;7FEMININE DOT;7QUSHSHAYA;7RUKKAKHA;7TWO VERTICAL DOTS ABOVE;PBELOW",
    "8HREE DOTS ABOVE;IBELOW;7OBLIQUE LINE ABOVE;KBELOW;7MUSIC;7BARREKH;74D=7LETTER SOGDIAN ZHAIN",
    "MKHAPH;MFE;0ARABIC LETTER BEH WITH THREE DOTS HORIZONTALLY BELOW",
    "NDOT BELOW AND THREE DOTS ABOVE;NTHREE DOTS POINTING UPWARDS BELOW;u AND TWO DOTS ABOVE",
    "OWO DOTS BELOW AND DOT ABOVE;NINVERTED SMALL V BELOW;NSMALL V;EHAH WITH TWO DOTS ABOVE",
    "OHREE DOTS POINTING UPWARDS BELOW;EDAL WITH TWO DOTS VERTICALLY BELOW AND SMALL TAH",
    "NINVERTED SMALL V BELOW;EREH WITH STROKE;ESEEN WITH FOUR DOTS ABOVE;EAIN WITH TWO DOTS ABOVE",
    "OHREE DOTS POINTING DOWNWARDS ABOVE;OWO DOTS VERTICALLY ABOVE;EFEH WITH TWO DOTS BELOW",
    "OHREE DOTS POINTING UPWARDS BELOW;EKEHEH WITH DOT ABOVE;PTHREE DOTS ABOVE",
    "aPOINTING UPWARDS BELOW;EMEEM WITH DOT ABOVE;SBELOW;ENOON WITH TWO DOTS BELOW;OSMALL TAH;UV",
    "ELAM WITH BAR;EREH WITH TWO DOTS VERTICALLY ABOVE;NHAMZA ABOVE",
    "ESEEN WITH TWO DOTS VERTICALLY ABOVE;EHAH WITH SMALL ARABIC LETTER TAH BELOW;lAND TWO DOTS",
    "ESEEN WITH SMALL ARABIC LETTER TAH AND TWO DOTS",
    "EREH WITH SMALL ARABIC LETTER TAH AND TWO DOTS;EHAH WITH SMALL ARABIC LETTER TAH ABOVE",
    "EALEF WITH EXTENDED ARABIC-INDIC DIGIT TWO ABOVE;rHREE ABOVE",
    "EFARSI YEH WITH EXTENDED ARABIC-INDIC DIGIT TWO ABOVE;wHREE ABOVE;vFOUR BELOW",
    "EWAW WITH EXTENDED ARABIC-INDIC DIGIT TWO ABOVE;qHREE ABOVE",
    "EYEH BARREE WITH EXTENDED ARABIC-INDIC DIGIT TWO ABOVE;xHREE ABOVE",
    "EHAH WITH EXTENDED ARABIC-INDIC DIGIT FOUR BELOW",
    "ESEEN WITH EXTENDED ARABIC-INDIC DIGIT FOUR ABOVE;OINVERTED V;EKAF WITH TWO DOTS ABOVE",
    "0THAANA LETTER HAA;ESHAVIYANI;ENOONU;ERAA;EBAA;ELHAVIYANI;EKAAFU;EALIFU;EVAAVU;EMEEMU;EFAAFU",
    "EDHAALU;ETHAA;ELAAMU;EGAAFU;FNAVIYANI;ESEENU;EDAVIYANI;EZAVIYANI;ETAVIYANI;EYAA;EPAVIYANI",
    "EJAVIYANI;ECHAVIYANI;ETTAA;EHHAA;EKHAA;ETHAALU;EZAA;ESHEENU;FAADHU;EDAADHU;ETO;EZO;EAINU",
    "EGHAINU;EQAAFU;EWAAVU;7ABAFILI;8ABAAFILI;7IBIFILI;7EEBEEFILI;7UBUFILI;7OOBOOFILI;7EBEFILI",
    "8YBEYFILI;7OBOFILI;8ABOAFILI;7SUKUN;7LETTER NAA;7C0=0NKO DIGIT ZERO;AONE;ATWO;BHREE;AFOUR",
    "BIVE;ASIX;BEVEN;AEIGHT;ANINE;4LETTER A;BEE;BI;BE;BU;BOO;C;BDAGBASINNA;BN;BBA;BPA;BTA;BJA",
    "BCHA;BDA;BRA;CRA;BSA;BGBA;BFA;BKA;BLA;BNA WOLOSO;BMA;BNYA;CA;BHA;BWA;BYA;BNYA WOLOSO",
    "BJONA JA;GCHA;GRA;4COMBINING SHORT HIGH TONE;KLOW TONE;KRISING TONE;ELONG DESCENDING TONE",
    "JHIGH TONE;JLOW TONE;JRISING TONE;ENASALIZATION MARK;EDOUBLE DOT ABOVE;4HIGH TONE APOSTROPHE",
    "4LOW TONE APOSTROPHE;4SYMBOL OO DENNEN;BGBAKURUNEN;4COMMA;4EXCLAMATION MARK;4LAJANYALAN",
    "7FD=4DANTAYALAN;5OROME SIGN;4TAMAN SIGN;0SAMARITAN LETTER ALAF;HBIT;HGAMAN;HDALAT;HIY;HBAA",
    "HZEN;HIT;HTIT;HYUT;HKAAF;HLABAT;HMIM;HNUN;HSINGAAT;HIN;HFI;HTSAADIY;HQUF;HRISH;HSHAN;HTAAF",
    "AMARK IN;H-ALAF;FOCCLUSION;FDAGESH;BODIFIER LETTER EPENTHETIC YUT;BARK EPENTHETIC YUT",
    "AVOWEL SIGN LONG E;LE;LOVERLONG AA;LLONG AA;LAA;LOVERLONG A;LLONG A;LA",
    "AMODIFIER LETTER SHORT A;AVOWEL SIGN SHORT A;LLONG U;LU;AMODIFIER LETTER I",
    "AVOWEL SIGN LONG I;LI;LO;LSUKUN;AMARK NEQUDAA;830=APUNCTUATION NEQUDAA;MAFSAAQ;NNGED;MBAU",
    "MATMAAU;MSHIYYAALAA;AABBREVIATION MARK;APUNCTUATION MELODIC QITSA;MZIQAA;MQITSA;MZAEF;MTURU",
    "MARKAANU;MSOF MASHFAAT;MANNAAU;840=0MANDAIC LETTER HALQA;FAB;GG;GD;GH;FUSHENNA;FAZ;FIT;FATT",
    "GKSA;H;GL;GM;GN;GS;FIN;FAP;GSZ;GQ;GR;GSH;GT;FDUSHENNA;FKAD;FAIN;8AFFRICATION MARK",
    "8VOCALIZATION MARK;8GEMINATION MARK;85E=8PUNCTUATION;860=0SYRIAC LETTER MALAYALAM NGA;OJA",
    "ONYA;OTTA;ONNA;QNA;OBHA;ORA;OLLA;QLA;OSSA;870=0ARABIC LETTER ALEF WITH ATTACHED FATHA",
    "XTOP RIGHT FATHA;ORIGHT MIDDLE STROKE;OLEFT MIDDLE STROKE;OATTACHED KASRA",
    "XBOTTOM RIGHT KASRA;XROUND DOT ABOVE;YIGHT ROUND DOT;XLEFT ROUND DOT;XROUND DOT BELOW",
    "ODOT ABOVE;OATTACHED TOP RIGHT FATHA AND DOT ABOVE;ORIGHT MIDDLE STROKE AND DOT ABOVE",
    "OATTACHED BOTTOM RIGHT KASRA AND DOT ABOVE;XTOP RIGHT FATHA AND LEFT RING",
    "ORIGHT MIDDLE STROKE AND LEFT RING;OATTACHED BOTTOM RIGHT KASRA AND LEFT RING;XRIGHT HAMZA",
    "XLEFT HAMZA;7TATWEEL WITH OVERSTRUCK HAMZA;VWAW;KTWO DOTS BELOW;7LETTER THIN YEH",
    "7BASELINE ROUND DOT;7RAISED ROUND DOT;7LETTER NOON WITH INVERTED SMALL V",
    "EHAH WITH INVERTED SMALL V BELOW;ETAH WITH DOT BELOW;NTHREE DOTS BELOW",
    "EKEHEH WITH TWO DOTS VERTICALLY BELOW;7VERTICAL TAIL;890=7POUND MARK ABOVE",
    "8IASTRE MARK ABOVE;898=7SMALL HIGH WORD AL-JUZ;DLOW WORD ISHMAAM;NMAALA;MTASHEEL",
    "7MADDA WAAJIB;7SUPERSCRIPT ALEF MOKHASSAS;7DOUBLED MADDA;7HALF MADDA OVER MADDA",
    "7LETTER BEH WITH SMALL V BELOW;NHAMZA ABOVE;EJEEM WITH TWO DOTS ABOVE",
    "ETAH WITH TWO DOTS ABOVE;EFEH WITH DOT BELOW AND THREE DOTS ABOVE;EQAF WITH DOT BELOW",
    "ELAM WITH DOUBLE BAR;EMEEM WITH THREE DOTS ABOVE;EYEH WITH TWO DOTS BELOW AND HAMZA ABOVE",
    "gDOT ABOVE;EREH WITH LOOP;EWAW WITH DOT WITHIN;EROHINGYA YEH;ELOW ALEF",
    "EDAL WITH THREE DOTS BELOW;ESAD WITH THREE DOTS BELOW;EGAF WITH INVERTED STROKE",
    "ESTRAIGHT WAW;EZAIN WITH INVERTED V ABOVE;EAIN WITH THREE DOTS BELOW;EKAF WITH DOT BELOW",
    "EQAF WITH DOT BELOW AND NO DOTS ABOVE;EBEH WITH SMALL MEEM ABOVE;EPEH WITH SMALL MEEM ABOVE",
    "ETEH WITH SMALL TEH ABOVE;EREH WITH SMALL NOON ABOVE",
    "EYEH WITH TWO DOTS BELOW AND SMALL NOON ABOVE;EAFRICAN FEH;MQAF;MNOON;EPEH WITH SMALL V",
    "ETEH WITH SMALL V;FTEH WITH SMALL V;FCHEH WITH SMALL V;EKEHEH WITH SMALL V",
    "EGHAIN WITH THREE DOTS ABOVE;EAFRICAN QAF WITH THREE DOTS ABOVE;EJEEM WITH THREE DOTS ABOVE",
    "ZBELOW;ELAM WITH SMALL ARABIC LETTER TAH ABOVE;EGRAF;7SMALL FARSI YEH;DHIGH FARSI YEH",
    "IYEH BARREE WITH TWO DOTS BELOW;IWORD SAH;IZAH;7LARGE ROUND DOT ABOVE;NBELOW;7SUKUN BELOW",
    "7LARGE CIRCLE BELOW;DROUND DOT INSIDE CIRCLE BELOW;7SMALL LOW WAW;DHIGH WORD AR-RUB;ISAD",
    "IAIN;IQAF;INOON WITH KASRA;DLOW NOON WITH KASRA;DHIGH WORD ATH-THALATHA;OS-SAJDA;ON-NISF",
    "NSAKTA;NQIF;NWAQFA;IFOOTNOTE MARKER;ISIGN SAFHA;7DISPUTED END OF AYAH;7TURNED DAMMA BELOW",
    "7CURLY FATHA;DDAMMA;DKASRA;DFATHATAN;DDAMMATAN;DKASRATAN;7TONE ONE DOT ABOVE;CTWO DOTS ABOVE",
    "CLOOP ABOVE;CONE DOT BELOW;CTWO DOTS BELOW;CLOOP BELOW;7OPEN FATHATAN;CDAMMATAN;CKASRATAN",
    "7SMALL HIGH WAW;7FATHA WITH RING;IDOT ABOVE;7KASRA WITH DOT BELOW;7LEFT ARROWHEAD ABOVE",
    "7RIGHT ARROWHEAD ABOVE;7LEFT ARROWHEAD BELOW;7RIGHT ARROWHEAD BELOW",
    "7DOUBLE RIGHT ARROWHEAD ABOVE;Z WITH DOT;7RIGHT ARROWHEAD ABOVE WITH DOT;7DAMMA WITH DOT",
    "7MARK SIDEWAYS NOON GHUNNA;0DEVANAGARI SIGN INVERTED CANDRABINDU;GCANDRABINDU;GANUSVARA",
    "GVISARGA;BLETTER SHORT A;IA;JA;II;JI;IU;JU;IVOCALIC R;QL;ICANDRA E;ISHORT E;IE;IAI;ICANDRA O",
    "ISHORT O;IO;IAU;IKA;JHA;IGA;JHA;INGA;ICA;JHA;IJA;JHA;INYA;ITTA;KHA;IDDA;KHA;INNA;ITA;JHA;IDA",
    "JHA;INA;JNNA;IPA;JHA;IBA;JHA;IMA;IYA;IRA;JRA;ILA;JLA;KLA;IVA;ISHA;JSA;JA;IHA;BVOWEL SIGN OE",
    "NOE;BSIGN NUKTA;GAVAGRAHA;BVOWEL SIGN AA;MI;NI;MU;NU;MVOCALIC R;VR;MCANDRA E;MSHORT E;ME;MAI",
    "MCANDRA O;MSHORT O;MO;MAU;BSIGN VIRAMA;BVOWEL SIGN PRISHTHAMATRA E;MAW;BOM",
    "BSTRESS SIGN UDATTA;NANUDATTA;BGRAVE ACCENT;BACUTE ACCENT;BVOWEL SIGN CANDRA LONG E;MUE;NUE",
    "BLETTER QA;IKHHA;IGHHA;IZA;IDDDHA;IRHA;IFA;IYYA;IVOCALIC RR;QLL;BVOWEL SIGN VOCALIC L;VL",
    "BDANDA;COUBLE DANDA;CIGIT ZERO;HONE;HTWO;IHREE;HFOUR;IIVE;HSIX;IEVEN;HEIGHT;HNINE",
    "BABBREVIATION SIGN;BSIGN HIGH SPACING DOT;BLETTER CANDRA A;IOE;JOE;IAW;IUE;JUE;IMARWARI DDA",
    "IZHA;IHEAVY YA;IGGA;IJJA;IGLOTTAL STOP;IDDDA;IBBA;0BENGALI ANJI;8SIGN CANDRABINDU;DANUSVARA",
    "DVISARGA;985=8LETTER A;GA;FI;GI;FU;GU;FVOCALIC R;NL;98F=FE;FAI;993=FO;FAU;FKA;GHA;FGA;GHA",
    "FNGA;FCA;GHA;FJA;GHA;FNYA;FTTA;HHA;FDDA;HHA;FNNA;FTA;GHA;FDA;GHA;FNA;9AA=FPA;GHA;FBA;GHA;FMA",
    "FYA;FRA;9B2=FLA;9B6=FSHA;GSA;GA;FHA;9BC=8SIGN NUKTA;DAVAGRAHA;8VOWEL SIGN AA;JI;KI;JU;KU",
    "JVOCALIC R;SR;9C7=JE;JAI;9CB=JO;JAU;8SIGN VIRAMA;8LETTER KHANDA TA;9D7=8AU LENGTH MARK",
    "9DC=8LETTER RRA;GHA;9DF=FYYA;FVOCALIC RR;NLL;8VOWEL SIGN VOCALIC L;SL;9E6=8DIGIT ZERO;EONE",
    "ETWO;FHREE;EFOUR;FIVE;ESIX;FEVEN;EEIGHT;ENINE;8LETTER RA WITH MIDDLE DIAGONAL",
    "NLOWER DIAGONAL;8RUPEE MARK;ESIGN;8CURRENCY NUMERATOR ONE;RTWO;SHREE;RFOUR",
    "RONE LESS THAN THE DENOMINATOR;HDENOMINATOR SIXTEEN;8ISSHAR;8GANDA MARK",
    "8LETTER VEDIC ANUSVARA;8ABBREVIATION SIGN;8SANDHI MARK;A01=0GURMUKHI SIGN ADAK BINDI;EBINDI",
    "EVISARGA;A05=9LETTER A;HA;GI;HI;GU;HU;A0F=GEE;GAI;A13=GOO;GAU;GKA;HHA;GGA;HHA;GNGA;GCA;HHA",
    "GJA;HHA;GNYA;GTTA;IHA;GDDA;IHA;GNNA;GTA;HHA;GDA;HHA;GNA;A2A=GPA;HHA;GBA;HHA;GMA;GYA;GRA",
    "A32=GLA;HLA;A35=GVA;GSHA;A38=HA;GHA;A3C=9SIGN NUKTA;A3E=9VOWEL SIGN AA;KI;LI;KU;LU;A47=KEE",
    "KAI;A4B=KOO;KAU;9SIGN VIRAMA;A51=EUDAAT;A59=9LETTER KHHA;GGHHA;GZA;GRRA;A5E=GFA",
    "A66=9DIGIT ZERO;FONE;FTWO;GHREE;FFOUR;GIVE;FSIX;GEVEN;FEIGHT;FNINE;9TIPPI;9ADDAK;9IRI;9URA",
    "9EK ONKAR;9SIGN YAKASH;9ABBREVIATION SIGN;A81=2JARATI SIGN CANDRABINDU;EANUSVARA;EVISARGA",
    "A85=9LETTER A;HA;GI;HI;GU;HU;GVOCALIC R;OL;9VOWEL CANDRA E;A8F=9LETTER E;GAI;9VOWEL CANDRA O",
    "A93=9LETTER O;GAU;GKA;HHA;GGA;HHA;GNGA;GCA;HHA;GJA;HHA;GNYA;GTTA;IHA;GDDA;IHA;GNNA;GTA;HHA",
    "GDA;HHA;GNA;AAA=GPA;HHA;GBA;HHA;GMA;GYA;GRA;AB2=GLA;HLA;AB5=GVA;GSHA;HSA;HA;GHA",
    "ABC=9SIGN NUKTA;EAVAGRAHA;9VOWEL SIGN AA;KI;LI;KU;LU;KVOCALIC R;TR;KCANDRA E;AC7=KE;KAI",
    "KCANDRA O;ACB=KO;KAU;9SIGN VIRAMA;AD0=9OM;AE0=9LETTER VOCALIC RR;OLL;9VOWEL SIGN VOCALIC L",
    "TL;AE6=9DIGIT ZERO;FONE;FTWO;GHREE;FFOUR;GIVE;FSIX;GEVEN;FEIGHT;FNINE;9ABBREVIATION SIGN",
    "9RUPEE SIGN;AF9=9LETTER ZHA;9SIGN SUKUN;FHADDA;EMADDAH;ETHREE-DOT NUKTA ABOVE",
    "ECIRCLE NUKTA ABOVE;ETWO-CIRCLE NUKTA ABOVE;B01=0ORIYA SIGN CANDRABINDU;BANUSVARA;BVISARGA",
    "B05=6LETTER A;EA;DI;EI;DU;EU;DVOCALIC R;LL;B0F=DE;DAI;B13=DO;DAU;DKA;EHA;DGA;EHA;DNGA;DCA",
    "EHA;DJA;EHA;DNYA;DTTA;FHA;DDDA;FHA;DNNA;DTA;EHA;DDA;EHA;DNA;B2A=DPA;EHA;DBA;EHA;DMA;DYA;DRA",
    "B32=DLA;ELA;B35=DVA;DSHA;ESA;EA;DHA;B3C=6SIGN NUKTA;BAVAGRAHA;6VOWEL SIGN AA;HI;II;HU;IU",
    "HVOCALIC R;QR;B47=HE;HAI;B4B=HO;HAU;6SIGN VIRAMA;B55=BOVERLINE;6AI LENGTH MARK",
    "7U LENGTH MARK;B5C=6LETTER RRA;EHA;B5F=DYYA;DVOCALIC RR;LLL;6VOWEL SIGN VOCALIC L;QL",
    "B66=6DIGIT ZERO;CONE;CTWO;DHREE;CFOUR;DIVE;CSIX;DEVEN;CEIGHT;CNINE;6ISSHAR;6LETTER WA",
    "6FRACTION ONE QUARTER;JHALF;FTHREE QUARTERS;FONE SIXTEENTH;JEIGHTH;FTHREE SIXTEENTHS",
    "B82=0TAMIL SIGN ANUSVARA;BVISARGA;B85=6LETTER A;EA;DI;EI;DU;EU;B8E=DE;EE;DAI;B92=DO;EO;DAU",
    "DKA;B99=DNGA;DCA;B9C=DJA;B9E=DNYA;DTTA;BA3=DNNA;DTA;BA8=DNA;ENNA;DPA;BAE=DMA;DYA;DRA;ERA;DLA",
    "ELA;FLA;DVA;DSHA;ESA;EA;DHA;BBE=6VOWEL SIGN AA;HI;II;HU;IU;BC6=HE;IE;HAI;BCA=HO;IO;HAU",
    "6SIGN VIRAMA;BD0=6OM;BD7=6AU LENGTH MARK;BE6=6DIGIT ZERO;CONE;CTWO;DHREE;CFOUR;DIVE;CSIX",
    "DEVEN;CEIGHT;CNINE;6NUMBER TEN;DONE HUNDRED;HTHOUSAND;6DAY SIGN;6MONTH SIGN;6YEAR SIGN",
    "6DEBIT SIGN;6CREDIT SIGN;6AS ABOVE SIGN;6RUPEE SIGN;6NUMBER SIGN",
    "C00=1ELUGU SIGN COMBINING CANDRABINDU ABOVE;DANDRABINDU;CANUSVARA;CVISARGA",
    "CCOMBINING ANUSVARA ABOVE;7LETTER A;FA;EI;FI;EU;FU;EVOCALIC R;ML;C0E=EE;FE;EAI;C12=EO;FO;EAU",
    "EKA;FHA;EGA;FHA;ENGA;ECA;FHA;EJA;FHA;ENYA;ETTA;GHA;EDDA;GHA;ENNA;ETA;FHA;EDA;FHA;ENA;C2A=EPA",
    "FHA;EBA;FHA;EMA;EYA;ERA;FRA;ELA;FLA;GLA;EVA;ESHA;FSA;FA;EHA;C3C=7SIGN NUKTA;CAVAGRAHA",
    "7VOWEL SIGN AA;II;JI;IU;JU;IVOCALIC R;RR;C46=IE;JE;IAI;C4A=IO;JO;IAU;7SIGN VIRAMA",
    "C55=7LENGTH MARK;7AI LENGTH MARK;C58=7LETTER TSA;EDZA;ERRRA;C5D=ENAKAARA POLLU",
    "C60=EVOCALIC RR;MLL;7VOWEL SIGN VOCALIC L;RL;C66=7DIGIT ZERO;DONE;DTWO;EHREE;DFOUR;EIVE;DSIX",
    "EEVEN;DEIGHT;DNINE;C77=7SIGN SIDDHAM;7FRACTION DIGIT ZERO FOR ODD POWERS OF FOUR",
    "MONE FOR ODD POWERS OF FOUR;MTWO FOR ODD POWERS OF FOUR;NHREE FOR ODD POWERS OF FOUR",
    "MONE FOR EVEN POWERS OF FOUR;MTWO FOR EVEN POWERS OF FOUR;NHREE FOR EVEN POWERS OF FOUR",
    "7SIGN TUUMU;0KANNADA SIGN SPACING CANDRABINDU;DCANDRABINDU;DANUSVARA;DVISARGA;DSIDDHAM",
    "8LETTER A;GA;FI;GI;FU;GU;FVOCALIC R;NL;C8E=FE;GE;FAI;C92=FO;GO;FAU;FKA;GHA;FGA;GHA;FNGA;FCA",
    "GHA;FJA;GHA;FNYA;FTTA;HHA;FDDA;HHA;FNNA;FTA;GHA;FDA;GHA;FNA;CAA=FPA;GHA;FBA;GHA;FMA;FYA;FRA",
    "GRA;FLA;GLA;CB5=FVA;FSHA;GSA;GA;FHA;CBC=8SIGN NUKTA;DAVAGRAHA;8VOWEL SIGN AA;JI;KI;JU;KU",
    "JVOCALIC R;SR;CC6=JE;KE;JAI;CCA=JO;KO;JAU;8SIGN VIRAMA;CD5=8LENGTH MARK;8AI LENGTH MARK",
    "CDD=8LETTER NAKAARA POLLU;FFA;CE0=FVOCALIC RR;NLL;8VOWEL SIGN VOCALIC L;SL;CE6=8DIGIT ZERO",
    "EONE;ETWO;FHREE;EFOUR;FIVE;ESIX;FEVEN;EEIGHT;ENINE;CF1=8SIGN JIHVAMULIYA;DUPADHMANIYA",
    "D00=0MALAYALAM SIGN COMBINING ANUSVARA ABOVE;GANDRABINDU;FANUSVARA;FVISARGA",
    "ALETTER VEDIC ANUSVARA;HA;IA;HI;II;HU;IU;HVOCALIC R;PL;D0E=HE;IE;HAI;D12=HO;IO;HAU;HKA;IHA",
    "HGA;IHA;HNGA;HCA;IHA;HJA;IHA;HNYA;HTTA;JHA;HDDA;JHA;HNNA;HTA;IHA;HDA;IHA;HNA;INNA;HPA;IHA",
    "HBA;IHA;HMA;HYA;HRA;IRA;HLA;ILA;JLA;HVA;HSHA;ISA;IA;HHA;HTTTA;ASIGN VERTICAL BAR VIRAMA",
    "FCIRCULAR VIRAMA;FAVAGRAHA;AVOWEL SIGN AA;LI;MI;LU;MU;LVOCALIC R;UR;D46=LE;ME;LAI;D4A=LO;MO",
    "LAU;ASIGN VIRAMA;ALETTER DOT REPH;ASIGN PARA;D54=ALETTER CHILLU M;OY;OLLL;AAU LENGTH MARK",
    "AFRACTION ONE ONE-HUNDRED-AND-SIXTIETH;NFORTIETH;JTHREE EIGHTIETHS;JONE TWENTIETH;OENTH",
    "JTHREE TWENTIETHS;JONE FIFTH;ALETTER ARCHAIC II;HVOCALIC RR;PLL;AVOWEL SIGN VOCALIC L;UL",
    "D66=ADIGIT ZERO;GONE;GTWO;HHREE;GFOUR;HIVE;GSIX;HEVEN;GEIGHT;GNINE;ANUMBER TEN;HONE HUNDRED",
    "LTHOUSAND;AFRACTION ONE QUARTER;NHALF;JTHREE QUARTERS;JONE SIXTEENTH;NEIGHTH",
    "JTHREE SIXTEENTHS;ADATE MARK;ALETTER CHILLU NN;P;ORR;OL;PL;OK;D81=0SINHALA SIGN CANDRABINDU",
    "DANUSVARAYA;DVISARGAYA;D85=8LETTER AYANNA;GAYANNA;GEYANNA;HEYANNA;FIYANNA;GIYANNA;FUYANNA",
    "GUYANNA;FIRUYANNA;IUYANNA;GLUYANNA;IUYANNA;FEYANNA;GEYANNA;FAIYANNA;FOYANNA;GOYANNA;FAUYANNA",
    "D9A=GLPAPRAANA KAYANNA;FMAHAAPRAANA KAYANNA;FALPAPRAANA GAYANNA;FMAHAAPRAANA GAYANNA",
    "FKANTAJA NAASIKYAYA;FSANYAKA GAYANNA;FALPAPRAANA CAYANNA;FMAHAAPRAANA CAYANNA",
    "FALPAPRAANA JAYANNA;FMAHAAPRAANA JAYANNA;FTAALUJA NAASIKYAYA;NSANYOOGA NAAKSIKYAYA",
    "FSANYAKA JAYANNA;FALPAPRAANA TTAYANNA;FMAHAAPRAANA TTAYANNA;FALPAPRAANA DDAYANNA",
    "FMAHAAPRAANA DDAYANNA;GUURDHAJA NAYANNA;FSANYAKA DDAYANNA;FALPAPRAANA TAYANNA",
    "FMAHAAPRAANA TAYANNA;FALPAPRAANA DAYANNA;FMAHAAPRAANA DAYANNA;FDANTAJA NAYANNA",
    "DB3=FSANYAKA DAYANNA;FALPAPRAANA PAYANNA;FMAHAAPRAANA PAYANNA;FALPAPRAANA BAYANNA",
    "FMAHAAPRAANA BAYANNA;HYANNA;FAMBA BAYANNA;FYAYANNA;FRAYANNA;DBD=FDANTAJA LAYANNA",
    "DC0=FVAYANNA;FTAALUJA SAYANNA;FMUURDHAJA SAYANNA;FDANTAJA SAYANNA;FHAYANNA",
    "FMUURDHAJA LAYANNA;FFAYANNA;DCA=8SIGN AL-LAKUNA;DCF=8VOWEL SIGN AELA-PILLA;JKETTI AEDA-PILLA",
    "JDIGA AEDA-PILLA;JKETTI IS-PILLA;JDIGA IS-PILLA;JKETTI PAA-PILLA;DD6=JDIGA PAA-PILLA",
    "DD8=JGAETTA-PILLA;JKOMBUVA;JDIGA KOMBUVA;JKOMBU DEKA;OVA HAA AELA-PILLA;VDIGA AELA-PILLA",
    "VGAYANUKITTA;JGAYANUKITTA;DE6=8LITH DIGIT ZERO;JONE;JTWO;KHREE;JFOUR;KIVE;JSIX;KEVEN;JEIGHT",
    "JNINE;DF2=8VOWEL SIGN DIGA GAETTA-PILLA;QYANUKITTA;8PUNCTUATION KUNDDALIYA",
    "E01=0THAI CHARACTER KO KAI;GHO KHAI;LUAT;LWAI;LON;JRAKHANG;FNGO NGU;FCHO CHAN;LING;LANG",
    "FSO SO;FCHO CHOE;FYO YING;FDO CHADA;FTO PATAK;GHO THAN;JNANGMONTHO;JPHUTHAO;FNO NEN;FDO DEK",
    "FTO TAO;GHO THUNG;LAHAN;LONG;FNO NU;FBO BAIMAI;FPO PLA;GHO PHUNG;FFO FA;FPHO PHAN;FFO FAN",
    "FPHO SAMPHAO;FMO MA;FYO YAK;FRO RUA;GU;FLO LING;GU;FWO WAEN;FSO SALA;IRUSI;ISUA;FHO HIP",
    "FLO CHULA;FO ANG;FHO NOKHUK;FPAIYANNOI;FSARA A;FMAI HAN-AKAT;FSARA AA;LM;KI;LI;KUE;ME;L;LU",
    "FPHINTHU;E3F=6URRENCY SYMBOL BAHT;6HARACTER SARA E;KAE;KO;KAI MAIMUAN;RALAI;FLAKKHANGYAO",
    "FMAIYAMOK;ITAIKHU;I EK;JTHO;KRI;JCHATTAWA;FTHANTHAKHAT;FNIKHAHIT;FYAMAKKAN;FFONGMAN",
    "5DIGIT ZERO;BONE;BTWO;CHREE;BFOUR;CIVE;BSIX;CEVEN;BEIGHT;BNINE;5CHARACTER ANGKHANKHU;FKHOMUT",
    "E81=0LAO LETTER KO;CHO SUNG;E84=FTAM;E86=BPALI GHA;BNGO;BCO;BPALI CHA;BSO TAM;E8C=BPALI JHA",
    "BNYO;BPALI NYA;GTTA;IHA;GDDA;IHA;GNNA;BDO;BTO;CHO SUNG;FTAM;BPALI DHA;BNO;BBO;BPO;CHO SUNG",
    "BFO TAM;BPHO TAM;BFO SUNG;BPALI BHA;BMO;BYO;BLO LING;EA5=FOOT;EA7=BWO;BSANSKRIT SHA;LSA",
    "CO SUNG;BHO SUNG;BPALI LLA;BO;BHO TAM;4ELLIPSIS;4VOWEL SIGN A;FMAI KAN;FAA;GM;FI;GI;FY;GY;FU",
    "GU;4SIGN PALI VIRAMA;4VOWEL SIGN MAI KON;4SEMIVOWEL SIGN LO;JNYO;EC0=4VOWEL SIGN E;GI;FO;FAY",
    "GI;EC6=4KO LA;EC8=4TONE MAI EK;DTHO;EI;DCATAWA;4CANCELLATION MARK;4NIGGAHITA;ED0=4DIGIT ZERO",
    "AONE;ATWO;BHREE;AFOUR;BIVE;ASIX;BEVEN;AEIGHT;ANINE;EDC=4HO NO;7MO;4LETTER KHMU GO;GNYO",
    "F00=0TIBETAN SYLLABLE OM;8MARK GTER YIG MGO TRUNCATED A;Q-UM RNAM BCAD MA;UGTER TSHEG MA",
    "DINITIAL YIG MGO MDUN MA;DCLOSING YIG MGO SGAB MA;EARET YIG MGO PHUR SHAD MA",
    "DYIG MGO TSHEG SHAD MA;DSBRUL SHAD;DBSKUR YIG MGO;EKA- SHOG YIG MGO;DINTERSYLLABIC TSHEG",
    "DDELIMITER TSHEG BSTAR;DSHAD;DNYIS SHAD;DTSHEG SHAD;DNYIS TSHEG SHAD;DRIN CHEN SPUNGS SHAD",
    "EGYA GRAM SHAD;DCARET -DZUD RTAGS ME LONG CAN;DGTER TSHEG;8LOGOTYPE SIGN CHAD RTAGS",
    "MLHAG RTAGS;8ASTROLOGICAL SIGN SGRA GCAN -CHAR RTAGS;Q-KHYUD PA;QSDONG TSHUGS",
    "8SIGN RDEL DKAR GCIG;ONYIS;OSUM;INAG GCIG;NNYIS;IDKAR RDEL NAG;8DIGIT ZERO;EONE;ETWO;FHREE",
    "EFOUR;FIVE;ESIX;FEVEN;EEIGHT;ENINE;EHALF ONE;JTWO;KHREE;JFOUR;KIVE;JSIX;KEVEN;JEIGHT;JNINE",
    "JZERO;8MARK BSDUS RTAGS;DNGAS BZUNG NYI ZLA;DCARET -DZUD RTAGS BZHI MIG CAN",
    "DNGAS BZUNG SGOR RTAGS;DCHE MGO;DTSA -PHRU;DGUG RTAGS GYON;PAS;DANG KHANG GYON;PAS",
    "8SIGN YAR TSHES;DMAR TSHES;8LETTER KA;GHA;FGA;GHA;FNGA;FCA;GHA;FJA;F49=FNYA;FTTA;HHA;FDDA",
    "HHA;FNNA;FTA;GHA;FDA;GHA;FNA;FPA;GHA;FBA;GHA;FMA;FTSA;HHA;FDZA;HHA;FWA;FZHA;GA;F-A;FYA;FRA",
    "FLA;FSHA;GSA;GA;FHA;FA;FKSSA;FFIXED-FORM RA;FKKA;FRRA;F71=8VOWEL SIGN AA;JI;KI;JU;KU",
    "JVOCALIC R;SR;RL;SL;JE;KE;JO;KO;8SIGN RJES SU NGA RO;ENAM BCAD;8VOWEL SIGN REVERSED I;TI",
    "8SIGN NYI ZLA NAA DA;DSNA LDAN;8MARK HALANTA;DPALUTA;8SIGN LCI RTAGS;DYANG RTAGS",
    "DLCE TSA CAN;DMCHU CAN;DGRU CAN RGYINGS;HMED RGYINGS;DINVERTED MCHU CAN",
    "9UBJOINED SIGN LCE TSA CAN;NMCHU CAN;NINVERTED MCHU CAN;ILETTER KA;QHA;PGA;QHA;PNGA;PCA;QHA",
    "PJA;F99=PNYA;PTTA;RHA;PDDA;RHA;PNNA;PTA;QHA;PDA;QHA;PNA;PPA;QHA;PBA;QHA;PMA;PTSA;RHA;PDZA",
    "RHA;PWA;PZHA;QA;P-A;PYA;PRA;PLA;PSHA;QSA;QA;PHA;PA;PKSSA;PFIXED-FORM WA;aYA;aRA",
    "FBE=8KU RU KHA;H BZHI MIG CAN;8CANTILLATION SIGN HEAVY BEAT;QLIGHT BEAT;QCANG TE-U",
    "QSBUB -CHAL;8SYMBOL DRIL BU;FRDO RJE;FPADMA GDAN;FRDO RJE RGYA GRAM;FPHUR PA;FNOR BU",
    "L NYIS -KHYIL;MGSUM -KHYIL;MBZHI -KHYIL;FCE=9IGN RDEL NAG RDEL DKAR;MGSUM",
    "8MARK BSKA- SHOG GI MGO RGYAN;DMNYAM YIG GI MGO RGYAN;DNYIS TSHEG",
    "DINITIAL BRDA RNYING YIG MGO MDUN MA;DCLOSING BRDA RNYING YIG MGO SGAB MA",
    "0RIGHT-FACING SVASTI SIGN;0LEFT-FACING SVASTI SIGN;0RIGHT-FACING SVASTI SIGN WITH DOTS",
    "0LEFT-FACING SVASTI SIGN WITH DOTS;0TIBETAN MARK LEADING MCHAN RTAGS;DTRAILING MCHAN RTAGS"]

end RecordDocs.Text
