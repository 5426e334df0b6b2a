/-!
# Names of characters: further scripts in use and presentation forms

The names of the characters from A000 to FFFF, as of Unicode 14, in the short form of name tables.
-/

namespace RecordDocs.Text

def modernNames : List String :=
  ["A000=0YI SYLLABLE IT;DX;D;DP;DET;EX;E;EP;CAT;DX;D;DP;CUOX;E;EP;COT;DX;D;DP;CEX;D;CWU;CBIT;EX",
    "E;EP;EET;FX;F;FP;DAT;EX;E;EP;DUOX;F;FP;DOT;EX;E;EP;DEX;E;EP;DUT;EX;E;EP;ERX;F;DYT;EX;E;EP",
    "ERX;F;CPIT;EX;E;EP;EEX;F;FP;DAT;EX;E;EP;DUOX;F;FP;DOT;EX;E;EP;DUT;EX;E;EP;ERX;F;DYT;EX;E;EP",
    "ERX;F;CBBIT;FX;F;FP;FET;GX;G;GP;EAT;FX;F;FP;EUOX;G;GP;EOT;FX;F;FP;EEX;F;FP;EUT;FX;F;FP;FRX;G",
    "EYT;FX;F;FP;CNBIT;FX;F;FP;FEX;G;GP;EAT;FX;F;FP;EOT;FX;F;FP;EUT;FX;F;FP;FRX;G;EYT;FX;F;FP;FRX",
    "G;CHMIT;FX;F;FP;FEX;G;GP;EAT;FX;F;FP;EUOX;G;GP;EOT;FX;F;FP;EUT;FX;F;FP;FRX;G;EYX;F;FP;FRX;G",
    "CMIT;EX;E;EP;EEX;F;FP;DAT;EX;E;EP;DUOT;FX;F;FP;DOT;EX;E;EP;DEX;E;DUT;EX;E;EP;ERX;F;DYT;EX;E",
    "EP;CFIT;EX;E;EP;DAT;EX;E;EP;DOX;E;EP;DUT;EX;E;EP;ERX;F;DYT;EX;E;EP;CVIT;EX;E;EP;EET;FX;F;FP",
    "DAT;EX;E;EP;DOT;EX;E;EP;DEX;EP;DUT;EX;E;EP;ERX;F;DYT;EX;E;EP;ERX;F;CDIT;EX;E;EP;EEX;F;FP;DAT",
    "EX;E;EP;DUOX;F;DOT;EX;E;EP;DEX;E;EP;DUT;EX;E;EP;ERX;F;CTIT;EX;E;EP;EEX;F;FP;DAT;EX;E;EP;DUOT",
    "FX;F;FP;DOT;EX;E;EP;DEX;E;EP;DUT;EX;E;EP;ERX;F;CDDIT;FX;F;FP;FEX;G;GP;EAT;FX;F;FP;EUOX;G;GP",
    "EOT;FX;F;FP;EEX;F;FP;EUT;FX;F;FP;FRX;G;CNDIT;FX;F;FP;FEX;G;EAT;FX;F;FP;EOT;FX;F;FP;EEX;F;FP",
    "EUT;FX;F;FP;FRX;G;CHNIT;FX;F;FP;FET;GX;G;GP;EAT;FX;F;FP;EUOX;G;EOT;FX;FP;EEX;F;FP;EUT;CNIT",
    "EX;E;EP;EEX;F;FP;DAX;E;EP;DUOX;F;FP;DOT;EX;E;EP;DEX;E;EP;DUT;EX;E;EP;ERX;F;CHLIT;FX;F;FP;FEX",
    "G;GP;EAT;FX;F;FP;EUOX;G;GP;EOX;F;FP;EEX;F;FP;EUT;FX;F;FP;FRX;G;EYT;FX;F;FP;FRX;G;CLIT;EX;E",
    "EP;EET;FX;F;FP;DAT;EX;E;EP;DUOT;FX;F;FP;DOT;EX;E;EP;DEX;E;EP;DUT;EX;E;EP;ERX;F;DYT;EX;E;EP",
    "ERX;F;CGIT;EX;E;EP;EET;FX;F;FP;DAT;EX;E;EP;DUOT;FX;F;FP;DOT;EX;E;EP;DET;EX;E;EP;DUT;EX;E;EP",
    "ERX;F;CKIT;EX;E;EP;EEX;F;FP;DAT;EX;E;EP;DUOX;F;FP;DOT;EX;E;EP;DET;EX;E;EP;DUT;EX;E;EP;ERX;F",
    "CGGIT;FX;F;FEX;G;GP;EAT;FX;F;FP;EUOT;GX;G;GP;EOT;FX;F;FP;EET;FX;F;FP;EUT;FX;F;FP;FRX;G",
    "CMGIEX;G;EAT;FX;F;FP;EUOX;G;GP;EOT;FX;F;FP;EEX;F;FP;EUT;FX;F;FP;FRX;G;CHXIT;FX;F;FP;FET;GX;G",
    "GP;EAT;FX;F;FP;EUOT;GX;G;GP;EOT;FX;F;FP;EEX;F;FP;CNGIEX;G;GP;EAT;FX;F;FP;EUOT;GX;G;EOT;FX;F",
    "FP;EEX;F;FP;CHIT;EEX;F;DAT;EX;E;EP;DUOT;FX;F;FP;DOT;EX;E;EP;DEX;E;EP;CWAT;EX;E;EP;DUOX;F;FP",
    "DOX;E;EP;DEX;E;EP;CZIT;EX;E;EP;EEX;F;FP;DAT;EX;E;EP;DUOX;F;FP;DOT;EX;E;EP;DEX;E;EP;DUT;EX;E",
    "EP;ERX;F;DYT;EX;E;EP;ERX;F;CCIT;EX;E;EP;EET;FX;F;FP;DAT;EX;E;EP;DUOX;F;FP;DOT;EX;E;EP;DEX;E",
    "EP;DUT;EX;E;EP;ERX;F;DYT;EX;E;EP;ERX;F;CZZIT;FX;F;FP;FET;GX;G;GP;EAT;FX;F;FP;EOX;F;FP;EEX;F",
    "FP;EUX;F;FP;FRX;G;EYT;FX;F;FP;FRX;G;CNZIT;FX;F;FP;FEX;G;GP;EAT;FX;F;FP;EUOX;G;EOX;FP;EEX;F",
    "EUX;F;FP;FRX;G;EYT;FX;F;FP;FRX;G;CSIT;EX;E;EP;EEX;F;FP;DAT;EX;E;EP;DUOX;F;FP;DOT;EX;E;EP;DEX",
    "E;EP;DUT;EX;E;EP;ERX;F;DYT;EX;E;EP;ERX;F;DSIT;FX;F;FP;FEX;G;GP;EAT;FX;F;FP;EOT;FX;F;FP;EEX;F",
    "FP;EUT;FX;F;FP;EYT;FX;F;FP;FRX;G;CZHAT;FX;F;FP;EUOX;G;GP;EOT;FX;F;FP;EET;FX;F;FP;EUT;FX;F;FP",
    "FRX;G;EYT;FX;F;FP;FRX;G;CCHAT;FX;F;FP;EUOT;GX;G;GP;EOT;FX;F;FP;EET;FX;F;FP;EUX;F;FP;FRX;G",
    "EYT;FX;F;FP;FRX;G;CRRAX;F;EUOX;G;EOT;FX;F;FP;EET;FX;F;FP;EUT;FX;F;FP;FRX;G;EYT;FX;F;FP;FRX;G",
    "CNRAT;FX;F;FP;EOX;F;FP;EET;FX;F;FP;EUT;FX;F;FP;FRX;G;EYT;FX;F;FP;FRX;G;CSHAT;FX;F;FP;EUOX;G",
    "GP;EOT;FX;F;FP;EET;FX;F;FP;EUT;FX;F;FP;FRX;G;EYT;FX;F;FP;FRX;G;CRAT;EX;E;EP;DUOX;F;FP;DOT;EX",
    "E;EP;DEX;E;EP;DUT;EX;E;EP;ERX;F;DYT;EX;E;EP;ERX;F;CJIT;EX;E;EP;EET;FX;F;FP;DUOT;FX;F;FP;DOT",
    "EX;E;EP;DUT;EX;E;EP;ERX;F;DYT;EX;E;EP;ERX;F;CQIT;EX;E;EP;EET;FX;F;FP;DUOT;FX;F;FP;DOT;EX;E",
    "EP;DUT;EX;E;EP;ERX;F;DYT;EX;E;EP;ERX;F;CJJIT;FX;F;FP;FET;GX;G;GP;EUOX;G;GP;EOT;FX;F;FP;EUT",
    "FX;F;FP;FRX;G;EYT;FX;F;FP;CNJIT;FX;F;FP;FET;GX;G;GP;EUOX;G;EOT;FX;F;FP;EUX;F;FP;FRX;G;EYT;FX",
    "F;FP;FRX;G;DYIT;FX;F;FP;FET;GX;G;GP;EUOX;G;GP;EOT;FX;F;FP;EUT;FX;F;FP;CXIT;EX;E;EP;EET;FX;F",
    "FP;DUOX;F;DOT;EX;E;EP;DYT;EX;E;EP;ERX;F;CYIT;EX;E;EP;EET;FX;F;FP;DUOT;FX;F;FP;DOT;EX;E;EP",
    "DUT;EX;E;EP;ERX;F;DYT;EX;E;EP;ERX;F;A490=3RADICAL QOT;BLI;BKIT;BNYIP;BCYP;BSSI;BGGOP;CEP;BMI",
    "BHXIT;BLYR;BBBUT;BMOP;BYO;BPUT;BHXUO;BTAT;BGA;BZUP;BCYT;BDDUR;BBUR;BGGUO;BNYOP;BTU;BOP;BJJUT",
    "BZOT;BPYT;BHMO;BYIT;BVUR;BSHY;BVEP;BZA;BJO;BNZUP;BJJY;BGOT;BJJIE;BWO;BDU;BSHUR;BLIE;BCY;CUOP",
    "CIP;BHXOP;BSHAT;BZUR;BSHOP;BCHE;BZZIET;BNBIE;BKE;A4D0=0LISU LETTER BA;CPA;DHA;CDA;CTA;DHA",
    "CGA;CKA;DHA;CJA;CCA;DHA;CDZA;CTSA;EHA;CMA;CNA;CLA;CSA;CZHA;DA;CNGA;CHA;CXA;CHHA;CFA;CWA;CSHA",
    "CYA;CGHA;CA;DE;CE;DU;CI;CO;CU;DE;DH;COE;CTONE MYA TI;HNA PO;HMYA CYA;LBO;LNA;LJEU",
    "5PUNCTUATION COMMA;HFULL STOP;0VAI SYLLABLE EE;FN;DHEE;DWEE;GN;DPEE;DBHEE;EEE;DMBEE;DKPEE",
    "DMGBEE;DGBEE;DFEE;DVEE;DTEE;EHEE;DDHEE;FHEE;DLEE;DREE;DDEE;DNDEE;DSEE;EHEE;DZEE;EHEE;DCEE",
    "DJEE;DNJEE;DYEE;DKEE;DNGGEE;DGEE;DMEE;DNEE;EYEE;DI;EN;DHI;FN;DWI;FN;DPI;DBHI;EI;DMBI;DKPI",
    "DMGBI;DGBI;DFI;DVI;DTI;EHI;DDHI;FHI;DLI;DRI;DDI;DNDI;DSI;EHI;DZI;EHI;DCI;DJI;DNJI;DYI;DKI",
    "DNGGI;DGI;DMI;DNI;EYI;DA;EN;DNGAN;DHA;FN;DWA;FN;DPA;DBHA;EA;DMBA;DKPA;GN;DMGBA;DGBA;DFA;DVA",
    "DTA;EHA;DDHA;FHA;DLA;DRA;DDA;DNDA;DSA;EHA;DZA;EHA;DCA;DJA;DNJA;DYA;DKA;FN;DNGGA;DGA;DMA;DNA",
    "EYA;DOO;FN;DHOO;DWOO;GN;DPOO;DBHOO;EOO;DMBOO;DKPOO;DMGBOO;DGBOO;DFOO;DVOO;DTOO;EHOO;DDHOO",
    "FHOO;DLOO;DROO;DDOO;DNDOO;DSOO;EHOO;DZOO;EHOO;DCOO;DJOO;DNJOO;DYOO;DKOO;DNGGOO;DGOO;DMOO",
    "DNOO;EYOO;DU;EN;DHU;FN;DWU;FN;DPU;DBHU;EU;DMBU;DKPU;DMGBU;DGBU;DFU;DVU;DTU;EHU;DDHU;FHU;DLU",
    "DRU;DDU;DNDU;DSU;EHU;DZU;EHU;DCU;DJU;DNJU;DYU;DKU;DNGGU;DGU;DMU;DNU;EYU;DO;EN;DNGON;DHO;FN",
    "DWO;FN;DPO;DBHO;EO;DMBO;DKPO;DMGBO;DGBO;GN;DFO;DVO;DTO;EHO;DDHO;FHO;DLO;DRO;DDO;DNDO;DSO;EHO",
    "DZO;EHO;DCO;DJO;DNJO;DYO;DKO;DNGGO;DGO;DMO;DNO;EYO;DE;EN;DNGEN;DHE;FN;DWE;FN;DPE;DBHE;EE",
    "DMBE;DKPE;GN;DMGBE;DGBE;GN;DFE;DVE;DTE;EHE;DDHE;FHE;DLE;DRE;DDE;DNDE;DSE;EHE;DZE;EHE;DCE;DJE",
    "DNJE;DYE;DKE;DNGGE;HN;DGE;FN;DME;DNE;EYE;EG;DLENGTHENER;4COMMA;4FULL STOP;4QUESTION MARK",
    "4SYLLABLE NDOLE FA;JKA;JSOO;6MBOL FEENG;BKEENG;BTING;BNII;BBANG;BFAA;BTAA;BDANG;COONG;BKUNG",
    "BTONG;BDO-O;BJONG;4DIGIT ZERO;AONE;ATWO;BHREE;AFOUR;BIVE;ASIX;BEVEN;AEIGHT;ANINE",
    "4SYLLABLE NDOLE MA;JDO;A640=0CYRILLIC CAPITAL LETTER ZEMLYA;9SMALL LETTER ZEMLYA",
    "9CAPITAL LETTER DZELO;9SMALL LETTER DZELO;9CAPITAL LETTER REVERSED DZE",
    "9SMALL LETTER REVERSED DZE;9CAPITAL LETTER IOTA;9SMALL LETTER IOTA;9CAPITAL LETTER DJERV",
    "9SMALL LETTER DJERV;9CAPITAL LETTER MONOGRAPH UK;9SMALL LETTER MONOGRAPH UK",
    "9CAPITAL LETTER BROAD OMEGA;9SMALL LETTER BROAD OMEGA;9CAPITAL LETTER NEUTRAL YER",
    "9SMALL LETTER NEUTRAL YER;9CAPITAL LETTER YERU WITH BACK YER",
    "9SMALL LETTER YERU WITH BACK YER;9CAPITAL LETTER IOTIFIED YAT;9SMALL LETTER IOTIFIED YAT",
    "9CAPITAL LETTER REVERSED YU;9SMALL LETTER REVERSED YU;9CAPITAL LETTER IOTIFIED A",
    "9SMALL LETTER IOTIFIED A;9CAPITAL LETTER CLOSED LITTLE YUS;9SMALL LETTER CLOSED LITTLE YUS",
    "9CAPITAL LETTER BLENDED YUS;9SMALL LETTER BLENDED YUS",
    "9CAPITAL LETTER IOTIFIED CLOSED LITTLE YUS;9SMALL LETTER IOTIFIED CLOSED LITTLE YUS",
    "9CAPITAL LETTER YN;9SMALL LETTER YN;9CAPITAL LETTER REVERSED TSE;9SMALL LETTER REVERSED TSE",
    "9CAPITAL LETTER SOFT DE;9SMALL LETTER SOFT DE;9CAPITAL LETTER SOFT EL;9SMALL LETTER SOFT EL",
    "9CAPITAL LETTER SOFT EM;9SMALL LETTER SOFT EM;9CAPITAL LETTER MONOCULAR O",
    "9SMALL LETTER MONOCULAR O;9CAPITAL LETTER BINOCULAR O;9SMALL LETTER BINOCULAR O",
    "9CAPITAL LETTER DOUBLE MONOCULAR O;9SMALL LETTER DOUBLE MONOCULAR O;9LETTER MULTIOCULAR O",
    "1OMBINING CYRILLIC VZMET;JTEN MILLIONS SIGN;JHUNDRED MILLIONS SIGN;JTHOUSAND MILLIONS SIGN",
    "0SLAVONIC ASTERISK;0COMBINING CYRILLIC LETTER UKRAINIAN IE;QI;QYI;QU;QHARD SIGN;QYERU",
    "QSOFT SIGN;QOMEGA;JKAVYKA;JPAYEROK;1YRILLIC KAVYKA;9PAYEROK;9CAPITAL LETTER DWE",
    "9SMALL LETTER DWE;9CAPITAL LETTER DZWE;9SMALL LETTER DZWE;9CAPITAL LETTER ZHWE",
    "9SMALL LETTER ZHWE;9CAPITAL LETTER CCHE;9SMALL LETTER CCHE;9CAPITAL LETTER DZZE",
    "9SMALL LETTER DZZE;9CAPITAL LETTER TE WITH MIDDLE HOOK;9SMALL LETTER TE WITH MIDDLE HOOK",
    "9CAPITAL LETTER TWE;9SMALL LETTER TWE;9CAPITAL LETTER TSWE;9SMALL LETTER TSWE",
    "9CAPITAL LETTER TSSE;9SMALL LETTER TSSE;9CAPITAL LETTER TCHE;9SMALL LETTER TCHE",
    "9CAPITAL LETTER HWE;9SMALL LETTER HWE;9CAPITAL LETTER SHWE;9SMALL LETTER SHWE",
    "9CAPITAL LETTER DOUBLE O;9SMALL LETTER DOUBLE O;9CAPITAL LETTER CROSSED O",
    "9SMALL LETTER CROSSED O;0MODIFIER LETTER CYRILLIC HARD SIGN;PSOFT SIGN",
    "0COMBINING CYRILLIC LETTER EF;QIOTIFIED E;0BAMUM LETTER A;DKA;DU;DKU;DEE;DREE;DTAE;DO;DNYI",
    "DI;DLA;DPA;DRII;FEE;DLEEEE;DMEEEE;DTAA;DNDAA;EJAEM;DM;DSUU;DMU;DSHII;EI;EHEUX;EEUX;DKYEE;EET",
    "DNUAE;F;EJUAE;DYOQ;DSHU;DYUQ;EA;DNSHA;DKEUX;DPEUX;DNJEE;ETEE;DPUE;DWUE;DPEE;DFEE;DRU;DLU;DMI",
    "DNI;DREUX;EAE;DKEN;DNGKWAEN;FGA;FA;DSHO;DPUAE;DFU;EOM;DWA;DNA;DLI;DPI;DLOQ;DKO;DMBEN;DREN",
    "DMEN;EA;DTI;DKI;DMO;EBAA;DTET;DKPA;DTEN;DNTUU;DSAMBA;DFAAMAE;DKOVUU;FGHOM",
    "6COMBINING MARK KOQNDON;LTUKWENTIS;6NJAEMLI;6FULL STOP;6COLON;8MMA;6SEMICOLON;6QUESTION MARK",
    "A700=0MODIFIER LETTER CHINESE TONE YIN PING;UANG PING;UIN SHANG;UANG SHANG;UIN QU;UANG QU",
    "UIN RU;UANG RU;GEXTRA-HIGH DOTTED TONE BAR;GHIGH DOTTED TONE BAR;GMID DOTTED TONE BAR",
    "GLOW DOTTED TONE BAR;GEXTRA-LOW DOTTED TONE BAR;MHIGH DOTTED LEFT-STEM TONE BAR",
    "GHIGH DOTTED LEFT-STEM TONE BAR;GMID DOTTED LEFT-STEM TONE BAR",
    "GLOW DOTTED LEFT-STEM TONE BAR;GEXTRA-LOW DOTTED LEFT-STEM TONE BAR;MHIGH LEFT-STEM TONE BAR",
    "GHIGH LEFT-STEM TONE BAR;GMID LEFT-STEM TONE BAR;GLOW LEFT-STEM TONE BAR",
    "GEXTRA-LOW LEFT-STEM TONE BAR;GDOT VERTICAL BAR;KSLASH;KHORIZONTAL BAR",
    "GLOWER RIGHT CORNER ANGLE;GRAISED UP ARROW;NDOWN ARROW;NEXCLAMATION MARK",
    "NINVERTED EXCLAMATION MARK;GLOW INVERTED EXCLAMATION MARK;GSTRESS AND HIGH TONE;RLOW TONE",
    "0LATIN CAPITAL LETTER EGYPTOLOGICAL ALEF;6SMALL LETTER EGYPTOLOGICAL ALEF",
    "6CAPITAL LETTER EGYPTOLOGICAL AIN;6SMALL LETTER EGYPTOLOGICAL AIN;6CAPITAL LETTER HENG",
    "6SMALL LETTER HENG;6CAPITAL LETTER TZ;6SMALL LETTER TZ;6CAPITAL LETTER TRESILLO",
    "6SMALL LETTER TRESILLO;6CAPITAL LETTER CUATRILLO;6SMALL LETTER CUATRILLO",
    "6CAPITAL LETTER CUATRILLO WITH COMMA;6SMALL LETTER CUATRILLO WITH COMMA",
    "6LETTER SMALL CAPITAL F;RS;6CAPITAL LETTER AA;6SMALL LETTER AA;6CAPITAL LETTER AO",
    "6SMALL LETTER AO;6CAPITAL LETTER AU;6SMALL LETTER AU;6CAPITAL LETTER AV;6SMALL LETTER AV",
    "6CAPITAL LETTER AV WITH HORIZONTAL BAR;6SMALL LETTER AV WITH HORIZONTAL BAR",
    "6CAPITAL LETTER AY;6SMALL LETTER AY;6CAPITAL LETTER REVERSED C WITH DOT",
    "6SMALL LETTER REVERSED C WITH DOT;6CAPITAL LETTER K WITH STROKE;6SMALL LETTER K WITH STROKE",
    "6CAPITAL LETTER K WITH DIAGONAL STROKE;6SMALL LETTER K WITH DIAGONAL STROKE",
    "6CAPITAL LETTER K WITH STROKE AND DIAGONAL STROKE",
    "6SMALL LETTER K WITH STROKE AND DIAGONAL STROKE;6CAPITAL LETTER BROKEN L",
    "6SMALL LETTER BROKEN L;6CAPITAL LETTER L WITH HIGH STROKE;6SMALL LETTER L WITH HIGH STROKE",
    "6CAPITAL LETTER O WITH LONG STROKE OVERLAY;6SMALL LETTER O WITH LONG STROKE OVERLAY",
    "6CAPITAL LETTER O WITH LOOP;6SMALL LETTER O WITH LOOP;6CAPITAL LETTER OO;6SMALL LETTER OO",
    "6CAPITAL LETTER P WITH STROKE THROUGH DESCENDER",
    "6SMALL LETTER P WITH STROKE THROUGH DESCENDER;6CAPITAL LETTER P WITH FLOURISH",
    "6SMALL LETTER P WITH FLOURISH;6CAPITAL LETTER P WITH SQUIRREL TAIL",
    "6SMALL LETTER P WITH SQUIRREL TAIL;6CAPITAL LETTER Q WITH STROKE THROUGH DESCENDER",
    "6SMALL LETTER Q WITH STROKE THROUGH DESCENDER;6CAPITAL LETTER Q WITH DIAGONAL STROKE",
    "6SMALL LETTER Q WITH DIAGONAL STROKE;6CAPITAL LETTER R ROTUNDA;6SMALL LETTER R ROTUNDA",
    "6CAPITAL LETTER RUM ROTUNDA;6SMALL LETTER RUM ROTUNDA;6CAPITAL LETTER V WITH DIAGONAL STROKE",
    "6SMALL LETTER V WITH DIAGONAL STROKE;6CAPITAL LETTER VY;6SMALL LETTER VY",
    "6CAPITAL LETTER VISIGOTHIC Z;6SMALL LETTER VISIGOTHIC Z;6CAPITAL LETTER THORN WITH STROKE",
    "6SMALL LETTER THORN WITH STROKE;6CAPITAL LETTER THORN WITH STROKE THROUGH DESCENDER",
    "6SMALL LETTER THORN WITH STROKE THROUGH DESCENDER;6CAPITAL LETTER VEND;6SMALL LETTER VEND",
    "6CAPITAL LETTER ET;6SMALL LETTER ET;6CAPITAL LETTER IS;6SMALL LETTER IS;6CAPITAL LETTER CON",
    "6SMALL LETTER CON;0MODIFIER LETTER US;0LATIN SMALL LETTER DUM;JLUM;JMUM;JNUM;JRUM",
    "6LETTER SMALL CAPITAL RUM;6SMALL LETTER TUM;JUM;6CAPITAL LETTER INSULAR D",
    "6SMALL LETTER INSULAR D;6CAPITAL LETTER INSULAR F;6SMALL LETTER INSULAR F",
    "6CAPITAL LETTER INSULAR G;LTURNED INSULAR G;6SMALL LETTER TURNED INSULAR G",
    "6CAPITAL LETTER TURNED L;6SMALL LETTER TURNED L;6CAPITAL LETTER INSULAR R",
    "6SMALL LETTER INSULAR R;6CAPITAL LETTER INSULAR S;6SMALL LETTER INSULAR S",
    "6CAPITAL LETTER INSULAR T;6SMALL LETTER INSULAR T;0MODIFIER LETTER LOW CIRCUMFLEX ACCENT",
    "GCOLON;GSHORT EQUALS SIGN;0LATIN CAPITAL LETTER SALTILLO;6SMALL LETTER SALTILLO",
    "6CAPITAL LETTER TURNED H;6SMALL LETTER L WITH RETROFLEX HOOK AND BELT",
    "6LETTER SINOLOGICAL DOT;6CAPITAL LETTER N WITH DESCENDER;6SMALL LETTER N WITH DESCENDER",
    "6CAPITAL LETTER C WITH BAR;6SMALL LETTER C WITH BAR;QPALATAL HOOK;JH WITH PALATAL HOOK",
    "6CAPITAL LETTER B WITH FLOURISH;6SMALL LETTER B WITH FLOURISH;6CAPITAL LETTER F WITH STROKE",
    "6SMALL LETTER F WITH STROKE;6CAPITAL LETTER VOLAPUK AE;6SMALL LETTER VOLAPUK AE",
    "6CAPITAL LETTER VOLAPUK OE;6SMALL LETTER VOLAPUK OE;6CAPITAL LETTER VOLAPUK UE",
    "6SMALL LETTER VOLAPUK UE;6CAPITAL LETTER G WITH OBLIQUE STROKE",
    "6SMALL LETTER G WITH OBLIQUE STROKE;6CAPITAL LETTER K WITH OBLIQUE STROKE",
    "6SMALL LETTER K WITH OBLIQUE STROKE;6CAPITAL LETTER N WITH OBLIQUE STROKE",
    "6SMALL LETTER N WITH OBLIQUE STROKE;6CAPITAL LETTER R WITH OBLIQUE STROKE",
    "6SMALL LETTER R WITH OBLIQUE STROKE;6CAPITAL LETTER S WITH OBLIQUE STROKE",
    "6SMALL LETTER S WITH OBLIQUE STROKE;6CAPITAL LETTER H WITH HOOK;LREVERSED OPEN E;LSCRIPT G",
    "LL WITH BELT;LSMALL CAPITAL I;6LETTER SMALL CAPITAL Q;6CAPITAL LETTER TURNED K;ST",
    "LJ WITH CROSSED-TAIL;LCHI;LBETA;6SMALL LETTER BETA;6CAPITAL LETTER OMEGA;6SMALL LETTER OMEGA",
    "6CAPITAL LETTER U WITH STROKE;6SMALL LETTER U WITH STROKE;6CAPITAL LETTER GLOTTAL A",
    "6SMALL LETTER GLOTTAL A;6CAPITAL LETTER GLOTTAL I;6SMALL LETTER GLOTTAL I",
    "6CAPITAL LETTER GLOTTAL U;6SMALL LETTER GLOTTAL U;6CAPITAL LETTER OLD POLISH O",
    "6SMALL LETTER OLD POLISH O;6CAPITAL LETTER ANGLICANA W;6SMALL LETTER ANGLICANA W",
    "6CAPITAL LETTER C WITH PALATAL HOOK;LS WITH HOOK;LZ WITH PALATAL HOOK",
    "LD WITH SHORT STROKE OVERLAY;6SMALL LETTER D WITH SHORT STROKE OVERLAY",
    "6CAPITAL LETTER S WITH SHORT STROKE OVERLAY;6SMALL LETTER S WITH SHORT STROKE OVERLAY",
    "A7D0=6CAPITAL LETTER CLOSED INSULAR G;6SMALL LETTER CLOSED INSULAR G;A7D3=JDOUBLE THORN",
    "A7D5=QWYNN;6CAPITAL LETTER MIDDLE SCOTS S;6SMALL LETTER MIDDLE SCOTS S",
    "6CAPITAL LETTER SIGMOID S;6SMALL LETTER SIGMOID S;A7F2=0MODIFIER LETTER CAPITAL C;OF;OQ",
    "0LATIN CAPITAL LETTER REVERSED HALF H;6SMALL LETTER REVERSED HALF H",
    "6EPIGRAPHIC LETTER SIDEWAYS I;0MODIFIER LETTER CAPITAL H WITH STROKE;GSMALL LIGATURE OE",
    "0LATIN LETTER SMALL CAPITAL TURNED M;6EPIGRAPHIC LETTER REVERSED F;XP;OINVERTED M;P LONGA",
    "OARCHAIC M;0SYLOTI NAGRI LETTER A;KI;DSIGN DVISVARA;DLETTER U;KE;KO;DSIGN HASANTA;DLETTER KO",
    "LHO;KGO;LHO;DSIGN ANUSVARA;DLETTER CO;LHO;KJO;LHO;KTTO;MHO;KDDO;MHO;KTO;LHO;KDO;LHO;KNO;KPO",
    "LHO;KBO;LHO;KMO;KRO;KLO;KRRO;KSO;KHO;DVOWEL SIGN A;OI;OU;OE;OOO;DPOETRY MARK-1;P2;P3;P4",
    "DSIGN ALTERNATE HASANTA;A830=0NORTH INDIC FRACTION ONE QUARTER;PHALF;LTHREE QUARTERS",
    "LONE SIXTEENTH;PEIGHTH;LTHREE SIXTEENTHS;CQUARTER MARK;CPLACEHOLDER MARK;CRUPEE MARK",
    "CQUANTITY MARK;A840=0PHAGS-PA LETTER KA;HHA;GGA;GNGA;GCA;HHA;GJA;GNYA;GTA;HHA;GDA;GNA;GPA",
    "HHA;GBA;GMA;GTSA;IHA;GDZA;GWA;GZHA;HA;GSMALL A;GYA;GRA;GLA;GSHA;HA;GHA;GA;GI;GU;GE;GO;GQA",
    "GXA;GFA;GGGA;GEE;9SUBJOINED LETTER WA;QYA;9LETTER TTA;IHA;GDDA;GNNA;GALTERNATE YA",
    "GVOICELESS SHA;LD HA;GASPIRATED FA;9SUBJOINED LETTER RA;BPERFIXED LETTER RA",
    "9LETTER CANDRABINDU;9SINGLE HEAD MARK;9DOUBLE HEAD MARK;9MARK SHAD;EDOUBLE SHAD",
    "A880=0SAURASHTRA SIGN ANUSVARA;GVISARGA;BLETTER A;JA;II;JI;IU;JU;IVOCALIC R;RR;QL;RL;IE;JE",
    "IAI;IO;JO;IAU;IKA;JHA;IGA;JHA;INGA;ICA;JHA;IJA;JHA;INYA;ITTA;KHA;IDDA;KHA;INNA;ITA;JHA;IDA",
    "JHA;INA;IPA;JHA;IBA;JHA;IMA;IYA;IRA;ILA;IVA;ISHA;JSA;JA;IHA;ILLA;BCONSONANT SIGN HAARU",
    "BVOWEL SIGN AA;MI;NI;MU;NU;MVOCALIC R;VR;UL;VL;ME;NE;MAI;MO;NO;MAU;BSIGN VIRAMA;GCANDRABINDU",
    "A8CE=BDANDA;COUBLE DANDA;CIGIT ZERO;HONE;HTWO;IHREE;HFOUR;IIVE;HSIX;IEVEN;HEIGHT;HNINE",
    "A8E0=0COMBINING DEVANAGARI DIGIT ZERO;RONE;RTWO;SHREE;RFOUR;SIVE;RSIX;SEVEN;REIGHT;RNINE",
    "LLETTER A;SU;SKA;SNA;SPA;SRA;SVI;LSIGN AVAGRAHA;0DEVANAGARI SIGN SPACING CANDRABINDU",
    "GCANDRABINDU VIRAMA;GDOUBLE CANDRABINDU VIRAMA;GCANDRABINDU TWO;THREE;SAVAGRAHA;GPUSHPIKA",
    "BGAP FILLER;BCARET;BHEADSTROKE;BSIGN SIDDHAM;BJAIN OM;BLETTER AY;BVOWEL SIGN AY",
    "0KAYAH LI DIGIT ZERO;FONE;FTWO;GHREE;FFOUR;GIVE;FSIX;GEVEN;FEIGHT;FNINE;9LETTER KA;HHA;GGA",
    "GNGA;GSA;HHA;GZA;GNYA;GTA;GHTA;GNA;GPA;HHA;GMA;GDA;GBA;GRA;GYA;GLA;GWA;GTHA;GHA;GVA;GCA;GA",
    "GOE;GI;GOO;9VOWEL UE;FE;FU;FEE;FO;9TONE PLOPHU;ECALYA;J PLOPHU;9SIGN CWI;ESHYA",
    "0REJANG LETTER KA;EGA;ENGA;ETA;EDA;ENA;EPA;EBA;EMA;ECA;EJA;ENYA;ESA;ERA;ELA;EYA;EWA;EHA;EMBA",
    "ENGGA;FDA;FYJA;EA;7VOWEL SIGN I;IU;IE;IAI;IO;IAU;IEU;JA;7CONSONANT SIGN NG;N;MR;MH;7VIRAMA",
    "A95F=7SECTION MARK;0HANGUL CHOSEONG TIKEUT-MIEUM;NPIEUP;NSIOS;NCIEUC;GRIEUL-KIYEOK",
    "MSSANGKIYEOK;MTIKEUT;MSSANGTIKEUT;MMIEUM;MPIEUP;MSSANGPIEUP;MKAPYEOUNPIEUP;MSIOS;MCIEUC",
    "MKHIEUKH;GMIEUM-KIYEOK;MTIKEUT;MSIOS;GPIEUP-SIOS-THIEUTH;MKHIEUKH;MHIEUH;GSSANGSIOS-PIEUP",
    "GIEUNG-RIEUL;MHIEUH;GSSANGCIEUC-HIEUH;LTHIEUTH;GPHIEUPH-HIEUH;GHIEUH-SIOS;GSSANGYEORINHIEUH",
    "A980=0JAVANESE SIGN PANYANGGA;ECECAK;ELAYAR;EWIGNYAN;9LETTER A;GI KAWI;H;HI;GU;GPA CEREK",
    "GNGA LELET;P RASWADI;GE;GAI;GO;GKA;I SASAK;JMURDA;GGA;I MURDA;GNGA;GCA;I MURDA;GJA",
    "GNYA MURDA;GJA MAHAPRANA;GNYA;GTTA;J MAHAPRANA;GDDA;J MAHAPRANA;GNA MURDA;GTA;I MURDA;GDA",
    "I MAHAPRANA;GNA;GPA;I MURDA;GBA;I MURDA;GMA;GYA;GRA;I AGUNG;GLA;GWA;GSA MURDA;KAHAPRANA;I",
    "GHA;9SIGN CECAK TELU;9VOWEL SIGN TARUNG;LOLONG;KWULU;O MELIK;KSUKU;O MENDUT;KTALING",
    "KDIRGA MURE;KPEPET;9CONSONANT SIGN KERET;OPENGKAL;OCAKRA;9PANGKON;9LEFT RERENGGAN",
    "9RIGHT RERENGGAN;9PADA ANDAP;EMADYA;ELUHUR;EWINDU;EPANGKAT;ELINGSA;FUNGSI;EADEG;I ADEG",
    "EPISELEH;9TURNED PADA PISELEH;A9CF=9PANGRANGKEP;9DIGIT ZERO;FONE;FTWO;GHREE;FFOUR;GIVE;FSIX",
    "GEVEN;FEIGHT;FNINE;A9DE=9PADA TIRTA TUMETES;EISEN-ISEN;0MYANMAR LETTER SHAN GHA;KCHA;KJHA",
    "KNNA;KBHA;8SIGN SHAN SAW;8MODIFIER LETTER SHAN REDUPLICATION;8LETTER TAI LAING NYA;PFA;PGA",
    "QHA;PJA;QHA;PDDA;RHA;PNNA;8TAI LAING DIGIT ZERO;OONE;OTWO;PHREE;OFOUR;PIVE;OSIX;PEVEN;OEIGHT",
    "ONINE;8LETTER TAI LAING LLA;PDA;QHA;PBA;QHA;AA00=0CHAM LETTER A;CI;CU;CE;CAI;CO;CKA;DHA;CGA",
    "DHA;CNGUE;EA;CCHA;EHA;CJA;DHA;CNHUE;EA;EJA;CTA;DHA;CDA;DHA;CNUE;DA;CDDA;CPA;DPA;DHA;CBA;DHA",
    "CMUE;DA;CBBA;CYA;CRA;CLA;CVA;CSSA;DA;CHA;5VOWEL SIGN AA;GI;HI;GEI;GU;GOE;H;GAI;HU;GUE",
    "5CONSONANT SIGN YA;KRA;KLA;KWA;AA40=5LETTER FINAL K;IG;ING;5CONSONANT SIGN FINAL NG",
    "5LETTER FINAL CH;IT;IN;IP;IY;IR;IL;ISS;5CONSONANT SIGN FINAL M;QH;AA50=5DIGIT ZERO;BONE;BTWO",
    "CHREE;BFOUR;CIVE;BSIX;CEVEN;BEIGHT;BNINE;AA5C=5PUNCTUATION SPIRAL;HDANDA;IOUBLE DANDA",
    "HTRIPLE DANDA;0MYANMAR LETTER KHAMTI GA;MCA;NHA;MJA;NHA;MNYA;MTTA;OHA;MDDA;OHA;NHA;MNA;MSA",
    "MHA;NHA;MFA;8MODIFIER LETTER KHAMTI REDUPLICATION;8LETTER KHAMTI XA;MZA;MRA",
    "9OGOGRAM KHAMTI OAY;OQN;OHM;8SYMBOL AITON EXCLAMATION;LONE;LTWO;8LETTER AITON RA",
    "8SIGN PAO KAREN TONE;DTAI LAING TONE-2;S5;8LETTER SHWE PALAUNG CHA;SSHA",
    "0TAI VIET LETTER LOW KO;GHIGH KO;GLOW KHO;GHIGH KHO;GLOW KHHO;GHIGH KHHO;GLOW GO;GHIGH GO",
    "GLOW NGO;GHIGH NGO;GLOW CO;GHIGH CO;GLOW CHO;GHIGH CHO;GLOW SO;GHIGH SO;GLOW NYO;GHIGH NYO",
    "GLOW DO;GHIGH DO;GLOW TO;GHIGH TO;GLOW THO;GHIGH THO;GLOW NO;GHIGH NO;GLOW BO;GHIGH BO",
    "GLOW PO;GHIGH PO;GLOW PHO;GHIGH PHO;GLOW FO;GHIGH FO;GLOW MO;GHIGH MO;GLOW YO;GHIGH YO",
    "GLOW RO;GHIGH RO;GLOW LO;GHIGH LO;GLOW VO;GHIGH VO;GLOW HO;GHIGH HO;GLOW O;GHIGH O;9MAI KANG",
    "9VOWEL AA;FI;FUE;G;FE;FO;9MAI KHIT;9VOWEL IA;FUEA;GA;FAUE;GY;GN;GM;9TONE MAI EK;INUENG;ITHO",
    "ISONG;AADB=9SYMBOL KON;GNUENG;GSAM;GHO HOI;GKOI KOI;0MEETEI MAYEK LETTER E;KO;KCHA;KNYA;KTTA",
    "MHA;KDDA;MHA;KNNA;KSHA;LSA;DVOWEL SIGN II;OUU;OAAI;PU;PAU;DCHEIKHAN;DAHANG KHUDAM;ENJI",
    "DSYLLABLE REPETITION MARK;DWORD REPETITION MARK;DVOWEL SIGN VISARGA;EIRAMA",
    "AB01=0ETHIOPIC SYLLABLE TTHU;LI;LAA;LEE;M;LO;AB09=IDDHU;LI;LAA;LEE;M;LO;AB11=JZU;KI;KAA;KEE",
    "L;KO;AB20=ICCHHA;MU;MI;MAA;MEE;N;MO;AB28=IBBA;KU;KI;KAA;KEE;L;KO",
    "AB30=0LATIN SMALL LETTER BARRED ALPHA;JA REVERSED-SCHWA;JBLACKLETTER E;KARRED E",
    "JE WITH FLOURISH;JLENIS F;JSCRIPT G WITH CROSSED-TAIL;JL WITH INVERTED LAZY S",
    "QDOUBLE MIDDLE TILDE;QMIDDLE RING;JM WITH CROSSED-TAIL;JN WITH CROSSED-TAIL",
    "JENG WITH CROSSED-TAIL;JBLACKLETTER O;W WITH STROKE;JOPEN O WITH STROKE;JINVERTED OE",
    "JTURNED OE WITH STROKE;YHORIZONTAL STROKE;R OPEN-O;Y WITH STROKE;JSTIRRUP R",
    "6LETTER SMALL CAPITAL R WITH RIGHT LEG;6SMALL LETTER R WITHOUT HANDLE;JDOUBLE R",
    "JR WITH CROSSED-TAIL;JDOUBLE R WITH CROSSED-TAIL;JSCRIPT R;R WITH RING;JBASELINE ESH",
    "JU WITH SHORT RIGHT LEG;LBAR WITH SHORT RIGHT LEG;KI;JTURNED UI;JU WITH LEFT HOOK;JCHI",
    "M WITH LOW RIGHT RING;WLEFT SERIF;JX WITH LOW RIGHT RING;SNG LEFT LEG;d AND LOW RIGHT RING",
    "eWITH SERIF;JY WITH SHORT RIGHT LEG;0MODIFIER BREVE WITH INVERTED BREVE;9LETTER SMALL HENG",
    "ML WITH INVERTED LAZY S;TMIDDLE TILDE;MU WITH LEFT HOOK;0LATIN SMALL LETTER SAKHA YAT",
    "JIOTIFIED E;JOPEN OE;JUO;JINVERTED ALPHA;0GREEK LETTER SMALL CAPITAL OMEGA",
    "0LATIN SMALL LETTER DZ DIGRAPH WITH RETROFLEX HOOK;JTS DIGRAPH WITH RETROFLEX HOOK",
    "KURNED R WITH MIDDLE TILDE;0MODIFIER LETTER SMALL TURNED W;GLEFT TACK;GRIGHT TACK",
    "AB70=0CHEROKEE SMALL LETTER A;ME;MI;MO;MU;MV;MGA;MKA;MGE;NI;NO;NU;NV;MHA;NE;NI;NO;NU;NV;MLA",
    "NE;NI;NO;NU;NV;MMA;NE;NI;NO;NU;MNA;MHNA;MNAH;NE;NI;NO;NU;NV;MQUA;OE;OI;OO;OU;OV;MSA;N;NE;NI",
    "NO;NU;NV;MDA;MTA;MDE;MTE;MDI;MTI;MDO;NU;NV;NLA;MTLA;OE;OI;OO;OU;OV;NSA;OE;OI;OO;OU;OV;MWA;NE",
    "NI;NO;NU;NV;MYA;0MEETEI MAYEK LETTER KOK;KSAM;KLAI;KMIT;KPA;KNA;KCHIL;KTIL;KKHOU;KNGOU;KTHOU",
    "KWAI;KYANG;KHUK;KUN;KI;KPHAM;KATIYA;KGOK;KJHAM;KRAI;KBA;KJIL;KDIL;KGHOU;KDHOU;KBHAM",
    "KKOK LONSUM;KLAI LONSUM;KMIT LONSUM;KPA LONSUM;KNA LONSUM;KTIL LONSUM;KNGOU LONSUM;KI LONSUM",
    "DVOWEL SIGN ONAP;OINAP;OANAP;OYENAP;OSOUNAP;OUNAP;OCHEINAP;ONUNG;DCHEIKHEI;DLUM IYEK",
    "DAPUN IYEK;ABF0=DDIGIT ZERO;JONE;JTWO;KHREE;JFOUR;KIVE;JSIX;KEVEN;JEIGHT;JNINE",
    "D7B0=0HANGUL JUNGSEONG O-YEO;JO-I;HYO-A;LE;KEO;HU-YEO;JI-I;HYU-AE;KO;HEU-A;KEO;L;KO;HI-YA-O",
    "LE;KEO;L;JO-I;JYO;KU;JI;HARAEA-A;NE;D7CB=8ONGSEONG NIEUN-RIEUL;NCHIEUCH;HSSANGTIKEUT;S-PIEUP",
    "HTIKEUT-PIEUP;OSIOS;S-KIYEOK;OCIEUC;PHIEUCH;OTHIEUTH;HRIEUL-SSANGKIYEOK;NKIYEOK-HIEUH",
    "HSSANGRIEUL-KHIEUKH;HRIEUL-MIEUM-HIEUH;NPIEUP-TIKEUT;TPHIEUPH;NYESIEUNG;PORINHIEUH-HIEUH",
    "HKAPYEOUNRIEUL;HMIEUM-NIEUN;NSSANGNIEUN;HSSANGMIEUM;HMIEUM-PIEUP-SIOS;NCIEUC;HPIEUP-TIKEUT",
    "NRIEUL-PHIEUPH;NMIEUM;HSSANGPIEUP;HPIEUP-SIOS-TIKEUT;NCIEUC;OHIEUCH;HSIOS-MIEUM",
    "MKAPYEOUNPIEUP;ISANGSIOS-KIYEOK;RTIKEUT;IIOS-PANSIOS;MCIEUC;NHIEUCH;MTHIEUTH;MHIEUH",
    "HPANSIOS-PIEUP;PKAPYEOUNPIEUP;HYESIEUNG-MIEUM;QHIEUH;HCIEUC-PIEUP;NSSANGPIEUP;HSSANGCIEUC",
    "HPHIEUPH-SIOS;PTHIEUTH;FB00=0LATIN SMALL LIGATURE FF;MI;ML;MFI;NL;LLONG S T;LST",
    "FB13=0ARMENIAN SMALL LIGATURE MEN NOW;SECH;SINI;OVEW NOW;OMEN XEH",
    "FB1D=0HEBREW LETTER YOD WITH HIRIQ;7POINT JUDEO-SPANISH VARIKA",
    "7LIGATURE YIDDISH YOD YOD PATAH;8ETTER ALTERNATIVE AYIN;EWIDE ALEF;JDALET;JHE;JKAF;JLAMED",
    "JFINAL MEM;JRESH;JTAV;EALTERNATIVE PLUS SIGN;ESHIN WITH SHIN DOT;PIN DOT",
    "ODAGESH AND SHIN DOT;aIN DOT;EALEF WITH PATAH;OQAMATS;OMAPIQ;EBET WITH DAGESH",
    "EGIMEL WITH DAGESH;EDALET WITH DAGESH;EHE WITH MAPIQ;EVAV WITH DAGESH;EZAYIN WITH DAGESH",
    "FB38=ETET WITH DAGESH;EYOD WITH DAGESH;EFINAL KAF WITH DAGESH;EKAF WITH DAGESH",
    "ELAMED WITH DAGESH;FB3E=EMEM WITH DAGESH;FB40=ENUN WITH DAGESH;ESAMEKH WITH DAGESH",
    "FB43=EFINAL PE WITH DAGESH;EPE WITH DAGESH;FB46=ETSADI WITH DAGESH;EQOF WITH DAGESH",
    "ERESH WITH DAGESH;ESHIN WITH DAGESH;ETAV WITH DAGESH;EVAV WITH HOLAM;EBET WITH RAFE",
    "EKAF WITH RAFE;EPE WITH RAFE;8IGATURE ALEF LAMED;0ARABIC LETTER ALEF WASLA ISOLATED FORM",
    "PFINAL FORM;EBEEH ISOLATED FORM;JFINAL FORM;JINITIAL FORM;JMEDIAL FORM;EPEH ISOLATED FORM",
    "IFINAL FORM;IINITIAL FORM;IMEDIAL FORM;EBEHEH ISOLATED FORM;KFINAL FORM;KINITIAL FORM",
    "KMEDIAL FORM;ETTEHEH ISOLATED FORM;LFINAL FORM;LINITIAL FORM;LMEDIAL FORM",
    "FEHEH ISOLATED FORM;KFINAL FORM;KINITIAL FORM;KMEDIAL FORM;FTEH ISOLATED FORM;JFINAL FORM",
    "JINITIAL FORM;JMEDIAL FORM;EVEH ISOLATED FORM;IFINAL FORM;IINITIAL FORM;IMEDIAL FORM",
    "EPEHEH ISOLATED FORM;KFINAL FORM;KINITIAL FORM;KMEDIAL FORM;EDYEH ISOLATED FORM;JFINAL FORM",
    "JINITIAL FORM;JMEDIAL FORM;ENYEH ISOLATED FORM;JFINAL FORM;JINITIAL FORM;JMEDIAL FORM",
    "ETCHEH ISOLATED FORM;KFINAL FORM;KINITIAL FORM;KMEDIAL FORM;JEH ISOLATED FORM;MFINAL FORM",
    "MINITIAL FORM;MMEDIAL FORM;EDDAHAL ISOLATED FORM;LFINAL FORM;FAHAL ISOLATED FORM;KFINAL FORM",
    "FUL ISOLATED FORM;IFINAL FORM;FDAL ISOLATED FORM;JFINAL FORM;EJEH ISOLATED FORM;IFINAL FORM",
    "ERREH ISOLATED FORM;JFINAL FORM;EKEHEH ISOLATED FORM;KFINAL FORM;KINITIAL FORM;KMEDIAL FORM",
    "EGAF ISOLATED FORM;IFINAL FORM;IINITIAL FORM;IMEDIAL FORM;FUEH ISOLATED FORM;JFINAL FORM",
    "JINITIAL FORM;JMEDIAL FORM;ENGOEH ISOLATED FORM;KFINAL FORM;KINITIAL FORM;KMEDIAL FORM",
    "FOON GHUNNA ISOLATED FORM;QFINAL FORM;ERNOON ISOLATED FORM;KFINAL FORM;KINITIAL FORM",
    "KMEDIAL FORM;EHEH WITH YEH ABOVE ISOLATED FORM;XFINAL FORM;IGOAL ISOLATED FORM;NFINAL FORM",
    "NINITIAL FORM;NMEDIAL FORM;IDOACHASHMEE ISOLATED FORM;UFINAL FORM;UINITIAL FORM;UMEDIAL FORM",
    "EYEH BARREE ISOLATED FORM;PFINAL FORM;PWITH HAMZA ABOVE ISOLATED FORM;gFINAL FORM",
    "7SYMBOL DOT ABOVE;IBELOW;ETWO DOTS ABOVE;NBELOW;FHREE DOTS ABOVE;PBELOW",
    "PPOINTING DOWNWARDS ABOVE;iBELOW;EFOUR DOTS ABOVE;OBELOW;EDOUBLE VERTICAL BAR BELOW",
    "ETWO DOTS VERTICALLY ABOVE;YBELOW;ERING;ESMALL TAH ABOVE;OBELOW;EWASLA ABOVE",
    "FBD3=7LETTER NG ISOLATED FORM;HFINAL FORM;HINITIAL FORM;HMEDIAL FORM;EU ISOLATED FORM",
    "GFINAL FORM;EOE ISOLATED FORM;HFINAL FORM;EYU ISOLATED FORM;HFINAL FORM",
    "EU WITH HAMZA ABOVE ISOLATED FORM;EVE ISOLATED FORM;HFINAL FORM;EKIRGHIZ OE ISOLATED FORM",
    "PFINAL FORM;MYU ISOLATED FORM;PFINAL FORM;EE ISOLATED FORM;GFINAL FORM;GINITIAL FORM",
    "GMEDIAL FORM;EUIGHUR KAZAKH KIRGHIZ ALEF MAKSURA INITIAL FORM;nMEDIAL FORM",
    "8IGATURE YEH WITH HAMZA ABOVE WITH ALEF ISOLATED FORM;lFINAL FORM;hE ISOLATED FORM",
    "jFINAL FORM;gWAW ISOLATED FORM;kFINAL FORM;gU ISOLATED FORM;iFINAL FORM;gOE ISOLATED FORM",
    "jFINAL FORM;gYU ISOLATED FORM;jFINAL FORM;gE ISOLATED FORM;iFINAL FORM;iINITIAL FORM",
    "GUIGHUR KIRGHIZ YEH WITH HAMZA ABOVE WITH ALEF MAKSURA ISOLATED FORM;z MAKSURA FINAL FORM",
    "z MAKSURA INITIAL FORM;8ETTER FARSI YEH ISOLATED FORM;OFINAL FORM;OINITIAL FORM;OMEDIAL FORM",
    "8IGATURE YEH WITH HAMZA ABOVE WITH JEEM ISOLATED FORM;gHAH ISOLATED FORM;gMEEM ISOLATED FORM",
    "gALEF MAKSURA ISOLATED FORM;gYEH ISOLATED FORM;GBEH WITH JEEM ISOLATED FORM",
    "PHAH ISOLATED FORM;PKHAH ISOLATED FORM;PMEEM ISOLATED FORM;PALEF MAKSURA ISOLATED FORM",
    "PYEH ISOLATED FORM;GTEH WITH JEEM ISOLATED FORM;PHAH ISOLATED FORM;PKHAH ISOLATED FORM",
    "PMEEM ISOLATED FORM;PALEF MAKSURA ISOLATED FORM;PYEH ISOLATED FORM",
    "HHEH WITH JEEM ISOLATED FORM;QMEEM ISOLATED FORM;QALEF MAKSURA ISOLATED FORM",
    "QYEH ISOLATED FORM;GJEEM WITH HAH ISOLATED FORM;QMEEM ISOLATED FORM",
    "GHAH WITH JEEM ISOLATED FORM;PMEEM ISOLATED FORM;GKHAH WITH JEEM ISOLATED FORM",
    "QHAH ISOLATED FORM;QMEEM ISOLATED FORM;GSEEN WITH JEEM ISOLATED FORM;QHAH ISOLATED FORM",
    "QKHAH ISOLATED FORM;QMEEM ISOLATED FORM;HAD WITH HAH ISOLATED FORM;PMEEM ISOLATED FORM",
    "GDAD WITH JEEM ISOLATED FORM;PHAH ISOLATED FORM;PKHAH ISOLATED FORM;PMEEM ISOLATED FORM",
    "GTAH WITH HAH ISOLATED FORM;PMEEM ISOLATED FORM;GZAH WITH MEEM ISOLATED FORM",
    "GAIN WITH JEEM ISOLATED FORM;PMEEM ISOLATED FORM;GGHAIN WITH JEEM ISOLATED FORM",
    "RMEEM ISOLATED FORM;GFEH WITH JEEM ISOLATED FORM;PHAH ISOLATED FORM;PKHAH ISOLATED FORM",
    "PMEEM ISOLATED FORM;PALEF MAKSURA ISOLATED FORM;PYEH ISOLATED FORM",
    "GQAF WITH HAH ISOLATED FORM;PMEEM ISOLATED FORM;PALEF MAKSURA ISOLATED FORM",
    "PYEH ISOLATED FORM;GKAF WITH ALEF ISOLATED FORM;PJEEM ISOLATED FORM;PHAH ISOLATED FORM",
    "PKHAH ISOLATED FORM;PLAM ISOLATED FORM;PMEEM ISOLATED FORM;PALEF MAKSURA ISOLATED FORM",
    "PYEH ISOLATED FORM;GLAM WITH JEEM ISOLATED FORM;PHAH ISOLATED FORM;PKHAH ISOLATED FORM",
    "PMEEM ISOLATED FORM;PALEF MAKSURA ISOLATED FORM;PYEH ISOLATED FORM",
    "GMEEM WITH JEEM ISOLATED FORM;QHAH ISOLATED FORM;QKHAH ISOLATED FORM;QMEEM ISOLATED FORM",
    "QALEF MAKSURA ISOLATED FORM;QYEH ISOLATED FORM;GNOON WITH JEEM ISOLATED FORM",
    "QHAH ISOLATED FORM;QKHAH ISOLATED FORM;QMEEM ISOLATED FORM;QALEF MAKSURA ISOLATED FORM",
    "QYEH ISOLATED FORM;GHEH WITH JEEM ISOLATED FORM;PMEEM ISOLATED FORM",
    "PALEF MAKSURA ISOLATED FORM;PYEH ISOLATED FORM;GYEH WITH JEEM ISOLATED FORM",
    "PHAH ISOLATED FORM;PKHAH ISOLATED FORM;PMEEM ISOLATED FORM;PALEF MAKSURA ISOLATED FORM",
    "PYEH ISOLATED FORM;GTHAL WITH SUPERSCRIPT ALEF ISOLATED FORM",
    "GREH WITH SUPERSCRIPT ALEF ISOLATED FORM;GALEF MAKSURA WITH SUPERSCRIPT ALEF ISOLATED FORM",
    "GSHADDA WITH DAMMATAN ISOLATED FORM;SKASRATAN ISOLATED FORM;SFATHA ISOLATED FORM",
    "SDAMMA ISOLATED FORM;SKASRA ISOLATED FORM;SSUPERSCRIPT ALEF ISOLATED FORM",
    "GYEH WITH HAMZA ABOVE WITH REH FINAL FORM;gZAIN FINAL FORM;gMEEM FINAL FORM;gNOON FINAL FORM",
    "gALEF MAKSURA FINAL FORM;gYEH FINAL FORM;GBEH WITH REH FINAL FORM;PZAIN FINAL FORM",
    "PMEEM FINAL FORM;PNOON FINAL FORM;PALEF MAKSURA FINAL FORM;PYEH FINAL FORM",
    "GTEH WITH REH FINAL FORM;PZAIN FINAL FORM;PMEEM FINAL FORM;PNOON FINAL FORM",
    "PALEF MAKSURA FINAL FORM;PYEH FINAL FORM;HHEH WITH REH FINAL FORM;QZAIN FINAL FORM",
    "QMEEM FINAL FORM;QNOON FINAL FORM;QALEF MAKSURA FINAL FORM;QYEH FINAL FORM",
    "GFEH WITH ALEF MAKSURA FINAL FORM;PYEH FINAL FORM;GQAF WITH ALEF MAKSURA FINAL FORM",
    "PYEH FINAL FORM;GKAF WITH ALEF FINAL FORM;PLAM FINAL FORM;PMEEM FINAL FORM",
    "PALEF MAKSURA FINAL FORM;PYEH FINAL FORM;GLAM WITH MEEM FINAL FORM;PALEF MAKSURA FINAL FORM",
    "PYEH FINAL FORM;GMEEM WITH ALEF FINAL FORM;QMEEM FINAL FORM;GNOON WITH REH FINAL FORM",
    "QZAIN FINAL FORM;QMEEM FINAL FORM;QNOON FINAL FORM;QALEF MAKSURA FINAL FORM;QYEH FINAL FORM",
    "GALEF MAKSURA WITH SUPERSCRIPT ALEF FINAL FORM;GYEH WITH REH FINAL FORM;PZAIN FINAL FORM",
    "PMEEM FINAL FORM;PNOON FINAL FORM;PALEF MAKSURA FINAL FORM;PYEH FINAL FORM",
    "PHAMZA ABOVE WITH JEEM INITIAL FORM;gHAH INITIAL FORM;gKHAH INITIAL FORM;gMEEM INITIAL FORM",
    "gHEH INITIAL FORM;GBEH WITH JEEM INITIAL FORM;PHAH INITIAL FORM;PKHAH INITIAL FORM",
    "PMEEM INITIAL FORM;PHEH INITIAL FORM;GTEH WITH JEEM INITIAL FORM;PHAH INITIAL FORM",
    "PKHAH INITIAL FORM;PMEEM INITIAL FORM;PHEH INITIAL FORM;HHEH WITH MEEM INITIAL FORM",
    "GJEEM WITH HAH INITIAL FORM;QMEEM INITIAL FORM;GHAH WITH JEEM INITIAL FORM",
    "PMEEM INITIAL FORM;GKHAH WITH JEEM INITIAL FORM;QMEEM INITIAL FORM",
    "GSEEN WITH JEEM INITIAL FORM;QHAH INITIAL FORM;QKHAH INITIAL FORM;QMEEM INITIAL FORM",
    "HAD WITH HAH INITIAL FORM;PKHAH INITIAL FORM;PMEEM INITIAL FORM;GDAD WITH JEEM INITIAL FORM",
    "PHAH INITIAL FORM;PKHAH INITIAL FORM;PMEEM INITIAL FORM;GTAH WITH HAH INITIAL FORM",
    "GZAH WITH MEEM INITIAL FORM;GAIN WITH JEEM INITIAL FORM;PMEEM INITIAL FORM",
    "GGHAIN WITH JEEM INITIAL FORM;RMEEM INITIAL FORM;GFEH WITH JEEM INITIAL FORM",
    "PHAH INITIAL FORM;PKHAH INITIAL FORM;PMEEM INITIAL FORM;GQAF WITH HAH INITIAL FORM",
    "PMEEM INITIAL FORM;GKAF WITH JEEM INITIAL FORM;PHAH INITIAL FORM;PKHAH INITIAL FORM",
    "PLAM INITIAL FORM;PMEEM INITIAL FORM;GLAM WITH JEEM INITIAL FORM;PHAH INITIAL FORM",
    "PKHAH INITIAL FORM;PMEEM INITIAL FORM;PHEH INITIAL FORM;GMEEM WITH JEEM INITIAL FORM",
    "QHAH INITIAL FORM;QKHAH INITIAL FORM;QMEEM INITIAL FORM;GNOON WITH JEEM INITIAL FORM",
    "QHAH INITIAL FORM;QKHAH INITIAL FORM;QMEEM INITIAL FORM;QHEH INITIAL FORM",
    "GHEH WITH JEEM INITIAL FORM;PMEEM INITIAL FORM;PSUPERSCRIPT ALEF INITIAL FORM",
    "GYEH WITH JEEM INITIAL FORM;PHAH INITIAL FORM;PKHAH INITIAL FORM;PMEEM INITIAL FORM",
    "PHEH INITIAL FORM;QAMZA ABOVE WITH MEEM MEDIAL FORM;gHEH MEDIAL FORM",
    "GBEH WITH MEEM MEDIAL FORM;PHEH MEDIAL FORM;GTEH WITH MEEM MEDIAL FORM;PHEH MEDIAL FORM",
    "HHEH WITH MEEM MEDIAL FORM;QHEH MEDIAL FORM;GSEEN WITH MEEM MEDIAL FORM;QHEH MEDIAL FORM",
    "HHEEN WITH MEEM MEDIAL FORM;RHEH MEDIAL FORM;GKAF WITH LAM MEDIAL FORM;PMEEM MEDIAL FORM",
    "GLAM WITH MEEM MEDIAL FORM;GNOON WITH MEEM MEDIAL FORM;QHEH MEDIAL FORM",
    "GYEH WITH MEEM MEDIAL FORM;PHEH MEDIAL FORM;GSHADDA WITH FATHA MEDIAL FORM",
    "SDAMMA MEDIAL FORM;SKASRA MEDIAL FORM;GTAH WITH ALEF MAKSURA ISOLATED FORM",
    "PYEH ISOLATED FORM;GAIN WITH ALEF MAKSURA ISOLATED FORM;PYEH ISOLATED FORM",
    "GGHAIN WITH ALEF MAKSURA ISOLATED FORM;RYEH ISOLATED FORM",
    "GSEEN WITH ALEF MAKSURA ISOLATED FORM;QYEH ISOLATED FORM",
    "HHEEN WITH ALEF MAKSURA ISOLATED FORM;RYEH ISOLATED FORM",
    "GHAH WITH ALEF MAKSURA ISOLATED FORM;PYEH ISOLATED FORM",
    "GJEEM WITH ALEF MAKSURA ISOLATED FORM;QYEH ISOLATED FORM",
    "GKHAH WITH ALEF MAKSURA ISOLATED FORM;QYEH ISOLATED FORM",
    "GSAD WITH ALEF MAKSURA ISOLATED FORM;PYEH ISOLATED FORM;GDAD WITH ALEF MAKSURA ISOLATED FORM",
    "PYEH ISOLATED FORM;GSHEEN WITH JEEM ISOLATED FORM;RHAH ISOLATED FORM;RKHAH ISOLATED FORM",
    "RMEEM ISOLATED FORM;RREH ISOLATED FORM;HEEN WITH REH ISOLATED FORM",
    "HAD WITH REH ISOLATED FORM;GDAD WITH REH ISOLATED FORM;GTAH WITH ALEF MAKSURA FINAL FORM",
    "PYEH FINAL FORM;GAIN WITH ALEF MAKSURA FINAL FORM;PYEH FINAL FORM",
    "GGHAIN WITH ALEF MAKSURA FINAL FORM;RYEH FINAL FORM;GSEEN WITH ALEF MAKSURA FINAL FORM",
    "QYEH FINAL FORM;HHEEN WITH ALEF MAKSURA FINAL FORM;RYEH FINAL FORM",
    "GHAH WITH ALEF MAKSURA FINAL FORM;PYEH FINAL FORM;GJEEM WITH ALEF MAKSURA FINAL FORM",
    "QYEH FINAL FORM;GKHAH WITH ALEF MAKSURA FINAL FORM;QYEH FINAL FORM",
    "GSAD WITH ALEF MAKSURA FINAL FORM;PYEH FINAL FORM;GDAD WITH ALEF MAKSURA FINAL FORM",
    "PYEH FINAL FORM;GSHEEN WITH JEEM FINAL FORM;RHAH FINAL FORM;RKHAH FINAL FORM",
    "RMEEM FINAL FORM;RREH FINAL FORM;HEEN WITH REH FINAL FORM;HAD WITH REH FINAL FORM",
    "GDAD WITH REH FINAL FORM;GSHEEN WITH JEEM INITIAL FORM;RHAH INITIAL FORM;RKHAH INITIAL FORM",
    "RMEEM INITIAL FORM;HEEN WITH HEH INITIAL FORM;HHEEN WITH HEH INITIAL FORM",
    "GTAH WITH MEEM INITIAL FORM;GSEEN WITH JEEM MEDIAL FORM;QHAH MEDIAL FORM;QKHAH MEDIAL FORM",
    "HHEEN WITH JEEM MEDIAL FORM;RHAH MEDIAL FORM;RKHAH MEDIAL FORM;GTAH WITH MEEM MEDIAL FORM",
    "GZAH WITH MEEM MEDIAL FORM;GALEF WITH FATHATAN FINAL FORM;ZISOLATED FORM",
    "0ORNATE LEFT PARENTHESIS;7RIGHT PARENTHESIS;0ARABIC LIGATURE RAHIMAHU ALLAAH;IDI ALLAAHU ANH",
    "WAA;WUM;YAA;XNNA;GSALLALLAAHU ALAYHI WA-AALIH;GALAYHI AS-SALAAM;MM AS-SALAAM;NAA AS-SALAAM",
    "M AS-SALAATU WAS-SALAAM;GQUDDISA SIRRAH;GSALLALLAHU ALAYHI WAAALIHEE WA-SALLAM",
    "GALAYHAA AS-SALAAM;GTABAARAKA WA-TAAALAA;GRAHIMAHUM ALLAAH",
    "GTEH WITH JEEM WITH MEEM INITIAL FORM;PHAH WITH JEEM FINAL FORM;dINITIAL FORM",
    "YMEEM INITIAL FORM;PKHAH WITH MEEM INITIAL FORM;PMEEM WITH JEEM INITIAL FORM",
    "ZHAH INITIAL FORM;ZKHAH INITIAL FORM;GJEEM WITH MEEM WITH HAH FINAL FORM;eINITIAL FORM",
    "GHAH WITH MEEM WITH YEH FINAL FORM;ZALEF MAKSURA FINAL FORM",
    "GSEEN WITH HAH WITH JEEM INITIAL FORM;QJEEM WITH HAH INITIAL FORM;aALEF MAKSURA FINAL FORM",
    "QMEEM WITH HAH FINAL FORM;eINITIAL FORM;aJEEM INITIAL FORM;aMEEM FINAL FORM;fINITIAL FORM",
    "HAD WITH HAH WITH HAH FINAL FORM;cINITIAL FORM;PMEEM WITH MEEM FINAL FORM",
    "HHEEN WITH HAH WITH MEEM FINAL FORM;fINITIAL FORM;RJEEM WITH YEH FINAL FORM",
    "RMEEM WITH KHAH FINAL FORM;gINITIAL FORM;bMEEM FINAL FORM;gINITIAL FORM",
    "GDAD WITH HAH WITH ALEF MAKSURA FINAL FORM;PKHAH WITH MEEM FINAL FORM;eINITIAL FORM",
    "GTAH WITH MEEM WITH HAH FINAL FORM;dINITIAL FORM;ZMEEM INITIAL FORM;ZYEH FINAL FORM",
    "GAIN WITH JEEM WITH MEEM FINAL FORM;PMEEM WITH MEEM FINAL FORM;eINITIAL FORM",
    "ZALEF MAKSURA FINAL FORM;GGHAIN WITH MEEM WITH MEEM FINAL FORM;bYEH FINAL FORM",
    "bALEF MAKSURA FINAL FORM;GFEH WITH KHAH WITH MEEM FINAL FORM;eINITIAL FORM",
    "GQAF WITH MEEM WITH HAH FINAL FORM;ZMEEM FINAL FORM;GLAM WITH HAH WITH MEEM FINAL FORM",
    "YYEH FINAL FORM;YALEF MAKSURA FINAL FORM;PJEEM WITH JEEM INITIAL FORM;eFINAL FORM",
    "PKHAH WITH MEEM FINAL FORM;eINITIAL FORM;PMEEM WITH HAH FINAL FORM;dINITIAL FORM",
    "GMEEM WITH HAH WITH JEEM INITIAL FORM;ZMEEM INITIAL FORM;ZYEH FINAL FORM",
    "QJEEM WITH HAH INITIAL FORM;aMEEM INITIAL FORM;QKHAH WITH JEEM INITIAL FORM",
    "aMEEM INITIAL FORM;FD92=QJEEM WITH KHAH INITIAL FORM;GHEH WITH MEEM WITH JEEM INITIAL FORM",
    "ZMEEM INITIAL FORM;GNOON WITH HAH WITH MEEM INITIAL FORM;ZALEF MAKSURA FINAL FORM",
    "QJEEM WITH MEEM FINAL FORM;fINITIAL FORM;aALEF MAKSURA FINAL FORM;QMEEM WITH YEH FINAL FORM",
    "aALEF MAKSURA FINAL FORM;GYEH WITH MEEM WITH MEEM FINAL FORM;eINITIAL FORM",
    "GBEH WITH KHAH WITH YEH FINAL FORM;GTEH WITH JEEM WITH YEH FINAL FORM",
    "ZALEF MAKSURA FINAL FORM;PKHAH WITH YEH FINAL FORM;ZALEF MAKSURA FINAL FORM",
    "PMEEM WITH YEH FINAL FORM;ZALEF MAKSURA FINAL FORM;GJEEM WITH MEEM WITH YEH FINAL FORM",
    "QHAH WITH ALEF MAKSURA FINAL FORM;QMEEM WITH ALEF MAKSURA FINAL FORM",
    "GSEEN WITH KHAH WITH ALEF MAKSURA FINAL FORM;HAD WITH HAH WITH YEH FINAL FORM",
    "HHEEN WITH HAH WITH YEH FINAL FORM;GDAD WITH HAH WITH YEH FINAL FORM",
    "GLAM WITH JEEM WITH YEH FINAL FORM;PMEEM WITH YEH FINAL FORM",
    "GYEH WITH HAH WITH YEH FINAL FORM;PJEEM WITH YEH FINAL FORM;PMEEM WITH YEH FINAL FORM",
    "GMEEM WITH MEEM WITH YEH FINAL FORM;GQAF WITH MEEM WITH YEH FINAL FORM",
    "GNOON WITH HAH WITH YEH FINAL FORM;GQAF WITH MEEM WITH HAH INITIAL FORM",
    "GLAM WITH HAH WITH MEEM INITIAL FORM;GAIN WITH MEEM WITH YEH FINAL FORM",
    "GKAF WITH MEEM WITH YEH FINAL FORM;GNOON WITH JEEM WITH HAH INITIAL FORM",
    "GMEEM WITH KHAH WITH YEH FINAL FORM;GLAM WITH JEEM WITH MEEM INITIAL FORM",
    "GKAF WITH MEEM WITH MEEM FINAL FORM;GLAM WITH JEEM WITH MEEM FINAL FORM",
    "GNOON WITH JEEM WITH HAH FINAL FORM;GJEEM WITH HAH WITH YEH FINAL FORM",
    "GHAH WITH JEEM WITH YEH FINAL FORM;GMEEM WITH JEEM WITH YEH FINAL FORM",
    "GFEH WITH MEEM WITH YEH FINAL FORM;GBEH WITH HAH WITH YEH FINAL FORM",
    "GKAF WITH MEEM WITH MEEM INITIAL FORM;GAIN WITH JEEM WITH MEEM INITIAL FORM",
    "GSAD WITH MEEM WITH MEEM INITIAL FORM;HEEN WITH KHAH WITH YEH FINAL FORM",
    "GNOON WITH JEEM WITH YEH FINAL FORM;FDCF=GSALAAMUHU ALAYNAA",
    "FDF0=JLA USED AS KORANIC STOP SIGN ISOLATED FORM",
    "GQALA USED AS KORANIC STOP SIGN ISOLATED FORM;GALLAH ISOLATED FORM;HKBAR ISOLATED FORM",
    "GMOHAMMAD ISOLATED FORM;GSALAM ISOLATED FORM;GRASOUL ISOLATED FORM;GALAYHE ISOLATED FORM",
    "GWASALLAM ISOLATED FORM;GSALLA ISOLATED FORM;LLLAHOU ALAYHE WASALLAM;GJALLAJALALOUHOU",
    "0RIAL SIGN;0ARABIC LIGATURE BISMILLAH AR-RAHMAN AR-RAHEEM;GSUBHAANAHU WA TAAALAA",
    "GAZZA WA JALL;0VARIATION SELECTOR-1;J2;J3;J4;J5;J6;J7;J8;J9;J10;K1;K2;K3;K4;K5;K6",
    "0PRESENTATION FORM FOR VERTICAL COMMA;VIDEOGRAPHIC COMMA;hFULL STOP;VCOLON;VSEMICOLON",
    "VEXCLAMATION MARK;VQUESTION MARK;VLEFT WHITE LENTICULAR BRACKET",
    "VRIGHT WHITE LENTICULAR BRAKCET;VHORIZONTAL ELLIPSIS;FE20=0COMBINING LIGATURE LEFT HALF",
    "JRIGHT HALF;ADOUBLE TILDE LEFT HALF;NRIGHT HALF;AMACRON LEFT HALF;HRIGHT HALF",
    "ACONJOINING MACRON;ALIGATURE LEFT HALF BELOW;JRIGHT HALF BELOW;ATILDE LEFT HALF BELOW",
    "GRIGHT HALF BELOW;AMACRON LEFT HALF BELOW;HRIGHT HALF BELOW;ACONJOINING MACRON BELOW",
    "BYRILLIC TITLO LEFT HALF;PRIGHT HALF;0PRESENTATION FORM FOR VERTICAL TWO DOT LEADER;VEM DASH",
    "WN DASH;VLOW LINE;VWAVY LOW LINE;VLEFT PARENTHESIS;VRIGHT PARENTHESIS;VLEFT CURLY BRACKET",
    "VRIGHT CURLY BRACKET;VLEFT TORTOISE SHELL BRACKET;VRIGHT TORTOISE SHELL BRACKET",
    "VLEFT BLACK LENTICULAR BRACKET;VRIGHT BLACK LENTICULAR BRACKET;VLEFT DOUBLE ANGLE BRACKET",
    "VRIGHT DOUBLE ANGLE BRACKET;VLEFT ANGLE BRACKET;VRIGHT ANGLE BRACKET;VLEFT CORNER BRACKET",
    "VRIGHT CORNER BRACKET;VLEFT WHITE CORNER BRACKET;VRIGHT WHITE CORNER BRACKET;0SESAME DOT",
    "0WHITE SESAME DOT;0PRESENTATION FORM FOR VERTICAL LEFT SQUARE BRACKET;VRIGHT SQUARE BRACKET",
    "0DASHED OVERLINE;0CENTRELINE OVERLINE;0WAVY OVERLINE;0DOUBLE WAVY OVERLINE;1ASHED LOW LINE",
    "0CENTRELINE LOW LINE;0WAVY LOW LINE;0SMALL COMMA;6IDEOGRAPHIC COMMA;6FULL STOP",
    "FE54=6SEMICOLON;6COLON;6QUESTION MARK;6EXCLAMATION MARK;7M DASH;6LEFT PARENTHESIS",
    "6RIGHT PARENTHESIS;6LEFT CURLY BRACKET;6RIGHT CURLY BRACKET;6LEFT TORTOISE SHELL BRACKET",
    "6RIGHT TORTOISE SHELL BRACKET;6NUMBER SIGN;6AMPERSAND;7STERISK;6PLUS SIGN;6HYPHEN-MINUS",
    "6LESS-THAN SIGN;6GREATER-THAN SIGN;6EQUALS SIGN;FE68=6REVERSE SOLIDUS;6DOLLAR SIGN",
    "6PERCENT SIGN;6COMMERCIAL AT;FE70=0ARABIC FATHATAN ISOLATED FORM",
    "7TATWEEL WITH FATHATAN ABOVE;7DAMMATAN ISOLATED FORM;7TAIL FRAGMENT;7KASRATAN ISOLATED FORM",
    "FE76=7FATHA ISOLATED FORM;DMEDIAL FORM;7DAMMA ISOLATED FORM;DMEDIAL FORM",
    "7KASRA ISOLATED FORM;DMEDIAL FORM;7SHADDA ISOLATED FORM;EMEDIAL FORM;8UKUN ISOLATED FORM",
    "DMEDIAL FORM;7LETTER HAMZA ISOLATED FORM;EALEF WITH MADDA ABOVE ISOLATED FORM;aFINAL FORM",
    "OHAMZA ABOVE ISOLATED FORM;aFINAL FORM;EWAW WITH HAMZA ABOVE ISOLATED FORM;ZFINAL FORM",
    "EALEF WITH HAMZA BELOW ISOLATED FORM;aFINAL FORM;EYEH WITH HAMZA ABOVE ISOLATED FORM",
    "ZFINAL FORM;ZINITIAL FORM;ZMEDIAL FORM;EALEF ISOLATED FORM;JFINAL FORM;EBEH ISOLATED FORM",
    "IFINAL FORM;IINITIAL FORM;IMEDIAL FORM;ETEH MARBUTA ISOLATED FORM;QFINAL FORM;IISOLATED FORM",
    "IFINAL FORM;IINITIAL FORM;IMEDIAL FORM;FHEH ISOLATED FORM;JFINAL FORM;JINITIAL FORM",
    "JMEDIAL FORM;EJEEM ISOLATED FORM;JFINAL FORM;JINITIAL FORM;JMEDIAL FORM;EHAH ISOLATED FORM",
    "IFINAL FORM;IINITIAL FORM;IMEDIAL FORM;EKHAH ISOLATED FORM;JFINAL FORM;JINITIAL FORM",
    "JMEDIAL FORM;EDAL ISOLATED FORM;IFINAL FORM;ETHAL ISOLATED FORM;JFINAL FORM",
    "EREH ISOLATED FORM;IFINAL FORM;EZAIN ISOLATED FORM;JFINAL FORM;ESEEN ISOLATED FORM",
    "JFINAL FORM;JINITIAL FORM;JMEDIAL FORM;FHEEN ISOLATED FORM;KFINAL FORM;KINITIAL FORM",
    "KMEDIAL FORM;FAD ISOLATED FORM;IFINAL FORM;IINITIAL FORM;IMEDIAL FORM;EDAD ISOLATED FORM",
    "IFINAL FORM;IINITIAL FORM;IMEDIAL FORM;ETAH ISOLATED FORM;IFINAL FORM;IINITIAL FORM",
    "IMEDIAL FORM;EZAH ISOLATED FORM;IFINAL FORM;IINITIAL FORM;IMEDIAL FORM;EAIN ISOLATED FORM",
    "IFINAL FORM;IINITIAL FORM;IMEDIAL FORM;EGHAIN ISOLATED FORM;KFINAL FORM;KINITIAL FORM",
    "KMEDIAL FORM;EFEH ISOLATED FORM;IFINAL FORM;IINITIAL FORM;IMEDIAL FORM;EQAF ISOLATED FORM",
    "IFINAL FORM;IINITIAL FORM;IMEDIAL FORM;EKAF ISOLATED FORM;IFINAL FORM;IINITIAL FORM",
    "IMEDIAL FORM;ELAM ISOLATED FORM;IFINAL FORM;IINITIAL FORM;IMEDIAL FORM;EMEEM ISOLATED FORM",
    "JFINAL FORM;JINITIAL FORM;JMEDIAL FORM;ENOON ISOLATED FORM;JFINAL FORM;JINITIAL FORM",
    "JMEDIAL FORM;EHEH ISOLATED FORM;IFINAL FORM;IINITIAL FORM;IMEDIAL FORM;EWAW ISOLATED FORM",
    "IFINAL FORM;EALEF MAKSURA ISOLATED FORM;RFINAL FORM;EYEH ISOLATED FORM;IFINAL FORM",
    "IINITIAL FORM;IMEDIAL FORM;8IGATURE LAM WITH ALEF WITH MADDA ABOVE ISOLATED FORM;lFINAL FORM",
    "ZHAMZA ABOVE ISOLATED FORM;lFINAL FORM;fBELOW ISOLATED FORM;lFINAL FORM;UISOLATED FORM",
    "UFINAL FORM;FEFF=0ZERO WIDTH NO-BREAK SPACE;FF01=0FULLWIDTH EXCLAMATION MARK;AQUOTATION MARK",
    "ANUMBER SIGN;ADOLLAR SIGN;APERCENT SIGN;AAMPERSAND;BPOSTROPHE;ALEFT PARENTHESIS",
    "ARIGHT PARENTHESIS;AASTERISK;APLUS SIGN;ACOMMA;AHYPHEN-MINUS;AFULL STOP;ASOLIDUS;ADIGIT ZERO",
    "GONE;GTWO;HHREE;GFOUR;HIVE;GSIX;HEVEN;GEIGHT;GNINE;ACOLON;ASEMICOLON;ALESS-THAN SIGN",
    "AEQUALS SIGN;AGREATER-THAN SIGN;AQUESTION MARK;ACOMMERCIAL AT;ALATIN CAPITAL LETTER A;VB;VC",
    "VD;VE;VF;VG;VH;VI;VJ;VK;VL;VM;VN;VO;VP;VQ;VR;VS;VT;VU;VV;VW;VX;VY;VZ;BEFT SQUARE BRACKET",
    "AREVERSE SOLIDUS;BIGHT SQUARE BRACKET;ACIRCUMFLEX ACCENT;ALOW LINE;AGRAVE ACCENT",
    "ALATIN SMALL LETTER A;TB;TC;TD;TE;TF;TG;TH;TI;TJ;TK;TL;TM;TN;TO;TP;TQ;TR;TS;TT;TU;TV;TW;TX",
    "TY;TZ;BEFT CURLY BRACKET;AVERTICAL LINE;ARIGHT CURLY BRACKET;ATILDE;ALEFT WHITE PARENTHESIS",
    "ARIGHT WHITE PARENTHESIS;0HALFWIDTH IDEOGRAPHIC FULL STOP;ALEFT CORNER BRACKET",
    "ARIGHT CORNER BRACKET;AIDEOGRAPHIC COMMA;AKATAKANA MIDDLE DOT;JLETTER WO;QSMALL A;WI;WU;WE",
    "WO;WYA;XU;XO;WTU;I-HIRAGANA PROLONGED SOUND MARK;I LETTER A;QI;QU;QE;QO;QKA;RI;RU;RE;RO;QSA",
    "RI;RU;RE;RO;QTA;RI;RU;RE;RO;QNA;RI;RU;RE;RO;QHA;RI;RU;RE;RO;QMA;RI;RU;RE;RO;QYA;RU;RO;QRA;RI",
    "RU;RE;RO;QWA;QN;JVOICED SOUND MARK;JSEMI-VOICED SOUND MARK;AHANGUL FILLER;HLETTER KIYEOK",
    "OSSANGKIYEOK;OKIYEOK-SIOS;ONIEUN;T-CIEUC;UHIEUH;OTIKEUT;OSSANGTIKEUT;ORIEUL;T-KIYEOK;UMIEUM",
    "UPIEUP;USIOS;UTHIEUTH;UPHIEUPH;UHIEUH;OMIEUM;OPIEUP;OSSANGPIEUP;OPIEUP-SIOS;OSIOS;PSANGSIOS",
    "OIEUNG;OCIEUC;OSSANGCIEUC;OCHIEUCH;OKHIEUKH;OTHIEUTH;OPHIEUPH;OHIEUH;FFC2=OA;PE;OYA;QE;OEO;P",
    "FFCA=OYEO;Q;OO;OWA;QE;OOE;FFD2=OYO;OU;OWEO;Q;PI;OYU;FFDA=OEU;OYI;OI",
    "FFE0=0FULLWIDTH CENT SIGN;APOUND SIGN;ANOT SIGN;AMACRON;ABROKEN BAR;AYEN SIGN;AWON SIGN",
    "FFE8=0HALFWIDTH FORMS LIGHT VERTICAL;ALEFTWARDS ARROW;AUPWARDS ARROW;ARIGHTWARDS ARROW",
    "ADOWNWARDS ARROW;ABLACK SQUARE;AWHITE CIRCLE;FFF9=0INTERLINEAR ANNOTATION ANCHOR;NSEPARATOR",
    "NTERMINATOR;0OBJECT REPLACEMENT CHARACTER;0REPLACEMENT CHARACTER"]

end RecordDocs.Text
