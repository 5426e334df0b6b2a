/-!
# Names of characters: scripts of syllables and extensions of alphabets

The names of the characters from 1000 to 1FFF, as of Unicode 14, in the short form of name tables.
-/

namespace RecordDocs.Text

def syllabariesNames : List String :=
  ["1000=0MYANMAR LETTER KA;GHA;FGA;GHA;FNGA;FCA;GHA;FJA;GHA;FNYA;GNYA;FTTA;HHA;FDDA;HHA;FNNA",
    "FTA;GHA;FDA;GHA;FNA;FPA;GHA;FBA;GHA;FMA;FYA;FRA;FLA;FWA;FSA;FHA;FLLA;FA;FSHAN A;FI;GI;FU;GU",
    "FE;FMON E;FO;FAU;8VOWEL SIGN TALL AA;JAA;JI;KI;JU;KU;JE;JAI;JMON II;NO;JE ABOVE",
    "8SIGN ANUSVARA;DDOT BELOW;DVISARGA;FRAMA;DASAT;8CONSONANT SIGN MEDIAL YA;URA;UWA;UHA",
    "8LETTER GREAT SA;8DIGIT ZERO;EONE;ETWO;FHREE;EFOUR;FIVE;ESIX;FEVEN;EEIGHT;ENINE",
    "8SIGN LITTLE SECTION;DSECTION;9YMBOL LOCATIVE;FCOMPLETED;FAFOREMENTIONED;FGENITIVE",
    "8LETTER SHA;GSA;FVOCALIC R;OR;NL;OL;8VOWEL SIGN VOCALIC R;SR;RL;SL;8LETTER MON NGA;JJHA;JBBA",
    "LE;8CONSONANT SIGN MON MEDIAL NA;YMA;YLA;8LETTER SGAW KAREN SHA;8VOWEL SIGN SGAW KAREN EU",
    "8TONE MARK SGAW KAREN HATHI;TKE PHO;8LETTER WESTERN PWO KAREN THA;XPWA",
    "8VOWEL SIGN WESTERN PWO KAREN EU;bUE;8SIGN WESTERN PWO KAREN TONE-1;a2;a3;a4;a5",
    "8LETTER EASTERN PWO KAREN NNA;XYWA;XGHWA;8VOWEL SIGN GEBA KAREN I;JKAYAH OE;PU;PEE",
    "8LETTER SHAN KA;LHA;KGA;KCA;KZA;KNYA;KDA;KNA;KPHA;KFA;KBA;KTHA;KHA",
    "8CONSONANT SIGN SHAN MEDIAL WA;8VOWEL SIGN SHAN AA;OE;P ABOVE;OFINAL Y;8SIGN SHAN TONE-2;N3",
    "N5;N6;ICOUNCIL TONE-2;V3;QEMPHATIC TONE;8LETTER RUMAI PALAUNG FA;8SIGN RUMAI PALAUNG TONE-5",
    "9HAN DIGIT ZERO;JONE;JTWO;KHREE;JFOUR;KIVE;JSIX;KEVEN;JEIGHT;JNINE;9IGN KHAMTI TONE-1;P3",
    "8VOWEL SIGN AITON A;QI;8SYMBOL SHAN ONE;KEXCLAMATION;0GEORGIAN CAPITAL LETTER AN;OBAN;OGAN",
    "ODON;OEN;OVIN;OZEN;OTAN;OIN;OKAN;OLAS;OMAN;ONAR;OON;OPAR;OZHAR;ORAE;OSAN;OTAR;OUN;OPHAR",
    "OKHAR;OGHAN;OQAR;OSHIN;OCHIN;PAN;OJIL;OCIL;PHAR;OXAN;OJHAN;OHAE;PE;PIE;OWE;OHAR;POE;10C7=OYN",
    "10CD=OAEN;10D0=9LETTER AN;GBAN;GGAN;GDON;GEN;GVIN;GZEN;GTAN;GIN;GKAN;GLAS;GMAN;GNAR;GON;GPAR",
    "GZHAR;GRAE;GSAN;GTAR;GUN;GPHAR;GKHAR;GGHAN;GQAR;GSHIN;GCHIN;HAN;GJIL;GCIL;HHAR;GXAN;GJHAN",
    "GHAE;HE;HIE;GWE;GHAR;HOE;GFI;GYN;GELIFI;GTURNED GAN;GAIN;9PARAGRAPH SEPARATOR",
    "0MODIFIER LETTER GEORGIAN NAR;0GEORGIAN LETTER AEN;GHARD SIGN;GLABIAL SIGN",
    "0HANGUL CHOSEONG KIYEOK;GSSANGKIYEOK;GNIEUN;GTIKEUT;GSSANGTIKEUT;GRIEUL;GMIEUM;GPIEUP",
    "GSSANGPIEUP;HIOS;HSANGSIOS;GIEUNG;GCIEUC;GSSANGCIEUC;GCHIEUCH;GKHIEUKH;GTHIEUTH;GPHIEUPH",
    "GHIEUH;GNIEUN-KIYEOK;GSSANGNIEUN;GNIEUN-TIKEUT;MPIEUP;GTIKEUT-KIYEOK;GRIEUL-NIEUN",
    "GSSANGRIEUL;GRIEUL-HIEUH;GKAPYEOUNRIEUL;GMIEUM-PIEUP;GKAPYEOUNMIEUM;GPIEUP-KIYEOK;MNIEUN",
    "MTIKEUT;MSIOS;Q-KIYEOK;RTIKEUT;RPIEUP;NSANGSIOS;NIOS-CIEUC;MCIEUC;NHIEUCH;MTHIEUTH;MPHIEUPH",
    "GKAPYEOUNPIEUP;OSSANGPIEUP;GSIOS-KIYEOK;LNIEUN;LTIKEUT;LRIEUL;LMIEUM;LPIEUP;Q-KIYEOK",
    "LSSANGSIOS;LIEUNG;LCIEUC;MHIEUCH;LKHIEUKH;LTHIEUTH;LPHIEUPH;LHIEUH;GCHITUEUMSIOS;PSANGSIOS",
    "HEONGCHIEUMSIOS;SSANGSIOS;GPANSIOS;GIEUNG-KIYEOK;MTIKEUT;MMIEUM;MPIEUP;MSIOS;MPANSIOS",
    "GSSANGIEUNG;GIEUNG-CIEUC;NHIEUCH;MTHIEUTH;MPHIEUPH;GYESIEUNG;GCIEUC-IEUNG;HHITUEUMCIEUC",
    "OSSANGCIEUC;HEONGCHIEUMCIEUC;RSSANGCIEUC;HHIEUCH-KHIEUKH;OHIEUH;JTUEUMCHIEUCH",
    "HEONGCHIEUMCHIEUCH;GPHIEUPH-PIEUP;GKAPYEOUNPHIEUPH;GSSANGHIEUH;GYEORINHIEUH;GKIYEOK-TIKEUT",
    "GNIEUN-SIOS;MCIEUC;MHIEUH;GTIKEUT-RIEUL;GFILLER;7JUNGSEONG FILLER;HA;IE;HYA;JE;HEO;I;HYEO;J",
    "HO;HWA;JE;HOE;HYO;HU;HWEO;J;II;HYU;HEU;HYI;HI;HA-O;JU;HYA-O;KYO;HEO-O;KU;KEU;HYEO-O;LU;HO-EO",
    "K;JYE;JO;JU;HYO-YA;ME;LEO;KO;KI;HU-A;KE;JEO-EU;JYE;JU;HYU-A;KEO;L;KYEO;M;KU;KI;HEU-U;KEU",
    "HYI-U;HI-A;JYA;JO;JU;JEU;JARAEA;HARAEA;M-EO;NU;NI;HSSANGARAEA;HA-EU;HYA-U;IEO-YA;HO-YA;LE",
    "8ONGSEONG KIYEOK;HSSANGKIYEOK;HKIYEOK-SIOS;HNIEUN;M-CIEUC;NHIEUH;HTIKEUT;HRIEUL;M-KIYEOK",
    "NMIEUM;NPIEUP;NSIOS;NTHIEUTH;NPHIEUPH;NHIEUH;HMIEUM;HPIEUP;M-SIOS;HSIOS;ISANGSIOS;HIEUNG",
    "HCIEUC;IHIEUCH;HKHIEUKH;HTHIEUTH;HPHIEUPH;HHIEUH;HKIYEOK-RIEUL;OSIOS-KIYEOK;HNIEUN-KIYEOK",
    "NTIKEUT;NSIOS;NPANSIOS;NTHIEUTH;HTIKEUT-KIYEOK;ORIEUL;HRIEUL-KIYEOK-SIOS;NNIEUN;NTIKEUT",
    "T-HIEUH;HSSANGRIEUL;HRIEUL-MIEUM-KIYEOK;TSIOS;NPIEUP-SIOS;THIEUH;NKAPYEOUNPIEUP;NSSANGSIOS",
    "NPANSIOS;NKHIEUKH;NYEORINHIEUH;HMIEUM-KIYEOK;NRIEUL;NPIEUP;NSIOS;OSANGSIOS;NPANSIOS;NCHIEUCH",
    "NHIEUH;HKAPYEOUNMIEUM;HPIEUP-RIEUL;NPHIEUPH;NHIEUH;HKAPYEOUNPIEUP;HSIOS-KIYEOK;MTIKEUT",
    "MRIEUL;MPIEUP;HPANSIOS;HIEUNG-KIYEOK;NSSANGKIYEOK;HSSANGIEUNG;HIEUNG-KHIEUKH;HYESIEUNG",
    "P-SIOS;QPANSIOS;HPHIEUPH-PIEUP;HKAPYEOUNPHIEUPH;HHIEUH-NIEUN;NRIEUL;NMIEUM;NPIEUP",
    "HYEORINHIEUH;HKIYEOK-NIEUN;OPIEUP;OCHIEUCH;OKHIEUKH;OHIEUH;HSSANGNIEUN;0ETHIOPIC SYLLABLE HA",
    "JU;JI;JAA;JEE;K;JO;KA;ILA;JU;JI;JAA;JEE;K;JO;JWA;IHHA;KU;KI;KAA;KEE;L;KO;KWA;IMA;JU;JI;JAA",
    "JEE;K;JO;JWA;ISZA;KU;KI;KAA;KEE;L;KO;KWA;IRA;JU;JI;JAA;JEE;K;JO;JWA;ISA;JU;JI;JAA;JEE;K;JO",
    "JWA;JHA;KU;KI;KAA;KEE;L;KO;KWA;IQA;JU;JI;JAA;JEE;K;JO;KA;JWA;124A=KI;KAA;KEE;L;1250=JHA;KU",
    "KI;KAA;KEE;L;KO;1258=KWA;125A=LI;LAA;LEE;M;1260=IBA;JU;JI;JAA;JEE;K;JO;JWA;IVA;JU;JI;JAA;JEE",
    "K;JO;JWA;ITA;JU;JI;JAA;JEE;K;JO;JWA;ICA;JU;JI;JAA;JEE;K;JO;JWA;IXA;JU;JI;JAA;JEE;K;JO;KA;JWA",
    "128A=KI;KAA;KEE;L;1290=INA;JU;JI;JAA;JEE;K;JO;JWA;JYA;KU;KI;KAA;KEE;L;KO;KWA;IGLOTTAL A;QU",
    "QI;QAA;QEE;R;QO;QWA;IKA;JU;JI;JAA;JEE;K;JO;KA;JWA;12B2=KI;KAA;KEE;L;12B8=JXA;KU;KI;KAA;KEE;L",
    "KO;12C0=KWA;12C2=LI;LAA;LEE;M;12C8=IWA;JU;JI;JAA;JEE;K;JO;KA;IPHARYNGEAL A;TU;TI;TAA;TEE;U",
    "TO;12D8=IZA;JU;JI;JAA;JEE;K;JO;JWA;JHA;KU;KI;KAA;KEE;L;KO;KWA;IYA;JU;JI;JAA;JEE;K;JO;KA;IDA",
    "JU;JI;JAA;JEE;K;JO;JWA;JDA;KU;KI;KAA;KEE;L;KO;KWA;IJA;JU;JI;JAA;JEE;K;JO;JWA;IGA;JU;JI;JAA",
    "JEE;K;JO;KA;JWA;1312=KI;KAA;KEE;L;1318=JGA;KU;KI;KAA;KEE;L;KO;KWAA;ITHA;KU;KI;KAA;KEE;L;KO",
    "KWA;ICHA;KU;KI;KAA;KEE;L;KO;KWA;IPHA;KU;KI;KAA;KEE;L;KO;KWA;ITSA;KU;KI;KAA;KEE;L;KO;KWA;JZA",
    "KU;KI;KAA;KEE;L;KO;LA;IFA;JU;JI;JAA;JEE;K;JO;JWA;IPA;JU;JI;JAA;JEE;K;JO;JWA;IRYA;IMYA;IFYA",
    "135D=9COMBINING GEMINATION AND VOWEL LENGTH MARK;JVOWEL LENGTH MARK;JGEMINATION MARK",
    "9SECTION MARK;9WORDSPACE;9FULL STOP;9COMMA;9SEMICOLON;9COLON;9PREFACE COLON;9QUESTION MARK",
    "9PARAGRAPH SEPARATOR;9DIGIT ONE;FTWO;GHREE;FFOUR;GIVE;FSIX;GEVEN;FEIGHT;FNINE;9NUMBER TEN",
    "HWENTY;HHIRTY;GFORTY;HIFTY;GSIXTY;HEVENTY;GEIGHTY;GNINETY;GHUNDRED;GTEN THOUSAND",
    "1380=9SYLLABLE SEBATBEIT MWA;IMWI;KEE;L;ISEBATBEIT BWA;IBWI;KEE;L;ISEBATBEIT FWA;IFWI;KEE;L",
    "ISEBATBEIT PWA;IPWI;KEE;L;9TONAL MARK YIZET;KDERET;KRIKRIK;KSHORT RIKRIK;KDIFAT;KKENAT",
    "KCHIRET;KHIDET;KDERET-HIDET;KKURT;13A0=0CHEROKEE LETTER A;GE;GI;GO;GU;GV;GGA;GKA;GGE;HI;HO",
    "HU;HV;GHA;HE;HI;HO;HU;HV;GLA;HE;HI;HO;HU;HV;GMA;HE;HI;HO;HU;GNA;GHNA;GNAH;HE;HI;HO;HU;HV",
    "GQUA;IE;II;IO;IU;IV;GSA;H;HE;HI;HO;HU;HV;GDA;GTA;GDE;GTE;GDI;GTI;GDO;HU;HV;HLA;GTLA;IE;II;IO",
    "IU;IV;HSA;IE;II;IO;IU;IV;GWA;HE;HI;HO;HU;HV;GYA;HE;HI;HO;HU;HV;GMV;13F8=9SMALL LETTER YE;NI",
    "NO;NU;NV;MMV;1400=1ANADIAN SYLLABICS HYPHEN;JE;JAAI;JI;KI;JO;KO;JY-CREE OO;JCARRIER EE;RI;JA",
    "KA;JWE;LST-CREE WE;KI;KEST-CREE WI;KII;KEST-CREE WII;KO;KEST-CREE WO;KOO;KEST-CREE WOO",
    "JNASKAPI WOO;JWA;KEST-CREE WA;KAA;KEST-CREE WAA;JNASKAPI WAA;JAI;JY-CREE W;JGLOTTAL STOP",
    "JFINAL ACUTE;PGRAVE;PBOTTOM HALF RING;PTOP HALF RING;PRIGHT HALF RING;RNG;PDOUBLE ACUTE",
    "WSHORT VERTICAL STROKES;PMIDDLE DOT;PSHORT HORIZONTAL STROKE;PPLUS;PDOWN TACK;JEN;JIN;JON",
    "JAN;JPE;KAAI;KI;LI;KO;LO;JY-CREE POO;JCARRIER HEE;SI;JPA;LA;KWE;JWEST-CREE PWE;JPWI",
    "JWEST-CREE PWI;JPWII;JWEST-CREE PWII;JPWO;JWEST-CREE PWO;JPWOO;JWEST-CREE PWOO;JPWA",
    "JWEST-CREE PWA;JPWAA;JWEST-CREE PWAA;JY-CREE PWAA;JP;JWEST-CREE P;JCARRIER H;JTE;KAAI;KI;LI",
    "KO;LO;JY-CREE TOO;JCARRIER DEE;SI;JTA;LA;KWE;JWEST-CREE TWE;JTWI;JWEST-CREE TWI;JTWII",
    "JWEST-CREE TWII;JTWO;JWEST-CREE TWO;JTWOO;JWEST-CREE TWOO;JTWA;JWEST-CREE TWA;JTWAA",
    "JWEST-CREE TWAA;JNASKAPI TWAA;JT;KTE;LI;LO;LA;JKE;KAAI;KI;LI;KO;LO;JY-CREE KOO;JKA;LA;KWE",
    "JWEST-CREE KWE;JKWI;JWEST-CREE KWI;JKWII;JWEST-CREE KWII;JKWO;JWEST-CREE KWO;JKWOO",
    "JWEST-CREE KWOO;JKWA;JWEST-CREE KWA;JKWAA;JWEST-CREE KWAA;JNASKAPI KWAA;JK;KW",
    "JSOUTH-SLAVEY KEH;XIH;XOH;XAH;JCE;KAAI;KI;LI;KO;LO;JY-CREE COO;JCA;LA;KWE;JWEST-CREE CWE",
    "JCWI;JWEST-CREE CWI;JCWII;JWEST-CREE CWII;JCWO;JWEST-CREE CWO;JCWOO;JWEST-CREE CWOO;JCWA",
    "JWEST-CREE CWA;JCWAA;JWEST-CREE CWAA;JNASKAPI CWAA;JC;JSAYISI TH;JME;KAAI;KI;LI;KO;LO",
    "JY-CREE MOO;JMA;LA;KWE;JWEST-CREE MWE;JMWI;JWEST-CREE MWI;JMWII;JWEST-CREE MWII;JMWO",
    "JWEST-CREE MWO;JMWOO;JWEST-CREE MWOO;JMWA;JWEST-CREE MWA;JMWAA;JWEST-CREE MWAA;JNASKAPI MWAA",
    "JM;JWEST-CREE M;JMH;JATHAPASCAN M;JSAYISI M;JNE;KAAI;KI;LI;KO;LO;JY-CREE NOO;JNA;LA;KWE",
    "JWEST-CREE NWE;JNWA;JWEST-CREE NWA;JNWAA;JWEST-CREE NWAA;JNASKAPI NWAA;K;JCARRIER NG;JNH;JLE",
    "KAAI;KI;LI;KO;LO;JY-CREE LOO;JLA;LA;KWE;JWEST-CREE LWE;JLWI;JWEST-CREE LWI;JLWII",
    "JWEST-CREE LWII;JLWO;JWEST-CREE LWO;JLWOO;JWEST-CREE LWOO;JLWA;JWEST-CREE LWA;JLWAA",
    "JWEST-CREE LWAA;JL;JWEST-CREE L;JMEDIAL L;JSE;KAAI;KI;LI;KO;LO;JY-CREE SOO;JSA;LA;KWE",
    "JWEST-CREE SWE;JSWI;JWEST-CREE SWI;JSWII;JWEST-CREE SWII;JSWO;JWEST-CREE SWO;JSWOO",
    "JWEST-CREE SWOO;JSWA;JWEST-CREE SWA;JSWAA;JWEST-CREE SWAA;JNASKAPI SWAA;JS;JATHAPASCAN S;JSW",
    "JBLACKFOOT S;JMOOSE-CREE SK;JNASKAPI SKW;S-W;SPWA;STWA;SKWA;SCWA;JSHE;LI;MI;LO;MO;LA;MA;LWE",
    "JWEST-CREE SHWE;JSHWI;JWEST-CREE SHWI;JSHWII;JWEST-CREE SHWII;JSHWO;JWEST-CREE SHWO;JSHWOO",
    "JWEST-CREE SHWOO;JSHWA;JWEST-CREE SHWA;JSHWAA;JWEST-CREE SHWAA;JSH;JYE;KAAI;KI;LI;KO;LO",
    "K-CREE YOO;KA;LA;KWE;JWEST-CREE YWE;JYWI;JWEST-CREE YWI;JYWII;JWEST-CREE YWII;JYWO",
    "JWEST-CREE YWO;JYWOO;JWEST-CREE YWOO;JYWA;JWEST-CREE YWA;JYWAA;JWEST-CREE YWAA;JNASKAPI YWAA",
    "JY;JBIBLE-CREE Y;JWEST-CREE Y;JSAYISI YI;JRE;K-CREE RE;JWEST-CREE LE;JRAAI;KI;LI;KO;LO",
    "JWEST-CREE LO;JRA;LA;JWEST-CREE LA;JRWAA;JWEST-CREE RWAA;JR;JWEST-CREE R;JMEDIAL R;JFE;KAAI",
    "KI;LI;KO;LO;KA;LA;KWAA;JWEST-CREE FWAA;JF;JTHE;JN-CREE THE;JTHI;JN-CREE THI;JTHII",
    "JN-CREE THII;JTHO;MO;LA;MA;LWAA;JWEST-CREE THWAA;JTH;KTHE;MI;MO;MA;M;KYE;LI;LO;LA",
    "JNUNAVIK HE;SI;TI;SO;TO;SA;TA;S;OUT H;JHK;JQAAI;KI;LI;KO;LO;KA;LA;K;JTLHE;MI;MO;MA",
    "JWEST-CREE RE;UI;UO;UA;JNGAAI;LI;MI;LO;MO;LA;MA;L;KNG;JSAYISI SHE;SI;SO;SA;JWOODS-CREE THE",
    "WI;WO;WA;W;JLHI;MI;LO;MO;LA;MA;L;JTH-CREE THE;TI;UI;TO;UO;TA;UA;T;JAIVILIK B;JBLACKFOOT E;TI",
    "TO;TA;TWE;UI;UO;UA;TNE;UI;UO;UA;TKE;UI;UO;UA;JSAYISI HE;RI;RO;RA;JCARRIER GHU;TO;TE;UE;TI;TA",
    "RRU;SO;SE;TE;SI;SA;RWU;SO;SE;TE;SI;SA;RHWU;TO;TE;UE;TI;TA;RTHU;TO;TE;UE;TI;TA;STU;TO;TE;UE",
    "TI;TA;RPU;SO;SE;TE;SI;SA;S;RGU;SO;SE;TE;SI;SA;RKHU;TO;TE;UE;TI;TA;SKU;TO;TE;UE;TI;TA;T;RNU",
    "SO;SE;TE;SI;SA;RMU;SO;SE;TE;SI;SA;RYU;SO;SE;TE;SI;SA;RJU;JSAYISI JU;JCARRIER JO;SE;TE;SI",
    "JSAYISI JI;JCARRIER JA;SJU;TO;TE;UE;TI;TA;RLU;SO;SE;TE;SI;SA;RDLU;TO;TE;UE;TI;TA;RLHU;TO;TE",
    "UE;TI;TA;RTLHU;UO;UE;VE;UI;UA;TU;TO;TE;UE;TI;TA;RZU;SO;SE;TE;SI;SA;S;RINITIAL Z;RDZU;TO;TE",
    "UE;TI;TA;RSU;SO;SE;TE;SI;SA;SHU;TO;TE;UE;TI;TA;T;RTSU;TO;TE;UE;TI;TA;RCHU;TO;TE;UE;TI;TA",
    "RTTSU;UO;UE;VE;UI;UA;KHI SIGN;JFULL STOP;JQAI;JNGAI;KNGI;NI;MO;NO;MA;NA;JWOODS-CREE THWEE;XI",
    "YI;XO;YO;XA;YA;UFINAL TH;JBLACKFOOT W;0OGHAM SPACE MARK;6LETTER BEITH;DLUIS;DFEARN;DSAIL",
    "DNION;DUATH;DDAIR;DTINNE;DCOLL;EEIRT;DMUIN;DGORT;DNGEADAL;DSTRAIF;DRUIS;DAILM;DONN;DUR",
    "DEADHADH;DIODHADH;DEABHADH;DOR;DUILLEANN;DIFIN;DEAMHANCHOLL;DPEITH;6FEATHER MARK",
    "6REVERSED FEATHER MARK;16A0=0RUNIC LETTER FEHU FEOH FE F;DV;DURUZ UR U;DYR;E;DW",
    "DTHURISAZ THURS THORN;DETH;DANSUZ A;DOS O;DAC A;EESC;DLONG-BRANCH-OSS O;DSHORT-TWIG-OSS O;DO",
    "EE;EN;DRAIDO RAD REID R;DKAUNA;DCEN;DKAUN K;DG;DENG;DGEBO GYFU G;EAR;DWUNJO WYNN W;DHAGLAZ H",
    "FEGL H;DLONG-BRANCH-HAGALL H;DSHORT-TWIG-HAGALL H;DNAUDIZ NYD NAUD N;DSHORT-TWIG-NAUD N",
    "DDOTTED-N;DISAZ IS ISS I;DE;DJERAN J;DGER;DLONG-BRANCH-AR AE;DSHORT-TWIG-AR A;DIWAZ EOH",
    "DPERTHO PEORTH P;DALGIZ EOLHX;DSOWILO S;EIGEL LONG-BRANCH-SOL S;EHORT-TWIG-SOL S;DC;DZ",
    "DTIWAZ TIR TYR T;DSHORT-TWIG-TYR T;DD;DBERKANAN BEORC BJARKAN B;DSHORT-TWIG-BJARKAN B",
    "DDOTTED-P;DOPEN-P;DEHWAZ EH E;DMANNAZ MAN M;DLONG-BRANCH-MADR M;DSHORT-TWIG-MADR M",
    "DLAUKAZ LAGU LOGR L;DDOTTED-L;DINGWAZ;G;DDAGAZ DAEG D;DOTHALAN ETHEL O;DEAR;DIOR;DCWEORTH",
    "EALC;EEALC;DSTAN;DLONG-BRANCH-YR;DSHORT-TWIG-YR;DICELANDIC-YR;DQ;DX;6SINGLE PUNCTUATION",
    "6MULTIPLE PUNCTUATION;6CROSS PUNCTUATION;6ARLAUG SYMBOL;6TVIMADUR SYMBOL;6BELGTHOR SYMBOL",
    "6LETTER K;DSH;DOO;DFRANKS CASKET OS;RIS;REH;RAC;SESC;1700=0TAGALOG LETTER A;FI;FU;FKA;FGA",
    "FNGA;FTA;FDA;FNA;FPA;FBA;FMA;FYA;FRA;FLA;FWA;FSA;FHA;8VOWEL SIGN I;JU;8SIGN VIRAMA;DPAMUDPOD",
    "171F=8LETTER ARCHAIC RA;0HANUNOO LETTER A;FI;FU;FKA;FGA;FNGA;FTA;FDA;FNA;FPA;FBA;FMA;FYA;FRA",
    "FLA;FWA;FSA;FHA;8VOWEL SIGN I;JU;8SIGN PAMUDPOD;0PHILIPPINE SINGLE PUNCTUATION",
    "BDOUBLE PUNCTUATION;1740=0BUHID LETTER A;DI;DU;DKA;DGA;DNGA;DTA;DDA;DNA;DPA;DBA;DMA;DYA;DRA",
    "DLA;DWA;DSA;DHA;6VOWEL SIGN I;HU;1760=0TAGBANWA LETTER A;GI;GU;GKA;GGA;GNGA;GTA;GDA;GNA;GPA",
    "GBA;GMA;GYA;176E=GLA;GWA;GSA;1772=9VOWEL SIGN I;KU;1780=0KHMER LETTER KA;EHA;EO;EHO;DNGO;DCA",
    "EHA;EO;EHO;DNYO;DDA;DTTHA;DDO;DTTHO;DNNO;DTA;EHA;EO;EHO;DNO;DBA;DPHA;EO;EHO;DMO;DYO;DRO;DLO",
    "DVO;DSHA;ESO;EA;DHA;DLA;DQA;6INDEPENDENT VOWEL QAQ;QA;PI;QI;PU;QK;QU;RV;ORY;QY;OLY;QY;OQE",
    "PAI;POO TYPE ONE;XTWO;PAU;6VOWEL INHERENT AQ;MA;CSIGN AA;HI;II;HY;IY;HU;IU;IA;HOE;HYA;HIE;HE",
    "HAE;II;HOO;HAU;6SIGN NIKAHIT;BREAHMUK;BYUUKALEAPINTU;BMUUSIKATOAN;BTRIISAP;BBANTOC;BROBAT",
    "BTOANDAKHIAT;BKAKABAT;BAHSDA;BSAMYOK SANNYA;BVIRIAM;BCOENG;BBATHAMASAT;BKHAN;BBARIYOOSAN",
    "BCAMNUC PII KUUH;BLEK TOO;BBEYYAL;BPHNAEK MUAN;BKOOMUUT;6CURRENCY SYMBOL RIEL",
    "6SIGN AVAKRAHASANYA;CTTHACAN;17E0=6DIGIT ZERO;CONE;CTWO;DHREE;CFOUR;DIVE;CSIX;DEVEN;CEIGHT",
    "CNINE;17F0=6SYMBOL LEK ATTAK SON;NMUOY;NPII;NBEI;OUON;NPRAM;R-MUOY;SPII;SBEI;TUON",
    "1800=0MONGOLIAN BIRGA;AELLIPSIS;ACOMMA;AFULL STOP;ACOLON;AFOUR DOTS;ATODO SOFT HYPHEN",
    "ASIBE SYLLABLE BOUNDARY MARKER;AMANCHU COMMA;HFULL STOP;ANIRUGU;AFREE VARIATION SELECTOR ONE",
    "YTWO;ZHREE;AVOWEL SEPARATOR;AFREE VARIATION SELECTOR FOUR;ADIGIT ZERO;GONE;GTWO;HHREE;GFOUR",
    "HIVE;GSIX;HEVEN;GEIGHT;GNINE;1820=ALETTER A;HE;HI;HO;HU;HOE;HUE;HEE;HNA;HANG;HBA;HPA;HQA;HGA",
    "HMA;HLA;HSA;IHA;HTA;HDA;HCHA;HJA;HYA;HRA;HWA;HFA;HKA;IHA;HTSA;HZA;HHAA;HZRA;HLHA;HZHI;HCHI",
    "HTODO LONG VOWEL SIGN;ME;MI;MO;MU;MOE;MUE;MANG;MBA;MPA;MQA;MGA;MMA;MTA;MDA;MCHA;MJA;MTSA;MYA",
    "MWA;MKA;MGAA;MHAA;MJIA;MNIA;MDZA;HSIBE E;MI;NY;MUE;N;MANG;MKA;MGA;MHA;MPA;MSHA;MTA;MDA;MJA",
    "MFA;MGAA;MHAA;MTSA;MZA;MRAA;MCHA;MZHA;HMANCHU I;OKA;ORA;OFA;OZHA;HCHA WITH TWO DOTS",
    "1880=HALI GALI ANUSVARA ONE;QVISARGA ONE;QDAMARU;QUBADAMA;QINVERTED UBADAMA;QBALUDA",
    "QTHREE BALUDA;QA;QI;QKA;QNGA;QCA;QTTA;SHA;QDDA;QNNA;QTA;QDA;QPA;RHA;QSSA;QZHA;RA;QAH",
    "HTODO ALI GALI TA;VZHA;HMANCHU ALI GALI GHA;XNGA;XCA;XJHA;XTTA;XDDHA;XTA;XDHA;XSSA;XCYA;XZHA",
    "YA;HALI GALI HALF U;VYA;HMANCHU ALI GALI BHA;HALI GALI DAGALGA;HMANCHU ALI GALI LHA",
    "18B0=0CANADIAN SYLLABICS OY;JAY;KAY;JWAY;JPOY;KAY;KWOY;JTAY;JKAY;KWAY;JMAY;JNOY;KAY;JLAY",
    "JSOY;KAY;KHOY;LAY;LWOY;JYOY;KAY;JRAY;JNWI;JOJIBWAY NWI;JNWII;JOJIBWAY NWII;JNWO;JOJIBWAY NWO",
    "JNWOO;JOJIBWAY NWOO;JRWEE;LI;MI;LO;MO;LA;JOJIBWAY P;RT;RK;RC;RM;RN;RS;SH;JEASTERN W",
    "JWESTERN W;JFINAL SMALL RING;PRAISED DOT;JR-CREE RWE;JWEST-CREE LOO;UAA;JTHWE;MA;KTHWE;MOO",
    "MAA;KLHWE;MOO;JSAYISI SHWE;SOO;QHOO;JCARRIER GWU;RDENE GEE;RGAA;SWA;JSAYISI JUU;JCARRIER JWA",
    "JBEAVER DENE L;VR;JCARRIER DENTAL S;1900=0LIMBU VOWEL-CARRIER LETTER;6LETTER KA;EHA;DGA;EHA",
    "DNGA;DCA;EHA;DJA;EHA;DYAN;DTA;EHA;DDA;EHA;DNA;DPA;EHA;DBA;EHA;DMA;DYA;DRA;DLA;DWA;DSHA;ESA",
    "EA;DHA;DGYAN;DTRA;1920=6VOWEL SIGN A;HI;HU;HEE;HAI;HOO;HAU;HE;HO;6SUBJOINED LETTER YA;NRA",
    "NWA;1930=7MALL LETTER KA;JNGA;JANUSVARA;JTA;JNA;JPA;JMA;JRA;JLA;7IGN MUKPHRENG;BKEMPHRENG",
    "BSA-I;1940=BLOO;1944=6EXCLAMATION MARK;6QUESTION MARK;6DIGIT ZERO;CONE;CTWO;DHREE;CFOUR;DIVE",
    "CSIX;DEVEN;CEIGHT;CNINE;0TAI LE LETTER KA;EXA;ENGA;ETSA;ESA;EYA;ETA;FHA;ELA;EPA;FHA;EMA;EFA",
    "EVA;EHA;EQA;EKHA;ETSHA;ENA;EA;EI;EEE;FH;EU;EOO;F;EUE;EE;EAUE;FI;1970=ETONE-2;J3;J4;J5;J6",
    "1980=0NEW TAI LUE LETTER HIGH QA;JLOW QA;JHIGH KA;OXA;ONGA;JLOW KA;NXA;NNGA;JHIGH TSA;OSA",
    "OYA;JLOW TSA;NSA;NYA;JHIGH TA;PHA;ONA;JLOW TA;OHA;NNA;JHIGH PA;PHA;OMA;JLOW PA;OHA;NMA",
    "JHIGH FA;OVA;OLA;JLOW FA;NVA;NLA;JHIGH HA;ODA;OBA;JLOW HA;NDA;NBA;JHIGH KVA;OXVA;JLOW KVA",
    "NXVA;JHIGH SUA;JLOW SUA;19B0=CVOWEL SIGN VOWEL SHORTENER;NAA;NII;NU;OU;NE;NAE;NO;OA;NUE;NAY",
    "OAY;NUY;NOY;OAY;NUEY;NIY;CLETTER FINAL V;PNG;Q;PM;PK;PD;PB;CTONE MARK-1;M2;19D0=CDIGIT ZERO",
    "IONE;ITWO;JHREE;IFOUR;JIVE;ISIX;JEVEN;IEIGHT;ININE;CTHAM DIGIT ONE;19DE=CSIGN LAE;KV",
    "0KHMER SYMBOL PATHAMASAT;DMUOY KOET;DPII KOET;DBEI KOET;EUON KOET;DPRAM KOET;H-MUOY KOET",
    "IPII KOET;IBEI KOET;JUON KOET;DDAP KOET;G-MUOY KOET;HPII KOET;HBEI KOET;IUON KOET;HPRAM KOET",
    "DTUTEYASAT;DMUOY ROC;DPII ROC;DBEI ROC;EUON ROC;DPRAM ROC;H-MUOY ROC;IPII ROC;IBEI ROC",
    "JUON ROC;DDAP ROC;G-MUOY ROC;HPII ROC;HBEI ROC;IUON ROC;HPRAM ROC;0BUGINESE LETTER KA;GGA",
    "GNGA;IKA;GPA;GBA;GMA;HPA;GTA;GDA;GNA;HRA;GCA;GJA;GNYA;ICA;GYA;GRA;GLA;GVA;GSA;GA;GHA",
    "9VOWEL SIGN I;KU;KE;KO;KAE;1A1E=9PALLAWA;9END OF SECTION;0TAI THAM LETTER HIGH KA;MHA;MXA",
    "GLOW KA;LXA;LHA;GNGA;GHIGH CA;MHA;GLOW CA;KSA;KCHA;GNYA;GRATA;GHIGH RATHA;GDA;GLOW RATHA",
    "GRANA;GHIGH TA;MHA;GLOW TA;LHA;GNA;GBA;GHIGH PA;MHA;LFA;GLOW PA;KFA;KPHA;GMA;GLOW YA",
    "GHIGH YA;GRA;HUE;GLA;HUE;GWA;GHIGH SHA;MSA;MA;LHA;GLLA;GA;GLOW HA;GI;HI;GU;HU;GEE;GOO;GLAE",
    "GGREAT SA;9CONSONANT SIGN MEDIAL RA;VLA;OLA TANG LAI;9SIGN MAI KANG LAI",
    "9CONSONANT SIGN FINAL NGA;OLOW PA;OHIGH RATHA OR LOW PA;OMA;OBA;OSA;1A60=9SIGN SAKOT",
    "9VOWEL SIGN A;KMAI SAT;KAA;KTALL AA;KI;LI;KUE;LUE;L;LU;KO;LA BELOW;LY;KE;KAE;KOO;KAI",
    "KTHAM AI;KOA ABOVE;9SIGN MAI KANG;ETONE-1;J2;EKHUEN TONE-3;P4;P5;ERA HAAM;EMAI SAM",
    "EKHUEN-LUE KARAN;1A7F=9COMBINING CRYPTOGRAMMIC DOT;9HORA DIGIT ZERO;KONE;KTWO;LHREE;KFOUR",
    "LIVE;KSIX;LEVEN;KEIGHT;KNINE;1A90=9THAM DIGIT ZERO;KONE;KTWO;LHREE;KFOUR;LIVE;KSIX;LEVEN",
    "KEIGHT;KNINE;1AA0=9SIGN WIANG;JWAAK;ESAWAN;EKEOW;EHOY;EDOKMAI;EREVERSED ROTATED RANA",
    "EMAI YAMOK;EKAAN;IKUU;ESATKAAN;LKUU;EHANG;ECAANG;1AB0=0COMBINING DOUBLED CIRCUMFLEX ACCENT",
    "BIAERESIS-RING;AINFINITY;ADOWNWARDS ARROW;ATRIPLE DOT;AX-X BELOW;AWIGGLY LINE BELOW",
    "AOPEN MARK BELOW;ADOUBLE OPEN MARK BELOW;ALIGHT CENTRALIZATION STROKE BELOW",
    "ASTRONG CENTRALIZATION STROKE BELOW;APARENTHESES ABOVE;ADOUBLE PARENTHESES ABOVE",
    "APARENTHESES BELOW;MOVERLAY;ALATIN SMALL LETTER W BELOW;TTURNED W BELOW",
    "BEFT PARENTHESIS ABOVE LEFT;ARIGHT PARENTHESIS ABOVE RIGHT;ALEFT PARENTHESIS BELOW LEFT",
    "ARIGHT PARENTHESIS BELOW RIGHT;ASQUARE BRACKETS ABOVE;ANUMBER SIGN ABOVE",
    "AINVERTED DOUBLE ARCH ABOVE;APLUS SIGN ABOVE;ADOUBLE PLUS SIGN ABOVE;RBELOW",
    "ATRIPLE ACUTE ACCENT;ALATIN SMALL LETTER INSULAR G;bR;bT;1B00=0BALINESE SIGN ULU RICEM",
    "ICANDRA;ECECEK;ESURANG;EBISAH;9LETTER AKARA;L TEDUNG;GIKARA;L TEDUNG;GUKARA;L TEDUNG",
    "GRA REPA;N TEDUNG;GLA LENGA;O TEDUNG;GEKARA;GAIKARA;GOKARA;L TEDUNG;GKA;I MAHAPRANA;GGA",
    "I GORA;GNGA;GCA;I LACA;GJA;I JERA;GNYA;GTA LATIK;JMURDA MAHAPRANA;GDA MURDA ALPAPRANA",
    "PMAHAPRANA;GNA RAMBAT;GTA;I TAWA;GDA;I MADU;GNA;GPA;I KAPAL;GBA;I KEMBANG;GMA;GYA;GRA;GLA",
    "GWA;GSA SAGA;LPA;I;GHA;9SIGN REREKAN;9VOWEL SIGN TEDUNG;KULU;N SARI;KSUKU;O ILUT;KRA REPA",
    "R TEDUNG;KLA LENGA;S TEDUNG;KTALING;Q REPA;RTEDUNG;RREPA TEDUNG;KPEPET;P TEDUNG;9ADEG ADEG",
    "9LETTER KAF SASAK;HHOT SASAK;GTZIR SASAK;GEF SASAK;GVE SASAK;GZAL SASAK;GASYURA SASAK",
    "HRCHAIC JNYA;1B50=9DIGIT ZERO;FONE;FTWO;GHREE;FFOUR;GIVE;FSIX;GEVEN;FEIGHT;FNINE;9PANTI",
    "BMADA;9WINDU;9CARIK PAMUNGKAH;FSIKI;FPAREREN;9PAMENENG;9MUSICAL SYMBOL DONG;PENG;PUNG;PANG",
    "S SURANG;PING;PAENG;PEUNG;PAING;QNG GEDE;OCOMBINING TEGEH;YENDEP;YKEMPUL;cLI;YJEGOGAN",
    "YKEMPUL WITH JEGOGAN;cLI WITH JEGOGAN;YBENDE;YGONG;ORIGHT-HAND OPEN DUG;fAG;ZCLOSED TUK;hAK",
    "OLEFT-HAND OPEN PANG;eUNG;YCLOSED PLAK;hUK;YOPEN PING;9PANTI LANTANG;BMADA LANTANG",
    "1B80=0SUNDANESE SIGN PANYECEK;IGLAYAR;JWISAD;ALETTER A;HI;HU;HAE;HO;HE;IU;HKA;HQA;HGA;HNGA",
    "HCA;HJA;HZA;HNYA;HTA;HDA;HNA;HPA;HFA;HVA;HBA;HMA;HYA;HRA;HLA;HWA;HSA;HXA;HHA",
    "ACONSONANT SIGN PAMINGKAL;RNYAKRA;TIKU;AVOWEL SIGN PANGHULU;OYUKU;OAELAENG;OOLONG;NMEPET",
    "NNEULEUNG;ASIGN PAMAAEH;FVIRAMA;ACONSONANT SIGN PASANGAN MA;YWA;ALETTER KHA;HSYA;ADIGIT ZERO",
    "GONE;GTWO;HHREE;GFOUR;HIVE;GSIX;HEVEN;GEIGHT;GNINE;AAVAGRAHA;ALETTER REU;HLEU;HBHA;HFINAL K",
    "NM;0BATAK LETTER A;DSIMALUNGUN A;DHA;DSIMALUNGUN HA;DMANDAILING HA;DBA;DKARO BA;DPA",
    "DSIMALUNGUN PA;DNA;DMANDAILING NA;DWA;DSIMALUNGUN WA;DPAKPAK WA;DGA;DSIMALUNGUN GA;DJA;DDA",
    "DRA;DSIMALUNGUN RA;DMA;DSIMALUNGUN MA;EOUTHERN TA;DNORTHERN TA;DSA;EIMALUNGUN SA",
    "DMANDAILING SA;DYA;DSIMALUNGUN YA;DNGA;DLA;DSIMALUNGUN LA;DNYA;DCA;DNDA;DMBA;DI;DU",
    "6SIGN TOMPI;6VOWEL SIGN E;HPAKPAK E;HEE;HI;HKARO I;HO;HKARO O;HU;I FOR SIMALUNGUN SA",
    "6CONSONANT SIGN NG;LH;6PANGOLAT;9ONGONAN;1BFC=6SYMBOL BINDU NA METEK;JPINARBORAS;JJUDUL",
    "JPANGOLAT;0LEPCHA LETTER KA;FLA;FHA;EGA;FLA;ENGA;ECA;FHA;EJA;ENYA;ETA;FHA;EDA;ENA;EPA;FLA",
    "FHA;EFA;FLA;EBA;FLA;EMA;FLA;ETSA;GHA;EDZA;EYA;ERA;ELA;EHA;FLA;EVA;ESA;FHA;EWA;EA",
    "7SUBJOINED LETTER YA;ORA;7VOWEL SIGN AA;II;IO;JO;IU;JU;IE;7CONSONANT SIGN K;MM;ML;MN;MP;MR",
    "MT;MNYIN-DO;MKANG;7SIGN RAN;CNUKTA;1C3B=7PUNCTUATION TA-ROL;JNYET THYOOM TA-ROL;JCER-WA",
    "JTSHOOK CER-WA;P;7DIGIT ZERO;DONE;DTWO;EHREE;DFOUR;EIVE;DSIX;EEVEN;DEIGHT;DNINE",
    "1C4D=7LETTER TTA;GHA;EDDA;0OL CHIKI DIGIT ZERO;FONE;FTWO;GHREE;FFOUR;GIVE;FSIX;GEVEN;FEIGHT",
    "FNINE;9LETTER LA;GAT;HG;HNG;HL;GLAA;GAAK;IJ;IM;IW;GLI;GIS;HH;HNY;HR;GLU;GUC;HD;HNN;HY;GLE",
    "GEP;HDD;HN;HRR;GLO;GOTT;HB;HV;HH;9MU TTUDDAG;9GAAHLAA TTUDDAAG;9MU-GAAHLAA TTUDDAAG;9RELAA",
    "9PHAARKAA;9AHAD;9PUNCTUATION MUCAAD;LDOUBLE MUCAAD;0CYRILLIC SMALL LETTER ROUNDED VE",
    "MLONG-LEGGED DE;MNARROW O;MWIDE ES;MTALL TE;NHREE-LEGGED TE;NALL HARD SIGN;RYAT",
    "MUNBLENDED UK;1C90=0GEORGIAN MTAVRULI CAPITAL LETTER AN;XBAN;XGAN;XDON;XEN;XVIN;XZEN;XTAN",
    "XIN;XKAN;XLAS;XMAN;XNAR;XON;XPAR;XZHAR;XRAE;XSAN;XTAR;XUN;XPHAR;XKHAR;XGHAN;XQAR;XSHIN;XCHIN",
    "YAN;XJIL;XCIL;YHAR;XXAN;XJHAN;XHAE;YE;YIE;XWE;XHAR;YOE;XFI;XYN;XELIFI;XTURNED GAN;XAIN",
    "1CBD=YEN;XHARD SIGN;XLABIAL SIGN;0SUNDANESE PUNCTUATION BINDU SURYA;SPANGLONG;TURNAMA;SCAKRA",
    "SLEU SATANGA;SKA SATANGA;SDA SATANGA;SBA SATANGA;1CD0=0VEDIC TONE KARSHANA;BSHARA;BPRENKHA",
    "6SIGN NIHSHVASA;BYAJURVEDIC MIDLINE SVARITA;6TONE YAJURVEDIC AGGRAVATED INDEPENDENT SVARITA",
    "MINDEPENDENT SVARITA;MKATHAKA INDEPENDENT SVARITA;BCANDRA BELOW",
    "BYAJURVEDIC KATHAKA INDEPENDENT SVARITA SCHROEDER;BDOUBLE SVARITA;BTRIPLE SVARITA",
    "BKATHAKA ANUDATTA;BDOT BELOW;BTWO DOTS BELOW;CHREE DOTS BELOW",
    "BRIGVEDIC KASHMIRI INDEPENDENT SVARITA;BATHARVAVEDIC INDEPENDENT SVARITA",
    "6SIGN VISARGA SVARITA;JUDATTA;BREVERSED VISARGA UDATTA;BVISARGA ANUDATTA",
    "BREVERSED VISARGA ANUDATTA;BVISARGA UDATTA WITH TAIL;JANUDATTA WITH TAIL",
    "BANUSVARA ANTARGOMUKHA;KBAHIRGOMUKHA;KVAMAGOMUKHA;V WITH TAIL;BTIRYAK",
    "BHEXIFORM LONG ANUSVARA;BLONG ANUSVARA;BRTHANG LONG ANUSVARA;BANUSVARA UBHAYATO MUKHA",
    "CRDHAVISARGA;BROTATED ARDHAVISARGA;6TONE CANDRA ABOVE;6SIGN JIHVAMULIYA;BUPADHMANIYA",
    "BATIKRAMA;6TONE RING ABOVE;BDOUBLE RING ABOVE;6SIGN DOUBLE ANUSVARA ANTARGOMUKHA",
    "1D00=0LATIN LETTER SMALL CAPITAL A;SE;6SMALL LETTER TURNED AE;6LETTER SMALL CAPITAL BARRED B",
    "RC;RD;RETH;S;6SMALL LETTER TURNED OPEN E;QI;6LETTER SMALL CAPITAL J;RK;RL WITH STROKE;RM",
    "RREVERSED N;RO;SPEN O;6SMALL LETTER SIDEWAYS O;TPEN O;T WITH STROKE;JTURNED OE",
    "6LETTER SMALL CAPITAL OU;6SMALL LETTER TOP HALF O;JBOTTOM HALF O;6LETTER SMALL CAPITAL P",
    "RREVERSED R;RTURNED R;S;RU;6SMALL LETTER SIDEWAYS U;SDIAERESIZED U;STURNED M",
    "6LETTER SMALL CAPITAL V;RW;RZ;REZH;DVOICED LARYNGEAL SPIRANT;DAIN",
    "0GREEK LETTER SMALL CAPITAL GAMMA;RLAMDA;RPI;RRHO;RPSI;0CYRILLIC LETTER SMALL CAPITAL EL",
    "0MODIFIER LETTER CAPITAL A;PE;OB;PARRED B;OD;OE;OREVERSED E;OG;OH;OI;OJ;OK;OL;OM;ON",
    "OREVERSED N;OO;PU;OP;OR;OT;OU;OW;GSMALL A;MTURNED A;MALPHA;MTURNED AE;MB;MD;ME;MSCHWA",
    "MOPEN E;MTURNED OPEN E;MG;MTURNED I;MK;MM;MENG;MO;NPEN O;MTOP HALF O;MBOTTOM HALF O;MP;MT;MU",
    "MSIDEWAYS U;MTURNED M;MV;MAIN;MBETA;MGREEK GAMMA;MDELTA;MGREEK PHI;MCHI",
    "0LATIN SUBSCRIPT SMALL LETTER I;TR;TU;TV;0GREEK SUBSCRIPT SMALL LETTER BETA;TGAMMA;TRHO;TPHI",
    "TCHI;0LATIN SMALL LETTER UE;JB WITH MIDDLE TILDE;JD WITH MIDDLE TILDE;JF WITH MIDDLE TILDE",
    "JM WITH MIDDLE TILDE;JN WITH MIDDLE TILDE;JP WITH MIDDLE TILDE;JR WITH MIDDLE TILDE",
    "QFISHHOOK AND MIDDLE TILDE;JS WITH MIDDLE TILDE;JT WITH MIDDLE TILDE;JZ WITH MIDDLE TILDE",
    "JTURNED G;0MODIFIER LETTER CYRILLIC EN;0LATIN SMALL LETTER INSULAR G;JTH WITH STRIKETHROUGH",
    "CCAPITAL LETTER I WITH STROKE;CLETTER IOTA WITH STROKE;JP WITH STROKE",
    "CCAPITAL LETTER U WITH STROKE;CLETTER UPSILON WITH STROKE;JB WITH PALATAL HOOK",
    "JD WITH PALATAL HOOK;JF WITH PALATAL HOOK;JG WITH PALATAL HOOK;JK WITH PALATAL HOOK",
    "JL WITH PALATAL HOOK;JM WITH PALATAL HOOK;JN WITH PALATAL HOOK;JP WITH PALATAL HOOK",
    "JR WITH PALATAL HOOK;JS WITH PALATAL HOOK;JESH WITH PALATAL HOOK;JV WITH PALATAL HOOK",
    "JX WITH PALATAL HOOK;JZ WITH PALATAL HOOK;JA WITH RETROFLEX HOOK;KLPHA WITH RETROFLEX HOOK",
    "JD WITH HOOK AND TAIL;JE WITH RETROFLEX HOOK;JOPEN E WITH RETROFLEX HOOK",
    "JREVERSED OPEN E WITH RETROFLEX HOOK;JSCHWA WITH RETROFLEX HOOK;JI WITH RETROFLEX HOOK",
    "JOPEN O WITH RETROFLEX HOOK;JESH WITH RETROFLEX HOOK;JU WITH RETROFLEX HOOK",
    "JEZH WITH RETROFLEX HOOK;0MODIFIER LETTER SMALL TURNED ALPHA;MC;N WITH CURL;METH",
    "MREVERSED OPEN E;MF;MDOTLESS J WITH STROKE;MSCRIPT G;MTURNED H;MI WITH STROKE;NOTA",
    "MCAPITAL I;V WITH STROKE;MJ WITH CROSSED-TAIL;ML WITH RETROFLEX HOOK;TPALATAL HOOK",
    "MCAPITAL L;MM WITH HOOK;MTURNED M WITH LONG LEG;MN WITH LEFT HOOK;TRETROFLEX HOOK;MCAPITAL N",
    "MBARRED O;MPHI;MS WITH HOOK;MESH;MT WITH PALATAL HOOK;MU BAR;NPSILON;MCAPITAL U;MV WITH HOOK",
    "MTURNED V;MZ;N WITH RETROFLEX HOOK;TCURL;MEZH;MTHETA;0COMBINING DOTTED GRAVE ACCENT",
    "HACUTE ACCENT;ASNAKE BELOW;BUSPENSION MARK;AMACRON-ACUTE;AGRAVE-MACRON;AMACRON-GRAVE",
    "AACUTE-MACRON;AGRAVE-ACUTE-GRAVE;AACUTE-GRAVE-ACUTE;ALATIN SMALL LETTER R BELOW",
    "ABREVE-MACRON;AMACRON-BREVE;ADOUBLE CIRCUMFLEX ABOVE;AOGONEK ABOVE;AZIGZAG BELOW;AIS BELOW",
    "AUR ABOVE;BS ABOVE;ALATIN SMALL LETTER FLATTENED OPEN A ABOVE;TAE;UO;UV;TC CEDILLA",
    "TINSULAR D;TETH;TG;GLETTER SMALL CAPITAL G;GSMALL LETTER K;TL;GLETTER SMALL CAPITAL L;bM",
    "GSMALL LETTER N;GLETTER SMALL CAPITAL N;bR;GSMALL LETTER R ROTUNDA;TS;TLONG S;TZ;TALPHA;TB",
    "UETA;TSCHWA;TF;TL WITH DOUBLE MIDDLE TILDE;TO WITH LIGHT CENTRALIZATION STROKE;TP;TESH",
    "TU WITH LIGHT CENTRALIZATION STROKE;TW;TA WITH DIAERESIS;TO WITH DIAERESIS;TU WITH DIAERESIS",
    "AUP TACK ABOVE;AKAVYKA ABOVE RIGHT;NLEFT;ADOT ABOVE LEFT;AWIDE INVERTED BRIDGE BELOW",
    "ADOT BELOW LEFT;BELETION MARK;BOUBLE INVERTED BREVE BELOW;AALMOST EQUAL TO BELOW",
    "ALEFT ARROWHEAD ABOVE;ARIGHT ARROWHEAD AND DOWN ARROWHEAD BELOW",
    "0LATIN CAPITAL LETTER A WITH RING BELOW;6SMALL LETTER A WITH RING BELOW",
    "6CAPITAL LETTER B WITH DOT ABOVE;6SMALL LETTER B WITH DOT ABOVE",
    "6CAPITAL LETTER B WITH DOT BELOW;6SMALL LETTER B WITH DOT BELOW",
    "6CAPITAL LETTER B WITH LINE BELOW;6SMALL LETTER B WITH LINE BELOW",
    "6CAPITAL LETTER C WITH CEDILLA AND ACUTE;6SMALL LETTER C WITH CEDILLA AND ACUTE",
    "6CAPITAL LETTER D WITH DOT ABOVE;6SMALL LETTER D WITH DOT ABOVE",
    "6CAPITAL LETTER D WITH DOT BELOW;6SMALL LETTER D WITH DOT BELOW",
    "6CAPITAL LETTER D WITH LINE BELOW;6SMALL LETTER D WITH LINE BELOW",
    "6CAPITAL LETTER D WITH CEDILLA;6SMALL LETTER D WITH CEDILLA",
    "6CAPITAL LETTER D WITH CIRCUMFLEX BELOW;6SMALL LETTER D WITH CIRCUMFLEX BELOW",
    "6CAPITAL LETTER E WITH MACRON AND GRAVE;6SMALL LETTER E WITH MACRON AND GRAVE",
    "6CAPITAL LETTER E WITH MACRON AND ACUTE;6SMALL LETTER E WITH MACRON AND ACUTE",
    "6CAPITAL LETTER E WITH CIRCUMFLEX BELOW;6SMALL LETTER E WITH CIRCUMFLEX BELOW",
    "6CAPITAL LETTER E WITH TILDE BELOW;6SMALL LETTER E WITH TILDE BELOW",
    "6CAPITAL LETTER E WITH CEDILLA AND BREVE;6SMALL LETTER E WITH CEDILLA AND BREVE",
    "6CAPITAL LETTER F WITH DOT ABOVE;6SMALL LETTER F WITH DOT ABOVE",
    "6CAPITAL LETTER G WITH MACRON;6SMALL LETTER G WITH MACRON;6CAPITAL LETTER H WITH DOT ABOVE",
    "6SMALL LETTER H WITH DOT ABOVE;6CAPITAL LETTER H WITH DOT BELOW",
    "6SMALL LETTER H WITH DOT BELOW;6CAPITAL LETTER H WITH DIAERESIS",
    "6SMALL LETTER H WITH DIAERESIS;6CAPITAL LETTER H WITH CEDILLA;6SMALL LETTER H WITH CEDILLA",
    "6CAPITAL LETTER H WITH BREVE BELOW;6SMALL LETTER H WITH BREVE BELOW",
    "6CAPITAL LETTER I WITH TILDE BELOW;6SMALL LETTER I WITH TILDE BELOW",
    "6CAPITAL LETTER I WITH DIAERESIS AND ACUTE;6SMALL LETTER I WITH DIAERESIS AND ACUTE",
    "6CAPITAL LETTER K WITH ACUTE;6SMALL LETTER K WITH ACUTE;6CAPITAL LETTER K WITH DOT BELOW",
    "6SMALL LETTER K WITH DOT BELOW;6CAPITAL LETTER K WITH LINE BELOW",
    "6SMALL LETTER K WITH LINE BELOW;6CAPITAL LETTER L WITH DOT BELOW",
    "6SMALL LETTER L WITH DOT BELOW;6CAPITAL LETTER L WITH DOT BELOW AND MACRON",
    "6SMALL LETTER L WITH DOT BELOW AND MACRON;6CAPITAL LETTER L WITH LINE BELOW",
    "6SMALL LETTER L WITH LINE BELOW;6CAPITAL LETTER L WITH CIRCUMFLEX BELOW",
    "6SMALL LETTER L WITH CIRCUMFLEX BELOW;6CAPITAL LETTER M WITH ACUTE",
    "6SMALL LETTER M WITH ACUTE;6CAPITAL LETTER M WITH DOT ABOVE;6SMALL LETTER M WITH DOT ABOVE",
    "6CAPITAL LETTER M WITH DOT BELOW;6SMALL LETTER M WITH DOT BELOW",
    "6CAPITAL LETTER N WITH DOT ABOVE;6SMALL LETTER N WITH DOT ABOVE",
    "6CAPITAL LETTER N WITH DOT BELOW;6SMALL LETTER N WITH DOT BELOW",
    "6CAPITAL LETTER N WITH LINE BELOW;6SMALL LETTER N WITH LINE BELOW",
    "6CAPITAL LETTER N WITH CIRCUMFLEX BELOW;6SMALL LETTER N WITH CIRCUMFLEX BELOW",
    "6CAPITAL LETTER O WITH TILDE AND ACUTE;6SMALL LETTER O WITH TILDE AND ACUTE",
    "6CAPITAL LETTER O WITH TILDE AND DIAERESIS;6SMALL LETTER O WITH TILDE AND DIAERESIS",
    "6CAPITAL LETTER O WITH MACRON AND GRAVE;6SMALL LETTER O WITH MACRON AND GRAVE",
    "6CAPITAL LETTER O WITH MACRON AND ACUTE;6SMALL LETTER O WITH MACRON AND ACUTE",
    "6CAPITAL LETTER P WITH ACUTE;6SMALL LETTER P WITH ACUTE;6CAPITAL LETTER P WITH DOT ABOVE",
    "6SMALL LETTER P WITH DOT ABOVE;6CAPITAL LETTER R WITH DOT ABOVE",
    "6SMALL LETTER R WITH DOT ABOVE;6CAPITAL LETTER R WITH DOT BELOW",
    "6SMALL LETTER R WITH DOT BELOW;6CAPITAL LETTER R WITH DOT BELOW AND MACRON",
    "6SMALL LETTER R WITH DOT BELOW AND MACRON;6CAPITAL LETTER R WITH LINE BELOW",
    "6SMALL LETTER R WITH LINE BELOW;6CAPITAL LETTER S WITH DOT ABOVE",
    "6SMALL LETTER S WITH DOT ABOVE;6CAPITAL LETTER S WITH DOT BELOW",
    "6SMALL LETTER S WITH DOT BELOW;6CAPITAL LETTER S WITH ACUTE AND DOT ABOVE",
    "6SMALL LETTER S WITH ACUTE AND DOT ABOVE;6CAPITAL LETTER S WITH CARON AND DOT ABOVE",
    "6SMALL LETTER S WITH CARON AND DOT ABOVE;6CAPITAL LETTER S WITH DOT BELOW AND DOT ABOVE",
    "6SMALL LETTER S WITH DOT BELOW AND DOT ABOVE;6CAPITAL LETTER T WITH DOT ABOVE",
    "6SMALL LETTER T WITH DOT ABOVE;6CAPITAL LETTER T WITH DOT BELOW",
    "6SMALL LETTER T WITH DOT BELOW;6CAPITAL LETTER T WITH LINE BELOW",
    "6SMALL LETTER T WITH LINE BELOW;6CAPITAL LETTER T WITH CIRCUMFLEX BELOW",
    "6SMALL LETTER T WITH CIRCUMFLEX BELOW;6CAPITAL LETTER U WITH DIAERESIS BELOW",
    "6SMALL LETTER U WITH DIAERESIS BELOW;6CAPITAL LETTER U WITH TILDE BELOW",
    "6SMALL LETTER U WITH TILDE BELOW;6CAPITAL LETTER U WITH CIRCUMFLEX BELOW",
    "6SMALL LETTER U WITH CIRCUMFLEX BELOW;6CAPITAL LETTER U WITH TILDE AND ACUTE",
    "6SMALL LETTER U WITH TILDE AND ACUTE;6CAPITAL LETTER U WITH MACRON AND DIAERESIS",
    "6SMALL LETTER U WITH MACRON AND DIAERESIS;6CAPITAL LETTER V WITH TILDE",
    "6SMALL LETTER V WITH TILDE;6CAPITAL LETTER V WITH DOT BELOW;6SMALL LETTER V WITH DOT BELOW",
    "6CAPITAL LETTER W WITH GRAVE;6SMALL LETTER W WITH GRAVE;6CAPITAL LETTER W WITH ACUTE",
    "6SMALL LETTER W WITH ACUTE;6CAPITAL LETTER W WITH DIAERESIS;6SMALL LETTER W WITH DIAERESIS",
    "6CAPITAL LETTER W WITH DOT ABOVE;6SMALL LETTER W WITH DOT ABOVE",
    "6CAPITAL LETTER W WITH DOT BELOW;6SMALL LETTER W WITH DOT BELOW",
    "6CAPITAL LETTER X WITH DOT ABOVE;6SMALL LETTER X WITH DOT ABOVE",
    "6CAPITAL LETTER X WITH DIAERESIS;6SMALL LETTER X WITH DIAERESIS",
    "6CAPITAL LETTER Y WITH DOT ABOVE;6SMALL LETTER Y WITH DOT ABOVE",
    "6CAPITAL LETTER Z WITH CIRCUMFLEX;6SMALL LETTER Z WITH CIRCUMFLEX",
    "6CAPITAL LETTER Z WITH DOT BELOW;6SMALL LETTER Z WITH DOT BELOW",
    "6CAPITAL LETTER Z WITH LINE BELOW;6SMALL LETTER Z WITH LINE BELOW;JH WITH LINE BELOW",
    "JT WITH DIAERESIS;JW WITH RING ABOVE;JY WITH RING ABOVE;JA WITH RIGHT HALF RING",
    "JLONG S WITH DOT ABOVE;WIAGONAL STROKE;VHIGH STROKE;6CAPITAL LETTER SHARP S",
    "6SMALL LETTER DELTA;6CAPITAL LETTER A WITH DOT BELOW;6SMALL LETTER A WITH DOT BELOW",
    "6CAPITAL LETTER A WITH HOOK ABOVE;6SMALL LETTER A WITH HOOK ABOVE",
    "6CAPITAL LETTER A WITH CIRCUMFLEX AND ACUTE;6SMALL LETTER A WITH CIRCUMFLEX AND ACUTE",
    "6CAPITAL LETTER A WITH CIRCUMFLEX AND GRAVE;6SMALL LETTER A WITH CIRCUMFLEX AND GRAVE",
    "6CAPITAL LETTER A WITH CIRCUMFLEX AND HOOK ABOVE",
    "6SMALL LETTER A WITH CIRCUMFLEX AND HOOK ABOVE;6CAPITAL LETTER A WITH CIRCUMFLEX AND TILDE",
    "6SMALL LETTER A WITH CIRCUMFLEX AND TILDE;6CAPITAL LETTER A WITH CIRCUMFLEX AND DOT BELOW",
    "6SMALL LETTER A WITH CIRCUMFLEX AND DOT BELOW;6CAPITAL LETTER A WITH BREVE AND ACUTE",
    "6SMALL LETTER A WITH BREVE AND ACUTE;6CAPITAL LETTER A WITH BREVE AND GRAVE",
    "6SMALL LETTER A WITH BREVE AND GRAVE;6CAPITAL LETTER A WITH BREVE AND HOOK ABOVE",
    "6SMALL LETTER A WITH BREVE AND HOOK ABOVE;6CAPITAL LETTER A WITH BREVE AND TILDE",
    "6SMALL LETTER A WITH BREVE AND TILDE;6CAPITAL LETTER A WITH BREVE AND DOT BELOW",
    "6SMALL LETTER A WITH BREVE AND DOT BELOW;6CAPITAL LETTER E WITH DOT BELOW",
    "6SMALL LETTER E WITH DOT BELOW;6CAPITAL LETTER E WITH HOOK ABOVE",
    "6SMALL LETTER E WITH HOOK ABOVE;6CAPITAL LETTER E WITH TILDE;6SMALL LETTER E WITH TILDE",
    "6CAPITAL LETTER E WITH CIRCUMFLEX AND ACUTE;6SMALL LETTER E WITH CIRCUMFLEX AND ACUTE",
    "6CAPITAL LETTER E WITH CIRCUMFLEX AND GRAVE;6SMALL LETTER E WITH CIRCUMFLEX AND GRAVE",
    "6CAPITAL LETTER E WITH CIRCUMFLEX AND HOOK ABOVE",
    "6SMALL LETTER E WITH CIRCUMFLEX AND HOOK ABOVE;6CAPITAL LETTER E WITH CIRCUMFLEX AND TILDE",
    "6SMALL LETTER E WITH CIRCUMFLEX AND TILDE;6CAPITAL LETTER E WITH CIRCUMFLEX AND DOT BELOW",
    "6SMALL LETTER E WITH CIRCUMFLEX AND DOT BELOW;6CAPITAL LETTER I WITH HOOK ABOVE",
    "6SMALL LETTER I WITH HOOK ABOVE;6CAPITAL LETTER I WITH DOT BELOW",
    "6SMALL LETTER I WITH DOT BELOW;6CAPITAL LETTER O WITH DOT BELOW",
    "6SMALL LETTER O WITH DOT BELOW;6CAPITAL LETTER O WITH HOOK ABOVE",
    "6SMALL LETTER O WITH HOOK ABOVE;6CAPITAL LETTER O WITH CIRCUMFLEX AND ACUTE",
    "6SMALL LETTER O WITH CIRCUMFLEX AND ACUTE;6CAPITAL LETTER O WITH CIRCUMFLEX AND GRAVE",
    "6SMALL LETTER O WITH CIRCUMFLEX AND GRAVE;6CAPITAL LETTER O WITH CIRCUMFLEX AND HOOK ABOVE",
    "6SMALL LETTER O WITH CIRCUMFLEX AND HOOK ABOVE;6CAPITAL LETTER O WITH CIRCUMFLEX AND TILDE",
    "6SMALL LETTER O WITH CIRCUMFLEX AND TILDE;6CAPITAL LETTER O WITH CIRCUMFLEX AND DOT BELOW",
    "6SMALL LETTER O WITH CIRCUMFLEX AND DOT BELOW;6CAPITAL LETTER O WITH HORN AND ACUTE",
    "6SMALL LETTER O WITH HORN AND ACUTE;6CAPITAL LETTER O WITH HORN AND GRAVE",
    "6SMALL LETTER O WITH HORN AND GRAVE;6CAPITAL LETTER O WITH HORN AND HOOK ABOVE",
    "6SMALL LETTER O WITH HORN AND HOOK ABOVE;6CAPITAL LETTER O WITH HORN AND TILDE",
    "6SMALL LETTER O WITH HORN AND TILDE;6CAPITAL LETTER O WITH HORN AND DOT BELOW",
    "6SMALL LETTER O WITH HORN AND DOT BELOW;6CAPITAL LETTER U WITH DOT BELOW",
    "6SMALL LETTER U WITH DOT BELOW;6CAPITAL LETTER U WITH HOOK ABOVE",
    "6SMALL LETTER U WITH HOOK ABOVE;6CAPITAL LETTER U WITH HORN AND ACUTE",
    "6SMALL LETTER U WITH HORN AND ACUTE;6CAPITAL LETTER U WITH HORN AND GRAVE",
    "6SMALL LETTER U WITH HORN AND GRAVE;6CAPITAL LETTER U WITH HORN AND HOOK ABOVE",
    "6SMALL LETTER U WITH HORN AND HOOK ABOVE;6CAPITAL LETTER U WITH HORN AND TILDE",
    "6SMALL LETTER U WITH HORN AND TILDE;6CAPITAL LETTER U WITH HORN AND DOT BELOW",
    "6SMALL LETTER U WITH HORN AND DOT BELOW;6CAPITAL LETTER Y WITH GRAVE",
    "6SMALL LETTER Y WITH GRAVE;6CAPITAL LETTER Y WITH DOT BELOW;6SMALL LETTER Y WITH DOT BELOW",
    "6CAPITAL LETTER Y WITH HOOK ABOVE;6SMALL LETTER Y WITH HOOK ABOVE",
    "6CAPITAL LETTER Y WITH TILDE;6SMALL LETTER Y WITH TILDE;6CAPITAL LETTER MIDDLE-WELSH LL",
    "6SMALL LETTER MIDDLE-WELSH LL;6CAPITAL LETTER MIDDLE-WELSH V;6SMALL LETTER MIDDLE-WELSH V",
    "6CAPITAL LETTER Y WITH LOOP;6SMALL LETTER Y WITH LOOP;0GREEK SMALL LETTER ALPHA WITH PSILI",
    "UDASIA;UPSILI AND VARIA;UDASIA AND VARIA;UPSILI AND OXIA;UDASIA AND OXIA",
    "UPSILI AND PERISPOMENI;UDASIA AND PERISPOMENI;6CAPITAL LETTER ALPHA WITH PSILI;WDASIA",
    "WPSILI AND VARIA;WDASIA AND VARIA;WPSILI AND OXIA;WDASIA AND OXIA;WPSILI AND PERISPOMENI",
    "WDASIA AND PERISPOMENI;6SMALL LETTER EPSILON WITH PSILI;WDASIA;WPSILI AND VARIA",
    "WDASIA AND VARIA;WPSILI AND OXIA;WDASIA AND OXIA;1F18=6CAPITAL LETTER EPSILON WITH PSILI",
    "YDASIA;YPSILI AND VARIA;YDASIA AND VARIA;YPSILI AND OXIA;YDASIA AND OXIA",
    "1F20=6SMALL LETTER ETA WITH PSILI;SDASIA;SPSILI AND VARIA;SDASIA AND VARIA;SPSILI AND OXIA",
    "SDASIA AND OXIA;SPSILI AND PERISPOMENI;SDASIA AND PERISPOMENI;6CAPITAL LETTER ETA WITH PSILI",
    "UDASIA;UPSILI AND VARIA;UDASIA AND VARIA;UPSILI AND OXIA;UDASIA AND OXIA",
    "UPSILI AND PERISPOMENI;UDASIA AND PERISPOMENI;6SMALL LETTER IOTA WITH PSILI;TDASIA",
    "TPSILI AND VARIA;TDASIA AND VARIA;TPSILI AND OXIA;TDASIA AND OXIA;TPSILI AND PERISPOMENI",
    "TDASIA AND PERISPOMENI;6CAPITAL LETTER IOTA WITH PSILI;VDASIA;VPSILI AND VARIA",
    "VDASIA AND VARIA;VPSILI AND OXIA;VDASIA AND OXIA;VPSILI AND PERISPOMENI",
    "VDASIA AND PERISPOMENI;6SMALL LETTER OMICRON WITH PSILI;WDASIA;WPSILI AND VARIA",
    "WDASIA AND VARIA;WPSILI AND OXIA;WDASIA AND OXIA;1F48=6CAPITAL LETTER OMICRON WITH PSILI",
    "YDASIA;YPSILI AND VARIA;YDASIA AND VARIA;YPSILI AND OXIA;YDASIA AND OXIA",
    "1F50=6SMALL LETTER UPSILON WITH PSILI;WDASIA;WPSILI AND VARIA;WDASIA AND VARIA",
    "WPSILI AND OXIA;WDASIA AND OXIA;WPSILI AND PERISPOMENI;WDASIA AND PERISPOMENI",
    "1F59=6CAPITAL LETTER UPSILON WITH DASIA;1F5B=d AND VARIA;1F5D=iOXIA;1F5F=iPERISPOMENI",
    "6SMALL LETTER OMEGA WITH PSILI;UDASIA;UPSILI AND VARIA;UDASIA AND VARIA;UPSILI AND OXIA",
    "UDASIA AND OXIA;UPSILI AND PERISPOMENI;UDASIA AND PERISPOMENI",
    "6CAPITAL LETTER OMEGA WITH PSILI;WDASIA;WPSILI AND VARIA;WDASIA AND VARIA;WPSILI AND OXIA",
    "WDASIA AND OXIA;WPSILI AND PERISPOMENI;WDASIA AND PERISPOMENI;6SMALL LETTER ALPHA WITH VARIA",
    "UOXIA;JEPSILON WITH VARIA;WOXIA;KTA WITH VARIA;SOXIA;JIOTA WITH VARIA;TOXIA",
    "JOMICRON WITH VARIA;WOXIA;JUPSILON WITH VARIA;WOXIA;JOMEGA WITH VARIA;UOXIA",
    "1F80=JALPHA WITH PSILI AND YPOGEGRAMMENI;UDASIA AND YPOGEGRAMMENI",
    "UPSILI AND VARIA AND YPOGEGRAMMENI;UDASIA AND VARIA AND YPOGEGRAMMENI",
    "UPSILI AND OXIA AND YPOGEGRAMMENI;UDASIA AND OXIA AND YPOGEGRAMMENI",
    "UPSILI AND PERISPOMENI AND YPOGEGRAMMENI;UDASIA AND PERISPOMENI AND YPOGEGRAMMENI",
    "6CAPITAL LETTER ALPHA WITH PSILI AND PROSGEGRAMMENI;WDASIA AND PROSGEGRAMMENI",
    "WPSILI AND VARIA AND PROSGEGRAMMENI;WDASIA AND VARIA AND PROSGEGRAMMENI",
    "WPSILI AND OXIA AND PROSGEGRAMMENI;WDASIA AND OXIA AND PROSGEGRAMMENI",
    "WPSILI AND PERISPOMENI AND PROSGEGRAMMENI;WDASIA AND PERISPOMENI AND PROSGEGRAMMENI",
    "6SMALL LETTER ETA WITH PSILI AND YPOGEGRAMMENI;SDASIA AND YPOGEGRAMMENI",
    "SPSILI AND VARIA AND YPOGEGRAMMENI;SDASIA AND VARIA AND YPOGEGRAMMENI",
    "SPSILI AND OXIA AND YPOGEGRAMMENI;SDASIA AND OXIA AND YPOGEGRAMMENI",
    "SPSILI AND PERISPOMENI AND YPOGEGRAMMENI;SDASIA AND PERISPOMENI AND YPOGEGRAMMENI",
    "6CAPITAL LETTER ETA WITH PSILI AND PROSGEGRAMMENI;UDASIA AND PROSGEGRAMMENI",
    "UPSILI AND VARIA AND PROSGEGRAMMENI;UDASIA AND VARIA AND PROSGEGRAMMENI",
    "UPSILI AND OXIA AND PROSGEGRAMMENI;UDASIA AND OXIA AND PROSGEGRAMMENI",
    "UPSILI AND PERISPOMENI AND PROSGEGRAMMENI;UDASIA AND PERISPOMENI AND PROSGEGRAMMENI",
    "6SMALL LETTER OMEGA WITH PSILI AND YPOGEGRAMMENI;UDASIA AND YPOGEGRAMMENI",
    "UPSILI AND VARIA AND YPOGEGRAMMENI;UDASIA AND VARIA AND YPOGEGRAMMENI",
    "UPSILI AND OXIA AND YPOGEGRAMMENI;UDASIA AND OXIA AND YPOGEGRAMMENI",
    "UPSILI AND PERISPOMENI AND YPOGEGRAMMENI;UDASIA AND PERISPOMENI AND YPOGEGRAMMENI",
    "6CAPITAL LETTER OMEGA WITH PSILI AND PROSGEGRAMMENI;WDASIA AND PROSGEGRAMMENI",
    "WPSILI AND VARIA AND PROSGEGRAMMENI;WDASIA AND VARIA AND PROSGEGRAMMENI",
    "WPSILI AND OXIA AND PROSGEGRAMMENI;WDASIA AND OXIA AND PROSGEGRAMMENI",
    "WPSILI AND PERISPOMENI AND PROSGEGRAMMENI;WDASIA AND PERISPOMENI AND PROSGEGRAMMENI",
    "6SMALL LETTER ALPHA WITH VRACHY;UMACRON;UVARIA AND YPOGEGRAMMENI;UYPOGEGRAMMENI",
    "UOXIA AND YPOGEGRAMMENI;1FB6=UPERISPOMENI;f AND YPOGEGRAMMENI",
    "6CAPITAL LETTER ALPHA WITH VRACHY;WMACRON;WVARIA;WOXIA;WPROSGEGRAMMENI;6KORONIS",
    "6PROSGEGRAMMENI;7SILI;7ERISPOMENI;6DIALYTIKA AND PERISPOMENI",
    "6SMALL LETTER ETA WITH VARIA AND YPOGEGRAMMENI;SYPOGEGRAMMENI;SOXIA AND YPOGEGRAMMENI",
    "1FC6=SPERISPOMENI;d AND YPOGEGRAMMENI;6CAPITAL LETTER EPSILON WITH VARIA;YOXIA",
    "MTA WITH VARIA;UOXIA;UPROSGEGRAMMENI;6PSILI AND VARIA;GOXIA;GPERISPOMENI",
    "6SMALL LETTER IOTA WITH VRACHY;TMACRON;TDIALYTIKA AND VARIA;hOXIA;1FD6=TPERISPOMENI",
    "TDIALYTIKA AND PERISPOMENI;6CAPITAL LETTER IOTA WITH VRACHY;VMACRON;VVARIA;VOXIA",
    "1FDD=6DASIA AND VARIA;GOXIA;GPERISPOMENI;6SMALL LETTER UPSILON WITH VRACHY;WMACRON",
    "WDIALYTIKA AND VARIA;kOXIA;JRHO WITH PSILI;SDASIA;JUPSILON WITH PERISPOMENI",
    "WDIALYTIKA AND PERISPOMENI;6CAPITAL LETTER UPSILON WITH VRACHY;YMACRON;YVARIA;YOXIA",
    "LRHO WITH DASIA;6DIALYTIKA AND VARIA;KOXIA;6VARIA",
    "1FF2=6SMALL LETTER OMEGA WITH VARIA AND YPOGEGRAMMENI;UYPOGEGRAMMENI;UOXIA AND YPOGEGRAMMENI",
    "1FF6=UPERISPOMENI;f AND YPOGEGRAMMENI;6CAPITAL LETTER OMICRON WITH VARIA;YOXIA",
    "NEGA WITH VARIA;WOXIA;WPROSGEGRAMMENI;6OXIA;6DASIA"]

end RecordDocs.Text
