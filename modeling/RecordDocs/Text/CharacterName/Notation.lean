/-!
# Names of characters: musical and mathematical notation

The names of the characters from 1D000 to 1EFFF, as of Unicode 14, in the short form of name tables.
-/

namespace RecordDocs.Text

def notationNames : List String :=
  ["1D000=0BYZANTINE MUSICAL SYMBOL PSILI;PDASEIA;PPERISPOMENI;POXEIA EKFONITIKON;VDIPLI",
    "PVAREIA EKFONITIKON;WDIPLI;PKATHISTI;PSYRMATIKI;PPARAKLITIKI;PYPOKRISIS;Y DIPLI;PKREMASTI",
    "PAPESO EKFONITIKON;PEXO EKFONITIKON;PTELEIA;PKENTIMATA;PAPOSTROFOS;Z DIPLI;PSYNEVMA;PTHITA",
    "POLIGON ARCHAION;PGORGON ARCHAION;PPSILON;PCHAMILON;PVATHY;PISON ARCHAION;PKENTIMA ARCHAION",
    "WTA ARCHAION;PSAXIMATA;PPARICHON;PSTAVROS APODEXIA;POXEIAI ARCHAION;PVAREIAI ARCHAION",
    "PAPODERMA ARCHAION;STHEMA;PKLASMA;PREVMA;PPIASMA ARCHAION;PTINAGMA;PANATRICHISMA;PSEISMA",
    "QYNAGMA ARCHAION;XMETA STAVROU;POYRANISMA ARCHAION;PTHEMA;PLEMOI;PDYO;PTRIA;QESSERA",
    "PKRATIMATA;PAPESO EXO NEO;PFTHORA ARCHAION;PIMIFTHORA;PTROMIKON ARCHAION;PKATAVA TROMIKON",
    "PPELASTON;QSIFISTON;PKONTEVMA;PCHOREVMA ARCHAION;PRAPISMA;PPARAKALESMA ARCHAION",
    "ULITIKI ARCHAION;PICHADIN;PNANA;PPETASMA;PKONTEVMA ALLO;PTROMIKON ALLO;PSTRAGGISMATA",
    "PGRONTHISMATA;PISON NEO;POLIGON NEO;QXEIA NEO;PPETASTI;PKOUFISMA;PPETASTOKOUFISMA",
    "PKRATIMOKOUFISMA;PPELASTON NEO;PKENTIMATA NEO ANO;W NEO ANO;PYPSILI;PAPOSTROFOS NEO",
    "YI SYNDESMOS NEO;PYPORROI;PKRATIMOYPORROON;PELAFRON;PCHAMILI;PMIKRON ISON;PVAREIA NEO",
    "PPIASMA NEO;QSIFISTON NEO;POMALON;PANTIKENOMA;PLYGISMA;PPARAKLITIKI NEO;UALESMA NEO",
    "PETERON PARAKALESMA;PKYLISMA;PANTIKENOKYLISMA;PTROMIKON NEO;PEKSTREPTON;PSYNAGMA NEO;RRMA",
    "PCHOREVMA NEO;PEPEGERMA;PSEISMA NEO;PXIRON KLASMA;PTROMIKOPSIFISTON;PPSIFISTOLYGISMA",
    "PTROMIKOLYGISMA;WPARAKALESMA;PPSIFISTOPARAKALESMA;PTROMIKOSYNAGMA;PPSIFISTOSYNAGMA",
    "PGORGOSYNTHETON;PARGOSYNTHETON;PETERON ARGOSYNTHETON;POYRANISMA NEO;PTHEMATISMOS ESO;cXO",
    "U APLOUN;SS KAI APOTHES;PKATAVASMA;PENDOFONON;PYFEN KATO;UANO;PSTAVROS;PKLASMA ANO",
    "PDIPLI ARCHAION;PKRATIMA ARCHAION;YLLO;XNEO;PAPODERMA NEO;RLI;PDIPLI;PTRIPLI;QETRAPLI",
    "PKORONIS;PLEIMMA ENOS CHRONOU;WDYO CHRONON;WTRION CHRONON;XESSARON CHRONON;WIMISEOS CHRONOU",
    "PGORGON NEO ANO;WPARESTIGMENON ARISTERA;kDEXIA;PDIGORGON;X PARESTIGMENON ARISTERA KATO;vANO",
    "mDEXIA;PTRIGORGON;PARGON;PIMIDIARGON;PDIARGON;PAGOGI POLI ARGI;VARGOTERI;YI;VMETRIA;XSI",
    "VGORGI;ZOTERI;VPOLI GORGI;PMARTYRIA PROTOS ICHOS;YALLI PROTOS ICHOS;YDEYTEROS ICHOS",
    "YALLI DEYTEROS ICHOS;YTRITOS ICHOS;bFONIAS;ZETARTOS ICHOS;hLEGETOS ICHOS;YLEGETOS ICHOS",
    "YPLAGIOS ICHOS;PISAKIA TELOUS ICHIMATOS;PAPOSTROFOI TELOUS ICHIMATOS;PFANEROSIS TETRAFONIAS",
    "ZMONOFONIAS;ZDIFONIAS;PMARTYRIA VARYS ICHOS;YPROTOVARYS ICHOS;ZLAGIOS TETARTOS ICHOS",
    "PGORTHMIKON N APLOUN;cDIPLOUN;PENARXIS KAI FTHORA VOU;PIMIFONON;TTHORON",
    "PFTHORA ARCHAION DEYTEROU ICHOU;WDIATONIKI PA;gNANA;WNAOS ICHOS;WDIATONIKI DI",
    "WSKLIRON DIATONON DI;WDIATONIKI KE;gZO;gNI KATO;jANO;WMALAKON CHROMA DIFONIAS;lMONOFONIAS",
    "QHTORA SKLIRON CHROMA VASIS;QTHORA SKLIRON CHROMA SYNAFI;WNENANO;PCHROA ZYGOS;VKLITON",
    "VSPATHI;PFTHORA I YFESIS TETARTIMORION;WENARMONIOS ANTIFONIA;PYFESIS TRITIMORION",
    "PDIESIS TRITIMORION;XETARTIMORION;WAPLI DYO DODEKATA;WMONOGRAMMOS TESSERA DODEKATA",
    "WDIGRAMMOS EX DODEKATA;WTRIGRAMMOS OKTO DODEKATA;PYFESIS APLI DYO DODEKATA",
    "WMONOGRAMMOS TESSERA DODEKATA;WDIGRAMMOS EX DODEKATA;WTRIGRAMMOS OKTO DODEKATA",
    "PGENIKI DIESIS;WYFESIS;PDIASTOLI APLI MIKRI;eEGALI;YDIPLI;YTHESEOS;PSIMANSIS THESEOS",
    "f DISIMOU;gTRISIMOU;hETRASIMOU;YARSEOS;e DISIMOU;fTRISIMOU;gETRASIMOU;PDIGRAMMA GG",
    "RFTOGGOS OU;PSTIGMA;PARKTIKO PA;XVOU;XGA;XDI;XKE;XZO;XNI;PKENTIMATA NEO MESO;W NEO MESO",
    "WTA NEO KATO;W NEO KATO;QLASMA KATO;PGORGON NEO KATO;1D100=0MUSICAL SYMBOL SINGLE BARLINE",
    "FDOUBLE BARLINE;FFINAL BARLINE;FREVERSE FINAL BARLINE;FDASHED BARLINE;FSHORT BARLINE",
    "FLEFT REPEAT SIGN;FRIGHT REPEAT SIGN;GEPEAT DOTS;FDAL SEGNO;H CAPO;FSEGNO;FCODA",
    "FREPEATED FIGURE-1;V2;V3;FFERMATA;M BELOW;FBREATH MARK;FCAESURA;FBRACE;JKET;FONE-LINE STAFF",
    "FTWO-LINE STAFF;GHREE-LINE STAFF;FFOUR-LINE STAFF;GIVE-LINE STAFF;FSIX-LINE STAFF",
    "JSTRING FRETBOARD;FFOUR-STRING FRETBOARD;FG CLEF;L OTTAVA ALTA;TBASSA;FC CLEF;FF CLEF",
    "L OTTAVA ALTA;TBASSA;FDRUM CLEF-1;P2;1D129=FMULTIPLE MEASURE REST;FDOUBLE SHARP;MFLAT",
    "FFLAT UP;KDOWN;FNATURAL UP;NDOWN;FSHARP UP;LDOWN;FQUARTER TONE SHARP;SFLAT;FCOMMON TIME",
    "GUT TIME;FOTTAVA ALTA;MBASSA;FQUINDICESIMA ALTA;SBASSA;FMULTI REST;FWHOLE REST;FHALF REST",
    "FQUARTER REST;FEIGHTH REST;FSIXTEENTH REST;FTHIRTY-SECOND REST;FSIXTY-FOURTH REST",
    "FONE HUNDRED TWENTY-EIGHTH REST;FX NOTEHEAD;FPLUS NOTEHEAD;FCIRCLE X NOTEHEAD",
    "FSQUARE NOTEHEAD WHITE;VBLACK;FTRIANGLE NOTEHEAD UP WHITE;aBLACK;XLEFT WHITE;cBLACK",
    "XRIGHT WHITE;dBLACK;XDOWN WHITE;cBLACK;XUP RIGHT WHITE;gBLACK;FMOON NOTEHEAD WHITE;TBLACK",
    "FTRIANGLE-ROUND NOTEHEAD DOWN WHITE;iBLACK;FPARENTHESIS NOTEHEAD;FVOID NOTEHEAD",
    "FNOTEHEAD BLACK;GULL NOTEHEAD;FCLUSTER NOTEHEAD WHITE;WBLACK;FBREVE;FWHOLE NOTE;FHALF NOTE",
    "FQUARTER NOTE;FEIGHTH NOTE;FSIXTEENTH NOTE;FTHIRTY-SECOND NOTE;FSIXTY-FOURTH NOTE",
    "FONE HUNDRED TWENTY-EIGHTH NOTE;FCOMBINING STEM;QPRECHGESANG STEM;PTREMOLO-1;X2;X3",
    "FFINGERED TREMOLO-1;W2;W3;FCOMBINING AUGMENTATION DOT;PFLAG-1;U2;U3;U4;U5;FBEGIN BEAM",
    "FEND BEAM;FBEGIN TIE;FEND TIE;FBEGIN SLUR;FEND SLUR;FBEGIN PHRASE;FEND PHRASE",
    "FCOMBINING ACCENT;PSTACCATO;PTENUTO;PSTACCATISSIMO;PMARCATO;W-STACCATO;PACCENT-STACCATO",
    "PLOURE;FARPEGGIATO UP;QDOWN;FCOMBINING DOIT;PRIP;PFLIP;PSMEAR;PBEND;PDOUBLE TONGUE",
    "PTRIPLE TONGUE;FRINFORZANDO;FSUBITO;FZ;FPIANO;FMEZZO;FFORTE;FCRESCENDO;FDECRESCENDO",
    "FGRACE NOTE SLASH;QNO SLASH;FTR;GURN;FINVERTED TURN;FTURN SLASH;KUP;FORNAMENT STROKE-1;V2;V3",
    "V4;V5;V6;V7;V8;V9;V10;W1;FHAUPTSTIMME;FNEBENSTIMME;FEND OF STIMME;FDEGREE SLASH",
    "FCOMBINING DOWN BOW;PUP BOW;PHARMONIC;PSNAP PIZZICATO;FPEDAL MARK;LUP MARK;FHALF PEDAL MARK",
    "FGLISSANDO UP;PDOWN;FWITH FINGERNAILS;FDAMP;J ALL;FMAXIMA;FLONGA;FBREVIS;FSEMIBREVIS WHITE",
    "QBLACK;FMINIMA;L BLACK;FSEMIMINIMA WHITE;QBLACK;FFUSA WHITE;KBLACK;FLONGA PERFECTA REST",
    "LIMPERFECTA REST;FBREVIS REST;FSEMIBREVIS REST;FMINIMA REST;FSEMIMINIMA REST",
    "FTEMPUS PERFECTUM CUM PROLATIONE PERFECTA;lIMPERFECTA;lPERFECTA DIMINUTION-1",
    "MIMPERFECTUM CUM PROLATIONE PERFECTA;nIMPERFECTA;x DIMINUTION-1;zIMINUTION-2;zIMINUTION-3",
    "FCROIX;FGREGORIAN C CLEF;PF CLEF;FSQUARE B;FVIRGA;FPODATUS;FCLIVIS;FSCANDICUS;FCLIMACUS",
    "FTORCULUS;FPORRECTUS;O FLEXUS;FSCANDICUS FLEXUS;FTORCULUS RESUPINUS;FPES SUBPUNCTIS",
    "FKIEVAN C CLEF;MEND OF PIECE;MFINAL NOTE;MRECITATIVE MARK;MWHOLE NOTE;MHALF NOTE",
    "MQUARTER NOTE STEM DOWN;eUP;MEIGHTH NOTE STEM DOWN;dUP;MFLAT SIGN;FSORI;FKORON",
    "1D200=0GREEK VOCAL NOTATION SYMBOL-1;S2;S3;S4;S5;S6;S7;S8;S9;S10;T1;T2;T3;T4;T5;T6;T7;T8;T9",
    "S20;T1;T2;T3;T4;S50;T1;T2;T3;T4;6INSTRUMENTAL NOTATION SYMBOL-1;Z2;Z4;Z5;Z7;Z8;Z11;a2;a3;a4",
    "a7;a8;a9;Z23;a4;a5;a6;a7;a9;Z30;a2;a6;a7;a8;a9;Z40;a2;a3;a5;a7;a8;a9;Z50;a1;a2;a3;a4",
    "0COMBINING GREEK MUSICAL TRISEME;PETRASEME;OPENTASEME;0GREEK MUSICAL LEIMMA",
    "1D2E0=0MAYAN NUMERAL ZERO;EONE;ETWO;FHREE;EFOUR;FIVE;ESIX;FEVEN;EEIGHT;ENINE;ETEN;EELEVEN",
    "ETWELVE;FHIRTEEN;EFOURTEEN;FIFTEEN;ESIXTEEN;FEVENTEEN;EEIGHTEEN;ENINETEEN",
    "1D300=1ONOGRAM FOR EARTH;0DIGRAM FOR HEAVENLY EARTH;CUMAN EARTH;BEARTHLY HEAVEN;KUMAN;G",
    "0TETRAGRAM FOR CENTRE;EFULL CIRCLE;EMIRED;EBARRIER;EKEEPING SMALL;ECONTRARIETY;EASCENT",
    "EOPPOSITION;EBRANCHING OUT;EDEFECTIVENESS OR DISTORTION;FIVERGENCE;EYOUTHFULNESS;EINCREASE",
    "EPENETRATION;EREACH;ECONTACT;EHOLDING BACK;EWAITING;EFOLLOWING;EADVANCE;ERELEASE;GSISTANCE",
    "EEASE;EJOY;ECONTENTION;EENDEAVOUR;EDUTIES;ECHANGE;EDECISIVENESS;EBOLD RESOLUTION;EPACKING",
    "ELEGION;ECLOSENESS;EKINSHIP;EGATHERING;ESTRENGTH;EPURITY;EFULLNESS;ERESIDENCE;ELAW OR MODEL",
    "ERESPONSE;EGOING TO MEET;EENCOUNTERS;ESTOVE;EGREATNESS;EENLARGEMENT;EPATTERN;ERITUAL;EFLIGHT",
    "EVASTNESS OR WASTING;ECONSTANCY;EMEASURE;EETERNITY;EUNITY;EDIMINISHMENT;ECLOSED MOUTH",
    "EGUARDEDNESS;FATHERING IN;EMASSING;EACCUMULATION;EEMBELLISHMENT;EDOUBT;EWATCH;ESINKING",
    "EINNER;EDEPARTURE;FARKENING;FIMMING;EEXHAUSTION;ESEVERANCE;FTOPPAGE;EHARDNESS;ECOMPLETION",
    "FLOSURE;EFAILURE;EAGGRAVATION;ECOMPLIANCE;EON THE VERGE;EDIFFICULTIES;ELABOURING;EFOSTERING",
    "1D360=0COUNTING ROD UNIT DIGIT ONE;OTWO;PHREE;OFOUR;PIVE;OSIX;PEVEN;OEIGHT;ONINE",
    "DTENS DIGIT ONE;OTWO;PHREE;OFOUR;PIVE;OSIX;PEVEN;OEIGHT;ONINE;0IDEOGRAPHIC TALLY MARK ONE",
    "NTWO;OHREE;NFOUR;OIVE;0TALLY MARK ONE;BFIVE;1D400=0MATHEMATICAL BOLD CAPITAL A;QB;QC;QD;QE",
    "QF;QG;QH;QI;QJ;QK;QL;QM;QN;QO;QP;QQ;QR;QS;QT;QU;QV;QW;QX;QY;QZ;ISMALL A;OB;OC;OD;OE;OF;OG;OH",
    "OI;OJ;OK;OL;OM;ON;OO;OP;OQ;OR;OS;OT;OU;OV;OW;OX;OY;OZ;DITALIC CAPITAL A;SB;SC;SD;SE;SF;SG;SH",
    "SI;SJ;SK;SL;SM;SN;SO;SP;SQ;SR;SS;ST;SU;SV;SW;SX;SY;SZ;KSMALL A;QB;QC;QD;QE;QF;QG;1D456=QI;QJ",
    "QK;QL;QM;QN;QO;QP;QQ;QR;QS;QT;QU;QV;QW;QX;QY;QZ;DBOLD ITALIC CAPITAL A;XB;XC;XD;XE;XF;XG;XH",
    "XI;XJ;XK;XL;XM;XN;XO;XP;XQ;XR;XS;XT;XU;XV;XW;XX;XY;XZ;PSMALL A;VB;VC;VD;VE;VF;VG;VH;VI;VJ;VK",
    "VL;VM;VN;VO;VP;VQ;VR;VS;VT;VU;VV;VW;VX;VY;VZ;DSCRIPT CAPITAL A;1D49E=SC;SD;1D4A2=SG;1D4A5=SJ",
    "SK;1D4A9=SN;SO;SP;SQ;1D4AE=SS;ST;SU;SV;SW;SX;SY;SZ;KSMALL A;QB;QC;QD;1D4BB=QF;1D4BD=QH;QI;QJ",
    "QK;QL;QM;QN;1D4C5=QP;QQ;QR;QS;QT;QU;QV;QW;QX;QY;QZ;DBOLD SCRIPT CAPITAL A;XB;XC;XD;XE;XF;XG",
    "XH;XI;XJ;XK;XL;XM;XN;XO;XP;XQ;XR;XS;XT;XU;XV;XW;XX;XY;XZ;PSMALL A;VB;VC;VD;VE;VF;VG;VH;VI;VJ",
    "VK;VL;VM;VN;VO;VP;VQ;VR;VS;VT;VU;VV;VW;VX;VY;VZ;DFRAKTUR CAPITAL A;TB;1D507=TD;TE;TF;TG",
    "1D50D=TJ;TK;TL;TM;TN;TO;TP;TQ;1D516=TS;TT;TU;TV;TW;TX;TY;1D51E=LSMALL A;RB;RC;RD;RE;RF;RG;RH",
    "RI;RJ;RK;RL;RM;RN;RO;RP;RQ;RR;RS;RT;RU;RV;RW;RX;RY;RZ;DDOUBLE-STRUCK CAPITAL A;ZB;1D53B=ZD",
    "ZE;ZF;ZG;1D540=ZI;ZJ;ZK;ZL;ZM;1D546=ZO;1D54A=ZS;ZT;ZU;ZV;ZW;ZX;ZY;1D552=RSMALL A;XB;XC;XD;XE",
    "XF;XG;XH;XI;XJ;XK;XL;XM;XN;XO;XP;XQ;XR;XS;XT;XU;XV;XW;XX;XY;XZ;DBOLD FRAKTUR CAPITAL A;YB;YC",
    "YD;YE;YF;YG;YH;YI;YJ;YK;YL;YM;YN;YO;YP;YQ;YR;YS;YT;YU;YV;YW;YX;YY;YZ;QSMALL A;WB;WC;WD;WE;WF",
    "WG;WH;WI;WJ;WK;WL;WM;WN;WO;WP;WQ;WR;WS;WT;WU;WV;WW;WX;WY;WZ;DSANS-SERIF CAPITAL A;WB;WC;WD",
    "WE;WF;WG;WH;WI;WJ;WK;WL;WM;WN;WO;WP;WQ;WR;WS;WT;WU;WV;WW;WX;WY;WZ;OSMALL A;UB;UC;UD;UE;UF;UG",
    "UH;UI;UJ;UK;UL;UM;UN;UO;UP;UQ;UR;US;UT;UU;UV;UW;UX;UY;UZ;OBOLD CAPITAL A;bB;bC;bD;bE;bF;bG",
    "bH;bI;bJ;bK;bL;bM;bN;bO;bP;bQ;bR;bS;bT;bU;bV;bW;bX;bY;bZ;TSMALL A;ZB;ZC;ZD;ZE;ZF;ZG;ZH;ZI;ZJ",
    "ZK;ZL;ZM;ZN;ZO;ZP;ZQ;ZR;ZS;ZT;ZU;ZV;ZW;ZX;ZY;ZZ;OITALIC CAPITAL A;dB;dC;dD;dE;dF;dG;dH;dI;dJ",
    "dK;dL;dM;dN;dO;dP;dQ;dR;dS;dT;dU;dV;dW;dX;dY;dZ;VSMALL A;bB;bC;bD;bE;bF;bG;bH;bI;bJ;bK;bL;bM",
    "bN;bO;bP;bQ;bR;bS;bT;bU;bV;bW;bX;bY;bZ;OBOLD ITALIC CAPITAL A;iB;iC;iD;iE;iF;iG;iH;iI;iJ;iK",
    "iL;iM;iN;iO;iP;iQ;iR;iS;iT;iU;iV;iW;iX;iY;iZ;aSMALL A;gB;gC;gD;gE;gF;gG;gH;gI;gJ;gK;gL;gM;gN",
    "gO;gP;gQ;gR;gS;gT;gU;gV;gW;gX;gY;gZ;DMONOSPACE CAPITAL A;VB;VC;VD;VE;VF;VG;VH;VI;VJ;VK;VL;VM",
    "VN;VO;VP;VQ;VR;VS;VT;VU;VV;VW;VX;VY;VZ;NSMALL A;TB;TC;TD;TE;TF;TG;TH;TI;TJ;TK;TL;TM;TN;TO;TP",
    "TQ;TR;TS;TT;TU;TV;TW;TX;TY;TZ;DITALIC SMALL DOTLESS I;YJ;1D6A8=DBOLD CAPITAL ALPHA;QBETA",
    "QGAMMA;QDELTA;QEPSILON;QZETA;QETA;QTHETA;QIOTA;QKAPPA;QLAMDA;QMU;QNU;QXI;QOMICRON;QPI;QRHO",
    "QTHETA SYMBOL;QSIGMA;QTAU;QUPSILON;QPHI;QCHI;QPSI;QOMEGA;INABLA;ISMALL ALPHA;OBETA;OGAMMA",
    "ODELTA;OEPSILON;OZETA;OETA;OTHETA;OIOTA;OKAPPA;OLAMDA;OMU;ONU;OXI;OOMICRON;OPI;ORHO",
    "OFINAL SIGMA;OSIGMA;OTAU;OUPSILON;OPHI;OCHI;OPSI;OOMEGA;IPARTIAL DIFFERENTIAL",
    "IEPSILON SYMBOL;ITHETA SYMBOL;IKAPPA SYMBOL;IPHI SYMBOL;IRHO SYMBOL;IPI SYMBOL",
    "DITALIC CAPITAL ALPHA;SBETA;SGAMMA;SDELTA;SEPSILON;SZETA;SETA;STHETA;SIOTA;SKAPPA;SLAMDA;SMU",
    "SNU;SXI;SOMICRON;SPI;SRHO;STHETA SYMBOL;SSIGMA;STAU;SUPSILON;SPHI;SCHI;SPSI;SOMEGA;KNABLA",
    "KSMALL ALPHA;QBETA;QGAMMA;QDELTA;QEPSILON;QZETA;QETA;QTHETA;QIOTA;QKAPPA;QLAMDA;QMU;QNU;QXI",
    "QOMICRON;QPI;QRHO;QFINAL SIGMA;QSIGMA;QTAU;QUPSILON;QPHI;QCHI;QPSI;QOMEGA",
    "KPARTIAL DIFFERENTIAL;KEPSILON SYMBOL;KTHETA SYMBOL;KKAPPA SYMBOL;KPHI SYMBOL;KRHO SYMBOL",
    "KPI SYMBOL;DBOLD ITALIC CAPITAL ALPHA;XBETA;XGAMMA;XDELTA;XEPSILON;XZETA;XETA;XTHETA;XIOTA",
    "XKAPPA;XLAMDA;XMU;XNU;XXI;XOMICRON;XPI;XRHO;XTHETA SYMBOL;XSIGMA;XTAU;XUPSILON;XPHI;XCHI",
    "XPSI;XOMEGA;PNABLA;PSMALL ALPHA;VBETA;VGAMMA;VDELTA;VEPSILON;VZETA;VETA;VTHETA;VIOTA;VKAPPA",
    "VLAMDA;VMU;VNU;VXI;VOMICRON;VPI;VRHO;VFINAL SIGMA;VSIGMA;VTAU;VUPSILON;VPHI;VCHI;VPSI;VOMEGA",
    "PPARTIAL DIFFERENTIAL;PEPSILON SYMBOL;PTHETA SYMBOL;PKAPPA SYMBOL;PPHI SYMBOL;PRHO SYMBOL",
    "PPI SYMBOL;DSANS-SERIF BOLD CAPITAL ALPHA;bBETA;bGAMMA;bDELTA;bEPSILON;bZETA;bETA;bTHETA",
    "bIOTA;bKAPPA;bLAMDA;bMU;bNU;bXI;bOMICRON;bPI;bRHO;bTHETA SYMBOL;bSIGMA;bTAU;bUPSILON;bPHI",
    "bCHI;bPSI;bOMEGA;TNABLA;TSMALL ALPHA;ZBETA;ZGAMMA;ZDELTA;ZEPSILON;ZZETA;ZETA;ZTHETA;ZIOTA",
    "ZKAPPA;ZLAMDA;ZMU;ZNU;ZXI;ZOMICRON;ZPI;ZRHO;ZFINAL SIGMA;ZSIGMA;ZTAU;ZUPSILON;ZPHI;ZCHI;ZPSI",
    "ZOMEGA;TPARTIAL DIFFERENTIAL;TEPSILON SYMBOL;TTHETA SYMBOL;TKAPPA SYMBOL;TPHI SYMBOL",
    "TRHO SYMBOL;TPI SYMBOL;TITALIC CAPITAL ALPHA;iBETA;iGAMMA;iDELTA;iEPSILON;iZETA;iETA;iTHETA",
    "iIOTA;iKAPPA;iLAMDA;iMU;iNU;iXI;iOMICRON;iPI;iRHO;iTHETA SYMBOL;iSIGMA;iTAU;iUPSILON;iPHI",
    "iCHI;iPSI;iOMEGA;aNABLA;aSMALL ALPHA;gBETA;gGAMMA;gDELTA;gEPSILON;gZETA;gETA;gTHETA;gIOTA",
    "gKAPPA;gLAMDA;gMU;gNU;gXI;gOMICRON;gPI;gRHO;gFINAL SIGMA;gSIGMA;gTAU;gUPSILON;gPHI;gCHI;gPSI",
    "gOMEGA;aPARTIAL DIFFERENTIAL;aEPSILON SYMBOL;aTHETA SYMBOL;aKAPPA SYMBOL;aPHI SYMBOL",
    "aRHO SYMBOL;aPI SYMBOL;DBOLD CAPITAL DIGAMMA;ISMALL DIGAMMA;1D7CE=IDIGIT ZERO;OONE;OTWO",
    "PHREE;OFOUR;PIVE;OSIX;PEVEN;OEIGHT;ONINE;DDOUBLE-STRUCK DIGIT ZERO;XONE;XTWO;YHREE;XFOUR",
    "YIVE;XSIX;YEVEN;XEIGHT;XNINE;DSANS-SERIF DIGIT ZERO;UONE;UTWO;VHREE;UFOUR;VIVE;USIX;VEVEN",
    "UEIGHT;UNINE;OBOLD DIGIT ZERO;ZONE;ZTWO;aHREE;ZFOUR;aIVE;ZSIX;aEVEN;ZEIGHT;ZNINE",
    "DMONOSPACE DIGIT ZERO;TONE;TTWO;UHREE;TFOUR;UIVE;TSIX;UEVEN;TEIGHT;TNINE",
    "0SIGNWRITING HAND-FIST INDEX;HCIRCLE INDEX;IUP INDEX;HOVAL INDEX;HHINGE INDEX;HANGLE INDEX",
    "HFIST INDEX BENT;HCIRCLE INDEX BENT;HFIST THUMB UNDER INDEX BENT;MINDEX RAISED KNUCKLE",
    "SCUPPED;SHINGED;Y LOW;HCIRCLE INDEX HINGE;HFIST INDEX MIDDLE;HCIRCLE INDEX MIDDLE",
    "HFIST INDEX MIDDLE BENT;ZRAISED KNUCKLES;ZHINGED;SUP MIDDLE HINGED;SHINGED MIDDLE UP",
    "SMIDDLE CONJOINED;i INDEX BENT;jMIDDLE BENT;jCUPPED;jHINGED;aROSSED",
    "HCIRCLE INDEX MIDDLE CROSSED;HFIST MIDDLE BENT OVER INDEX;MINDEX BENT OVER MIDDLE",
    "SMIDDLE THUMB;HCIRCLE INDEX MIDDLE THUMB;HFIST INDEX MIDDLE STRAIGHT THUMB BENT",
    "ZBENT THUMB STRAIGHT;ZTHUMB BENT;ZHINGED SPREAD THUMB SIDE;SUP MIDDLE HINGED THUMB SIDE",
    "pCONJOINED;SHINGED MIDDLE UP THUMB SIDE;SMIDDLE UP SPREAD THUMB FORWARD;ZTHUMB CUPPED",
    "gIRCLED;fHOOKED;gINGED;MTHUMB BETWEEN INDEX MIDDLE STRAIGHT",
    "MINDEX MIDDLE CONJOINED THUMB SIDE;t CONJOINED;uBENT;MMIDDLE THUMB HOOKED INDEX UP",
    "MINDEX THUMB HOOKED MIDDLE UP;SMIDDLE CONJOINED HINGED THUMB SIDE;aROSSED THUMB SIDE",
    "aONJOINED THUMB FORWARD;jCUPPED THUMB FORWARD;MMIDDLE THUMB CUPPED INDEX UP",
    "MINDEX THUMB CUPPED MIDDLE UP;MMIDDLE THUMB CIRCLED INDEX UP;nHINGED",
    "MINDEX THUMB ANGLED OUT MIDDLE UP;fIN MIDDLE UP;YCIRCLED MIDDLE UP",
    "SMIDDLE THUMB CONJOINED HINGED;fANGLED OUT;l;MMIDDLE THUMB ANGLED OUT INDEX UP;qCROSSED",
    "gINDEX UP;MINDEX THUMB HOOKED MIDDLE HINGED;ILAT FOUR FINGERS;Y BENT;ZHINGED;ZCONJOINED",
    "i SPLIT;HCLAW FOUR FINGERS CONJOINED;HFIST FOUR FINGERS CONJOINED BENT",
    "HHINGE FOUR FINGERS CONJOINED;HFLAT FIVE FINGERS SPREAD;MHEEL FIVE FINGERS SPREAD",
    "MFIVE FINGERS SPREAD FOUR BENT;MHEEL FIVE FINGERS SPREAD FOUR BENT;MFIVE FINGERS SPREAD BENT",
    "MHEEL FIVE FINGERS SPREAD BENT;MFIVE FINGERS SPREAD THUMB FORWARD;HCUP FIVE FINGERS SPREAD",
    "e OPEN;HHINGE FIVE FINGERS SPREAD OPEN;HOVAL FIVE FINGERS SPREAD",
    "HFLAT FIVE FINGERS SPREAD HINGED;m THUMB SIDE;nNO THUMB;L;L BETWEEN PALM FACINGS;MHEEL",
    "MTHUMB SIDE;MHEEL THUMB SIDE;MTHUMB BENT;SFORWARD;MSPLIT INDEX THUMB SIDE;SCENTRE",
    "Y THUMB SIDE;j BENT;SLITTLE;HCLAW;L THUMB SIDE;MNO THUMB;MTHUMB FORWARD;HHOOK CURLICUE;L",
    "HCUP OPEN;K;K OPEN THUMB SIDE;LTHUMB SIDE;LOPEN NO THUMB;LNO THUMB;LOPEN THUMB FORWARD",
    "LTHUMB FORWARD;JRLICUE OPEN;P;IIRCLE;HOVAL;L THUMB SIDE;MNO THUMB;MTHUMB FORWARD;HHINGE OPEN",
    "R THUMB FORWARD;M;M SMALL;NOPEN THUMB SIDE;NTHUMB SIDE;NOPEN NO THUMB;NNO THUMB",
    "NTHUMB SIDE TOUCHING INDEX;TBETWEEN MIDDLE RING;HANGLE;HFIST INDEX MIDDLE RING",
    "HCIRCLE INDEX MIDDLE RING;HHINGE INDEX MIDDLE RING;HANGLE INDEX MIDDLE RING;HHINGE LITTLE",
    "HFIST INDEX MIDDLE RING BENT;eCONJOINED;HHINGE INDEX MIDDLE RING CONJOINED;HFIST LITTLE DOWN",
    "X RIPPLE STRAIGHT;fCURVED;YOTHERS CIRCLED;TUP;MTHUMB UNDER LITTLE UP;HCIRCLE LITTLE UP",
    "HOVAL LITTLE UP;HANGLE LITTLE UP;HFIST LITTLE RAISED KNUCKLE;TBENT;TTOUCHES THUMB;UHUMB",
    "HHINGE LITTLE THUMB;HFIST LITTLE INDEX THUMB;HHINGE LITTLE INDEX THUMB",
    "HANGLE LITTLE INDEX THUMB INDEX THUMB OUT;r;HFIST LITTLE INDEX;HCIRCLE LITTLE INDEX",
    "HHINGE LITTLE INDEX;HANGLE LITTLE INDEX;HFIST INDEX MIDDLE LITTLE",
    "HCIRCLE INDEX MIDDLE LITTLE;HHINGE INDEX MIDDLE LITTLE;NRING;HANGLE INDEX MIDDLE LITTLE",
    "HFIST INDEX MIDDLE CROSS LITTLE;HCIRCLE INDEX MIDDLE CROSS LITTLE;HFIST RING DOWN",
    "HHINGE RING DOWN INDEX THUMB HOOK MIDDLE;HANGLE RING DOWN MIDDLE THUMB INDEX CROSS",
    "HFIST RING UP;RRAISED KNUCKLE;RLITTLE;HCIRCLE RING LITTLE;HOVAL RING LITTLE",
    "HANGLE RING LITTLE;HFIST RING MIDDLE;X CONJOINED;YRAISED KNUCKLES;RINDEX;RTHUMB",
    "HHOOK RING THUMB;HFIST INDEX RING LITTLE;HCIRCLE INDEX RING LITTLE",
    "IURLICUE INDEX RING LITTLE ON;HHOOK INDEX RING LITTLE OUT;eIN;eUNDER;HCUP INDEX RING LITTLE",
    "HHINGE INDEX RING LITTLE;HANGLE INDEX RING LITTLE OUT;e;HFIST MIDDLE DOWN;HHINGE MIDDLE",
    "HFIST MIDDLE UP;HCIRCLE MIDDLE UP;HFIST MIDDLE RAISED KNUCKLE;TUP THUMB SIDE",
    "HHOOK MIDDLE THUMB;HFIST MIDDLE THUMB LITTLE;TLITTLE;TRING LITTLE;HCIRCLE MIDDLE RING LITTLE",
    "IURLICUE MIDDLE RING LITTLE ON;JP MIDDLE RING LITTLE;HHINGE MIDDLE RING LITTLE",
    "HANGLE MIDDLE RING LITTLE OUT;gIN;f;HCIRCLE MIDDLE RING LITTLE BENT",
    "ILAW MIDDLE RING LITTLE CONJOINED;o SIDE;HHOOK MIDDLE RING LITTLE CONJOINED OUT;pIN;o",
    "IINGE INDEX HINGED;HFIST INDEX THUMB SIDE;HHINGE INDEX THUMB SIDE",
    "HFIST INDEX THUMB SIDE THUMB DIAGONAL;jCONJOINED;jBENT;dINDEX BENT;dBOTH BENT;dINDEX HINGE",
    "YFORWARD INDEX STRAIGHT;mBENT;YHOOK;YCURLICUE;bVE THUMB INSIDE",
    "HCLAW INDEX THUMB CURVE THUMB INSIDE;HFIST INDEX THUMB CURVE THUMB UNDER;ZIRCLE",
    "HCUP INDEX THUMB;W OPEN;HHINGE INDEX THUMB OPEN;ZLARGE;Y;Y SMALL;HANGLE INDEX THUMB OUT;ZIN",
    "Y;HFIST THUMB;R HEEL;SSIDE DIAGONAL;XCONJOINED;XBENT;SFORWARD;SBETWEEN INDEX MIDDLE",
    "aMIDDLE RING;aRING LITTLE;SUNDER TWO FINGERS;SOVER TWO FINGERS;SUNDER THREE FINGERS",
    "YFOUR FINGERS;SOVER FOUR RAISED KNUCKLES;L;L HEEL;CTOUCH SINGLE;IMULTIPLE;IBETWEEN",
    "CGRASP SINGLE;IMULTIPLE;IBETWEEN;CSTRIKE SINGLE;JMULTIPLE;JBETWEEN;CBRUSH SINGLE;IMULTIPLE",
    "IBETWEEN;CRUB SINGLE;GMULTIPLE;GBETWEEN;CSURFACE SYMBOLS;KBETWEEN;DQUEEZE LARGE SINGLE",
    "KSMALL SINGLE;KLARGE MULTIPLE;KSMALL MULTIPLE;LEQUENTIAL;CFLICK LARGE SINGLE;ISMALL SINGLE",
    "ILARGE MULTIPLE;ISMALL MULTIPLE;JEQUENTIAL;CSQUEEZE FLICK ALTERNATING",
    "CMOVEMENT-HINGE UP DOWN LARGE;ZSMALL;USEQUENTIAL;RDOWN SEQUENTIAL;RUP DOWN ALTERNATING LARGE",
    "lSMALL;RSIDE TO SIDE SCISSORS;LWALLPLANE FINGER CONTACT;LFLOORPLANE FINGER CONTACT",
    "LWALLPLANE SINGLE STRAIGHT SMALL;lMEDIUM;lLARGE;qST;cWRIST FLEX;VDOUBLE STRAIGHT;cWRIST FLEX",
    "cALTERNATING;n WRIST FLEX;VCROSS;VTRIPLE STRAIGHT MOVEMENT;cWRIST FLEX;cALTERNATING",
    "n WRIST FLEX;VBEND SMALL;aMEDIUM;aLARGE;VCORNER SMALL;cMEDIUM;cLARGE;cROTATION;WHECK SMALL",
    "bMEDIUM;bLARGE;VBOX SMALL;ZMEDIUM;ZLARGE;VZIGZAG SMALL;cMEDIUM;cLARGE;VPEAKS SMALL;bMEDIUM",
    "bLARGE;CTRAVEL-WALLPLANE ROTATION-WALLPLANE SINGLE;mDOUBLE;mALTERNATING;cFLOORPLANE SINGLE",
    "nDOUBLE;nALTERNATING;TSHAKING;TARM SPIRAL SINGLE;eDOUBLE;eTRIPLE",
    "CMOVEMENT-DIAGONAL AWAY SMALL;ZMEDIUM;ZLARGE;eST;UTOWARDS SMALL;cMEDIUM;cLARGE;hST",
    "UBETWEEN AWAY SMALL;hMEDIUM;hLARGE;mST;cTOWARDS SMALL;kMEDIUM;kLARGE;pST",
    "LFLOORPLANE SINGLE STRAIGHT SMALL;mMEDIUM;mLARGE;rST;dWRIST FLEX;WDOUBLE STRAIGHT",
    "dWRIST FLEX;dALTERNATING;o WRIST FLEX;WCROSS;WTRIPLE STRAIGHT MOVEMENT;dWRIST FLEX",
    "dALTERNATING MOVEMENT;pWRIST FLEX;WBEND;WCORNER SMALL;dMEDIUM;dLARGE;XHECK;WBOX SMALL",
    "aMEDIUM;aLARGE;WZIGZAG SMALL;dMEDIUM;dLARGE;WPEAKS SMALL;cMEDIUM;cLARGE",
    "CTRAVEL-FLOORPLANE ROTATION-FLOORPLANE SINGLE;oDOUBLE;oALTERNATING;dWALLPLANE SINGLE;nDOUBLE",
    "nALTERNATING;USHAKING;CMOVEMENT-WALLPLANE CURVE QUARTER SMALL;jMEDIUM;jLARGE;oST",
    "bHALF-CIRCLE SMALL;nMEDIUM;nLARGE;sST;bTHREE-QUARTER CIRCLE SMALL;wMEDIUM;VHUMP SMALL",
    "aMEDIUM;aLARGE;VLOOP SMALL;aMEDIUM;aLARGE;aSMALL DOUBLE;VWAVE CURVE DOUBLE SMALL;nMEDIUM",
    "nLARGE;gTRIPLE SMALL;nMEDIUM;nLARGE;VCURVE THEN STRAIGHT;aD CROSS SMALL;iMEDIUM",
    "CROTATION-WALLPLANE SINGLE;VDOUBLE;VALTERNATE;CMOVEMENT-WALLPLANE SHAKING",
    "VCURVE HITTING FRONT WALL;VHUMP HITTING FRONT WALL;VLOOP HITTING FRONT WALL",
    "VWAVE HITTING FRONT WALL;CROTATION-WALLPLANE SINGLE HITTING FRONT WALL",
    "VDOUBLE HITTING FRONT WALL;VALTERNATING HITTING FRONT WALL",
    "CMOVEMENT-WALLPLANE CURVE HITTING CHEST;VHUMP HITTING CHEST;VLOOP HITTING CHEST",
    "VWAVE HITTING CHEST;CROTATION-WALLPLANE SINGLE HITTING CHEST;VDOUBLE HITTING CHEST",
    "VALTERNATING HITTING CHEST;CMOVEMENT-WALLPLANE WAVE DIAGONAL PATH SMALL;oMEDIUM;oLARGE",
    "LFLOORPLANE CURVE HITTING CEILING SMALL;sLARGE;WHUMP HITTING CEILING SMALL DOUBLE",
    "rLARGE DOUBLE;rSMALL TRIPLE;rLARGE TRIPLE;WLOOP HITTING CEILING SMALL SINGLE;rLARGE SINGLE",
    "rSMALL DOUBLE;rLARGE DOUBLE;WWAVE HITTING CEILING SMALL;rLARGE",
    "CROTATION-FLOORPLANE SINGLE HITTING CEILING;WDOUBLE HITTING CEILING",
    "WALTERNATING HITTING CEILING;CMOVEMENT-FLOORPLANE CURVE HITTING FLOOR SMALL;qLARGE",
    "WHUMP HITTING FLOOR SMALL DOUBLE;pLARGE DOUBLE;pTRIPLE SMALL TRIPLE;wLARGE TRIPLE",
    "WLOOP HITTING FLOOR SMALL SINGLE;pLARGE SINGLE;pSMALL DOUBLE;pLARGE DOUBLE",
    "WWAVE HITTING FLOOR SMALL;pLARGE;CROTATION-FLOORPLANE SINGLE HITTING FLOOR",
    "WDOUBLE HITTING FLOOR;WALTERNATING HITTING FLOOR;CMOVEMENT-FLOORPLANE CURVE SMALL;cMEDIUM",
    "cLARGE;hST;cCOMBINED;WHUMP SMALL;WLOOP SMALL;WWAVE SNAKE;cMALL;bLARGE",
    "CROTATION-FLOORPLANE SINGLE;WDOUBLE;WALTERNATING;CMOVEMENT-FLOORPLANE SHAKING PARALLEL",
    "LWALLPLANE ARM CIRCLE SMALL SINGLE;gMEDIUM SINGLE;gSMALL DOUBLE;gMEDIUM DOUBLE",
    "LFLOORPLANE ARM CIRCLE HITTING WALL SMALL SINGLE;uMEDIUM SINGLE;uLARGE SINGLE;uSMALL DOUBLE",
    "uMEDIUM DOUBLE;uLARGE DOUBLE;LWALLPLANE WRIST CIRCLE FRONT SINGLE;oDOUBLE",
    "LFLOORPLANE WRIST CIRCLE HITTING WALL SINGLE;wDOUBLE;LWALLPLANE FINGER CIRCLES SINGLE",
    "kDOUBLE;LFLOORPLANE FINGER CIRCLES HITTING WALL SINGLE;yDOUBLE;CDYNAMIC ARROWHEAD SMALL",
    "ULARGE;KFAST;KSLOW;KTENSE;KRELAXED;KSIMULTANEOUS;W ALTERNATING;KEVERY OTHER TIME;KGRADUAL",
    "CHEAD;G RIM;HMOVEMENT-WALLPLANE STRAIGHT;aTILT;QFLOORPLANE STRAIGHT;QWALLPLANE CURVE",
    "QFLOORPLANE CURVE;P CIRCLE;CFACE DIRECTION POSITION NOSE FORWARD TILTING;fUP OR DOWN",
    "p TILTING;CEYEBROWS STRAIGHT UP;UNEUTRAL;UDOWN;CDREAMY EYEBROWS NEUTRAL DOWN;SDOWN NEUTRAL",
    "SUP NEUTRAL;SNEUTRAL UP;CFOREHEAD NEUTRAL;LCONTACT;LWRINKLED;CEYES OPEN;HSQUEEZED;HCLOSED",
    "F BLINK SINGLE;MMULTIPLE;FS HALF OPEN;HWIDE OPEN;HHALF CLOSED;HWIDENING MOVEMENT;F WINK",
    "FLASHES UP;MDOWN;MFLUTTERING;FGAZE-WALLPLANE STRAIGHT;c DOUBLE;dALTERNATING",
    "KFLOORPLANE STRAIGHT;d DOUBLE;eALTERNATING;KWALLPLANE CURVED;KFLOORPLANE CURVED",
    "KWALLPLANE CIRCLING;CCHEEKS PUFFED;JNEUTRAL;JSUCKED;CTENSE CHEEKS HIGH;PMIDDLE;PLOW;CEARS",
    "CNOSE NEUTRAL;HCONTACT;HWRINKLES;IIGGLES;CAIR BLOWING OUT;GSUCKING IN;GBLOW SMALL ROTATIONS",
    "GSUCK SMALL ROTATIONS;CBREATH INHALE;JEXHALE;CMOUTH CLOSED NEUTRAL;PFORWARD;PCONTACT;ISMILE",
    "N WRINKLED;OOPEN;IFROWN;N WRINKLED;OOPEN;IOPEN CIRCLE;NFORWARD;NWRINKLED;NOVAL;R WRINKLED",
    "SYAWN;NRECTANGLE;W WRINKLED;XYAWN;IKISS;M FORWARD;NWRINKLED;ITENSE;N FORWARD;OSUCKED",
    "CLIPS PRESSED TOGETHER;F LOWER OVER UPPER;GUPPER OVER LOWER;CMOUTH CORNERS;IWRINKLES SINGLE",
    "RDOUBLE;CTONGUE STICKING OUT FAR;JLICKING LIPS;JTIP BETWEEN LIPS;NTOUCHING INSIDE MOUTH",
    "JINSIDE MOUTH RELAXED;JMOVES AGAINST CHEEK;JCENTRE STICKING OUT;QINSIDE MOUTH;DEETH",
    "H MOVEMENT;ION TONGUE;R MOVEMENT;LLIPS;P MOVEMENT;IBITE LIPS;CMOVEMENT-WALLPLANE JAW",
    "LFLOORPLANE JAW;CNECK;CHAIR;CEXCITEMENT;CSHOULDER HIP SPINE;PPOSITIONS",
    "CWALLPLANE SHOULDER HIP MOVE;CFLOORPLANE SHOULDER HIP MOVE;CSHOULDER TILTING FROM WAIST",
    "CTORSO-WALLPLANE STRAIGHT STRETCH;SCURVED BEND;IFLOORPLANE TWISTING",
    "CUPPER BODY TILTING FROM HIP JOINTS;CLIMB COMBINATION;HLENGTH-1;O2;O3;O4;O5;O6;O7;CFINGER",
    "CLOCATION-WALLPLANE SPACE;LFLOORPLANE SPACE;K HEIGHT;LWIDTH;LDEPTH;LHEAD NECK;LTORSO",
    "LLIMBS DIGITS;CCOMMA;CFULL STOP;CSEMICOLON;CCOLON;CPARENTHESIS;1DA9B=CFILL MODIFIER-2;Q3;Q4",
    "Q5;Q6;1DAA1=CROTATION MODIFIER-2;U3;U4;U5;U6;U7;U8;U9;U10;V1;V2;V3;V4;V5;V6",
    "1DF00=0LATIN SMALL LETTER FENG DIGRAPH WITH TRILL;JREVERSED SCRIPT G",
    "6LETTER SMALL CAPITAL TURNED G;6SMALL LETTER REVERSED K;6LETTER SMALL CAPITAL L WITH BELT",
    "6SMALL LETTER LEZH WITH RETROFLEX HOOK;JTURNED Y WITH BELT;JREVERSED ENG",
    "JTURNED R WITH LONG LEG AND RETROFLEX HOOK;K WITH HOOK AND RETROFLEX HOOK",
    "6LETTER RETROFLEX CLICK WITH RETROFLEX HOOK;6SMALL LETTER ESH WITH DOUBLE BAR;c AND CURL",
    "JTURNED T WITH CURL;6LETTER INVERTED GLOTTAL STOP WITH CURL;DSTRETCHED C WITH CURL",
    "EMALL CAPITAL TURNED K;6SMALL LETTER L WITH FISHHOOK;JDEZH DIGRAPH WITH PALATAL HOOK",
    "JL WITH BELT AND PALATAL HOOK;JENG WITH PALATAL HOOK;JTURNED R WITH PALATAL HOOK",
    "JR WITH FISHHOOK AND PALATAL HOOK;JTESH DIGRAPH WITH PALATAL HOOK;JEZH WITH PALATAL HOOK",
    "JDEZH DIGRAPH WITH RETROFLEX HOOK;JI WITH STROKE AND RETROFLEX HOOK;JO WITH RETROFLEX HOOK",
    "JTESH DIGRAPH WITH RETROFLEX HOOK;JC WITH RETROFLEX HOOK;JS WITH CURL",
    "1E000=0COMBINING GLAGOLITIC LETTER AZU;SBUKY;SVEDE;SGLAGOLI;SDOBRO;SYESTU;SZHIVETE",
    "1E008=TEMLJA;SIZHE;TNITIAL IZHE;T;SDJERVI;SKAKO;SLJUDIJE;SMYSLITE;SNASHI;SONU;SPOKOJI;SRITSI",
    "SSLOVO;STVRIDO;SUKU;SFRITU;SHERU;1E01B=SSHTA;STSI;SCHRIVI;SSHA;SYERU;VI;TATI;1E023=TU",
    "SSMALL YUS;1E026=SYO;SIOTATED SMALL YUS;SBIG YUS;SIOTATED BIG YUS;SFITA",
    "1E100=0NYIAKENG PUACHUE HMONG LETTER MA;UTSA;UNTA;UTA;UHA;UNA;UXA;UNKA;UCA;ULA;USA;UZA;UNCA",
    "VTSA;UKA;UDA;UNYA;VRA;UVA;UNTXA;UTXA;UFA;URA;UQA;UYA;UNQA;UPA;UXYA;UNPA;UDLA;UNPLA;UHAH;UMLA",
    "UPLA;UGA;URRA;UA;VA;UI;UU;UO;VO;UE;VE;UW;1E130=NTONE-B;SM;SJ;SV;SS;SG;SD;NSIGN FOR PERSON",
    "WTHING;WLOCATION;WANIMAL;WINVERTEBRATE;SXW XW;OYLLABLE LENGTHENER;1E140=NDIGIT ZERO;TONE",
    "TTWO;UHREE;TFOUR;UIVE;TSIX;UEVEN;TEIGHT;TNINE;1E14E=NLOGOGRAM NYAJ;NCIRCLED CA",
    "1E290=0TOTO LETTER PA;CBA;CTA;CDA;CKA;CGA;CMA;CNA;DGA;CSA;CCHA;CYA;CWA;CJA;CHA;CRA;CLA;CI",
    "CBREATHY I;CIU;CBREATHY IU;CU;CE;CBREATHY E;CEO;CBREATHY EO;CO;CAE;CBREATHY AE;CA",
    "5SIGN RISING TONE;1E2C0=0WANCHO LETTER AA;F;EBA;ECA;EDA;EGA;EYA;EPHA;ELA;ENA;EPA;ETA;FHA;EFA",
    "ESA;FHA;EJA;EZA;EWA;EVA;EKA;EO;EAU;ERA;EMA;EKHA;EHA;EE;EI;ENGA;EU;ELLHA;ETSA;FRA;EONG;EAANG",
    "FNG;EING;EON;EEN;EAAN;ENYA;EUEN;EYIH;7TONE TUP;FNI;CKOI;FNI;7DIGIT ZERO;DONE;DTWO;EHREE",
    "DFOUR;EIVE;DSIX;EEVEN;DEIGHT;DNINE;1E2FF=7NGUN SIGN;1E7E0=0ETHIOPIC SYLLABLE HHYA;LU;LI;LAA",
    "LEE;M;LO;1E7E8=IGURAGE HHWA;IHHWI;LEE;M;1E7ED=IGURAGE MWI;REE;1E7F0=PQWI;REE;S;PBWI;REE;PKWI",
    "REE;S;PGWI;REE;S;PFWI;REE;PPWI;REE;1E800=0MENDE KIKAKUI SYLLABLE M001 KI;Q2 KA;Q3 KU;P65 KEE",
    "P95 KE;P76 KOO;P48 KO;O179 KUA;O004 WI;Q5 WA;Q6 WU;O126 WEE;P18 WE;Q4 WOO;O045 WO;O194 WUI",
    "P43 WEI;O061 WVI;P49 WVA;O139 WVE;O007 MIN;Q8 MAN;Q9 MUN;P59 MEN;P94 MON;O154 MUAN;P89 MUEN",
    "O010 BI;Q1 BA;Q2 BU;O150 BEE;O097 BE;O103 BOO;P38 BO;O013 I;Q4 A;Q5 U;O163 EE;P00 E;P65 OO",
    "P47 O;P37 EI;Q1 IN;Q5 IN;P95 AN;P78 EN;O019 SI;P20 SA;Q1 SU;O162 SEE;P16 SE;P36 SOO;O079 SO",
    "O196 SIA;O025 LI;Q6 LA;Q7 LU;P84 LEE;P73 LE;P54 LOO;O153 LO;P10 LONG LE;O016 DI;Q7 DA;Q8 DU",
    "P89 DEE;O180 DOO;Q1 DO;O022 TI;Q3 TA;Q4 TU;P91 TEE;P55 TE;O104 TOO;O069 TO;P28 JI;Q9 JA",
    "P30 JU;O157 JEE;P13 JE;P60 JOO;O063 JO;O175 LONG JO;O031 YI;Q2 YA;Q3 YU;O109 YEE;O080 YE",
    "O141 YOO;P21 YO;O034 FI;Q5 FA;Q6 FU;P78 FEE;Q5 FE;O133 FOO;O088 FO;O197 FUA;P01 FAN;O037 NIN",
    "Q8 NAN;Q9 NUN;O117 NEN;P69 NON;P76 HI;O041 HA;O186 HU;O040 HEE;P96 HE;P42 HOO;O140 HO",
    "O083 HEEI;O128 HOOU;O053 HIN;O130 HAN;O087 HUN;P52 HEN;O193 HON;O046 HUAN;P90 NGGI;P43 NGGA",
    "P82 NGGU;O115 NGGEE;P46 NGGE;P56 NGGOO;P20 NGGO;P59 NGGAA;P27 NGGUA;O086 LONG NGGE",
    "O106 LONG NGGOO;P83 LONG NGGO;P55 GI;P11 GA;P68 GU;P90 GEE;P66 GUEI;Q7 GUAN;P84 NGEN",
    "O057 NGON;O177 NGUAN;O068 PI;P99 PA;P50 PU;P81 PEE;P51 PE;O102 POO;O066 PO;O145 MBI;O062 MBA",
    "O122 MBU;O047 MBEE;O188 MBEE;O072 MBE;O172 MBOO;Q4 MBO;P87 MBUU;P61 LONG MBE;P05 LONG MBOO",
    "P42 LONG MBO;P32 KPI;O092 KPA;P74 KPU;P44 KPEE;O108 KPE;P12 KPOO;P58 KPO;P24 GBI;O056 GBA",
    "O148 GBU;O093 GBEE;O107 GBE;O071 GBOO;Q0 GBO;O171 RA;P23 NDI;Q9 NDA;Q5 NDU;P91 NDEE;P19 NDE",
    "O067 NDOO;Q4 NDO;O152 NJA;P92 NJU;P49 NJEE;P34 NJOO;P82 VI;Q5 VA;P51 VU;P73 VEE;O085 VE",
    "O144 VOO;O077 VO;O164 NYIN;O058 NYAN;O170 NYUN;O098 NYEN;P60 NYON;1E8C7=EDIGIT ONE;KTWO",
    "LHREE;KFOUR;LIVE;KSIX;LEVEN;KEIGHT;KNINE;ECOMBINING NUMBER TEENS;XNS;VHUNDREDS;VTHOUSANDS",
    "WEN THOUSANDS;VHUNDRED THOUSANDS;VMILLIONS;1E900=0ADLAM CAPITAL LETTER ALIF;LDAALI;LLAAM",
    "LMIIM;LBA;LSINNYIIYHE;LPE;LBHE;LRA;LE;LFA;LI;LO;LDHA;LYHE;LWAW;LNUN;LKAF;LYA;LU;LJIIM;LCHI",
    "LHA;LQAAF;LGA;LNYA;LTU;LNHA;LVA;LKHA;LGBE;LZAL;LKPO;LSHA;6SMALL LETTER ALIF;JDAALI;JLAAM",
    "JMIIM;JBA;JSINNYIIYHE;JPE;JBHE;JRA;JE;JFA;JI;JO;JDHA;JYHE;JWAW;JNUN;JKAF;JYA;JU;JJIIM;JCHI",
    "JHA;JQAAF;JGA;JNYA;JTU;JNHA;JVA;JKHA;JGBE;JZAL;JKPO;JSHA;6ALIF LENGTHENER;6VOWEL LENGTHENER",
    "6GEMINATION MARK;6HAMZA;6CONSONANT MODIFIER;6GEMINATE CONSONANT MODIFIER;6NUKTA",
    "7ASALIZATION MARK;1E950=6DIGIT ZERO;CONE;CTWO;DHREE;CFOUR;DIVE;CSIX;DEVEN;CEIGHT;CNINE",
    "1E95E=6INITIAL EXCLAMATION MARK;EQUESTION MARK;1EC71=0INDIC SIYAQ NUMBER ONE;JTWO;KHREE",
    "JFOUR;KIVE;JSIX;KEVEN;JEIGHT;JNINE;JTEN;KWENTY;KHIRTY;JFORTY;KIFTY;JSIXTY;KEVENTY;JEIGHTY",
    "JNINETY;JONE HUNDRED;JTWO HUNDRED;KHREE HUNDRED;JFOUR HUNDRED;KIVE HUNDRED;JSIX HUNDRED",
    "KEVEN HUNDRED;JEIGHT HUNDRED;JNINE HUNDRED;JONE THOUSAND;JTWO THOUSAND;KHREE THOUSAND",
    "JFOUR THOUSAND;KIVE THOUSAND;JSIX THOUSAND;KEVEN THOUSAND;JEIGHT THOUSAND;JNINE THOUSAND",
    "JTEN THOUSAND;KWENTY THOUSAND;KHIRTY THOUSAND;JFORTY THOUSAND;KIFTY THOUSAND;JSIXTY THOUSAND",
    "KEVENTY THOUSAND;JEIGHTY THOUSAND;JNINETY THOUSAND;JLAKH;NAN;CLAKH MARK;CNUMBER KAROR;OAN",
    "JPREFIXED ONE;STWO;THREE;SFOUR;TIVE;SSIX;TEVEN;SEIGHT;SNINE;CPLACEHOLDER",
    "CFRACTION ONE QUARTER;PHALF;LTHREE QUARTERS;CRUPEE MARK;CNUMBER ALTERNATE ONE;TTWO",
    "UEN THOUSAND;CALTERNATE LAKH MARK;1ED01=0OTTOMAN SIYAQ NUMBER ONE;LTWO;MHREE;LFOUR;MIVE;LSIX",
    "MEVEN;LEIGHT;LNINE;LTEN;MWENTY;MHIRTY;LFORTY;MIFTY;LSIXTY;MEVENTY;LEIGHTY;LNINETY",
    "LONE HUNDRED;LTWO HUNDRED;MHREE HUNDRED;LFOUR HUNDRED;MIVE HUNDRED;LSIX HUNDRED",
    "MEVEN HUNDRED;LEIGHT HUNDRED;LNINE HUNDRED;LONE THOUSAND;LTWO THOUSAND;MHREE THOUSAND",
    "LFOUR THOUSAND;MIVE THOUSAND;LSIX THOUSAND;MEVEN THOUSAND;LEIGHT THOUSAND;LNINE THOUSAND",
    "LTEN THOUSAND;MWENTY THOUSAND;MHIRTY THOUSAND;LFORTY THOUSAND;MIFTY THOUSAND;LSIXTY THOUSAND",
    "MEVENTY THOUSAND;LEIGHTY THOUSAND;LNINETY THOUSAND;EMARRATAN;EALTERNATE NUMBER TWO;WHREE",
    "VFOUR;WIVE;VSIX;WEVEN;VEIGHT;VNINE;VTEN;VFOUR HUNDRED;VSIX HUNDRED;VTWO THOUSAND",
    "WEN THOUSAND;EFRACTION ONE HALF;RSIXTH;1EE00=0ARABIC MATHEMATICAL ALEF;KBEH;KJEEM;KDAL",
    "1EE05=KWAW;KZAIN;KHAH;KTAH;KYEH;KKAF;KLAM;KMEEM;KNOON;KSEEN;KAIN;KFEH;KSAD;KQAF;KREH;KSHEEN",
    "KTEH;LHEH;KKHAH;KTHAL;KDAD;KZAH;KGHAIN;KDOTLESS BEH;SNOON;SFEH;SQAF;1EE21=KINITIAL BEH;SJEEM",
    "1EE24=SHEH;1EE27=TAH;1EE29=SYEH;SKAF;SLAM;SMEEM;SNOON;SSEEN;SAIN;SFEH;SSAD;SQAF;1EE34=SSHEEN",
    "STEH;THEH;SKHAH;1EE39=SDAD;1EE3B=SGHAIN;1EE42=KTAILED JEEM;1EE47=RHAH;1EE49=RYEH;1EE4B=RLAM",
    "1EE4D=RNOON;RSEEN;RAIN;1EE51=RSAD;RQAF;1EE54=RSHEEN;1EE57=RKHAH;1EE59=RDAD;1EE5B=RGHAIN",
    "1EE5D=RDOTLESS NOON;1EE5F=ZQAF;1EE61=KSTRETCHED BEH;UJEEM;1EE64=UHEH;1EE67=VAH;UTAH;UYEH",
    "UKAF;1EE6C=UMEEM;UNOON;USEEN;UAIN;UFEH;USAD;UQAF;1EE74=USHEEN;UTEH;VHEH;UKHAH;1EE79=UDAD",
    "UZAH;UGHAIN;UDOTLESS BEH;1EE7E=cFEH;1EE80=KLOOPED ALEF;RBEH;RJEEM;RDAL;RHEH;RWAW;RZAIN;RHAH",
    "RTAH;RYEH;1EE8B=RLAM;RMEEM;RNOON;RSEEN;RAIN;RFEH;RSAD;RQAF;RREH;RSHEEN;RTEH;SHEH;RKHAH;RTHAL",
    "RDAD;RZAH;RGHAIN;1EEA1=KDOUBLE-STRUCK BEH;YJEEM;YDAL;1EEA5=YWAW;YZAIN;YHAH;YTAH;YYEH",
    "1EEAB=YLAM;YMEEM;YNOON;YSEEN;YAIN;YFEH;YSAD;YQAF;YREH;YSHEEN;YTEH;ZHEH;YKHAH;YTHAL;YDAD;YZAH",
    "YGHAIN;1EEF0=KOPERATOR MEEM WITH HAH WITH TATWEEL;THAH WITH DAL"]

end RecordDocs.Text
