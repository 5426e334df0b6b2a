/-!
# Names of characters: game pieces, pictures and tags

The names of the characters from 1F000 on, as of Unicode 14, in the short form of name tables.
-/

namespace RecordDocs.Text

def picturesNames : List String :=
  ["1F000=0MAHJONG TILE EAST WIND;DSOUTH WIND;DWEST WIND;DNORTH WIND;DRED DRAGON;DGREEN DRAGON",
    "DWHITE DRAGON;DONE OF CHARACTERS;DTWO OF CHARACTERS;EHREE OF CHARACTERS;DFOUR OF CHARACTERS",
    "EIVE OF CHARACTERS;DSIX OF CHARACTERS;EEVEN OF CHARACTERS;DEIGHT OF CHARACTERS",
    "DNINE OF CHARACTERS;DONE OF BAMBOOS;DTWO OF BAMBOOS;EHREE OF BAMBOOS;DFOUR OF BAMBOOS",
    "EIVE OF BAMBOOS;DSIX OF BAMBOOS;EEVEN OF BAMBOOS;DEIGHT OF BAMBOOS;DNINE OF BAMBOOS",
    "DONE OF CIRCLES;DTWO OF CIRCLES;EHREE OF CIRCLES;DFOUR OF CIRCLES;EIVE OF CIRCLES",
    "DSIX OF CIRCLES;EEVEN OF CIRCLES;DEIGHT OF CIRCLES;DNINE OF CIRCLES;DPLUM;DORCHID;DBAMBOO",
    "DCHRYSANTHEMUM;DSPRING;EUMMER;DAUTUMN;DWINTER;DJOKER;DBACK",
    "1F030=0DOMINO TILE HORIZONTAL BACK;M-00-00;R1;R2;R3;R4;R5;R6;O1-00;R1;R2;R3;R4;R5;R6;O2-00",
    "R1;R2;R3;R4;R5;R6;O3-00;R1;R2;R3;R4;R5;R6;O4-00;R1;R2;R3;R4;R5;R6;O5-00;R1;R2;R3;R4;R5;R6",
    "O6-00;R1;R2;R3;R4;R5;R6;CVERTICAL BACK;K-00-00;P1;P2;P3;P4;P5;P6;M1-00;P1;P2;P3;P4;P5;P6",
    "M2-00;P1;P2;P3;P4;P5;P6;M3-00;P1;P2;P3;P4;P5;P6;M4-00;P1;P2;P3;P4;P5;P6;M5-00;P1;P2;P3;P4;P5",
    "P6;M6-00;P1;P2;P3;P4;P5;P6;1F0A0=0PLAYING CARD BACK;DACE OF SPADES;DTWO OF SPADES",
    "EHREE OF SPADES;DFOUR OF SPADES;EIVE OF SPADES;DSIX OF SPADES;EEVEN OF SPADES",
    "DEIGHT OF SPADES;DNINE OF SPADES;DTEN OF SPADES;DJACK OF SPADES;DKNIGHT OF SPADES",
    "DQUEEN OF SPADES;DKING OF SPADES;1F0B1=DACE OF HEARTS;DTWO OF HEARTS;EHREE OF HEARTS",
    "DFOUR OF HEARTS;EIVE OF HEARTS;DSIX OF HEARTS;EEVEN OF HEARTS;DEIGHT OF HEARTS",
    "DNINE OF HEARTS;DTEN OF HEARTS;DJACK OF HEARTS;DKNIGHT OF HEARTS;DQUEEN OF HEARTS",
    "DKING OF HEARTS;DRED JOKER;1F0C1=DACE OF DIAMONDS;DTWO OF DIAMONDS;EHREE OF DIAMONDS",
    "DFOUR OF DIAMONDS;EIVE OF DIAMONDS;DSIX OF DIAMONDS;EEVEN OF DIAMONDS;DEIGHT OF DIAMONDS",
    "DNINE OF DIAMONDS;DTEN OF DIAMONDS;DJACK OF DIAMONDS;DKNIGHT OF DIAMONDS;DQUEEN OF DIAMONDS",
    "DKING OF DIAMONDS;DBLACK JOKER;1F0D1=DACE OF CLUBS;DTWO OF CLUBS;EHREE OF CLUBS",
    "DFOUR OF CLUBS;EIVE OF CLUBS;DSIX OF CLUBS;EEVEN OF CLUBS;DEIGHT OF CLUBS;DNINE OF CLUBS",
    "DTEN OF CLUBS;DJACK OF CLUBS;DKNIGHT OF CLUBS;DQUEEN OF CLUBS;DKING OF CLUBS;DWHITE JOKER",
    "DFOOL;DTRUMP-1;J2;J3;J4;J5;J6;J7;J8;J9;J10;K1;K2;K3;K4;K5;K6;K7;K8;K9;J20;K1",
    "1F100=0DIGIT ZERO FULL STOP;BCOMMA;6ONE COMMA;6TWO COMMA;7HREE COMMA;6FOUR COMMA;7IVE COMMA",
    "6SIX COMMA;7EVEN COMMA;6EIGHT COMMA;6NINE COMMA;2NGBAT CIRCLED SANS-SERIF DIGIT ZERO",
    "8NEGATIVE CIRCLED SANS-SERIF DIGIT ZERO;0CIRCLED ZERO WITH SLASH;8ANTICLOCKWISE ARROW",
    "8DOLLAR SIGN WITH OVERLAID BACKSLASH;0PARENTHESIZED LATIN CAPITAL LETTER A;ZB;ZC;ZD;ZE;ZF;ZG",
    "ZH;ZI;ZJ;ZK;ZL;ZM;ZN;ZO;ZP;ZQ;ZR;ZS;ZT;ZU;ZV;ZW;ZX;ZY;ZZ",
    "0TORTOISE SHELL BRACKETED LATIN CAPITAL LETTER S;0CIRCLED ITALIC LATIN CAPITAL LETTER C;aR",
    "8CD;8WZ;1OPYLEFT SYMBOL;0SQUARED LATIN CAPITAL LETTER A;TB;TC;TD;TE;TF;TG;TH;TI;TJ;TK;TL;TM",
    "TN;TO;TP;TQ;TR;TS;TT;TU;TV;TW;TX;TY;TZ;8HV;8MV;8SD;9S;8PPV;8WC",
    "0NEGATIVE CIRCLED LATIN CAPITAL LETTER A;cB;cC;cD;cE;cF;cG;cH;cI;cJ;cK;cL;cM;cN;cO;cP;cQ;cR",
    "cS;cT;cU;cV;cW;cX;cY;cZ;0RAISED MC SIGN;8D SIGN;8R SIGN;0CIRCLED CC",
    "9 WITH OVERLAID BACKSLASH;8HUMAN FIGURE;0NEGATIVE SQUARED LATIN CAPITAL LETTER A;cB;cC;cD;cE",
    "cF;cG;cH;cI;cJ;cK;cL;cM;cN;cO;cP;cQ;cR;cS;cT;cU;cV;cW;cX;cY;cZ",
    "0CROSSED NEGATIVE SQUARED LATIN CAPITAL LETTER P;0NEGATIVE SQUARED IC;HPA;HSA;HAB;HWC",
    "0SQUARE DJ;6D CL;9OOL;8FREE;8ID;8NEW;9G;8OK;8SOS;8UP WITH EXCLAMATION MARK;8VS;8THREE D",
    "8SECOND SCREEN;8TWO K;8FOUR K;8EIGHT K;8FIVE POINT ONE;8SEVEN POINT ONE",
    "8TWENTY-TWO POINT TWO;8SIXTY P;8ONE HUNDRED TWENTY P;8LATIN SMALL LETTER D;8HC;9DR;9I-RES",
    "8LOSSLESS;8SHV;8UHD;8VOD;0MASK WORK SYMBOL;1F1E6=0REGIONAL INDICATOR SYMBOL LETTER A;XB;XC",
    "XD;XE;XF;XG;XH;XI;XJ;XK;XL;XM;XN;XO;XP;XQ;XR;XS;XT;XU;XV;XW;XX;XY;XZ;0SQUARE HIRAGANA HOKA",
    "6D KATAKANA KOKO;HSA;1F210=8CJK UNIFIED IDEOGRAPH-624B;U5B57;V3CC;8KATAKANA DE",
    "8CJK UNIFIED IDEOGRAPH-4E8C;U591A;U89E3;U5929;U4EA4;U6620;U7121;U6599;U524D;VF8C;V18D;U65B0",
    "U521D;U7D42;V51F;U8CA9;U58F0;V439;U6F14;V295;V355;U4E00;X9;U904A;U5DE6;U4E2D;U53F3;U6307",
    "U8D70;U6253;U7981;VA7A;U5408;U6E80;V709;X8;U7533;U5272;V5B6;U914D",
    "1F240=0TORTOISE SHELL BRACKETED CJK UNIFIED IDEOGRAPH-672C;l4E09;n8C;l5B89;l70B9;l6253;l76D7",
    "l52DD;l6557;1F250=0CIRCLED IDEOGRAPH ADVANTAGE;JCCEPT;1F260=0ROUNDED SYMBOL FOR FU;JLU;JSHOU",
    "JXI;JSHUANGXI;JCAI;1F300=0CYCLONE;0FOGGY;0CLOSED UMBRELLA;0NIGHT WITH STARS",
    "0SUNRISE OVER MOUNTAINS;7;0CITYSCAPE AT DUSK;0SUNSET OVER BUILDINGS;0RAINBOW",
    "0BRIDGE AT NIGHT;0WATER WAVE;0VOLCANO;0MILKY WAY;0EARTH GLOBE EUROPE-AFRICA;CAMERICAS",
    "DSIA-AUSTRALIA;0GLOBE WITH MERIDIANS;0NEW MOON SYMBOL;0WAXING CRESCENT MOON SYMBOL",
    "0FIRST QUARTER MOON SYMBOL;0WAXING GIBBOUS MOON SYMBOL;0FULL MOON SYMBOL",
    "0WANING GIBBOUS MOON SYMBOL;0LAST QUARTER MOON SYMBOL;0WANING CRESCENT MOON SYMBOL",
    "0CRESCENT MOON;0NEW MOON WITH FACE;0FIRST QUARTER MOON WITH FACE",
    "0LAST QUARTER MOON WITH FACE;0FULL MOON WITH FACE;0SUN WITH FACE;0GLOWING STAR",
    "0SHOOTING STAR;0THERMOMETER;0BLACK DROPLET;0WHITE SUN;9 WITH SMALL CLOUD;ABEHIND CLOUD",
    "M WITH RAIN;0CLOUD WITH RAIN;BSNOW;BLIGHTNING;BTORNADO;0FOG;0WIND BLOWING FACE;0HOT DOG",
    "0TACO;0BURRITO;0CHESTNUT;0SEEDLING;0EVERGREEN TREE;0DECIDUOUS TREE;0PALM TREE;0CACTUS",
    "0HOT PEPPER;0TULIP;0CHERRY BLOSSOM;0ROSE;0HIBISCUS;0SUNFLOWER;0BLOSSOM;0EAR OF MAIZE;7RICE",
    "0HERB;0FOUR LEAF CLOVER;0MAPLE LEAF;0FALLEN LEAF;0LEAF FLUTTERING IN WIND;0MUSHROOM;0TOMATO",
    "0AUBERGINE;0GRAPES;0MELON;0WATERMELON;0TANGERINE;0LEMON;0BANANA;0PINEAPPLE;0RED APPLE",
    "0GREEN APPLE;0PEAR;3CH;0CHERRIES;0STRAWBERRY;0HAMBURGER;0SLICE OF PIZZA;0MEAT ON BONE",
    "0POULTRY LEG;0RICE CRACKER;5BALL;0COOKED RICE;1URRY AND RICE;0STEAMING BOWL;1PAGHETTI;0BREAD",
    "0FRENCH FRIES;0ROASTED SWEET POTATO;0DANGO;0ODEN;0SUSHI;0FRIED SHRIMP",
    "1ISH CAKE WITH SWIRL DESIGN;0SOFT ICE CREAM;1HAVED ICE;0ICE CREAM;0DOUGHNUT;0COOKIE",
    "1HOCOLATE BAR;1ANDY;0LOLLIPOP;0CUSTARD;0HONEY POT;0SHORTCAKE;0BENTO BOX;0POT OF FOOD",
    "0COOKING;0FORK AND KNIFE;0TEACUP WITHOUT HANDLE;0SAKE BOTTLE AND CUP;0WINE GLASS",
    "0COCKTAIL GLASS;0TROPICAL DRINK;0BEER MUG;0CLINKING BEER MUGS;0BABY BOTTLE",
    "0FORK AND KNIFE WITH PLATE;0BOTTLE WITH POPPING CORK;0POPCORN;0RIBBON;0WRAPPED PRESENT",
    "0BIRTHDAY CAKE;0JACK-O-LANTERN;0CHRISTMAS TREE;0FATHER CHRISTMAS;1IREWORKS;8 SPARKLER",
    "0BALLOON;0PARTY POPPER;0CONFETTI BALL;0TANABATA TREE;0CROSSED FLAGS;0PINE DECORATION",
    "0JAPANESE DOLLS;0CARP STREAMER;0WIND CHIME;0MOON VIEWING CEREMONY;0SCHOOL SATCHEL",
    "0GRADUATION CAP;0HEART WITH TIP ON THE LEFT;0BOUQUET OF FLOWERS;0MILITARY MEDAL",
    "0REMINDER RIBBON;0MUSICAL KEYBOARD WITH JACKS;0STUDIO MICROPHONE;0LEVEL SLIDER",
    "0CONTROL KNOBS;0BEAMED ASCENDING MUSICAL NOTES;7DESCENDING MUSICAL NOTES;0FILM FRAMES",
    "0ADMISSION TICKETS;0CAROUSEL HORSE;0FERRIS WHEEL;0ROLLER COASTER;0FISHING POLE AND FISH",
    "0MICROPHONE;1OVIE CAMERA;0CINEMA;0HEADPHONE;0ARTIST PALETTE;0TOP HAT;0CIRCUS TENT;0TICKET",
    "0CLAPPER BOARD;0PERFORMING ARTS;0VIDEO GAME;0DIRECT HIT;0SLOT MACHINE;0BILLIARDS;0GAME DIE",
    "0BOWLING;0FLOWER PLAYING CARDS;0MUSICAL NOTE;2LTIPLE MUSICAL NOTES;0SAXOPHONE;0GUITAR",
    "0MUSICAL KEYBOARD;0TRUMPET;0VIOLIN;0MUSICAL SCORE;0RUNNING SHIRT WITH SASH",
    "0TENNIS RACQUET AND BALL;0SKI AND SKI BOOT;0BASKETBALL AND HOOP;0CHEQUERED FLAG;0SNOWBOARDER",
    "0RUNNER;0SURFER;1PORTS MEDAL;0TROPHY;0HORSE RACING;0AMERICAN FOOTBALL;0RUGBY FOOTBALL",
    "0SWIMMER;0WEIGHT LIFTER;0GOLFER;0RACING MOTORCYCLE;7CAR;0CRICKET BAT AND BALL;0VOLLEYBALL",
    "0FIELD HOCKEY STICK AND BALL;0ICE HOCKEY STICK AND PUCK;0TABLE TENNIS PADDLE AND BALL",
    "0SNOW CAPPED MOUNTAIN;0CAMPING;0BEACH WITH UMBRELLA;1UILDING CONSTRUCTION;0HOUSE BUILDINGS",
    "0CITYSCAPE;0DERELICT HOUSE BUILDING;0CLASSICAL BUILDING;0DESERT;6 ISLAND;0NATIONAL PARK",
    "0STADIUM;0HOUSE BUILDING;6WITH GARDEN;0OFFICE BUILDING;0JAPANESE POST OFFICE",
    "0EUROPEAN POST OFFICE;0HOSPITAL;0BANK;0AUTOMATED TELLER MACHINE;0HOTEL;0LOVE HOTEL",
    "0CONVENIENCE STORE;0SCHOOL;0DEPARTMENT STORE;0FACTORY;0IZAKAYA LANTERN;0JAPANESE CASTLE",
    "0EUROPEAN CASTLE;0WHITE PENNANT;0BLACK PENNANT;0WAVING WHITE FLAG;7BLACK FLAG;0ROSETTE",
    "0BLACK ROSETTE;0LABEL;0BADMINTON RACQUET AND SHUTTLECOCK;1OW AND ARROW;0AMPHORA",
    "0EMOJI MODIFIER FITZPATRICK TYPE-1-2;W3;W4;W5;W6;0RAT;0MOUSE;0OX;0WATER BUFFALO;0COW;0TIGER",
    "0LEOPARD;0RABBIT;0CAT;0DRAGON;0CROCODILE;0WHALE;0SNAIL;3KE;0HORSE;0RAM;0GOAT;0SHEEP;0MONKEY",
    "0ROOSTER;0CHICKEN;0DOG;0PIG;0BOAR;0ELEPHANT;0OCTOPUS;0SPIRAL SHELL;0BUG;0ANT;0HONEYBEE",
    "0LADY BEETLE;0FISH;0TROPICAL FISH;0BLOWFISH;0TURTLE;0HATCHING CHICK;0BABY CHICK",
    "0FRONT-FACING BABY CHICK;0BIRD;0PENGUIN;0KOALA;0POODLE;0DROMEDARY CAMEL;0BACTRIAN CAMEL",
    "0DOLPHIN;0MOUSE FACE;0COW FACE;0TIGER FACE;0RABBIT FACE;0CAT FACE;0DRAGON FACE",
    "0SPOUTING WHALE;0HORSE FACE;0MONKEY FACE;0DOG FACE;0PIG FACE;0FROG FACE;0HAMSTER FACE",
    "0WOLF FACE;0BEAR FACE;0PANDA FACE;1IG NOSE;1AW PRINTS;0CHIPMUNK;0EYES;3;1AR;0NOSE;0MOUTH",
    "0TONGUE;0WHITE UP POINTING BACKHAND INDEX;6DOWN POINTING BACKHAND INDEX",
    "6LEFT POINTING BACKHAND INDEX;6RIGHT POINTING BACKHAND INDEX;0FISTED HAND SIGN",
    "0WAVING HAND SIGN;0OK HAND SIGN;0THUMBS UP SIGN;7DOWN SIGN;0CLAPPING HANDS SIGN",
    "0OPEN HANDS SIGN;0CROWN;0WOMANS HAT;0EYEGLASSES;0NECKTIE;0T-SHIRT;0JEANS;0DRESS;0KIMONO",
    "0BIKINI;0WOMANS CLOTHES;0PURSE;0HANDBAG;0POUCH;0MANS SHOE;0ATHLETIC SHOE;0HIGH-HEELED SHOE",
    "0WOMANS SANDAL;7BOOTS;0FOOTPRINTS;0BUST IN SILHOUETTE;4S IN SILHOUETTE;1OY;0GIRL;0MAN;0WOMAN",
    "0FAMILY;0MAN AND WOMAN HOLDING HANDS;0TWO MEN HOLDING HANDS;4WOMEN HOLDING HANDS",
    "0POLICE OFFICER;0WOMAN WITH BUNNY EARS;0BRIDE WITH VEIL;0PERSON WITH BLOND HAIR",
    "0MAN WITH GUA PI MAO;9TURBAN;0OLDER MAN;6WOMAN;0BABY;0CONSTRUCTION WORKER;0PRINCESS",
    "0JAPANESE OGRE;9GOBLIN;0GHOST;0BABY ANGEL;0EXTRATERRESTRIAL ALIEN;0ALIEN MONSTER;0IMP;0SKULL",
    "0INFORMATION DESK PERSON;0GUARDSMAN;0DANCER;0LIPSTICK;0NAIL POLISH;0FACE MASSAGE;0HAIRCUT",
    "0BARBER POLE;0SYRINGE;0PILL;0KISS MARK;0LOVE LETTER;0RING;0GEM STONE;0KISS;0BOUQUET",
    "0COUPLE WITH HEART;0WEDDING;0BEATING HEART;1ROKEN HEART;0TWO HEARTS;0SPARKLING HEART",
    "0GROWING HEART;0HEART WITH ARROW;0BLUE HEART;0GREEN HEART;0YELLOW HEART;0PURPLE HEART",
    "0HEART WITH RIBBON;0REVOLVING HEARTS;0HEART DECORATION;0DIAMOND SHAPE WITH A DOT INSIDE",
    "0ELECTRIC LIGHT BULB;0ANGER SYMBOL;0BOMB;0SLEEPING SYMBOL;0COLLISION SYMBOL",
    "0SPLASHING SWEAT SYMBOL;0DROPLET;1ASH SYMBOL;0PILE OF POO;0FLEXED BICEPS;0DIZZY SYMBOL",
    "0SPEECH BALLOON;0THOUGHT BALLOON;0WHITE FLOWER;0HUNDRED POINTS SYMBOL;0MONEY BAG",
    "0CURRENCY EXCHANGE;0HEAVY DOLLAR SIGN;0CREDIT CARD;0BANKNOTE WITH YEN SIGN;EDOLLAR SIGN",
    "EEURO SIGN;EPOUND SIGN;0MONEY WITH WINGS;0CHART WITH UPWARDS TREND AND YEN SIGN;0SEAT",
    "0PERSONAL COMPUTER;0BRIEFCASE;0MINIDISC;0FLOPPY DISK;0OPTICAL DISC;0DVD;0FILE FOLDER",
    "0OPEN FILE FOLDER;0PAGE WITH CURL;5FACING UP;0CALENDAR;0TEAR-OFF CALENDAR;0CARD INDEX",
    "1HART WITH UPWARDS TREND;BDOWNWARDS TREND;0BAR CHART;0CLIPBOARD;0PUSHPIN;0ROUND PUSHPIN",
    "0PAPERCLIP;0STRAIGHT RULER;0TRIANGULAR RULER;0BOOKMARK TABS;0LEDGER;0NOTEBOOK",
    "8 WITH DECORATIVE COVER;0CLOSED BOOK;0OPEN BOOK;0GREEN BOOK;0BLUE BOOK;0ORANGE BOOK;0BOOKS",
    "0NAME BADGE;0SCROLL;0MEMO;0TELEPHONE RECEIVER;0PAGER;0FAX MACHINE;0SATELLITE ANTENNA",
    "0PUBLIC ADDRESS LOUDSPEAKER;0CHEERING MEGAPHONE;0OUTBOX TRAY;0INBOX TRAY;0PACKAGE",
    "0E-MAIL SYMBOL;0INCOMING ENVELOPE;0ENVELOPE WITH DOWNWARDS ARROW ABOVE",
    "0CLOSED MAILBOX WITH LOWERED FLAG;KRAISED FLAG;0OPEN MAILBOX WITH RAISED FLAG;ILOWERED FLAG",
    "0POSTBOX;4AL HORN;0NEWSPAPER;0MOBILE PHONE;C WITH RIGHTWARDS ARROW AT LEFT;0VIBRATION MODE",
    "0MOBILE PHONE OFF;0NO MOBILE PHONES;0ANTENNA WITH BARS;0CAMERA;6 WITH FLASH;0VIDEO CAMERA",
    "0TELEVISION;0RADIO;0VIDEOCASSETTE;0FILM PROJECTOR;0PORTABLE STEREO;1RAYER BEADS",
    "0TWISTED RIGHTWARDS ARROWS;0CLOCKWISE RIGHTWARDS AND LEFTWARDS OPEN CIRCLE ARROWS",
    "r WITH CIRCLED ONE OVERLAY;ADOWNWARDS AND UPWARDS OPEN CIRCLE ARROWS",
    "0ANTICLOCKWISE DOWNWARDS AND UPWARDS OPEN CIRCLE ARROWS;0LOW BRIGHTNESS SYMBOL",
    "0HIGH BRIGHTNESS SYMBOL;0SPEAKER WITH CANCELLATION STROKE;7;7 WITH ONE SOUND WAVE",
    "DTHREE SOUND WAVES;0BATTERY;0ELECTRIC PLUG;0LEFT-POINTING MAGNIFYING GLASS",
    "0RIGHT-POINTING MAGNIFYING GLASS;0LOCK WITH INK PEN;0CLOSED LOCK WITH KEY;0KEY;0LOCK",
    "0OPEN LOCK;0BELL;4 WITH CANCELLATION STROKE;1OOKMARK;0LINK SYMBOL;0RADIO BUTTON",
    "0BACK WITH LEFTWARDS ARROW ABOVE;0END WITH LEFTWARDS ARROW ABOVE",
    "0ON WITH EXCLAMATION MARK WITH LEFT RIGHT ARROW ABOVE;0SOON WITH RIGHTWARDS ARROW ABOVE",
    "0TOP WITH UPWARDS ARROW ABOVE;0NO ONE UNDER EIGHTEEN SYMBOL;0KEYCAP TEN",
    "0INPUT SYMBOL FOR LATIN CAPITAL LETTERS;NSMALL LETTERS;HNUMBERS;HSYMBOLS;HLATIN LETTERS",
    "0FIRE;0ELECTRIC TORCH;0WRENCH;0HAMMER;0NUT AND BOLT;0HOCHO;0PISTOL;0MICROSCOPE;0TELESCOPE",
    "0CRYSTAL BALL;0SIX POINTED STAR WITH MIDDLE DOT;0JAPANESE SYMBOL FOR BEGINNER",
    "0TRIDENT EMBLEM;0BLACK SQUARE BUTTON;0WHITE SQUARE BUTTON;0LARGE RED CIRCLE;6BLUE CIRCLE",
    "6ORANGE DIAMOND;6BLUE DIAMOND;0SMALL ORANGE DIAMOND;6BLUE DIAMOND;0UP-POINTING RED TRIANGLE",
    "0DOWN-POINTING RED TRIANGLE;0UP-POINTING SMALL RED TRIANGLE",
    "0DOWN-POINTING SMALL RED TRIANGLE;0LOWER RIGHT SHADOWED WHITE CIRCLE",
    "0UPPER RIGHT SHADOWED WHITE CIRCLE;0CIRCLED CROSS POMMEE;1ROSS POMMEE WITH HALF-CIRCLE BELOW",
    "C;0NOTCHED LEFT SEMICIRCLE WITH THREE DOTS;8RIGHT SEMICIRCLE WITH THREE DOTS",
    "0SYMBOL FOR MARKS CHAPTER;0WHITE LATIN CROSS;0HEAVY LATIN CROSS;0CELTIC CROSS;0OM SYMBOL",
    "0DOVE OF PEACE;0KAABA;0MOSQUE;0SYNAGOGUE;0MENORAH WITH NINE BRANCHES;0BOWL OF HYGIEIA",
    "0CLOCK FACE ONE OCLOCK;BTWO OCLOCK;CHREE OCLOCK;BFOUR OCLOCK;CIVE OCLOCK;BSIX OCLOCK",
    "CEVEN OCLOCK;BEIGHT OCLOCK;BNINE OCLOCK;BTEN OCLOCK;BELEVEN OCLOCK;BTWELVE OCLOCK",
    "BONE-THIRTY;BTWO-THIRTY;CHREE-THIRTY;BFOUR-THIRTY;CIVE-THIRTY;BSIX-THIRTY;CEVEN-THIRTY",
    "BEIGHT-THIRTY;BNINE-THIRTY;BTEN-THIRTY;BELEVEN-THIRTY;BTWELVE-THIRTY;0RIGHT SPEAKER",
    "D WITH ONE SOUND WAVE;JTHREE SOUND WAVES;0BULLHORN;8 WITH SOUND WAVES;0RINGING BELL;0BOOK",
    "0CANDLE;0MANTELPIECE CLOCK;0BLACK SKULL AND CROSSBONES;0NO PIRACY;0HOLE",
    "0MAN IN BUSINESS SUIT LEVITATING;0SLEUTH OR SPY;0DARK SUNGLASSES;0SPIDER;6 WEB;0JOYSTICK",
    "0MAN DANCING;0LEFT HAND TELEPHONE RECEIVER;0TELEPHONE RECEIVER WITH PAGE",
    "0RIGHT HAND TELEPHONE RECEIVER;0WHITE TOUCHTONE TELEPHONE;0BLACK TOUCHTONE TELEPHONE",
    "0TELEPHONE ON TOP OF MODEM;0CLAMSHELL MOBILE PHONE;0BACK OF ENVELOPE;0STAMPED ENVELOPE",
    "0ENVELOPE WITH LIGHTNING;0FLYING ENVELOPE;0PEN OVER STAMPED ENVELOPE;0LINKED PAPERCLIPS",
    "0BLACK PUSHPIN;0LOWER LEFT PENCIL;BBALLPOINT PEN;BFOUNTAIN PEN;BPAINTBRUSH;BCRAYON",
    "1EFT WRITING HAND;0TURNED OK HAND SIGN;0RAISED HAND WITH FINGERS SPLAYED",
    "1EVERSED RAISED HAND WITH FINGERS SPLAYED;9THUMBS UP SIGN;GDOWN SIGN;9VICTORY HAND",
    "9HAND WITH MIDDLE FINGER EXTENDED;1AISED HAND WITH PART BETWEEN MIDDLE AND RING FINGERS",
    "0WHITE DOWN POINTING LEFT HAND INDEX;0SIDEWAYS WHITE LEFT POINTING INDEX",
    "FRIGHT POINTING INDEX;9BLACK LEFT POINTING INDEX;FRIGHT POINTING INDEX",
    "0BLACK LEFT POINTING BACKHAND INDEX;6RIGHT POINTING BACKHAND INDEX",
    "0SIDEWAYS WHITE UP POINTING INDEX;FDOWN POINTING INDEX;9BLACK UP POINTING INDEX",
    "FDOWN POINTING INDEX;0BLACK UP POINTING BACKHAND INDEX;6DOWN POINTING BACKHAND INDEX;6HEART",
    "0DESKTOP COMPUTER;0KEYBOARD AND MOUSE;0THREE NETWORKED COMPUTERS;0PRINTER;1OCKET CALCULATOR",
    "0BLACK HARD SHELL FLOPPY DISK;0WHITE HARD SHELL FLOPPY DISK;0SOFT SHELL FLOPPY DISK",
    "0TAPE CARTRIDGE;0WIRED KEYBOARD;0ONE BUTTON MOUSE;0TWO BUTTON MOUSE;1HREE BUTTON MOUSE",
    "1RACKBALL;0OLD PERSONAL COMPUTER;0HARD DISK;0SCREEN;0PRINTER ICON;0FAX ICON",
    "0OPTICAL DISC ICON;0DOCUMENT WITH TEXT;I AND PICTURE;EPICTURE;0FRAME WITH PICTURE;BTILES",
    "BAN X;0BLACK FOLDER;0FOLDER;0OPEN FOLDER;0CARD INDEX DIVIDERS;5FILE BOX;0FILE CABINET",
    "0EMPTY NOTE;A PAGE;DD;0NOTE;4 PAGE;7D;0EMPTY DOCUMENT;6PAGE;AS;0DOCUMENT;0PAGE;4S",
    "0WASTEBASKET;0SPIRAL NOTE PAD;7CALENDAR PAD;0DESKTOP WINDOW;0MINIMIZE;1AXIMIZE;0OVERLAP",
    "0CLOCKWISE RIGHT AND LEFT SEMICIRCLE ARROWS;1ANCELLATION X;0INCREASE FONT SIZE SYMBOL",
    "0DECREASE FONT SIZE SYMBOL;0COMPRESSION;0OLD KEY;0ROLLED-UP NEWSPAPER",
    "0PAGE WITH CIRCLED TEXT;0STOCK CHART;0DAGGER KNIFE;0LIPS;0SPEAKING HEAD IN SILHOUETTE",
    "0THREE RAYS ABOVE;BBELOW;BLEFT;BRIGHT;0LEFT SPEECH BUBBLE;0RIGHT SPEECH BUBBLE",
    "0TWO SPEECH BUBBLES;1HREE SPEECH BUBBLES;0LEFT THOUGHT BUBBLE;0RIGHT THOUGHT BUBBLE",
    "0LEFT ANGER BUBBLE;0RIGHT ANGER BUBBLE;0MOOD BUBBLE;0LIGHTNING MOOD BUBBLE;E",
    "0BALLOT BOX WITH BALLOT;7SCRIPT X;7BOX WITH SCRIPT X;9LD SCRIPT X;9X WITH BOLD SCRIPT X",
    "0LIGHT CHECK MARK;0BALLOT BOX WITH BOLD CHECK;0WORLD MAP;0MOUNT FUJI;0TOKYO TOWER",
    "0STATUE OF LIBERTY;1ILHOUETTE OF JAPAN;0MOYAI;0GRINNING FACE;D WITH SMILING EYES",
    "0FACE WITH TEARS OF JOY;0SMILING FACE WITH OPEN MOUTH;S AND SMILING EYES;XCOLD SWEAT",
    "XTIGHTLY-CLOSED EYES;IHALO;JORNS;0WINKING FACE;0SMILING FACE WITH SMILING EYES",
    "0FACE SAVOURING DELICIOUS FOOD;0RELIEVED FACE;0SMILING FACE WITH HEART-SHAPED EYES",
    "ISUNGLASSES;3RKING FACE;0NEUTRAL FACE;0EXPRESSIONLESS FACE;0UNAMUSED FACE",
    "0FACE WITH COLD SWEAT;0PENSIVE FACE;0CONFUSED FACE;4OUNDED FACE;0KISSING FACE",
    "0FACE THROWING A KISS;0KISSING FACE WITH SMILING EYES;ICLOSED EYES",
    "0FACE WITH STUCK-OUT TONGUE;Q AND WINKING EYE;VTIGHTLY-CLOSED EYES;0DISAPPOINTED FACE",
    "0WORRIED FACE;0ANGRY FACE;0POUTING FACE;0CRYING FACE;0PERSEVERING FACE",
    "0FACE WITH LOOK OF TRIUMPH;0DISAPPOINTED BUT RELIEVED FACE;0FROWNING FACE WITH OPEN MOUTH",
    "0ANGUISHED FACE;0FEARFUL FACE;0WEARY FACE;0SLEEPY FACE;0TIRED FACE;0GRIMACING FACE",
    "0LOUDLY CRYING FACE;0FACE WITH OPEN MOUTH;0HUSHED FACE;0FACE WITH OPEN MOUTH AND COLD SWEAT",
    "5SCREAMING IN FEAR;0ASTONISHED FACE;0FLUSHED FACE;0SLEEPING FACE;0DIZZY FACE",
    "0FACE WITHOUT MOUTH;9 MEDICAL MASK;0GRINNING CAT FACE WITH SMILING EYES",
    "0CAT FACE WITH TEARS OF JOY;0SMILING CAT FACE WITH OPEN MOUTH;MHEART-SHAPED EYES",
    "0CAT FACE WITH WRY SMILE;0KISSING CAT FACE WITH CLOSED EYES;0POUTING CAT FACE",
    "0CRYING CAT FACE;0WEARY CAT FACE;0SLIGHTLY FROWNING FACE;9SMILING FACE;0UPSIDE-DOWN FACE",
    "0FACE WITH ROLLING EYES;ANO GOOD GESTURE;AOK GESTURE;0PERSON BOWING DEEPLY",
    "0SEE-NO-EVIL MONKEY;0HEAR-NO-EVIL MONKEY;0SPEAK-NO-EVIL MONKEY",
    "0HAPPY PERSON RAISING ONE HAND;0PERSON RAISING BOTH HANDS IN CELEBRATION;7FROWNING",
    "7WITH POUTING FACE;CFOLDED HANDS;0NORTH WEST POINTING LEAF;0SOUTH WEST POINTING LEAF",
    "0NORTH EAST POINTING LEAF;0SOUTH EAST POINTING LEAF;0TURNED NORTH WEST POINTING LEAF",
    "7SOUTH WEST POINTING LEAF;7NORTH EAST POINTING LEAF;7SOUTH EAST POINTING LEAF",
    "0NORTH WEST POINTING VINE LEAF;0SOUTH WEST POINTING VINE LEAF;0NORTH EAST POINTING VINE LEAF",
    "0SOUTH EAST POINTING VINE LEAF;0HEAVY NORTH WEST POINTING VINE LEAF",
    "6SOUTH WEST POINTING VINE LEAF;6NORTH EAST POINTING VINE LEAF;6SOUTH EAST POINTING VINE LEAF",
    "0NORTH WEST POINTING BUD;0SOUTH WEST POINTING BUD;0NORTH EAST POINTING BUD",
    "0SOUTH EAST POINTING BUD;0HEAVY NORTH WEST POINTING BUD;6SOUTH WEST POINTING BUD",
    "6NORTH EAST POINTING BUD;6SOUTH EAST POINTING BUD;1OLLOW QUILT SQUARE ORNAMENT",
    "S IN BLACK SQUARE;0SOLID QUILT SQUARE ORNAMENT;R IN BLACK SQUARE;0LEFTWARDS ROCKET",
    "0UPWARDS ROCKET;0RIGHTWARDS ROCKET;0DOWNWARDS ROCKET;0SCRIPT LIGATURE ET ORNAMENT",
    "0HEAVY SCRIPT LIGATURE ET ORNAMENT;0LIGATURE OPEN ET ORNAMENT",
    "0HEAVY LIGATURE OPEN ET ORNAMENT;6AMPERSAND ORNAMENT;0SWASH AMPERSAND ORNAMENT",
    "1ANS-SERIF HEAVY DOUBLE TURNED COMMA QUOTATION MARK ORNAMENT;OCOMMA QUOTATION MARK ORNAMENT",
    "HLOW DOUBLE COMMA QUOTATION MARK ORNAMENT;0HEAVY INTERROBANG ORNAMENT",
    "0SANS-SERIF INTERROBANG ORNAMENT;0HEAVY SANS-SERIF INTERROBANG ORNAMENT;0VERY HEAVY SOLIDUS",
    "BREVERSE SOLIDUS;0CHECKER BOARD;0REVERSE CHECKER BOARD;1OCKET;0HELICOPTER;0STEAM LOCOMOTIVE",
    "0RAILWAY CAR;0HIGH-SPEED TRAIN;G WITH BULLET NOSE;0TRAIN;0METRO;0LIGHT RAIL;0STATION;0TRAM",
    "4 CAR;0BUS;0ONCOMING BUS;0TROLLEYBUS;0BUS STOP;0MINIBUS;0AMBULANCE;0FIRE ENGINE;0POLICE CAR",
    "0ONCOMING POLICE CAR;0TAXI;0ONCOMING TAXI;0AUTOMOBILE;0ONCOMING AUTOMOBILE",
    "0RECREATIONAL VEHICLE;0DELIVERY TRUCK;0ARTICULATED LORRY;0TRACTOR;0MONORAIL;2UNTAIN RAILWAY",
    "0SUSPENSION RAILWAY;0MOUNTAIN CABLEWAY;0AERIAL TRAMWAY;0SHIP;0ROWBOAT;0SPEEDBOAT",
    "0HORIZONTAL TRAFFIC LIGHT;0VERTICAL TRAFFIC LIGHT;0CONSTRUCTION SIGN",
    "0POLICE CARS REVOLVING LIGHT;0TRIANGULAR FLAG ON POST;0DOOR;0NO ENTRY SIGN;0SMOKING SYMBOL",
    "0NO SMOKING SYMBOL;0PUT LITTER IN ITS PLACE SYMBOL;0DO NOT LITTER SYMBOL",
    "0POTABLE WATER SYMBOL;0NON-POTABLE WATER SYMBOL;0BICYCLE;0NO BICYCLES;0BICYCLIST",
    "0MOUNTAIN BICYCLIST;0PEDESTRIAN;0NO PEDESTRIANS;0CHILDREN CROSSING;0MENS SYMBOL",
    "0WOMENS SYMBOL;0RESTROOM;0BABY SYMBOL;0TOILET;0WATER CLOSET;0SHOWER;0BATH;4TUB",
    "0PASSPORT CONTROL;0CUSTOMS;0BAGGAGE CLAIM;0LEFT LUGGAGE;0TRIANGLE WITH ROUNDED CORNERS",
    "0PROHIBITED SIGN;0CIRCLED INFORMATION SOURCE;0BOYS SYMBOL;0GIRLS SYMBOL;0COUCH AND LAMP",
    "0SLEEPING ACCOMMODATION;1HOPPING BAGS;0BELLHOP BELL;2D;0PLACE OF WORSHIP;0OCTAGONAL SIGN",
    "0SHOPPING TROLLEY;1TUPA;0PAGODA;0HINDU TEMPLE;1UT;0ELEVATOR;1F6DD=0PLAYGROUND SLIDE;0WHEEL",
    "0RING BUOY;0HAMMER AND WRENCH;0SHIELD;0OIL DRUM;0MOTORWAY;0RAILWAY TRACK;0MOTOR BOAT",
    "0UP-POINTING MILITARY AIRPLANE;CAIRPLANE;CSMALL AIRPLANE;0SMALL AIRPLANE",
    "0NORTHEAST-POINTING AIRPLANE;0AIRPLANE DEPARTURE;9ARRIVING;1F6F0=0SATELLITE",
    "0ONCOMING FIRE ENGINE;0DIESEL LOCOMOTIVE;0PASSENGER SHIP;0SCOOTER;0MOTOR SCOOTER;0CANOE",
    "0SLED;0FLYING SAUCER;0SKATEBOARD;0AUTO RICKSHAW;0PICKUP TRUCK;0ROLLER SKATE",
    "1F700=0ALCHEMICAL SYMBOL FOR QUINTESSENCE;MAIR;MFIRE;MEARTH;MWATER;MAQUAFORTIS;Q REGIA;W-2",
    "RVITAE;W-2;MVINEGAR;T-2;U3;MSULFUR;MPHILOSOPHERS SULFUR;MBLACK SULFUR;MMERCURY SUBLIMATE;d-2",
    "e3;MCINNABAR;MSALT;MNITRE;MVITRIOL;T-2;MROCK SALT;V-2;MGOLD;MSILVER;MIRON ORE;U-2",
    "MCROCUS OF IRON;MREGULUS OF IRON;MCOPPER ORE;MIRON-COPPER ORE;MSUBLIMATE OF COPPER",
    "MCROCUS OF COPPER;c-2;NOPPER ANTIMONIATE;MSALT OF COPPER ANTIMONIATE",
    "NUBLIMATE OF SALT OF COPPER;MVERDIGRIS;MTIN ORE;MLEAD ORE;MANTIMONY ORE",
    "MSUBLIMATE OF ANTIMONY;NALT OF ANTIMONY;NUBLIMATE OF SALT OF ANTIMONY;MVINEGAR OF ANTIMONY",
    "MREGULUS OF ANTIMONY;f-2;T;T-2;U3;U4;MALKALI;S-2;MMARCASITE;MSAL-AMMONIAC;MARSENIC;MREALGAR",
    "T-2;MAURIPIGMENT;MBISMUTH ORE;MTARTAR;S-2;MQUICK LIME;MBORAX;R-2;S3;MALUM;MOIL;MSPIRIT",
    "MTINCTURE;MGUM;MWAX;MPOWDER;MCALX;MTUTTY;MCAPUT MORTUUM;MSCEPTER OF JOVE;MCADUCEUS;MTRIDENT",
    "MSTARRED TRIDENT;MLODESTONE;MSOAP;MURINE;MHORSE DUNG;MASHES;MPOT ASHES;MBRICK",
    "MPOWDERED BRICK;MAMALGAM;MSTRATUM SUPER STRATUM;h-2;NUBLIMATION;MPRECIPITATE;MDISTILL;PSOLVE",
    "U-2;MPURIFY;OTREFACTION;MCRUCIBLE;U-2;V3;V4;V5;MALEMBIC;MBATH OF MARY;UVAPOURS;MRETORT;MHOUR",
    "MNIGHT;MDAY-NIGHT;MMONTH;MHALF DRAM;ROUNCE",
    "1F780=0BLACK LEFT-POINTING ISOSCELES RIGHT TRIANGLE;6UP-POINTING ISOSCELES RIGHT TRIANGLE",
    "6RIGHT-POINTING ISOSCELES RIGHT TRIANGLE;6DOWN-POINTING ISOSCELES RIGHT TRIANGLE",
    "6SLIGHTLY SMALL CIRCLE;0MEDIUM BOLD WHITE CIRCLE;0BOLD WHITE CIRCLE;0HEAVY WHITE CIRCLE",
    "0VERY HEAVY WHITE CIRCLE;0EXTREMELY HEAVY WHITE CIRCLE",
    "0WHITE CIRCLE CONTAINING BLACK SMALL CIRCLE;0ROUND TARGET;0BLACK TINY SQUARE",
    "6SLIGHTLY SMALL SQUARE;0LIGHT WHITE SQUARE;0MEDIUM WHITE SQUARE;0BOLD WHITE SQUARE",
    "0HEAVY WHITE SQUARE;0VERY HEAVY WHITE SQUARE;0EXTREMELY HEAVY WHITE SQUARE",
    "0WHITE SQUARE CONTAINING BLACK VERY SMALL SQUARE;UMEDIUM SQUARE;0SQUARE TARGET",
    "0BLACK TINY DIAMOND;6VERY SMALL DIAMOND;6MEDIUM SMALL DIAMOND",
    "0WHITE DIAMOND CONTAINING BLACK VERY SMALL DIAMOND;VMEDIUM DIAMOND;0DIAMOND TARGET",
    "0BLACK TINY LOZENGE;6VERY SMALL LOZENGE;6MEDIUM SMALL LOZENGE",
    "0WHITE LOZENGE CONTAINING BLACK SMALL LOZENGE;0THIN GREEK CROSS;0LIGHT GREEK CROSS",
    "0MEDIUM GREEK CROSS;0BOLD GREEK CROSS;0VERY BOLD GREEK CROSS;5HEAVY GREEK CROSS",
    "0EXTREMELY HEAVY GREEK CROSS;0THIN SALTIRE;0LIGHT SALTIRE;0MEDIUM SALTIRE;0BOLD SALTIRE",
    "0HEAVY SALTIRE;0VERY HEAVY SALTIRE;0EXTREMELY HEAVY SALTIRE;0LIGHT FIVE SPOKED ASTERISK",
    "0MEDIUM FIVE SPOKED ASTERISK;0BOLD FIVE SPOKED ASTERISK;0HEAVY FIVE SPOKED ASTERISK",
    "0VERY HEAVY FIVE SPOKED ASTERISK;0EXTREMELY HEAVY FIVE SPOKED ASTERISK",
    "0LIGHT SIX SPOKED ASTERISK;0MEDIUM SIX SPOKED ASTERISK;0BOLD SIX SPOKED ASTERISK",
    "0HEAVY SIX SPOKED ASTERISK;0VERY HEAVY SIX SPOKED ASTERISK",
    "0EXTREMELY HEAVY SIX SPOKED ASTERISK;0LIGHT EIGHT SPOKED ASTERISK",
    "0MEDIUM EIGHT SPOKED ASTERISK;0BOLD EIGHT SPOKED ASTERISK;0HEAVY EIGHT SPOKED ASTERISK",
    "0VERY HEAVY EIGHT SPOKED ASTERISK;0LIGHT THREE POINTED BLACK STAR",
    "0MEDIUM THREE POINTED BLACK STAR;0THREE POINTED BLACK STAR",
    "0MEDIUM THREE POINTED PINWHEEL STAR;0LIGHT FOUR POINTED BLACK STAR",
    "0MEDIUM FOUR POINTED BLACK STAR;0FOUR POINTED BLACK STAR;0MEDIUM FOUR POINTED PINWHEEL STAR",
    "0REVERSE LIGHT FOUR POINTED PINWHEEL STAR;0LIGHT FIVE POINTED BLACK STAR",
    "0HEAVY FIVE POINTED BLACK STAR;0MEDIUM SIX POINTED BLACK STAR;0HEAVY SIX POINTED BLACK STAR",
    "0SIX POINTED PINWHEEL STAR;0MEDIUM EIGHT POINTED BLACK STAR;0HEAVY EIGHT POINTED BLACK STAR",
    "0VERY HEAVY EIGHT POINTED BLACK STAR;0HEAVY EIGHT POINTED PINWHEEL STAR",
    "0LIGHT TWELVE POINTED BLACK STAR;0HEAVY TWELVE POINTED BLACK STAR;LPINWHEEL STAR",
    "0CIRCLED TRIANGLE;0NEGATIVE CIRCLED TRIANGLE;0CIRCLED SQUARE;0NEGATIVE CIRCLED SQUARE",
    "1F7E0=0LARGE ORANGE CIRCLE;6YELLOW CIRCLE;6GREEN CIRCLE;6PURPLE CIRCLE;6BROWN CIRCLE",
    "6RED SQUARE;6BLUE SQUARE;6ORANGE SQUARE;6YELLOW SQUARE;6GREEN SQUARE;6PURPLE SQUARE",
    "6BROWN SQUARE;1F7F0=0HEAVY EQUALS SIGN;1F800=0LEFTWARDS ARROW WITH SMALL TRIANGLE ARROWHEAD",
    "0UPWARDS ARROW WITH SMALL TRIANGLE ARROWHEAD;0RIGHTWARDS ARROW WITH SMALL TRIANGLE ARROWHEAD",
    "0DOWNWARDS ARROW WITH SMALL TRIANGLE ARROWHEAD",
    "0LEFTWARDS ARROW WITH MEDIUM TRIANGLE ARROWHEAD",
    "0UPWARDS ARROW WITH MEDIUM TRIANGLE ARROWHEAD",
    "0RIGHTWARDS ARROW WITH MEDIUM TRIANGLE ARROWHEAD",
    "0DOWNWARDS ARROW WITH MEDIUM TRIANGLE ARROWHEAD",
    "0LEFTWARDS ARROW WITH LARGE TRIANGLE ARROWHEAD;0UPWARDS ARROW WITH LARGE TRIANGLE ARROWHEAD",
    "0RIGHTWARDS ARROW WITH LARGE TRIANGLE ARROWHEAD",
    "0DOWNWARDS ARROW WITH LARGE TRIANGLE ARROWHEAD",
    "1F810=0LEFTWARDS ARROW WITH SMALL EQUILATERAL ARROWHEAD",
    "0UPWARDS ARROW WITH SMALL EQUILATERAL ARROWHEAD",
    "0RIGHTWARDS ARROW WITH SMALL EQUILATERAL ARROWHEAD",
    "0DOWNWARDS ARROW WITH SMALL EQUILATERAL ARROWHEAD",
    "0LEFTWARDS ARROW WITH EQUILATERAL ARROWHEAD;0UPWARDS ARROW WITH EQUILATERAL ARROWHEAD",
    "0RIGHTWARDS ARROW WITH EQUILATERAL ARROWHEAD;0DOWNWARDS ARROW WITH EQUILATERAL ARROWHEAD",
    "0HEAVY LEFTWARDS ARROW WITH EQUILATERAL ARROWHEAD;6UPWARDS ARROW WITH EQUILATERAL ARROWHEAD",
    "6RIGHTWARDS ARROW WITH EQUILATERAL ARROWHEAD;6DOWNWARDS ARROW WITH EQUILATERAL ARROWHEAD",
    "6LEFTWARDS ARROW WITH LARGE EQUILATERAL ARROWHEAD",
    "6UPWARDS ARROW WITH LARGE EQUILATERAL ARROWHEAD",
    "6RIGHTWARDS ARROW WITH LARGE EQUILATERAL ARROWHEAD",
    "6DOWNWARDS ARROW WITH LARGE EQUILATERAL ARROWHEAD",
    "0LEFTWARDS TRIANGLE-HEADED ARROW WITH NARROW SHAFT",
    "0UPWARDS TRIANGLE-HEADED ARROW WITH NARROW SHAFT",
    "0RIGHTWARDS TRIANGLE-HEADED ARROW WITH NARROW SHAFT",
    "0DOWNWARDS TRIANGLE-HEADED ARROW WITH NARROW SHAFT",
    "0LEFTWARDS TRIANGLE-HEADED ARROW WITH MEDIUM SHAFT",
    "0UPWARDS TRIANGLE-HEADED ARROW WITH MEDIUM SHAFT",
    "0RIGHTWARDS TRIANGLE-HEADED ARROW WITH MEDIUM SHAFT",
    "0DOWNWARDS TRIANGLE-HEADED ARROW WITH MEDIUM SHAFT",
    "0LEFTWARDS TRIANGLE-HEADED ARROW WITH BOLD SHAFT",
    "0UPWARDS TRIANGLE-HEADED ARROW WITH BOLD SHAFT",
    "0RIGHTWARDS TRIANGLE-HEADED ARROW WITH BOLD SHAFT",
    "0DOWNWARDS TRIANGLE-HEADED ARROW WITH BOLD SHAFT",
    "0LEFTWARDS TRIANGLE-HEADED ARROW WITH HEAVY SHAFT",
    "0UPWARDS TRIANGLE-HEADED ARROW WITH HEAVY SHAFT",
    "0RIGHTWARDS TRIANGLE-HEADED ARROW WITH HEAVY SHAFT",
    "0DOWNWARDS TRIANGLE-HEADED ARROW WITH HEAVY SHAFT",
    "0LEFTWARDS TRIANGLE-HEADED ARROW WITH VERY HEAVY SHAFT",
    "0UPWARDS TRIANGLE-HEADED ARROW WITH VERY HEAVY SHAFT",
    "0RIGHTWARDS TRIANGLE-HEADED ARROW WITH VERY HEAVY SHAFT",
    "0DOWNWARDS TRIANGLE-HEADED ARROW WITH VERY HEAVY SHAFT;0LEFTWARDS FINGER-POST ARROW",
    "0UPWARDS FINGER-POST ARROW;0RIGHTWARDS FINGER-POST ARROW;0DOWNWARDS FINGER-POST ARROW",
    "0LEFTWARDS SQUARED ARROW;0UPWARDS SQUARED ARROW;0RIGHTWARDS SQUARED ARROW",
    "0DOWNWARDS SQUARED ARROW;0LEFTWARDS COMPRESSED ARROW;0UPWARDS COMPRESSED ARROW",
    "0RIGHTWARDS COMPRESSED ARROW;0DOWNWARDS COMPRESSED ARROW;0LEFTWARDS HEAVY COMPRESSED ARROW",
    "0UPWARDS HEAVY COMPRESSED ARROW;0RIGHTWARDS HEAVY COMPRESSED ARROW",
    "0DOWNWARDS HEAVY COMPRESSED ARROW;0LEFTWARDS HEAVY ARROW;0UPWARDS HEAVY ARROW",
    "0RIGHTWARDS HEAVY ARROW;0DOWNWARDS HEAVY ARROW;1F850=0LEFTWARDS SANS-SERIF ARROW",
    "0UPWARDS SANS-SERIF ARROW;0RIGHTWARDS SANS-SERIF ARROW;0DOWNWARDS SANS-SERIF ARROW",
    "0NORTH WEST SANS-SERIF ARROW;6EAST SANS-SERIF ARROW;0SOUTH EAST SANS-SERIF ARROW",
    "6WEST SANS-SERIF ARROW;0LEFT RIGHT SANS-SERIF ARROW;0UP DOWN SANS-SERIF ARROW",
    "1F860=0WIDE-HEADED LEFTWARDS LIGHT BARB ARROW;CUPWARDS LIGHT BARB ARROW",
    "CRIGHTWARDS LIGHT BARB ARROW;CDOWNWARDS LIGHT BARB ARROW;CNORTH WEST LIGHT BARB ARROW",
    "IEAST LIGHT BARB ARROW;CSOUTH EAST LIGHT BARB ARROW;IWEST LIGHT BARB ARROW",
    "CLEFTWARDS BARB ARROW;CUPWARDS BARB ARROW;CRIGHTWARDS BARB ARROW;CDOWNWARDS BARB ARROW",
    "CNORTH WEST BARB ARROW;IEAST BARB ARROW;CSOUTH EAST BARB ARROW;IWEST BARB ARROW",
    "CLEFTWARDS MEDIUM BARB ARROW;CUPWARDS MEDIUM BARB ARROW;CRIGHTWARDS MEDIUM BARB ARROW",
    "CDOWNWARDS MEDIUM BARB ARROW;CNORTH WEST MEDIUM BARB ARROW;IEAST MEDIUM BARB ARROW",
    "CSOUTH EAST MEDIUM BARB ARROW;IWEST MEDIUM BARB ARROW;CLEFTWARDS HEAVY BARB ARROW",
    "CUPWARDS HEAVY BARB ARROW;CRIGHTWARDS HEAVY BARB ARROW;CDOWNWARDS HEAVY BARB ARROW",
    "CNORTH WEST HEAVY BARB ARROW;IEAST HEAVY BARB ARROW;CSOUTH EAST HEAVY BARB ARROW",
    "IWEST HEAVY BARB ARROW;CLEFTWARDS VERY HEAVY BARB ARROW;CUPWARDS VERY HEAVY BARB ARROW",
    "CRIGHTWARDS VERY HEAVY BARB ARROW;CDOWNWARDS VERY HEAVY BARB ARROW",
    "CNORTH WEST VERY HEAVY BARB ARROW;IEAST VERY HEAVY BARB ARROW",
    "CSOUTH EAST VERY HEAVY BARB ARROW;IWEST VERY HEAVY BARB ARROW",
    "1F890=0LEFTWARDS TRIANGLE ARROWHEAD;0UPWARDS TRIANGLE ARROWHEAD",
    "0RIGHTWARDS TRIANGLE ARROWHEAD;0DOWNWARDS TRIANGLE ARROWHEAD",
    "0LEFTWARDS WHITE ARROW WITHIN TRIANGLE ARROWHEAD",
    "0UPWARDS WHITE ARROW WITHIN TRIANGLE ARROWHEAD",
    "0RIGHTWARDS WHITE ARROW WITHIN TRIANGLE ARROWHEAD",
    "0DOWNWARDS WHITE ARROW WITHIN TRIANGLE ARROWHEAD;0LEFTWARDS ARROW WITH NOTCHED TAIL",
    "0UPWARDS ARROW WITH NOTCHED TAIL;0RIGHTWARDS ARROW WITH NOTCHED TAIL",
    "0DOWNWARDS ARROW WITH NOTCHED TAIL;0HEAVY ARROW SHAFT WIDTH ONE;OTWO THIRDS;OONE HALF;STHIRD",
    "0LEFTWARDS BOTTOM-SHADED WHITE ARROW;0RIGHTWARDS BOTTOM SHADED WHITE ARROW",
    "0LEFTWARDS TOP SHADED WHITE ARROW;0RIGHTWARDS TOP SHADED WHITE ARROW",
    "0LEFTWARDS LEFT-SHADED WHITE ARROW;0RIGHTWARDS RIGHT-SHADED WHITE ARROW",
    "0LEFTWARDS RIGHT-SHADED WHITE ARROW;0RIGHTWARDS LEFT-SHADED WHITE ARROW",
    "0LEFTWARDS BACK-TILTED SHADOWED WHITE ARROW;0RIGHTWARDS BACK-TILTED SHADOWED WHITE ARROW",
    "0LEFTWARDS FRONT-TILTED SHADOWED WHITE ARROW;0RIGHTWARDS FRONT-TILTED SHADOWED WHITE ARROW",
    "0WHITE ARROW SHAFT WIDTH ONE;OTWO THIRDS;1F8B0=0ARROW POINTING UPWARDS THEN NORTH WEST",
    "FRIGHTWARDS THEN CURVING SOUTH WEST;1F900=0CIRCLED CROSS FORMEE WITH FOUR DOTS;QTWO DOTS;K",
    "0LEFT HALF CIRCLE WITH FOUR DOTS;MTHREE DOTS;NWO DOTS;MDOT;G;0DOWNWARD FACING HOOK",
    "GNOTCHED HOOK;GHOOK WITH DOT;GNOTCHED HOOK WITH DOT;0PINCHED FINGERS;0WHITE HEART",
    "0BROWN HEART;0PINCHING HAND;0ZIPPER-MOUTH FACE;0MONEY-MOUTH FACE;0FACE WITH THERMOMETER",
    "0NERD FACE;0THINKING FACE;0FACE WITH HEAD-BANDAGE;0ROBOT FACE;0HUGGING FACE",
    "0SIGN OF THE HORNS;0CALL ME HAND;0RAISED BACK OF HAND;0LEFT-FACING FIST;0RIGHT-FACING FIST",
    "0HANDSHAKE;4 WITH INDEX AND MIDDLE FINGERS CROSSED;0I LOVE YOU HAND SIGN",
    "0FACE WITH COWBOY HAT;0CLOWN FACE;0NAUSEATED FACE;0ROLLING ON THE FLOOR LAUGHING",
    "0DROOLING FACE;0LYING FACE;0FACE PALM;0SNEEZING FACE;0FACE WITH ONE EYEBROW RAISED",
    "0GRINNING FACE WITH STAR EYES;JONE LARGE AND ONE SMALL EYE",
    "0FACE WITH FINGER COVERING CLOSED LIPS;0SERIOUS FACE WITH SYMBOLS COVERING MOUTH",
    "1MILING FACE WITH SMILING EYES AND HAND COVERING MOUTH;0FACE WITH OPEN MOUTH VOMITING",
    "0SHOCKED FACE WITH EXPLODING HEAD;0PREGNANT WOMAN;0BREAST-FEEDING;0PALMS UP TOGETHER;0SELFIE",
    "0PRINCE;0MAN IN TUXEDO;1OTHER CHRISTMAS;0SHRUG;0PERSON DOING CARTWHEEL;0JUGGLING;0FENCER",
    "0MODERN PENTATHLON;0WRESTLERS;1ATER POLO;0HANDBALL;0DIVING MASK;0WILTED FLOWER",
    "0DRUM WITH DRUMSTICKS;0CLINKING GLASSES;0TUMBLER GLASS;0SPOON;0GOAL NET;0RIFLE",
    "0FIRST PLACE MEDAL;0SECOND PLACE MEDAL;0THIRD PLACE MEDAL;0BOXING GLOVE",
    "0MARTIAL ARTS UNIFORM;0CURLING STONE;0LACROSSE STICK AND BALL;0SOFTBALL;0FLYING DISC",
    "0CROISSANT;0AVOCADO;0CUCUMBER;0BACON;0POTATO;0CARROT;0BAGUETTE BREAD;0GREEN SALAD",
    "0SHALLOW PAN OF FOOD;1TUFFED FLATBREAD;0EGG;0GLASS OF MILK;0PEANUTS;0KIWIFRUIT;0PANCAKES",
    "0DUMPLING;0FORTUNE COOKIE;0TAKEOUT BOX;0CHOPSTICKS;0BOWL WITH SPOON;0CUP WITH STRAW;1OCONUT",
    "0BROCCOLI;0PIE;1RETZEL;0CUT OF MEAT;0SANDWICH;0CANNED FOOD;0LEAFY GREEN;0MANGO;1OON CAKE",
    "0BAGEL;0SMILING FACE WITH SMILING EYES AND THREE HEARTS;0YAWNING FACE",
    "0SMILING FACE WITH TEAR;0FACE WITH PARTY HORN AND PARTY HAT;AUNEVEN EYES AND WAVY MOUTH",
    "0OVERHEATED FACE;0FREEZING FACE;0NINJA;0DISGUISED FACE;0FACE HOLDING BACK TEARS",
    "5WITH PLEADING EYES;0SARI;0LAB COAT;0GOGGLES;0HIKING BOOT;0FLAT SHOE;0CRAB;0LION FACE",
    "0SCORPION;0TURKEY;0UNICORN FACE;0EAGLE;0DUCK;0BAT;0SHARK;0OWL;0FOX FACE;0BUTTERFLY;0DEER",
    "0GORILLA;0LIZARD;0RHINOCEROS;0SHRIMP;1QUID;0GIRAFFE FACE;0ZEBRA FACE;0HEDGEHOG;0SAUROPOD",
    "0T-REX;0CRICKET;0KANGAROO;0LLAMA;0PEACOCK;0HIPPOPOTAMUS;0PARROT;0RACCOON;0LOBSTER;0MOSQUITO",
    "1ICROBE;0BADGER;0SWAN;0MAMMOTH;0DODO;0SLOTH;0OTTER;1RANGUTAN;0SKUNK;0FLAMINGO;0OYSTER",
    "0BEAVER;1ISON;0SEAL;0GUIDE DOG;0PROBING CANE;0EMOJI COMPONENT RED HAIR;GCURLY HAIR;GBALD",
    "GWHITE HAIR;0BONE;0LEG;0FOOT;0TOOTH;0SUPERHERO;5VILLAIN;1AFETY VEST;0EAR WITH HEARING AID",
    "0MOTORIZED WHEELCHAIR;1ANUAL WHEELCHAIR;1ECHANICAL ARM;BLEG;0CHEESE WEDGE;1UPCAKE",
    "0SALT SHAKER;0BEVERAGE BOX;0GARLIC;0ONION;0FALAFEL;0WAFFLE;0BUTTER;0MATE DRINK;0ICE CUBE",
    "0BUBBLE TEA;0TROLL;0STANDING PERSON;0KNEELING PERSON;0DEAF PERSON;0FACE WITH MONOCLE;0ADULT",
    "0CHILD;0OLDER ADULT;0BEARDED PERSON;0PERSON WITH HEADSCARF;7IN STEAMY ROOM;7CLIMBING",
    "7IN LOTUS POSITION;0MAGE;0FAIRY;0VAMPIRE;0MERPERSON;0ELF;0GENIE;0ZOMBIE;0BRAIN;0ORANGE HEART",
    "0BILLED CAP;0SCARF;0GLOVES;0COAT;0SOCKS;0RED GIFT ENVELOPE;0FIRECRACKER;0JIGSAW PUZZLE PIECE",
    "0TEST TUBE;0PETRI DISH;0DNA DOUBLE HELIX;0COMPASS;0ABACUS;0FIRE EXTINGUISHER;0TOOLBOX;0BRICK",
    "0MAGNET;0LUGGAGE;1OTION BOTTLE;0SPOOL OF THREAD;0BALL OF YARN;0SAFETY PIN;0TEDDY BEAR;0BROOM",
    "1ASKET;0ROLL OF PAPER;0BAR OF SOAP;0SPONGE;0RECEIPT;0NAZAR AMULET;1EUTRAL CHESS KING;EQUEEN",
    "EROOK;EBISHOP;EKNIGHT;EPAWN;0WHITE CHESS KNIGHT ROTATED FORTY-FIVE DEGREES",
    "0BLACK CHESS KNIGHT ROTATED FORTY-FIVE DEGREES",
    "0NEUTRAL CHESS KNIGHT ROTATED FORTY-FIVE DEGREES;0WHITE CHESS KING ROTATED NINETY DEGREES",
    "CQUEEN ROTATED NINETY DEGREES;CROOK ROTATED NINETY DEGREES;CBISHOP ROTATED NINETY DEGREES",
    "CKNIGHT ROTATED NINETY DEGREES;CPAWN ROTATED NINETY DEGREES",
    "0BLACK CHESS KING ROTATED NINETY DEGREES;CQUEEN ROTATED NINETY DEGREES",
    "CROOK ROTATED NINETY DEGREES;CBISHOP ROTATED NINETY DEGREES;CKNIGHT ROTATED NINETY DEGREES",
    "CPAWN ROTATED NINETY DEGREES;0NEUTRAL CHESS KING ROTATED NINETY DEGREES",
    "EQUEEN ROTATED NINETY DEGREES;EROOK ROTATED NINETY DEGREES;EBISHOP ROTATED NINETY DEGREES",
    "EKNIGHT ROTATED NINETY DEGREES;EPAWN ROTATED NINETY DEGREES",
    "0WHITE CHESS KNIGHT ROTATED ONE HUNDRED THIRTY-FIVE DEGREES",
    "0BLACK CHESS KNIGHT ROTATED ONE HUNDRED THIRTY-FIVE DEGREES",
    "0NEUTRAL CHESS KNIGHT ROTATED ONE HUNDRED THIRTY-FIVE DEGREES;0WHITE CHESS TURNED KING",
    "JQUEEN;JROOK;JBISHOP;JKNIGHT;JPAWN;0BLACK CHESS TURNED KING;JQUEEN;JROOK;JBISHOP;JKNIGHT",
    "JPAWN;0NEUTRAL CHESS TURNED KING;LQUEEN;LROOK;LBISHOP;LKNIGHT;LPAWN",
    "0WHITE CHESS KNIGHT ROTATED TWO HUNDRED TWENTY-FIVE DEGREES",
    "0BLACK CHESS KNIGHT ROTATED TWO HUNDRED TWENTY-FIVE DEGREES",
    "0NEUTRAL CHESS KNIGHT ROTATED TWO HUNDRED TWENTY-FIVE DEGREES",
    "0WHITE CHESS KING ROTATED TWO HUNDRED SEVENTY DEGREES",
    "CQUEEN ROTATED TWO HUNDRED SEVENTY DEGREES;CROOK ROTATED TWO HUNDRED SEVENTY DEGREES",
    "CBISHOP ROTATED TWO HUNDRED SEVENTY DEGREES;CKNIGHT ROTATED TWO HUNDRED SEVENTY DEGREES",
    "CPAWN ROTATED TWO HUNDRED SEVENTY DEGREES",
    "0BLACK CHESS KING ROTATED TWO HUNDRED SEVENTY DEGREES",
    "CQUEEN ROTATED TWO HUNDRED SEVENTY DEGREES;CROOK ROTATED TWO HUNDRED SEVENTY DEGREES",
    "CBISHOP ROTATED TWO HUNDRED SEVENTY DEGREES;CKNIGHT ROTATED TWO HUNDRED SEVENTY DEGREES",
    "CPAWN ROTATED TWO HUNDRED SEVENTY DEGREES",
    "0NEUTRAL CHESS KING ROTATED TWO HUNDRED SEVENTY DEGREES",
    "EQUEEN ROTATED TWO HUNDRED SEVENTY DEGREES;EROOK ROTATED TWO HUNDRED SEVENTY DEGREES",
    "EBISHOP ROTATED TWO HUNDRED SEVENTY DEGREES;EKNIGHT ROTATED TWO HUNDRED SEVENTY DEGREES",
    "EPAWN ROTATED TWO HUNDRED SEVENTY DEGREES",
    "0WHITE CHESS KNIGHT ROTATED THREE HUNDRED FIFTEEN DEGREES",
    "0BLACK CHESS KNIGHT ROTATED THREE HUNDRED FIFTEEN DEGREES",
    "0NEUTRAL CHESS KNIGHT ROTATED THREE HUNDRED FIFTEEN DEGREES;0WHITE CHESS EQUIHOPPER",
    "0BLACK CHESS EQUIHOPPER;0NEUTRAL CHESS EQUIHOPPER",
    "0WHITE CHESS EQUIHOPPER ROTATED NINETY DEGREES",
    "0BLACK CHESS EQUIHOPPER ROTATED NINETY DEGREES",
    "0NEUTRAL CHESS EQUIHOPPER ROTATED NINETY DEGREES;0WHITE CHESS KNIGHT-QUEEN;JROOK;JBISHOP",
    "0BLACK CHESS KNIGHT-QUEEN;JROOK;JBISHOP;1FA60=0XIANGQI RED GENERAL;CMANDARIN;CELEPHANT",
    "CHORSE;CCHARIOT;DANNON;CSOLDIER;8BLACK GENERAL;EMANDARIN;EELEPHANT;EHORSE;ECHARIOT;FANNON",
    "ESOLDIER;1FA70=0BALLET SHOES;0ONE-PIECE SWIMSUIT;0BRIEFS;0SHORTS;0THONG SANDAL",
    "1FA78=0DROP OF BLOOD;0ADHESIVE BANDAGE;0STETHOSCOPE;0X-RAY;0CRUTCH;1FA80=0YO-YO;0KITE",
    "0PARACHUTE;0BOOMERANG;0MAGIC WAND;0PINATA;0NESTING DOLLS;1FA90=0RINGED PLANET;0CHAIR;0RAZOR",
    "0AXE;0DIYA LAMP;0BANJO;0MILITARY HELMET;0ACCORDION;0LONG DRUM;0COIN;1ARPENTRY SAW",
    "0SCREWDRIVER;0LADDER;0HOOK;0MIRROR;0WINDOW;0PLUNGER;0SEWING NEEDLE;0KNOT;0BUCKET;0MOUSE TRAP",
    "0TOOTHBRUSH;0HEADSTONE;0PLACARD;0ROCK;0MIRROR BALL;0IDENTIFICATION CARD;0LOW BATTERY;0HAMSA",
    "1FAB0=0FLY;0WORM;0BEETLE;0COCKROACH;0POTTED PLANT;0WOOD;0FEATHER;0LOTUS;0CORAL;0EMPTY NEST",
    "0NEST WITH EGGS;1FAC0=0ANATOMICAL HEART;0LUNGS;0PEOPLE HUGGING;1REGNANT MAN;9PERSON",
    "1ERSON WITH CROWN;1FAD0=0BLUEBERRIES;1ELL PEPPER;0OLIVE;0FLATBREAD;0TAMALE;0FONDUE;0TEAPOT",
    "0POURING LIQUID;0BEANS;0JAR;1FAE0=0MELTING FACE;0SALUTING FACE",
    "0FACE WITH OPEN EYES AND HAND OVER MOUTH;APEEKING EYE;ADIAGONAL MOUTH;0DOTTED LINE FACE",
    "0BITING LIP;1UBBLES;1FAF0=0HAND WITH INDEX FINGER AND THUMB CROSSED;0RIGHTWARDS HAND",
    "0LEFTWARDS HAND;0PALM DOWN HAND;5UP HAND;0INDEX POINTING AT THE VIEWER;0HEART HANDS",
    "1FB00=0BLOCK SEXTANT-1;E2;E12;E3;E13;E23;E123;E4;E14;E24;E124;E34;E134;E234;E1234;E5;E15;E25",
    "E125;E35;E235;E1235;E45;E145;E245;E1245;E345;E1345;E2345;E12345;E6;E16;E26;E126;E36;E136",
    "E236;E1236;E46;E146;F246;E346;E1346;E2346;E12346;E56;E156;E256;E1256;E356;E1356;E2356;E12356",
    "E456;E1456;E2456;E12456;E3456;E13456;E23456",
    "0LOWER LEFT BLOCK DIAGONAL LOWER MIDDLE LEFT TO LOWER CENTRE;rRIGHT",
    "QUPPER MIDDLE LEFT TO LOWER CENTRE;rRIGHT;WLEFT TO LOWER CENTRE",
    "6RIGHT BLOCK DIAGONAL UPPER MIDDLE LEFT TO UPPER CENTRE;sRIGHT",
    "RLOWER MIDDLE LEFT TO UPPER CENTRE;sRIGHT;XLEFT TO UPPER CENTRE",
    "XMIDDLE LEFT TO UPPER MIDDLE RIGHT;XCENTRE TO LOWER MIDDLE RIGHT;XLEFT TO LOWER MIDDLE RIGHT",
    "XCENTRE TO UPPER MIDDLE RIGHT;XLEFT TO UPPER MIDDLE RIGHT;XCENTRE TO UPPER RIGHT",
    "6LEFT BLOCK DIAGONAL UPPER CENTRE TO UPPER MIDDLE RIGHT;WLEFT TO UPPER MIDDLE RIGHT",
    "WCENTRE TO LOWER MIDDLE RIGHT;WLEFT TO LOWER MIDDLE RIGHT;WCENTRE TO LOWER RIGHT",
    "WMIDDLE LEFT TO LOWER MIDDLE RIGHT",
    "0UPPER RIGHT BLOCK DIAGONAL LOWER MIDDLE LEFT TO LOWER CENTRE;sRIGHT",
    "RUPPER MIDDLE LEFT TO LOWER CENTRE;sRIGHT;XLEFT TO LOWER CENTRE",
    "6LEFT BLOCK DIAGONAL UPPER MIDDLE LEFT TO UPPER CENTRE;rRIGHT",
    "QLOWER MIDDLE LEFT TO UPPER CENTRE;rRIGHT;WLEFT TO UPPER CENTRE",
    "WMIDDLE LEFT TO UPPER MIDDLE RIGHT;WCENTRE TO LOWER MIDDLE RIGHT;WLEFT TO LOWER MIDDLE RIGHT",
    "WCENTRE TO UPPER MIDDLE RIGHT;WLEFT TO UPPER MIDDLE RIGHT;WCENTRE TO UPPER RIGHT",
    "6RIGHT BLOCK DIAGONAL UPPER CENTRE TO UPPER MIDDLE RIGHT;XLEFT TO UPPER MIDDLE RIGHT",
    "XCENTRE TO LOWER MIDDLE RIGHT;XLEFT TO LOWER MIDDLE RIGHT;XCENTRE TO LOWER RIGHT",
    "XMIDDLE LEFT TO LOWER MIDDLE RIGHT;6AND RIGHT AND LOWER TRIANGULAR THREE QUARTERS BLOCK",
    "0LEFT AND LOWER AND RIGHT TRIANGULAR THREE QUARTERS BLOCK",
    "0UPPER AND LEFT AND LOWER TRIANGULAR THREE QUARTERS BLOCK",
    "0LEFT AND UPPER AND RIGHT TRIANGULAR THREE QUARTERS BLOCK;5TRIANGULAR ONE QUARTER BLOCK",
    "0UPPER TRIANGULAR ONE QUARTER BLOCK;0RIGHT TRIANGULAR ONE QUARTER BLOCK",
    "0LOWER TRIANGULAR ONE QUARTER BLOCK;0VERTICAL ONE EIGHTH BLOCK-2;Q3;Q4;Q5;Q6;Q7",
    "0HORIZONTAL ONE EIGHTH BLOCK-2;S3;S4;S5;S6;S7;0LEFT AND LOWER ONE EIGHTH BLOCK",
    "9UPPER ONE EIGHTH BLOCK;0RIGHT AND UPPER ONE EIGHTH BLOCK;ALOWER ONE EIGHTH BLOCK",
    "0UPPER AND LOWER ONE EIGHTH BLOCK;0HORIZONTAL ONE EIGHTH BLOCK-1358;0UPPER ONE QUARTER BLOCK",
    "6THREE EIGHTHS BLOCK;6FIVE EIGHTHS BLOCK;6THREE QUARTERS BLOCK;6SEVEN EIGHTHS BLOCK",
    "0RIGHT ONE QUARTER BLOCK;6THREE EIGHTHS BLOCK;6FIVE EIGHTHS BLOCK;6THREE QUARTERS BLOCK",
    "6SEVEN EIGHTHS BLOCK;0LEFT HALF MEDIUM SHADE;0RIGHT HALF MEDIUM SHADE",
    "0UPPER HALF MEDIUM SHADE;0LOWER HALF MEDIUM SHADE;0INVERSE MEDIUM SHADE",
    "0UPPER HALF BLOCK AND LOWER HALF INVERSE MEDIUM SHADE",
    "BINVERSE MEDIUM SHADE AND LOWER HALF BLOCK",
    "1FB94=0LEFT HALF INVERSE MEDIUM SHADE AND RIGHT HALF BLOCK;0CHECKER BOARD FILL",
    "0INVERSE CHECKER BOARD FILL;0HEAVY HORIZONTAL FILL;0UPPER LEFT TO LOWER RIGHT FILL",
    "6RIGHT TO LOWER LEFT FILL;6AND LOWER TRIANGULAR HALF BLOCK",
    "0LEFT AND RIGHT TRIANGULAR HALF BLOCK;0UPPER LEFT TRIANGULAR MEDIUM SHADE",
    "6RIGHT TRIANGULAR MEDIUM SHADE;0LOWER RIGHT TRIANGULAR MEDIUM SHADE",
    "6LEFT TRIANGULAR MEDIUM SHADE;0BOX DRAWINGS LIGHT DIAGONAL UPPER CENTRE TO MIDDLE LEFT",
    "pRIGHT;SMIDDLE LEFT TO LOWER CENTRE;ZRIGHT TO LOWER CENTRE",
    "SUPPER CENTRE TO MIDDLE LEFT TO LOWER CENTRE;pRIGHT TO LOWER CENTRE",
    "SMIDDLE LEFT TO LOWER CENTRE TO MIDDLE RIGHT;hUPPER CENTRE TO MIDDLE RIGHT",
    "SUPPER CENTRE TO MIDDLE LEFT AND MIDDLE RIGHT TO LOWER CENTRE",
    "pRIGHT AND MIDDLE LEFT TO LOWER CENTRE;vTO LOWER CENTRE TO MIDDLE LEFT",
    "pLEFT TO LOWER CENTRE TO MIDDLE RIGHT",
    "SMIDDLE LEFT TO UPPER CENTRE TO MIDDLE RIGHT TO LOWER CENTRE",
    "ZRIGHT TO UPPER CENTRE TO MIDDLE LEFT TO LOWER CENTRE;SDIAMOND",
    "JHORIZONTAL WITH VERTICAL STROKE;0ARROWHEAD-SHAPED POINTER;0INVERSE CHECK MARK",
    "0LEFT HALF RUNNING MAN;0RIGHT HALF RUNNING MAN;0INVERSE DOWNWARDS ARROW WITH TIP LEFTWARDS",
    "0LEFTWARDS ARROW AND UPPER AND LOWER ONE EIGHTH BLOCK",
    "0RIGHTWARDS ARROW AND UPPER AND LOWER ONE EIGHTH BLOCK",
    "0DOWNWARDS ARROW AND RIGHT ONE EIGHTH BLOCK;0UPWARDS ARROW AND RIGHT ONE EIGHTH BLOCK",
    "0LEFT HALF FOLDER;0RIGHT HALF FOLDER;0VOIDED GREEK CROSS;0RIGHT OPEN SQUARED DOT",
    "0NEGATIVE DIAGONAL CROSS;IMIDDLE RIGHT TO LOWER CENTRE;IDIAMOND",
    "0WHITE HEAVY SALTIRE WITH ROUNDED CORNERS;0LEFT THIRD WHITE RIGHT POINTING INDEX",
    "0MIDDLE THIRD WHITE RIGHT POINTING INDEX;0RIGHT THIRD WHITE RIGHT POINTING INDEX",
    "0NEGATIVE SQUARED QUESTION MARK;0STICK FIGURE;C WITH ARMS RAISED;DLEANING LEFT;LRIGHT",
    "DWITH DRESS;0WHITE UP-POINTING CHEVRON;1FBF0=0SEGMENTED DIGIT ZERO;GONE;GTWO;HHREE;GFOUR",
    "HIVE;GSIX;HEVEN;GEIGHT;GNINE;E0001=0LANGUAGE TAG;E0020=0TAG SPACE;4EXCLAMATION MARK",
    "4QUOTATION MARK;4NUMBER SIGN;4DOLLAR SIGN;4PERCENT SIGN;4AMPERSAND;5POSTROPHE",
    "4LEFT PARENTHESIS;4RIGHT PARENTHESIS;4ASTERISK;4PLUS SIGN;4COMMA;4HYPHEN-MINUS;4FULL STOP",
    "4SOLIDUS;4DIGIT ZERO;AONE;ATWO;BHREE;AFOUR;BIVE;ASIX;BEVEN;AEIGHT;ANINE;4COLON;4SEMICOLON",
    "4LESS-THAN SIGN;4EQUALS SIGN;4GREATER-THAN SIGN;4QUESTION MARK;4COMMERCIAL AT",
    "4LATIN CAPITAL LETTER A;PB;PC;PD;PE;PF;PG;PH;PI;PJ;PK;PL;PM;PN;PO;PP;PQ;PR;PS;PT;PU;PV;PW;PX",
    "PY;PZ;5EFT SQUARE BRACKET;4REVERSE SOLIDUS;5IGHT SQUARE BRACKET;4CIRCUMFLEX ACCENT;4LOW LINE",
    "4GRAVE ACCENT;4LATIN SMALL LETTER A;NB;NC;ND;NE;NF;NG;NH;NI;NJ;NK;NL;NM;NN;NO;NP;NQ;NR;NS;NT",
    "NU;NV;NW;NX;NY;NZ;5EFT CURLY BRACKET;4VERTICAL LINE;4RIGHT CURLY BRACKET;4TILDE;0CANCEL TAG",
    "E0100=0VARIATION SELECTOR-17;K8;K9;J20;K1;K2;K3;K4;K5;K6;K7;K8;K9;J30;K1;K2;K3;K4;K5;K6;K7",
    "K8;K9;J40;K1;K2;K3;K4;K5;K6;K7;K8;K9;J50;K1;K2;K3;K4;K5;K6;K7;K8;K9;J60;K1;K2;K3;K4;K5;K6;K7",
    "K8;K9;J70;K1;K2;K3;K4;K5;K6;K7;K8;K9;J80;K1;K2;K3;K4;K5;K6;K7;K8;K9;J90;K1;K2;K3;K4;K5;K6;K7",
    "K8;K9;J100;L1;L2;L3;L4;L5;L6;L7;L8;L9;K10;L1;L2;L3;L4;L5;L6;L7;L8;L9;K20;L1;L2;L3;L4;L5;L6",
    "L7;L8;L9;K30;L1;L2;L3;L4;L5;L6;L7;L8;L9;K40;L1;L2;L3;L4;L5;L6;L7;L8;L9;K50;L1;L2;L3;L4;L5;L6",
    "L7;L8;L9;K60;L1;L2;L3;L4;L5;L6;L7;L8;L9;K70;L1;L2;L3;L4;L5;L6;L7;L8;L9;K80;L1;L2;L3;L4;L5;L6",
    "L7;L8;L9;K90;L1;L2;L3;L4;L5;L6;L7;L8;L9;J200;L1;L2;L3;L4;L5;L6;L7;L8;L9;K10;L1;L2;L3;L4;L5",
    "L6;L7;L8;L9;K20;L1;L2;L3;L4;L5;L6;L7;L8;L9;K30;L1;L2;L3;L4;L5;L6;L7;L8;L9;K40;L1;L2;L3;L4;L5",
    "L6;L7;L8;L9;K50;L1;L2;L3;L4;L5;L6"]

end RecordDocs.Text
