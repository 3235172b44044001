/-!
# Names of characters from U+10000 on

Scripts that are mostly of historical interest. The form of the table is described with `Name.decode`.
-/

namespace CodeAtlas.Text.Name

/-- The names of these characters. -/
def historic : String := "
@10000,LINEAR B SYLLABLE B008 A,3B038 E,3B028 I,3B061 O,3B010 U,3B001 DA,3B045 DE,3B007 DI,3B014 DO,3B051 DU,3B057 JA
3B046 JE,@1000D,3B036 JO,3B065 JU,3B077 KA,3B044 KE,3B067 KI,3B070 KO,3B081 KU,3B080 MA,3B013 ME,3B073 MI,3B015 MO
3B023 MU,3B006 NA,3B024 NE,3B030 NI,3B052 NO,3B055 NU,3B003 PA,3B072 PE,3B039 PI,3B011 PO,3B050 PU,3B016 QA,3B078 QE
3B021 QI,3B032 QO,@10028,3B060 RA,3B027 RE,3B053 RI,3B002 RO,3B026 RU,3B031 SA,3B009 SE,3B041 SI,3B012 SO,3B058 SU
3B059 TA,3B004 TE,3B037 TI,3B005 TO,3B069 TU,3B054 WA,3B075 WE,3B040 WI,3B042 WO,@1003C,3B017 ZA,3B074 ZE,@1003F
3B020 ZO,3B025 A2,3B043 A3,3B085 AU,3B071 DWE,3B090 DWO,3B048 NWA,3B029 PU2,3B062 PTE,3B076 RA2,3B033 RA3,3B068 RO2
3B066 TA2,3B087 TWE,3B091 TWO,@10050,2SYMBOL B018,+1,3B022,3B034,3B047,3B049,3B056,3B063,+1,3B079,3B082,+1,3B086,3B089
@10080,2IDEOGRAM B100 MAN,3B102 WOMAN,3B104 DEER,3B105 EQUID,3B105F MARE,3B105M STALLION,3B106F EWE,3B106M RAM
3B107F SHE-GOAT,3B107M HE-~,3B108F SOW,3B108M BOAR,3B109F COW,3B109M BULL,3B120 WHEAT,3B121 BARLEY,3B122 OLIVE
3B123 SPICE,3B125 CYPERUS,2MONOGRAM B127 KAPO,3B128 KANAKO,2IDEOGRAM B130 OIL,3B131 WINE,3B132,2MONOGRAM B133 AREPA
3B135 MERI,2IDEOGRAM B140 BRONZE,3B141 GOLD,3B142,3B145 WOOL,3B146,3B150,3B151 HORN,3B152,+2,2MONOGRAM B156 TURO2
2IDEOGRAM B157,+1,3B159 CLOTH,3B160,+1,3B162 GARMENT,3B163 ARMOUR,3B164,+8,3B173 MONTH,3B174,3B176 TREE,3B177,+8,3B189
+1,3B191 HELMET,3B220 FOOTSTOOL,3B225 BATHTUB,3B230 SPEAR,3B231 ARROW,3B232,3B233 SWORD,3B234,3B236
3B240 WHEELED CHARIOT,3B241 CHARIOT,3B242 CHARIOT FRAME,3B243 WHEEL,3B245,+1,2MONOGRAM B247 DIPTE,2IDEOGRAM B248,+1
3B251,+2,3B254 DART,3B255,+4,3VESSEL B155,4B200,+19,4B221,+1,4B226,+3,4B250,4B305,@10100,AEGEAN WORD SEPARATOR LINE
3DOT,1CHECK MARK,@10107,1NUMBER ONE,2TWO,2THREE,2FOUR,2FIVE,2SIX,2SEVEN,2EIGHT,2NINE,2TEN,2TWENTY,2THIRTY,2FORTY
2FIFTY,2SIXTY,2SEVENTY,2EIGHTY,2NINETY,2ONE HUNDRED,2TWO ~,2THREE ~,2FOUR ~,2FIVE ~,2SIX ~,2SEVEN ~,2EIGHT ~,2NINE ~
2ONE THOUSAND,2TWO ~,2THREE ~,2FOUR ~,2FIVE ~,2SIX ~,2SEVEN ~,2EIGHT ~,2NINE ~,2TEN ~,2TWENTY ~,2THIRTY ~,2FORTY ~
2FIFTY ~,2SIXTY ~,2SEVENTY ~,2EIGHTY ~,2NINETY ~,@10137,1WEIGHT BASE UNIT,2FIRST SUBUNIT,2SECOND ~,2THIRD ~,2FOURTH ~
1DRY MEASURE FIRST SUBUNIT,1LIQUID ~,1MEASURE SECOND SUBUNIT,2THIRD ~,GREEK ACROPHONIC ATTIC ONE QUARTER,4HALF
4DRACHMA,3FIVE,3FIFTY,3FIVE HUNDRED,4THOUSAND,3FIFTY ~,3FIVE TALENTS,3TEN ~,3FIFTY ~,3ONE HUNDRED TALENTS,3FIVE ~
3ONE THOUSAND ~,3FIVE ~,4STATERS,3TEN ~,3FIFTY ~,3ONE HUNDRED STATERS,3FIVE ~,3ONE THOUSAND ~,3TEN ~,3FIFTY ~
3TEN MNAS,2HERAEUM ONE PLETHRON,2THESPIAN ONE,2HERMIONIAN ~,2EPIDAUREAN TWO,2THESPIAN ~,2CYRENAIC TWO DRACHMAS
2EPIDAUREAN ~,2TROEZENIAN FIVE,3TEN,3TEN ALTERNATE FORM,2HERMIONIAN TEN,2MESSENIAN ~,2THESPIAN ~,3THIRTY
2TROEZENIAN FIFTY,3FIFTY ALTERNATE FORM,2HERMIONIAN FIFTY,2THESPIAN ~,3ONE HUNDRED,3THREE ~,2EPIDAUREAN FIVE ~
2TROEZENIAN ~,2THESPIAN ~,2CARYSTIAN ~,2NAXIAN ~,2THESPIAN ONE THOUSAND,3FIVE ~,2DELPHIC FIVE MNAS,2STRATIAN FIFTY ~
1ONE HALF SIGN,3SIGN ALTERNATE FORM,1TWO THIRDS SIGN,1THREE QUARTERS ~,1YEAR SIGN,1TALENT ~,1DRACHMA ~,1OBOL ~
1TWO OBOLS SIGN,1THREE ~,1FOUR ~,1FIVE ~,1METRETES SIGN,1KYATHOS BASE SIGN,1LITRA SIGN,1OUNKIA ~,1XESTES ~,1ARTABE ~
1AROURA ~,1GRAMMA ~,1TRYBLION BASE SIGN,1ZERO SIGN,1ONE QUARTER SIGN,1SINUSOID SIGN,1INDICTION ~,NOMISMA SIGN,@10190
ROMAN SEXTANS SIGN,1UNCIA ~,1SEMUNCIA ~,1SEXTULA ~,1DIMIDIA SEXTULA SIGN,1SILIQUA SIGN,1DENARIUS ~,1QUINARIUS ~
1SESTERTIUS ~,1DUPONDIUS ~,1AS ~,1CENTURIAL ~,ASCIA SYMBOL,@101A0,GREEK SYMBOL TAU RHO,@101D0
PHAISTOS DISC SIGN PEDESTRIAN,3PLUMED HEAD,3TATTOOED ~,3CAPTIVE,3CHILD,3WOMAN,3HELMET,3GAUNTLET,3TIARA,3ARROW,3BOW
3SHIELD,3CLUB,3MANACLES,3MATTOCK,3SAW,3LID,3BOOMERANG,3CARPENTRY PLANE,3DOLIUM,3COMB,3SLING,3COLUMN,3BEEHIVE,3SHIP
3HORN,3HIDE,3BULLS LEG,3CAT,3RAM,3EAGLE,3DOVE,3TUNNY,3BEE,3PLANE TREE,3VINE,3PAPYRUS,3ROSETTE,3LILY,3OX BACK,3FLUTE
3GRATER,3STRAINER,3SMALL AXE,3WAVY BAND,3COMBINING OBLIQUE STROKE,@10280,LYCIAN LETTER A,2E,2B,2BH,2G,2D,2I,2W,2Z,2TH
2J,+1,2Q,2L,+2,2MM,2NN,2U,2P,2KK,2R,+2,2TT,2AN,2EN,2H,2X,@102A0,CARIAN LETTER A,2P2,2D,2L,2UUU,2R,2LD,2A2,2Q,2B,2M,2O
2D2,2T,2SH,2SH2,2S,2C-18,2U,2NN,2X,2N,2TT2,2P,2SS,2I,2E,2UUUU,2K,2K2,2ND,2UU,2G,2G2,2ST,2ST2,2NG,2II,2C-39,2TT,2UUU2
2RR,2MB,2MB2,+2,2LD2,2E2,2UUU3,@102E0,COPTIC EPACT THOUSANDS MARK,2DIGIT ONE,3TWO,3THREE,3FOUR,3FIVE,3SIX,3SEVEN
3EIGHT,3NINE,2NUMBER TEN,3TWENTY,3THIRTY,3FORTY,3FIFTY,3SIXTY,3SEVENTY,3EIGHTY,3NINETY,3ONE HUNDRED,3TWO ~,3THREE ~
3FOUR ~,3FIVE ~,3SIX ~,3SEVEN ~,3EIGHT ~,3NINE ~,@10300,OLD ITALIC LETTER A,3BE,3KE,3DE,3E,3VE,3ZE,3HE,3THE,3I,3KA,3EL
+2,3ESH,3O,3PE,3SHE,3KU,3ER,+1,3TE,3U,3EKS,3PHE,3KHE,3EF,3ERS,3CHE,3II,3UU,3ESS,2NUMERAL ONE,3FIVE,3TEN,3FIFTY,@1032D
2LETTER YE,3NORTHERN TSE,3SOUTHERN ~,GOTHIC LETTER AHSA,2BAIRKAN,2GIBA,2DAGS,2AIHVUS,2QAIRTHRA,2IUJA,2HAGL,2THIUTH
2EIS,2KUSMA,2LAGUS,2MANNA,2NAUTHS,2JER,2URUS,2PAIRTHRA,2NINETY,2RAIDA,2SAUIL,2TEIWS,2WINJA,2FAIHU,2IGGWS,2HWAIR,2OTHAL
2NINE HUNDRED,@10350,OLD PERMIC LETTER AN,3BUR,3GAI,3DOI,3E,3ZHOI,3DZHOI,3ZATA,3DZITA,3I,3KOKE,3LEI,3MENOE,3NENOE
3VOOI,3PEEI,3REI,3SII,3TAI,3U,3CHERY,3SHOOI,3SHCHOOI,3YRY,3YERU,3O,3OO,3EF,3HA,3TSIU,3VER,3YER,3YERI,3YAT,3IE,3YU,3YA
3IA,COMBINING OLD PERMIC LETTER AN,4DOI,4ZATA,4NENOE,4SII,@10380,UGARITIC LETTER ALPA,2BETA,2GAMLA,2KHA,2DELTA,2HO,2WO
2ZETA,2HOTA,2TET,2YOD,2KAF,2SHIN,2LAMDA,2MEM,2DHAL,2NUN,2ZU,2SAMKA,2AIN,2PU,2SADE,2QOPA,2RASHA,2THANNA,2GHAIN,2TO,2I
2U,2SSU,@1039F,1WORD DIVIDER,OLD PERSIAN SIGN A,3I,3U,3KA,3KU,3GA,3GU,3XA,3CA,3JA,3JI,3TA,3TU,3DA,3DI,3DU,3THA,3PA,3BA
3FA,3NA,3NU,3MA,3MI,3MU,3YA,3VA,3VI,3RA,3RU,3LA,3SA,3ZA,3SHA,3SSA,3HA,@103C8,3AURAMAZDAA,3AURAMAZDAA-2,3AURAMAZDAAHA
3XSHAAYATHIYA,3DAHYAAUSH,3DAHYAAUSH-2,3BAGA,3BUUMISH,2WORD DIVIDER,2NUMBER ONE,3TWO,3TEN,3TWENTY,3HUNDRED,@10400
DESERET CAPITAL LETTER LONG I,4E,4A,4AH,4O,4OO,3SHORT I,4E,4A,4AH,4O,4OO,3AY,3OW,3WU,3YEE,3H,3PEE,3BEE,3TEE,3DEE,3CHEE
3JEE,3KAY,3GAY,3EF,3VEE,3ETH,3THEE,3ES,3ZEE,3ESH,3ZHEE,3ER,3EL,+2,3ENG,3OI,3EW,1SMALL LETTER LONG I,4E,4A,4AH,4O,4OO
3SHORT I,4E,4A,4AH,4O,4OO,3AY,3OW,3WU,3YEE,3H,3PEE,3BEE,3TEE,3DEE,3CHEE,3JEE,3KAY,3GAY,3EF,3VEE,3ETH,3THEE,3ES,3ZEE
3ESH,3ZHEE,3ER,3EL,+2,3ENG,3OI,3EW,SHAVIAN LETTER PEEP,2TOT,2KICK,2FEE,2THIGH,2SO,2SURE,2CHURCH,2YEA,2HUNG,2BIB,2DEAD
2GAG,2VOW,2THEY,2ZOO,2MEASURE,2JUDGE,2WOE,2HA-HA,2LOLL,2MIME,2IF,2EGG,2ASH,2ADO,2ON,2WOOL,2OUT,2AH,2ROAR,2NUN,2EAT
2AGE,2ICE,2UP,2OAK,2OOZE,2OIL,2AWE,2ARE,2OR,2AIR,2ERR,2ARRAY,2EAR,2IAN,2YEW,OSMANYA LETTER ALEF,2BA,2TA,2JA,2XA,2KHA
2DEEL,2RA,2SA,2SHIIN,2DHA,2CAYN,2GA,2FA,2QAAF,2KAAF,2LAAN,2MIIN,2NUUN,2WAW,2HA,2YA,2A,2E,2I,2O,2U,2AA,2EE,2OO,@104A0
1DIGIT ZERO,2ONE,2TWO,2THREE,2FOUR,2FIVE,2SIX,2SEVEN,2EIGHT,2NINE,@104B0,OSAGE CAPITAL LETTER A,3AI,3AIN,3AH,3BRA,3CHA
3EHCHA,3E,3EIN,3HA,3HYA,3I,3KA,3EHKA,3KYA,3LA,3MA,3NA,3O,3OIN,3PA,3EHPA,3SA,3SHA,3TA,3EHTA,3TSA,3EHTSA,3TSHA,3DHA,3U
3WA,3KHA,3GHA,3ZA,3ZHA,@104D8,1SMALL LETTER A,3AI,3AIN,3AH,3BRA,3CHA,3EHCHA,3E,3EIN,3HA,3HYA,3I,3KA,3EHKA,3KYA,3LA,3MA
3NA,3O,3OIN,3PA,3EHPA,3SA,3SHA,3TA,3EHTA,3TSA,3EHTSA,3TSHA,3DHA,3U,3WA,3KHA,3GHA,3ZA,3ZHA,@10500,ELBASAN LETTER A,2BE
2CE,2CHE,2DE,2NDE,2DHE,2EI,2E,2FE,2GE,2GJE,2HE,2I,2JE,2KE,2LE,2LLE,2ME,2NE,2NA,2NJE,2O,2PE,2QE,2RE,2RRE,2SE,2SHE,2TE
2THE,2U,2VE,2XE,2Y,2ZE,2ZHE,2GHE,2GHAMMA,2KHE,@10530,CAUCASIAN ALBANIAN LETTER ALT,3BET,3GIM,3DAT,3EB,3ZARL,3EYN,3ZHIL
3TAS,3CHA,3YOWD,3ZHA,3IRB,3SHA,3LAN,3INYA,3XEYN,3DYAN,3CAR,3JHOX,3KAR,3LYIT,3HEYT,3QAY,3AOR,3CHOY,3CHI,3CYAY,3MAQ,3QAR
3NOWC,3DZYAY,3SHAK,3JAYN,3ON,3TYAY,3FAM,3DZAY,3CHAT,3PEN,3GHEYS,3RAT,3SEYK,3VEYZ,3TIWR,3SHOY,3IWN,3CYAW,3CAYN,3YAYD
3PIWR,3KIW,@1056F,2CITATION MARK,VITHKUQI CAPITAL LETTER A,3BBE,3BE,3CE,3CHE,3DE,3DHE,3EI,3E,3FE,3GA,@1057C,3HA,3HHA
3I,3IJE,3JE,3KA,3LA,3LLA,3ME,3NE,3NJE,3O,3PE,3QA,3RE,@1058C,3SE,3SHE,3TE,3THE,3U,3VE,3XE,@10594,3Y,3ZE,@10597
1SMALL LETTER A,3BBE,3BE,3CE,3CHE,3DE,3DHE,3EI,3E,3FE,3GA,@105A3,3HA,3HHA,3I,3IJE,3JE,3KA,3LA,3LLA,3ME,3NE,3NJE,3O,3PE
3QA,3RE,@105B3,3SE,3SHE,3TE,3THE,3U,3VE,3XE,@105BB,3Y,3ZE,@10600,LINEAR A SIGN AB001,+10,3AB013,3AB016,+1,3AB020,+1
3AB021F,3AB021M,3AB022,3AB022F,3AB022M,3AB023,3AB023M,3AB024,3AB026,+2,3A028B,3AB029,+2,3AB034,3AB037,+4,3AB044,+7
3AB053,+8,3AB065,+2,3AB069,+1,3AB073,+1,3AB076,+6,3AB085,+2,3A100-102,3AB118,3AB120,3A120B,3AB122,+1,3AB131A,+1,3A131C
3AB164,3AB171,3AB180,3AB188,3AB191,3A301,+7,3A309A,+2,3A310,+2,3A313A,+2,3A314,+57,3A400-VAS,3A401-~,3A402-~,3A403-~
3A404-~,3A405-~,3A406-~,3A407-~,3A408-~,3A409-~,3A410-~,3A411-~,3A412-~,3A413-~,3A414-~,3A415-~,3A416-~,3A417-~
3A418-~,3A501,+5,3A508,+5,3A515,+1,3A520,+1,3A523,+9,3A534,+8,3A545,3A547,+10,3A559,3A563,+3,3A568,+21,3A591,+1,3A594
+2,3A598,3A600,+4,3A606,3A608,+16,3A626,+3,3A634,3A637,+1,3A640,3A642,+4,3A648,+1,3A651,+13,@10740,3A701 A,3A702 B
3A703 D,3A704 E,3A705 F,3A706 H,3A707 J,3A708 K,3A709 L,3A709-2 L2,43 L3,44 L4,46 L6,3A710 W,3A711 X,3A712 Y
3A713 OMEGA,3A714 ABB,3A715 BB,3A717 DD,3A726 EYYY,3A732 JE,@10760,3A800,+7,@10780,MODIFIER LETTER SMALL CAPITAL AA
2SUPERSCRIPT TRIANGULAR COLON,3HALF TRIANGULAR COLON,2SMALL AE,3CAPITAL B,3B WITH HOOK,@10787,3DZ DIGRAPH
4DIGRAPH WITH RETROFLEX HOOK,6CURL,3DEZH DIGRAPH,3D WITH TAIL,5HOOK,5HOOK AND TAIL,3REVERSED E,3CLOSED REVERSED OPEN E
3FENG DIGRAPH,3RAMS HORN,3CAPITAL G,3G WITH HOOK,3CAPITAL G WITH HOOK,3H WITH STROKE,3CAPITAL H,3HENG WITH HOOK
3DOTLESS J WITH STROKE AND HOOK,3LS DIGRAPH,3LZ ~,3L WITH BELT,3CAPITAL L WITH BELT,3L WITH RETROFLEX HOOK AND BELT
3LEZH,3LEZH WITH RETROFLEX HOOK,3TURNED Y,4Y WITH BELT,3O WITH STROKE,3CAPITAL OE,3CLOSED OMEGA,3Q
3TURNED R WITH LONG LEG,7LEG AND RETROFLEX HOOK,3R WITH TAIL,5FISHHOOK,3CAPITAL R,3TC DIGRAPH WITH CURL,3TS DIGRAPH
4DIGRAPH WITH RETROFLEX HOOK,3TESH DIGRAPH,3T WITH RETROFLEX HOOK,3V WITH RIGHT ~,@107B2,3CAPITAL Y
2GLOTTAL STOP WITH STROKE,2REVERSED GLOTTAL STOP WITH STROKE,2BILABIAL CLICK,2DENTAL ~,2LATERAL ~,2ALVEOLAR ~
2RETROFLEX CLICK WITH RETROFLEX HOOK,2SMALL S WITH CURL,@10800,CYPRIOT SYLLABLE A,2E,2I,2O,2U,2JA,@10808,2JO,@1080A
2KA,2KE,2KI,2KO,2KU,2LA,2LE,2LI,2LO,2LU,2MA,2ME,2MI,2MO,2MU,2NA,2NE,2NI,2NO,2NU,2PA,2PE,2PI,2PO,2PU,2RA,2RE,2RI,2RO
2RU,2SA,2SE,2SI,2SO,2SU,2TA,2TE,2TI,2TO,2TU,2WA,2WE,2WI,2WO,@10837,2XA,2XE,@1083C,2ZA,@1083F,2ZO
IMPERIAL ARAMAIC LETTER ALEPH,3BETH,3GIMEL,3DALETH,3HE,3WAW,3ZAYIN,3HETH,3TETH,3YODH,3KAPH,3LAMEDH,3MEM,3NUN,3SAMEKH
3AYIN,3PE,3SADHE,3QOPH,3RESH,3SHIN,3TAW,@10857,2SECTION SIGN,2NUMBER ONE,3TWO,3THREE,3TEN,3TWENTY,3ONE HUNDRED
4THOUSAND,3TEN ~,PALMYRENE LETTER ALEPH,2BETH,2GIMEL,2DALETH,2HE,2WAW,2ZAYIN,2HETH,2TETH,2YODH,2KAPH,2LAMEDH,2MEM
2FINAL NUN,2NUN,2SAMEKH,2AYIN,2PE,2SADHE,2QOPH,2RESH,2SHIN,2TAW,1LEFT-POINTING FLEURON,1RIGHT-~,1NUMBER ONE,2TWO
2THREE,2FOUR,2FIVE,2TEN,2TWENTY,NABATAEAN LETTER FINAL ALEPH,2ALEPH,2FINAL BETH,2BETH,2GIMEL,2DALETH,2FINAL HE,2HE
2WAW,2ZAYIN,2HETH,2TETH,2FINAL YODH,2YODH,2FINAL KAPH,2KAPH,2FINAL LAMEDH,2LAMEDH,2FINAL MEM,2MEM,2FINAL NUN,2NUN
2SAMEKH,2AYIN,2PE,2SADHE,2QOPH,2RESH,2FINAL SHIN,2SHIN,2TAW,@108A7,1NUMBER ONE,2TWO,2THREE,2FOUR
1CRUCIFORM NUMBER FOUR,1NUMBER FIVE,2TEN,2TWENTY,2ONE HUNDRED,@108E0,HATRAN LETTER ALEPH,2BETH,2GIMEL,2DALETH-RESH,2HE
2WAW,2ZAYN,2HETH,2TETH,2YODH,2KAPH,2LAMEDH,2MEM,2NUN,2SAMEKH,2AYN,2PE,2SADHE,2QOPH,@108F4,2SHIN,2TAW,@108FB
1NUMBER ONE,2FIVE,2TEN,2TWENTY,2ONE HUNDRED,PHOENICIAN LETTER ALF,2BET,2GAML,2DELT,2HE,2WAU,2ZAI,2HET,2TET,2YOD,2KAF
2LAMD,2MEM,2NUN,2SEMK,2AIN,2PE,2SADE,2QOF,2ROSH,2SHIN,2TAU,1NUMBER ONE,2TEN,2TWENTY,2ONE HUNDRED,2TWO,2THREE,@1091F
1WORD SEPARATOR,LYDIAN LETTER A,+1,2G,2D,+1,2V,2I,2Y,2K,+4,2R,2SS,2T,+1,2F,2Q,2S,2TT,2AN,2EN,2LY,2NN,2C,@1093F
1TRIANGULAR MARK,@10980,MEROITIC HIEROGLYPHIC LETTER A,3E,3I,3O,3YA,3WA,3BA,3BA-2,3PA,3MA,3NA,3NA-2,3NE,3NE-2,3RA
3RA-2,3LA,3KHA,3HHA,3SA,3SA-2,3SE,3KA,3QA,3TA,3TA-2,3TE,3TE-2,3TO,3DA,2SYMBOL VIDJ,3VIDJ-2,1CURSIVE LETTER A,3E,3I,3O
3YA,3WA,3BA,3PA,3MA,3NA,3NE,3RA,3LA,3KHA,3HHA,3SA,3ARCHAIC SA,3SE,3KA,3QA,3TA,3TE,3TO,3DA,@109BC
2FRACTION ELEVEN TWELFTHS,3ONE HALF,2LOGOGRAM RMT,3IMN,2NUMBER ONE,3TWO,3THREE,3FOUR,3FIVE,3SIX,3SEVEN,3EIGHT,3NINE
3TEN,3TWENTY,3THIRTY,3FORTY,3FIFTY,3SIXTY,3SEVENTY,@109D2,3ONE HUNDRED,3TWO ~,3THREE ~,3FOUR ~,3FIVE ~,3SIX ~,3SEVEN ~
3EIGHT ~,3NINE ~,3ONE THOUSAND,3TWO ~,3THREE ~,3FOUR ~,3FIVE ~,3SIX ~,3SEVEN ~,3EIGHT ~,3NINE ~,3TEN ~,3TWENTY ~
3THIRTY ~,3FORTY ~,3FIFTY ~,3SIXTY ~,3SEVENTY ~,3EIGHTY ~,3NINETY ~,3ONE HUNDRED THOUSAND,3TWO ~,3THREE ~,3FOUR ~
3FIVE ~,3SIX ~,3SEVEN ~,3EIGHT ~,3NINE ~,2FRACTION ONE TWELFTH,3TWO TWELFTHS,3THREE ~,3FOUR ~,3FIVE ~,3SIX ~,3SEVEN ~
3EIGHT ~,3NINE ~,3TEN ~,KHAROSHTHI LETTER A,1VOWEL SIGN I,3U,3VOCALIC R,@10A05,3E,3O,@10A0C,2LENGTH MARK
1SIGN DOUBLE RING BELOW,2ANUSVARA,2VISARGA,1LETTER KA,2KHA,2GA,2GHA,@10A15,2CA,2CHA,2JA,@10A19,2NYA,2TTA,2TTHA,2DDA
2DDHA,2NNA,2TA,2THA,2DA,2DHA,2NA,2PA,2PHA,2BA,2BHA,2MA,2YA,2RA,2LA,2VA,2SHA,2SSA,2SA,2ZA,2HA,2KKA,2TTTHA,2TTTA,2VHA
@10A38,1SIGN BAR ABOVE,2CAUDA,2DOT BELOW,@10A3F,1VIRAMA,1DIGIT ONE,2TWO,2THREE,2FOUR,1NUMBER TEN,2TWENTY,2ONE HUNDRED
3THOUSAND,1FRACTION ONE HALF,@10A50,1PUNCTUATION DOT,2SMALL CIRCLE,2CIRCLE,2CRESCENT BAR,2MANGALAM,2LOTUS,2DANDA
2DOUBLE DANDA,2LINES,@10A60,OLD SOUTH ARABIAN LETTER HE,4LAMEDH,4HETH,4MEM,4QOPH,4WAW,4SHIN,4RESH,4BETH,4TAW,4SAT
4KAPH,4NUN,4KHETH,4SADHE,4SAMEKH,4FE,4ALEF,4AYN,4DHADHE,4GIMEL,4DALETH,4GHAYN,4TETH,4ZAYN,4DHALETH,4YODH,4THAW,4THETH
3NUMBER ONE,4FIFTY,3NUMERIC INDICATOR,1NORTH ARABIAN LETTER HEH,4LAM,4HAH,4MEEM,4QAF,4WAW,4ES-2,4REH,4BEH,4TEH,4ES-1
4KAF,4NOON,4KHAH,4SAD,4ES-3,4FEH,4ALEF,4AIN,4DAD,4GEEM,4DAL,4GHAIN,4TAH,4ZAIN,4THAL,4YEH,4THEH,4ZAH,3NUMBER ONE,4TEN
4TWENTY,@10AC0,MANICHAEAN LETTER ALEPH,2BETH,2BHETH,2GIMEL,2GHIMEL,2DALETH,2HE,2WAW,1SIGN UD,1LETTER ZAYIN,2ZHAYIN
2JAYIN,2JHAYIN,2HETH,2TETH,2YODH,2KAPH,2XAPH,2KHAPH,2LAMEDH,2DHAMEDH,2THAMEDH,2MEM,2NUN,2SAMEKH,2AYIN,2AAYIN,2PE,2FE
2SADHE,2QOPH,2XOPH,2QHOPH,2RESH,2SHIN,2SSHIN,2TAW,1ABBREVIATION MARK ABOVE,3BELOW,@10AEB,1NUMBER ONE,2FIVE,2TEN
2TWENTY,2ONE HUNDRED,1PUNCTUATION STAR,2FLEURON,2DOUBLE DOT WITHIN DOT,2DOT WITHIN DOT,2DOT,2TWO DOTS,2LINE FILLER
@10B00,AVESTAN LETTER A,2AA,2AO,2AAO,2AN,2AAN,2AE,2AEE,2E,2EE,2O,2OO,2I,2II,2U,2UU,2KE,2XE,2XYE,2XVE,2GE,2GGE,2GHE,2CE
2JE,2TE,2THE,2DE,2DHE,2TTE,2PE,2FE,2BE,2BHE,2NGE,2NGYE,2NGVE,2NE,2NYE,2NNE,2ME,2HME,2YYE,2YE,2VE,2RE,2LE,2SE,2ZE,2SHE
2ZHE,2SHYE,2SSHE,2HE,@10B39,1ABBREVIATION MARK,TINY TWO DOTS OVER ONE DOT PUNCTUATION,SMALL ~,LARGE ~
1ONE DOT OVER TWO DOTS ~,1TWO RINGS OVER ONE RING ~,1ONE RING OVER TWO RINGS ~,INSCRIPTIONAL PARTHIAN LETTER ALEPH
3BETH,3GIMEL,3DALETH,3HE,3WAW,3ZAYIN,3HETH,3TETH,3YODH,3KAPH,3LAMEDH,3MEM,3NUN,3SAMEKH,3AYIN,3PE,3SADHE,3QOPH,3RESH
3SHIN,3TAW,@10B58,2NUMBER ONE,3TWO,3THREE,3FOUR,3TEN,3TWENTY,3ONE HUNDRED,4THOUSAND,1PAHLAVI LETTER ALEPH,3BETH,3GIMEL
3DALETH,3HE,3WAW-AYIN-RESH,3ZAYIN,3HETH,3TETH,3YODH,3KAPH,3LAMEDH,3MEM-QOPH,3NUN,3SAMEKH,3PE,3SADHE,3SHIN,3TAW,@10B78
2NUMBER ONE,3TWO,3THREE,3FOUR,3TEN,3TWENTY,3ONE HUNDRED,4THOUSAND,PSALTER PAHLAVI LETTER ALEPH,3BETH,3GIMEL,3DALETH
3HE,3WAW-AYIN-RESH,3ZAYIN,3HETH,3YODH,3KAPH,3LAMEDH,3MEM-QOPH,3NUN,3SAMEKH,3PE,3SADHE,3SHIN,3TAW,@10B99,2SECTION MARK
2TURNED SECTION MARK,2FOUR DOTS WITH CROSS,5DOT,@10BA9,2NUMBER ONE,3TWO,3THREE,3FOUR,3TEN,3TWENTY,3ONE HUNDRED,@10C00
OLD TURKIC LETTER ORKHON A,3YENISEI A,4AE,3ORKHON I,3YENISEI I,4E,3ORKHON O,4OE,3YENISEI ~,3ORKHON AB,3YENISEI ~
3ORKHON AEB,3YENISEI ~,3ORKHON AG,3YENISEI ~,3ORKHON AEG,3YENISEI ~,3ORKHON AD,3YENISEI ~,3ORKHON AED,4EZ,3YENISEI ~
3ORKHON AY,3YENISEI ~,3ORKHON AEY,3YENISEI ~,3ORKHON AEK,3YENISEI ~,3ORKHON OEK,3YENISEI ~,3ORKHON AL,3YENISEI ~
3ORKHON AEL,4ELT,4EM,4AN,4AEN,3YENISEI ~,3ORKHON ENT,3YENISEI ~,3ORKHON ENC,3YENISEI ~,3ORKHON ENY,3YENISEI ~,4ANG
3ORKHON ENG,3YENISEI AENG,3ORKHON EP,4OP,4IC,4EC,3YENISEI ~,3ORKHON AQ,3YENISEI ~,3ORKHON IQ,3YENISEI ~,3ORKHON OQ
3YENISEI ~,3ORKHON AR,3YENISEI ~,3ORKHON AER,4AS,4AES,4ASH,3YENISEI ~,3ORKHON ESH,3YENISEI ~,3ORKHON AT,3YENISEI ~
3ORKHON AET,3YENISEI ~,3ORKHON OT,4BASH,@10C80,1HUNGARIAN CAPITAL LETTER A,4AA,4EB,4AMB,4EC,4ENC,4ECS,4ED,4AND,4E
4CLOSE E,4EE,+2,4EGY,4EH,4I,4II,4EJ,+1,4AK,4UNK,4EL,4ELY,4EM,+1,4ENY,4O,4OO,4NIKOLSBURG OE,4RUDIMENTA ~,4OEE,4EP,4EMP
4ER,4SHORT ER,4ES,4ESZ,4ET,4ENT,4ETY,4ECH,4U,4UU,4NIKOLSBURG UE,4RUDIMENTA ~,4EV,4EZ,4EZS,4ENT-SHAPED SIGN,4US,@10CC0
2SMALL LETTER A,4AA,4EB,4AMB,4EC,4ENC,4ECS,4ED,4AND,4E,4CLOSE E,4EE,+2,4EGY,4EH,4I,4II,4EJ,+1,4AK,4UNK,4EL,4ELY,4EM,+1
4ENY,4O,4OO,4NIKOLSBURG OE,4RUDIMENTA ~,4OEE,4EP,4EMP,4ER,4SHORT ER,4ES,4ESZ,4ET,4ENT,4ETY,4ECH,4U,4UU,4NIKOLSBURG UE
4RUDIMENTA ~,4EV,4EZ,4EZS,4ENT-SHAPED SIGN,4US,@10CFA,2NUMBER ONE,3FIVE,3TEN,3FIFTY,3ONE HUNDRED,4THOUSAND
HANIFI ROHINGYA LETTER A,3BA,3PA,3TA,3TTA,3JA,3CA,3HA,3KHA,3FA,3DA,3DDA,3RA,3RRA,3ZA,3SA,3SHA,3KA,3GA,3LA,3MA,3NA,3WA
3KINNA WA,3YA,3KINNA YA,3NGA,3NYA,3VA,2VOWEL A,3I,3U,3E,3O,2MARK SAKIN,3NA KHONNA,2SIGN HARBAHAY,3TAHALA,3TANA,3TASSI
@10D30,2DIGIT ZERO,3ONE,3TWO,3THREE,3FOUR,3FIVE,3SIX,3SEVEN,3EIGHT,3NINE,@10E60,RUMI DIGIT ONE,2TWO,2THREE,2FOUR,2FIVE
2SIX,2SEVEN,2EIGHT,2NINE,1NUMBER TEN,2TWENTY,2THIRTY,2FORTY,2FIFTY,2SIXTY,2SEVENTY,2EIGHTY,2NINETY,2ONE HUNDRED,2TWO ~
2THREE ~,2FOUR ~,2FIVE ~,2SIX ~,2SEVEN ~,2EIGHT ~,2NINE ~,1FRACTION ONE HALF,3QUARTER,3THIRD,2TWO THIRDS,@10E80
YEZIDI LETTER ELIF,2BE,2PE,2PHE,2THE,2SE,2CIM,2CHIM,2CHHIM,2HHA,2XA,2DAL,2ZAL,2RA,2RHA,2ZA,2JA,2SIN,2SHIN,2SAD,2DAD
2TA,2ZE,2EYN,2XHEYN,2FA,2VA,2VA ALTERNATE FORM,2QAF,2KAF,2KHAF,2GAF,2LAM,2MIM,2NUN,2UM,2WAW,2OW,2EW,2HAY,2YOT,2ET
@10EAB,1COMBINING HAMZA MARK,2MADDA ~,1HYPHENATION MARK,@10EB0,1LETTER LAM WITH DOT ABOVE,2YOT WITH CIRCUMFLEX ~
@10F00,OLD SOGDIAN LETTER ALEPH,3FINAL ALEPH,3BETH,3FINAL BETH,3GIMEL,3HE,3FINAL HE,3WAW,3ZAYIN,3HETH,3YODH,3KAPH
3LAMEDH,3MEM,3NUN,3FINAL NUN,4NUN WITH VERTICAL TAIL,3SAMEKH,3AYIN,3ALTERNATE AYIN,3PE,3SADHE,3FINAL SADHE
4SADHE WITH VERTICAL TAIL,3RESH-AYIN-DALETH,3SHIN,3TAW,3FINAL TAW,4TAW WITH VERTICAL TAIL,2NUMBER ONE,3TWO,3THREE
3FOUR,3FIVE,3TEN,3TWENTY,3THIRTY,3ONE HUNDRED,2FRACTION ONE HALF,2LIGATURE AYIN-DALETH,@10F30,SOGDIAN LETTER ALEPH
2BETH,2GIMEL,2HE,2WAW,2ZAYIN,2HETH,2YODH,2KAPH,2LAMEDH,2MEM,2NUN,2SAMEKH,2AYIN,2PE,2SADHE,2RESH-AYIN,2SHIN,2TAW,2FETH
2LESH,1INDEPENDENT SHIN,1COMBINING DOT BELOW,2TWO DOTS BELOW,2DOT ABOVE,2TWO DOTS ABOVE,2CURVE ABOVE,3BELOW
2HOOK ABOVE,3BELOW,2LONG HOOK BELOW,2RESH BELOW,2STROKE ~,1NUMBER ONE,2TEN,2TWENTY,2ONE HUNDRED
1PUNCTUATION TWO VERTICAL BARS,4BARS WITH DOTS,2CIRCLE WITH DOT,2TWO CIRCLES WITH DOTS,2HALF CIRCLE WITH DOT,@10F70
OLD UYGHUR LETTER ALEPH,3BETH,3GIMEL-HETH,3WAW,3ZAYIN,3FINAL HETH,3YODH,3KAPH,3LAMEDH,3MEM,3NUN,3SAMEKH,3PE,3SADHE
3RESH,3SHIN,3TAW,3LESH,2COMBINING DOT ABOVE,4BELOW,3TWO DOTS ABOVE,5BELOW,2PUNCTUATION BAR,3TWO BARS,4DOTS,3FOUR ~
@10FB0,CHORASMIAN LETTER ALEPH,2SMALL ALEPH,2BETH,2GIMEL,2DALETH,2HE,2WAW,2CURLED WAW,2ZAYIN,2HETH,2YODH,2KAPH,2LAMEDH
2MEM,2NUN,2SAMEKH,2AYIN,2PE,2RESH,2SHIN,2TAW,1NUMBER ONE,2TWO,2THREE,2FOUR,2TEN,2TWENTY,2ONE HUNDRED,@10FE0
ELYMAIC LETTER ALEPH,2BETH,2GIMEL,2DALETH,2HE,2WAW,2ZAYIN,2HETH,2TETH,2YODH,2KAPH,2LAMEDH,2MEM,2NUN,2SAMEKH,2AYIN,2PE
2SADHE,2QOPH,2RESH,2SHIN,2TAW,1LIGATURE ZAYIN-YODH,@11000,BRAHMI SIGN CANDRABINDU,2ANUSVARA,2VISARGA,2JIHVAMULIYA
2UPADHMANIYA,1LETTER A,2AA,2I,2II,2U,2UU,2VOCALIC R,3RR,3L,3LL,2E,2AI,2O,2AU,2KA,2KHA,2GA,2GHA,2NGA,2CA,2CHA,2JA,2JHA
2NYA,2TTA,2TTHA,2DDA,2DDHA,2NNA,2TA,2THA,2DA,2DHA,2NA,2PA,2PHA,2BA,2BHA,2MA,2YA,2RA,2LA,2VA,2SHA,2SSA,2SA,2HA,2LLA
2OLD TAMIL LLLA,4RRA,4NNNA,1VOWEL SIGN AA,3BHATTIPROLU AA,3I,3II,3U,3UU,3VOCALIC R,4RR,4L,4LL,3E,3AI,3O,3AU,1VIRAMA
1DANDA,1DOUBLE DANDA,1PUNCTUATION DOT,2DOUBLE DOT,2LINE,2CRESCENT BAR,2LOTUS,@11052,1NUMBER ONE,2TWO,2THREE,2FOUR
2FIVE,2SIX,2SEVEN,2EIGHT,2NINE,2TEN,2TWENTY,2THIRTY,2FORTY,2FIFTY,2SIXTY,2SEVENTY,2EIGHTY,2NINETY,2ONE HUNDRED
3THOUSAND,1DIGIT ZERO,2ONE,2TWO,2THREE,2FOUR,2FIVE,2SIX,2SEVEN,2EIGHT,2NINE,1SIGN OLD TAMIL VIRAMA
1LETTER OLD TAMIL SHORT E,5O,1VOWEL SIGN OLD TAMIL SHORT E,6O,1LETTER OLD TAMIL LLA,@1107F,1NUMBER JOINER
KAITHI SIGN CANDRABINDU,2ANUSVARA,2VISARGA,1LETTER A,2AA,2I,2II,2U,2UU,2E,2AI,2O,2AU,2KA,2KHA,2GA,2GHA,2NGA,2CA,2CHA
2JA,2JHA,2NYA,2TTA,2TTHA,2DDA,2DDDHA,2DDHA,2RHA,2NNA,2TA,2THA,2DA,2DHA,2NA,2PA,2PHA,2BA,2BHA,2MA,2YA,2RA,2LA,2VA,2SHA
2SSA,2SA,2HA,1VOWEL SIGN AA,3I,3II,3U,3UU,3E,3AI,3O,3AU,1SIGN VIRAMA,2NUKTA,1ABBREVIATION SIGN,1ENUMERATION ~
1NUMBER ~,1SECTION MARK,1DOUBLE SECTION MARK,1DANDA,1DOUBLE DANDA,1VOWEL SIGN VOCALIC R,@110CD,1NUMBER SIGN ABOVE
@110D0,SORA SOMPENG LETTER SAH,3TAH,3BAH,3CAH,3DAH,3GAH,3MAH,3NGAH,3LAH,3NAH,3VAH,3PAH,3YAH,3RAH,3HAH,3KAH,3JAH,3NYAH
3AH,3EEH,3IH,3UH,3OH,3EH,3MAE,@110F0,2DIGIT ZERO,3ONE,3TWO,3THREE,3FOUR,3FIVE,3SIX,3SEVEN,3EIGHT,3NINE,@11100
CHAKMA SIGN CANDRABINDU,2ANUSVARA,2VISARGA,1LETTER AA,2I,2U,2E,2KAA,2KHAA,2GAA,2GHAA,2NGAA,2CAA,2CHAA,2JAA,2JHAA,2NYAA
2TTAA,2TTHAA,2DDAA,2DDHAA,2NNAA,2TAA,2THAA,2DAA,2DHAA,2NAA,2PAA,2PHAA,2BAA,2BHAA,2MAA,2YYAA,2YAA,2RAA,2LAA,2WAA,2SAA
2HAA,1VOWEL SIGN A,3I,3II,3U,3UU,3E,3AI,3O,3AU,3OI,1O MARK,1AU ~,1VIRAMA,1MAAYYAA,@11136,1DIGIT ZERO,2ONE,2TWO,2THREE
2FOUR,2FIVE,2SIX,2SEVEN,2EIGHT,2NINE,1SECTION MARK,1DANDA,1DOUBLE DANDA,1QUESTION MARK,1LETTER LHAA,1VOWEL SIGN AA,3EI
1LETTER VAA,@11150,MAHAJANI LETTER A,2I,2U,2E,2O,2KA,2KHA,2GA,2GHA,2CA,2CHA,2JA,2JHA,2NYA,2TTA,2TTHA,2DDA,2DDHA,2NNA
2TA,2THA,2DA,2DHA,2NA,2PA,2PHA,2BA,2BHA,2MA,2RA,2LA,2VA,2SA,2HA,2RRA,1SIGN NUKTA,1ABBREVIATION SIGN,1SECTION MARK
1LIGATURE SHRI,@11180,SHARADA SIGN CANDRABINDU,2ANUSVARA,2VISARGA,1LETTER A,2AA,2I,2II,2U,2UU,2VOCALIC R,3RR,3L,3LL,2E
2AI,2O,2AU,2KA,2KHA,2GA,2GHA,2NGA,2CA,2CHA,2JA,2JHA,2NYA,2TTA,2TTHA,2DDA,2DDHA,2NNA,2TA,2THA,2DA,2DHA,2NA,2PA,2PHA,2BA
2BHA,2MA,2YA,2RA,2LA,2LLA,2VA,2SHA,2SSA,2SA,2HA,1VOWEL SIGN AA,3I,3II,3U,3UU,3VOCALIC R,4RR,4L,4LL,3E,3AI,3O,3AU
1SIGN VIRAMA,2AVAGRAHA,2JIHVAMULIYA,2UPADHMANIYA,1OM,1DANDA,1DOUBLE DANDA,1ABBREVIATION SIGN,1SEPARATOR,1SANDHI MARK
1SIGN NUKTA,1VOWEL MODIFIER MARK,1EXTRA SHORT VOWEL MARK,1SUTRA MARK,1VOWEL SIGN PRISHTHAMATRA E
1SIGN INVERTED CANDRABINDU,1DIGIT ZERO,2ONE,2TWO,2THREE,2FOUR,2FIVE,2SIX,2SEVEN,2EIGHT,2NINE,1EKAM,1SIGN SIDDHAM
1HEADSTROKE,1CONTINUATION SIGN,1SECTION MARK-1,+1,@111E1,SINHALA ARCHAIC DIGIT ONE,3TWO,3THREE,3FOUR,3FIVE,3SIX,3SEVEN
3EIGHT,3NINE,2NUMBER TEN,3TWENTY,3THIRTY,3FORTY,3FIFTY,3SIXTY,3SEVENTY,3EIGHTY,3NINETY,3ONE HUNDRED,4THOUSAND,@11200
KHOJKI LETTER A,2AA,2I,2U,2E,2AI,2O,2AU,2KA,2KHA,2GA,2GGA,2GHA,2NGA,2CA,2CHA,2JA,2JJA,@11213,2NYA,2TTA,2TTHA,2DDA
2DDHA,2NNA,2TA,2THA,2DA,2DDDA,2DHA,2NA,2PA,2PHA,2BA,2BBA,2BHA,2MA,2YA,2RA,2LA,2VA,2SA,2HA,2LLA,1VOWEL SIGN AA,3I,3II
3U,3E,3AI,3O,3AU,1SIGN ANUSVARA,2VIRAMA,2NUKTA,2SHADDA,1DANDA,1DOUBLE DANDA,1WORD SEPARATOR,1SECTION MARK
1DOUBLE SECTION MARK,1ABBREVIATION SIGN,1SIGN SUKUN,@11280,MULTANI LETTER A,2I,2U,2E,2KA,2KHA,2GA,@11288,2GHA,@1128A
2CA,2CHA,2JA,2JJA,@1128F,2NYA,2TTA,2TTHA,2DDA,2DDDA,2DDHA,2NNA,2TA,2THA,2DA,2DHA,2NA,2PA,2PHA,2BA,@1129F,2BHA,2MA,2YA
2RA,2LA,2VA,2SA,2HA,2RRA,2RHA,1SECTION MARK,@112B0,KHUDAWADI LETTER A,2AA,2I,2II,2U,2UU,2E,2AI,2O,2AU,2KA,2KHA,2GA
2GGA,2GHA,2NGA,2CA,2CHA,2JA,2JJA,2JHA,2NYA,2TTA,2TTHA,2DDA,2DDDA,2RRA,2DDHA,2NNA,2TA,2THA,2DA,2DHA,2NA,2PA,2PHA,2BA
2BBA,2BHA,2MA,2YA,2RA,2LA,2VA,2SHA,2SA,2HA,1SIGN ANUSVARA,1VOWEL SIGN AA,3I,3II,3U,3UU,3E,3AI,3O,3AU,1SIGN NUKTA
2VIRAMA,@112F0,1DIGIT ZERO,2ONE,2TWO,2THREE,2FOUR,2FIVE,2SIX,2SEVEN,2EIGHT,2NINE,@11300
GRANTHA SIGN COMBINING ANUSVARA ABOVE,2CANDRABINDU,2ANUSVARA,2VISARGA,@11305,1LETTER A,2AA,2I,2II,2U,2UU,2VOCALIC R,3L
@1130F,2EE,2AI,@11313,2OO,2AU,2KA,2KHA,2GA,2GHA,2NGA,2CA,2CHA,2JA,2JHA,2NYA,2TTA,2TTHA,2DDA,2DDHA,2NNA,2TA,2THA,2DA
2DHA,2NA,@1132A,2PA,2PHA,2BA,2BHA,2MA,2YA,2RA,@11332,2LA,2LLA,@11335,2VA,2SHA,2SSA,2SA,2HA,@1133B
COMBINING BINDU BELOW,GRANTHA SIGN NUKTA,2AVAGRAHA,1VOWEL SIGN AA,3I,3II,3U,3UU,3VOCALIC R,4RR,@11347,3EE,3AI,@1134B
3OO,3AU,1SIGN VIRAMA,@11350,1OM,@11357,1AU LENGTH MARK,@1135D,1SIGN PLUTA,1LETTER VEDIC ANUSVARA,3DOUBLE ANUSVARA
2VOCALIC RR,3LL,1VOWEL SIGN VOCALIC L,4LL,@11366,COMBINING GRANTHA DIGIT ZERO,3ONE,3TWO,3THREE,3FOUR,3FIVE,3SIX,@11370
2LETTER A,3KA,3NA,3VI,3PA,@11400,NEWA LETTER A,2AA,2I,2II,2U,2UU,2VOCALIC R,3RR,3L,3LL,2E,2AI,2O,2AU,2KA,2KHA,2GA,2GHA
2NGA,2NGHA,2CA,2CHA,2JA,2JHA,2NYA,2NYHA,2TTA,2TTHA,2DDA,2DDHA,2NNA,2TA,2THA,2DA,2DHA,2NA,2NHA,2PA,2PHA,2BA,2BHA,2MA
2MHA,2YA,2RA,2RHA,2LA,2LHA,2WA,2SHA,2SSA,2SA,2HA,1VOWEL SIGN AA,3I,3II,3U,3UU,3VOCALIC R,4RR,4L,4LL,3E,3AI,3O,3AU
1SIGN VIRAMA,2CANDRABINDU,2ANUSVARA,2VISARGA,2NUKTA,2AVAGRAHA,2FINAL ANUSVARA,1OM,1SIDDHI,1DANDA,1DOUBLE DANDA,1COMMA
1GAP FILLER,1ABBREVIATION SIGN,1DIGIT ZERO,2ONE,2TWO,2THREE,2FOUR,2FIVE,2SIX,2SEVEN,2EIGHT,2NINE,1DOUBLE COMMA
1PLACEHOLDER MARK,@1145D,1INSERTION SIGN,1SANDHI MARK,1LETTER VEDIC ANUSVARA,1SIGN JIHVAMULIYA,2UPADHMANIYA,@11480
TIRHUTA ANJI,1LETTER A,2AA,2I,2II,2U,2UU,2VOCALIC R,3RR,3L,3LL,2E,2AI,2O,2AU,2KA,2KHA,2GA,2GHA,2NGA,2CA,2CHA,2JA,2JHA
2NYA,2TTA,2TTHA,2DDA,2DDHA,2NNA,2TA,2THA,2DA,2DHA,2NA,2PA,2PHA,2BA,2BHA,2MA,2YA,2RA,2LA,2VA,2SHA,2SSA,2SA,2HA
1VOWEL SIGN AA,3I,3II,3U,3UU,3VOCALIC R,4RR,4L,4LL,3E,3SHORT E,3AI,3O,3SHORT O,3AU,1SIGN CANDRABINDU,2ANUSVARA
2VISARGA,2VIRAMA,2NUKTA,2AVAGRAHA,1GVANG,1ABBREVIATION SIGN,1OM,@114D0,1DIGIT ZERO,2ONE,2TWO,2THREE,2FOUR,2FIVE,2SIX
2SEVEN,2EIGHT,2NINE,@11580,SIDDHAM LETTER A,2AA,2I,2II,2U,2UU,2VOCALIC R,3RR,3L,3LL,2E,2AI,2O,2AU,2KA,2KHA,2GA,2GHA
2NGA,2CA,2CHA,2JA,2JHA,2NYA,2TTA,2TTHA,2DDA,2DDHA,2NNA,2TA,2THA,2DA,2DHA,2NA,2PA,2PHA,2BA,2BHA,2MA,2YA,2RA,2LA,2VA
2SHA,2SSA,2SA,2HA,1VOWEL SIGN AA,3I,3II,3U,3UU,3VOCALIC R,4RR,@115B8,3E,3AI,3O,3AU,1SIGN CANDRABINDU,2ANUSVARA
2VISARGA,2VIRAMA,2NUKTA,2SIDDHAM,1DANDA,1DOUBLE DANDA,1SEPARATOR DOT,2BAR,1REPETITION MARK-1,+2,1END OF TEXT MARK
1SECTION MARK WITH TRIDENT AND U-SHAPED ORNAMENTS,6DOTTED CRESCENTS,4RAYS ~,7DOUBLE CRESCENTS,7TRIPLE ~,3DOUBLE RING
4RING WITH RAYS,3WITH DOUBLE CRESCENTS,4TRIPLE ~,4QUADRUPLE ~,4SEPTUPLE ~,4CIRCLES AND RAYS,6TWO ENCLOSURES,6FOUR ~
1LETTER THREE-CIRCLE ALTERNATE I,2TWO-~,5II,2ALTERNATE U,1VOWEL SIGN ALTERNATE U,4UU,@11600,MODI LETTER A,2AA,2I,2II
2U,2UU,2VOCALIC R,3RR,3L,3LL,2E,2AI,2O,2AU,2KA,2KHA,2GA,2GHA,2NGA,2CA,2CHA,2JA,2JHA,2NYA,2TTA,2TTHA,2DDA,2DDHA,2NNA
2TA,2THA,2DA,2DHA,2NA,2PA,2PHA,2BA,2BHA,2MA,2YA,2RA,2LA,2VA,2SHA,2SSA,2SA,2HA,2LLA,1VOWEL SIGN AA,3I,3II,3U,3UU
3VOCALIC R,4RR,4L,4LL,3E,3AI,3O,3AU,1SIGN ANUSVARA,2VISARGA,2VIRAMA,2ARDHACANDRA,1DANDA,1DOUBLE DANDA
1ABBREVIATION SIGN,1SIGN HUVA,@11650,1DIGIT ZERO,2ONE,2TWO,2THREE,2FOUR,2FIVE,2SIX,2SEVEN,2EIGHT,2NINE,@11660
MONGOLIAN BIRGA WITH ORNAMENT,1ROTATED BIRGA,1DOUBLE BIRGA WITH ORNAMENT,1TRIPLE ~,1BIRGA WITH DOUBLE ~
1ROTATED BIRGA WITH ~,4DOUBLE ORNAMENT,1INVERTED BIRGA,2BIRGA WITH DOUBLE ORNAMENT,1SWIRL BIRGA,2BIRGA WITH ORNAMENT
4DOUBLE ORNAMENT,1TURNED SWIRL BIRGA WITH DOUBLE ORNAMENT,@11680,TAKRI LETTER A,2AA,2I,2II,2U,2UU,2E,2AI,2O,2AU,2KA
2KHA,2GA,2GHA,2NGA,2CA,2CHA,2JA,2JHA,2NYA,2TTA,2TTHA,2DDA,2DDHA,2NNA,2TA,2THA,2DA,2DHA,2NA,2PA,2PHA,2BA,2BHA,2MA,2YA
2RA,2LA,2VA,2SHA,2SA,2HA,2RRA,1SIGN ANUSVARA,2VISARGA,1VOWEL SIGN AA,3I,3II,3U,3UU,3E,3AI,3O,3AU,1SIGN VIRAMA,2NUKTA
1LETTER ARCHAIC KHA,1ABBREVIATION SIGN,@116C0,1DIGIT ZERO,2ONE,2TWO,2THREE,2FOUR,2FIVE,2SIX,2SEVEN,2EIGHT,2NINE,@11700
AHOM LETTER KA,2KHA,2NGA,2NA,2TA,2ALTERNATE TA,2PA,2PHA,2BA,2MA,2JA,2CHA,2THA,2RA,2LA,2SA,2NYA,2HA,2A,2DA,2DHA,2GA
2ALTERNATE GA,2GHA,2BHA,2JHA,2ALTERNATE BA,@1171D,1CONSONANT SIGN MEDIAL LA,4RA,4LIGATING RA,1VOWEL SIGN A,3AA,3I,3II
3U,3UU,3E,3AW,3O,3AI,3AM,1SIGN KILLER,@11730,1DIGIT ZERO,2ONE,2TWO,2THREE,2FOUR,2FIVE,2SIX,2SEVEN,2EIGHT,2NINE
1NUMBER TEN,2TWENTY,1SIGN SMALL SECTION,2SECTION,2RULAI,1SYMBOL VI,1LETTER CA,2TTA,2TTHA,2DDA,2DDHA,2NNA,2LLA,@11800
DOGRA LETTER A,2AA,2I,2II,2U,2UU,2E,2AI,2O,2AU,2KA,2KHA,2GA,2GHA,2NGA,2CA,2CHA,2JA,2JHA,2NYA,2TTA,2TTHA,2DDA,2DDHA
2NNA,2TA,2THA,2DA,2DHA,2NA,2PA,2PHA,2BA,2BHA,2MA,2YA,2RA,2LA,2VA,2SHA,2SSA,2SA,2HA,2RRA,1VOWEL SIGN AA,3I,3II,3U,3UU
3VOCALIC R,4RR,3E,3AI,3O,3AU,1SIGN ANUSVARA,2VISARGA,2VIRAMA,2NUKTA,1ABBREVIATION SIGN,@118A0
WARANG CITI CAPITAL LETTER NGAA,4A,4WI,4YU,4YA,4YO,4II,4UU,4E,4O,4ANG,4GA,4KO,4ENY,4YUJ,4UC,4ENN,4ODD,4TTE,4NUNG,4DA
4AT,4AM,4BU,4PU,4HIYO,4HOLO,4HORR,4HAR,4SSUU,4SII,4VIYO,2SMALL LETTER NGAA,4A,4WI,4YU,4YA,4YO,4II,4UU,4E,4O,4ANG,4GA
4KO,4ENY,4YUJ,4UC,4ENN,4ODD,4TTE,4NUNG,4DA,4AT,4AM,4BU,4PU,4HIYO,4HOLO,4HORR,4HAR,4SSUU,4SII,4VIYO,2DIGIT ZERO,3ONE
3TWO,3THREE,3FOUR,3FIVE,3SIX,3SEVEN,3EIGHT,3NINE,2NUMBER TEN,3TWENTY,3THIRTY,3FORTY,3FIFTY,3SIXTY,3SEVENTY,3EIGHTY
3NINETY,@118FF,2OM,DIVES AKURU LETTER A,3AA,3I,3II,3U,3UU,3E,@11909,3O,@1190C,3KA,3KHA,3GA,3GHA,3NGA,3CA,3CHA,3JA
@11915,3NYA,3TTA,@11918,3DDA,3DDHA,3NNA,3TA,3THA,3DA,3DHA,3NA,3PA,3PHA,3BA,3BHA,3MA,3YA,3YYA,3RA,3LA,3VA,3SHA,3SSA,3SA
3HA,3LLA,3ZA,2VOWEL SIGN AA,4I,4II,4U,4UU,4E,@11937,4AI,4O,@1193B,2SIGN ANUSVARA,3CANDRABINDU,3HALANTA,2VIRAMA
2PREFIXED NASAL SIGN,2MEDIAL YA,2INITIAL RA,2MEDIAL ~,2SIGN NUKTA,2DOUBLE DANDA,2GAP FILLER,2END OF TEXT MARK,@11950
2DIGIT ZERO,3ONE,3TWO,3THREE,3FOUR,3FIVE,3SIX,3SEVEN,3EIGHT,3NINE,@119A0,NANDINAGARI LETTER A,2AA,2I,2II,2U,2UU
2VOCALIC R,3RR,@119AA,2E,2AI,2O,2AU,2KA,2KHA,2GA,2GHA,2NGA,2CA,2CHA,2JA,2JHA,2NYA,2TTA,2TTHA,2DDA,2DDHA,2NNA,2TA,2THA
2DA,2DHA,2NA,2PA,2PHA,2BA,2BHA,2MA,2YA,2RA,2LA,2VA,2SHA,2SSA,2SA,2HA,2LLA,2RRA,1VOWEL SIGN AA,3I,3II,3U,3UU,3VOCALIC R
4RR,@119DA,3E,3AI,3O,3AU,1SIGN ANUSVARA,2VISARGA,2VIRAMA,2AVAGRAHA,2SIDDHAM,1HEADSTROKE,1VOWEL SIGN PRISHTHAMATRA E
@11A00,ZANABAZAR SQUARE LETTER A,2VOWEL SIGN I,4UE,4U,4E,4OE,4O,4AI,4AU,4REVERSED I,3LENGTH MARK,2LETTER KA,3KHA,3GA
3GHA,3NGA,3CA,3CHA,3JA,3NYA,3TTA,3TTHA,3DDA,3DDHA,3NNA,3TA,3THA,3DA,3DHA,3NA,3PA,3PHA,3BA,3BHA,3MA,3TSA,3TSHA,3DZA
3DZHA,3ZHA,3ZA,3-A,3YA,3RA,3LA,3VA,3SHA,3SSA,3SA,3HA,3KSSA,2FINAL CONSONANT MARK,2SIGN VIRAMA,3CANDRABINDU
3CANDRABINDU WITH ORNAMENT,3CANDRA ~,3ANUSVARA,3VISARGA,2CLUSTER-INITIAL LETTER RA,3FINAL LETTER YA,5RA,5LA,5VA
2INITIAL HEAD MARK,2CLOSING ~,2MARK TSHEG,3SHAD,3DOUBLE SHAD,3LONG TSHEG,2INITIAL DOUBLE-LINED HEAD MARK,2CLOSING ~
2SUBJOINER,@11A50,SOYOMBO LETTER A,1VOWEL SIGN I,3UE,3U,3E,3O,3OE,3AI,3AU,3VOCALIC R,4L,2LENGTH MARK,1LETTER KA,2KHA
2GA,2GHA,2NGA,2CA,2CHA,2JA,2JHA,2NYA,2TTA,2TTHA,2DDA,2DDHA,2NNA,2TA,2THA,2DA,2DHA,2NA,2PA,2PHA,2BA,2BHA,2MA,2TSA,2TSHA
2DZA,2ZHA,2ZA,2-A,2YA,2RA,2LA,2VA,2SHA,2SSA,2SA,2HA,2KSSA,1SIGN JIHVAMULIYA,2UPADHMANIYA,1CLUSTER-INITIAL LETTER RA
4LA,4SHA,4SA,1FINAL CONSONANT SIGN G,4K,4NG,4D,4N,4B,4M,4R,4L,4SH,4S,4-A,1SIGN ANUSVARA,2VISARGA,1GEMINATION MARK
1SUBJOINER,1MARK TSHEG,2SHAD,2DOUBLE SHAD,2PLUTA,1HEAD MARK WITH MOON AND SUN AND TRIPLE FLAME,8FLAME,6SUN
1TERMINAL MARK-1,+1,@11AB0,CANADIAN SYLLABICS NATTILIK HI,3HII,3HO,3HOO,3HA,3HAA,3SHRI,3SHRII,3SHRO,3SHROO,3SHRA
3SHRAA,2SPE,2SPI,2SPO,2SPA,PAU CIN HAU LETTER PA,4KA,4LA,4MA,4DA,4ZA,4VA,4NGA,4HA,4GA,4KHA,4SA,4BA,4CA,4TA,4THA,4NA
4PHA,4RA,4FA,4CHA,4A,4E,4I,4O,4U,4UA,4IA,4FINAL P,5K,5T,5M,+1,5L,5W,5NG,5Y,3RISING TONE LONG,4TONE
3SANDHI GLOTTAL STOP,3RISING TONE LONG FINAL,5FINAL,3SANDHI GLOTTAL STOP FINAL,4TONE LONG,4TONE,4TONE LONG FINAL
5FINAL,3MID-LEVEL TONE,3GLOTTAL STOP VARIANT,3MID-LEVEL TONE LONG FINAL,6FINAL,3LOW-FALLING TONE LONG,5TONE
3GLOTTAL STOP,3LOW-FALLING TONE LONG FINAL,6FINAL,3GLOTTAL STOP FINAL,@11C00,BHAIKSUKI LETTER A,2AA,2I,2II,2U,2UU
2VOCALIC R,3RR,3L,@11C0A,2E,2AI,2O,2AU,2KA,2KHA,2GA,2GHA,2NGA,2CA,2CHA,2JA,2JHA,2NYA,2TTA,2TTHA,2DDA,2DDHA,2NNA,2TA
2THA,2DA,2DHA,2NA,2PA,2PHA,2BA,2BHA,2MA,2YA,2RA,2LA,2VA,2SHA,2SSA,2SA,2HA,1VOWEL SIGN AA,3I,3II,3U,3UU,3VOCALIC R,4RR
4L,@11C38,3E,3AI,3O,3AU,1SIGN CANDRABINDU,2ANUSVARA,2VISARGA,2VIRAMA,2AVAGRAHA,1DANDA,1DOUBLE DANDA,1WORD SEPARATOR
1GAP FILLER-1,+1,@11C50,1DIGIT ZERO,2ONE,2TWO,2THREE,2FOUR,2FIVE,2SIX,2SEVEN,2EIGHT,2NINE,1NUMBER ONE,2TWO,2THREE
2FOUR,2FIVE,2SIX,2SEVEN,2EIGHT,2NINE,2TEN,2TWENTY,2THIRTY,2FORTY,2FIFTY,2SIXTY,2SEVENTY,2EIGHTY,2NINETY
1HUNDREDS UNIT MARK,@11C70,MARCHEN HEAD MARK,1MARK SHAD,1LETTER KA,2KHA,2GA,2NGA,2CA,2CHA,2JA,2NYA,2TA,2THA,2DA,2NA
2PA,2PHA,2BA,2MA,2TSA,2TSHA,2DZA,2WA,2ZHA,2ZA,2-A,2YA,2RA,2LA,2SHA,2SA,2HA,2A,@11C92,1SUBJOINED LETTER KA,3KHA,3GA
3NGA,3CA,3CHA,3JA,3NYA,3TA,3THA,3DA,3NA,3PA,3PHA,3BA,3MA,3TSA,3TSHA,3DZA,3WA,3ZHA,3ZA,@11CA9,3YA,3RA,3LA,3SHA,3SA,3HA
3A,1VOWEL SIGN AA,3I,3U,3E,3O,1SIGN ANUSVARA,2CANDRABINDU,@11D00,MASARAM GONDI LETTER A,3AA,3I,3II,3U,3UU,3E,@11D08
3AI,3O,@11D0B,3AU,3KA,3KHA,3GA,3GHA,3NGA,3CA,3CHA,3JA,3JHA,3NYA,3TTA,3TTHA,3DDA,3DDHA,3NNA,3TA,3THA,3DA,3DHA,3NA,3PA
3PHA,3BA,3BHA,3MA,3YA,3RA,3LA,3VA,3SHA,3SSA,3SA,3HA,3LLA,3KSSA,3JNYA,3TRA,2VOWEL SIGN AA,4I,4II,4U,4UU,4VOCALIC R
@11D3A,4E,@11D3C,4AI,4O,@11D3F,4AU,2SIGN ANUSVARA,3VISARGA,3NUKTA,3CANDRA,3HALANTA,2VIRAMA,2REPHA,2RA-KARA,@11D50
2DIGIT ZERO,3ONE,3TWO,3THREE,3FOUR,3FIVE,3SIX,3SEVEN,3EIGHT,3NINE,@11D60,GUNJALA GONDI LETTER A,3AA,3I,3II,3U,3UU
@11D67,3EE,3AI,@11D6A,3OO,3AU,3YA,3VA,3BA,3BHA,3MA,3KA,3KHA,3TA,3THA,3LA,3GA,3GHA,3DA,3DHA,3NA,3CA,3CHA,3TTA,3TTHA
3LLA,3JA,3JHA,3DDA,3DDHA,3NGA,3PA,3PHA,3HA,3RA,3SA,2VOWEL SIGN AA,4I,4II,4U,4UU,@11D90,4EE,4AI,@11D93,4OO,4AU
2SIGN ANUSVARA,3VISARGA,2VIRAMA,2OM,@11DA0,2DIGIT ZERO,3ONE,3TWO,3THREE,3FOUR,3FIVE,3SIX,3SEVEN,3EIGHT,3NINE,@11EE0
MAKASAR LETTER KA,2GA,2NGA,2PA,2BA,2MA,2TA,2DA,2NA,2CA,2JA,2NYA,2YA,2RA,2LA,2VA,2SA,2A,1ANGKA,1VOWEL SIGN I,3U,3E,3O
1PASSIMBANG,1END OF SECTION,@11FB0,LISU LETTER YHA,@11FC0,TAMIL FRACTION ONE THREE-HUNDRED-AND-TWENTIETH
3ONE-HUNDRED-AND-SIXTIETH,3EIGHTIETH,3SIXTY-FOURTH,3FORTIETH,3THIRTY-SECOND,2THREE EIGHTIETHS,3SIXTY-FOURTHS
2ONE TWENTIETH,3SIXTEENTH-1,+1,3TENTH,3EIGHTH,2THREE TWENTIETHS,3SIXTEENTHS,2ONE FIFTH,3QUARTER,3HALF-1,+1
2THREE QUARTERS,2DOWNSCALING FACTOR KIIZH,1SIGN NEL,2CEVITU,2AAZHAAKKU,2UZHAKKU,2MUUVUZHAKKU,2KURUNI,2PATHAKKU
2MUKKURUNI,2KAACU,2PANAM,2PON,2VARAAKAN,2PAARAM,2KUZHI,2VELI,1WET CULTIVATION SIGN,1DRY ~,1LAND SIGN,1SALT PAN SIGN
1TRADITIONAL CREDIT ~,2NUMBER ~,1CURRENT SIGN,1AND ODD SIGN,1SPENT SIGN,1TOTAL ~,1IN POSSESSION SIGN,1STARTING FROM ~
1SIGN MUTHALIYA,2VAKAIYARAA,@11FFF,1PUNCTUATION END OF TEXT,CUNEIFORM SIGN A,2A TIMES A,4BAD,4GAN2 TENU,4HA,4IGI
4LAGAR GUNU,4MUSH,4SAG,2A2,2AB,2AB TIMES ASH2,4DUN3 GUNU,4GAL,4GAN2 TENU,4HA,4IGI GUNU,4IMIN,4LAGAB,4SHESH
4U PLUS U PLUS U,3GUNU,2AB2,2AB2 TIMES BALAG,4GAN2 TENU,4ME PLUS EN,4SHA3,4TAK4,2AD,2AK,2AK TIMES ERIN2
4SHITA PLUS GISH,2AL,2AL TIMES AL,4DIM2,4GISH,4HA,4KAD3,4KI,4SHE,4USH,2ALAN,2ALEPH,2AMAR,2AMAR TIMES SHE,2AN
2AN OVER AN,3THREE TIMES,3PLUS NAGA OPPOSING AN PLUS NAGA,5SQUARED,2ANSHE,2APIN,2ARAD,2ARAD TIMES KUR,2ARKAB,2ASAL2
2ASH,2ASH ZIDA TENU,3KABA ~,3OVER ASH TUG2 OVER TUG2 TUG2 OVER TUG2 PAP,5OVER ASH,6ASH CROSSING ASH OVER ASH OVER ASH
2ASH2,2ASHGAB,2BA,2BAD,2BAG3,2BAHAR2,2BAL,2BAL OVER BAL,2BALAG,2BAR,2BARA2,2BI,2BI TIMES A,4GAR,4IGI GUNU,2BU
2BU OVER BU AB,5UN,3CROSSING BU,2BULUG,2BULUG OVER BULUG,2BUR,2BUR2,2DA,2DAG,2DAG KISIM5 TIMES A PLUS MASH,5AMAR
5BALAG,5BI,5GA,5GA PLUS MASH,5GI,5GIR2,5GUD,5HA,5IR,5IR PLUS LU,5KAK,5LA,5LU,5LU PLUS MASH2,5LUM,5NE,5PAP PLUS PAP,5SI
5TAK4,5U2 PLUS GIR2,5USH,2DAM,2DAR,2DARA3,+1,2DI,2DIB,2DIM,2DIM TIMES SHE,2DIM2,2DIN,2DIN KASKAL U GUNU DISH,2DISH,2DU
2DU OVER DU,3GUNU,3SHESHIG,2DUB,2DUB TIMES ESH2,2DUB2,2DUG,2DUGUD,2DUH,2DUN,2DUN3,2DUN3 GUNU,3GUNU GUNU,2DUN4,2DUR2,2E
2E TIMES PAP,3OVER E NUN OVER NUN,2E2,2E2 TIMES A PLUS HA PLUS DA,4GAR,4MI,4SAL,4SHE,4U,2EDIN,2EGIR,2EL,2EN
2EN TIMES GAN2,4GAN2 TENU,4ME,3CROSSING EN,3OPPOSING ~,3SQUARED,2EREN,2ERIN2,2ESH2,2EZEN,2EZEN TIMES A,4A PLUS LAL
6LAL TIMES LAL,4AN,4BAD,4DUN3 GUNU,5GUNU GUNU,4HA,4HA GUNU,4IGI ~,4KASKAL,4KASKAL SQUARED,4KU3,4LA,4LAL TIMES LAL,4LI
4LU,4U2,4UD,2GA,2GA GUNU,2GA2,2GA2 TIMES A PLUS DA PLUS HA,6HA,6IGI,4AB2 TENU PLUS TAB,4AN,4ASH,4ASH2 PLUS GAL,4BAD
4BAR PLUS RA,4BUR,4BUR PLUS RA,4DA,4DI,4DIM TIMES SHE,4DUB,4EL,4EL PLUS LA,4EN,4EN TIMES GAN2 TENU,4GAN2 TENU,4GAR,4GI
4GI4,4GI4 PLUS A,4GIR2 PLUS SU,4HA PLUS LU PLUS ESH2,4HAL,4HAL PLUS LA,4HI PLUS LI,4HUB2,4IGI GUNU
4ISH PLUS HU PLUS ASH,4KAK,4KASKAL,4KID,4KID PLUS LAL,4KU3 PLUS AN,4LA,4ME PLUS EN,4MI,4NUN,4NUN OVER NUN,4PA,4SAL
4SAR,4SHE,4SHE PLUS TUR,4SHID,4SUM,4TAK4,4U,4UD,4UD PLUS DU,3OVER GA2,2GABA,2GABA CROSSING GABA,2GAD
2GAD OVER GAD GAR OVER GAR,2GAL,2GAL GAD OVER GAD GAR OVER GAR,2GALAM,2GAM,+1,2GAN2,2GAN2 TENU,3OVER GAN2,3CROSSING ~
2GAR,2GAR3,2GASHAN,2GESHTIN,2GESHTIN TIMES KUR,2GI,2GI TIMES E,4U,3CROSSING GI,2GI4,2GI4 OVER GI4,3CROSSING ~,2GIDIM
2GIR2,2GIR2 GUNU,2GIR3,2GIR3 TIMES A PLUS IGI,4GAN2 TENU,4IGI,4LU PLUS IGI,4PA,2GISAL,2GISH,2GISH CROSSING GISH
3TIMES BAD,4TAK4,3TENU,2GU,2GU CROSSING GU,2GU2,2GU2 TIMES KAK,4KAK TIMES IGI GUNU,4NUN,4SAL PLUS TUG2,3GUNU,2GUD
2GUD TIMES A PLUS KUR,4KUR,3OVER GUD LUGAL,2GUL,+1,2GUM TIMES SHE,2GUR,2GUR7,2GURUN,2GURUSH,2HA,2HA TENU,3GUNU,2HAL
2HI,2HI TIMES ASH,4ASH2,4BAD,4DISH,4GAD,4KIN,4NUN,4SHE,4U,2HU,2HUB2,2HUB2 TIMES AN,4HAL,4KASKAL,4LISH,4UD,2HUL2,2I
2I A,2IB,2IDIM,2IDIM OVER IDIM BUR,5SQUARED,2IG,2IGI,2IGI DIB,3RI,3OVER IGI SHIR OVER SHIR UD OVER UD,3GUNU,2IL
2IL TIMES GAN2 TENU,2IL2,2IM,2IM TIMES TAK4,3CROSSING IM,3OPPOSING ~,3SQUARED,2IMIN,2IN,2IR,2ISH,2KA,2KA TIMES A,4AD
4AD PLUS KU3,4ASH2,4BAD,4BALAG,4BAR,4BI,4ERIN2,4ESH2,4GA,4GAL,4GAN2 TENU,4GAR,4GAR PLUS SHA3 PLUS A,4GI,4GIR2
4GISH PLUS SAR,5CROSSING GISH,4GU,4GUR7,4IGI,4IM,4KAK,4KI,4KID,4LI,4LU,4ME,4ME PLUS DU,6GI,6TE,4MI,4MI PLUS NUNUZ,4NE
4NUN,4PI,4RU,4SA,4SAR,4SHA,4SHE,4SHID,4SHU,4SIG,4SUHUR,4TAR,4U,4U2,4UD,4UMUM TIMES PA,4USH,4ZI,2KA2,2KA2 CROSSING KA2
2KAB,2KAD2,+3,2KAD5 OVER KAD5,2KAK,2KAK TIMES IGI GUNU,2KAL,2KAL TIMES BAD,3CROSSING KAL,2KAM2,2KAM4,2KASKAL
2KASKAL LAGAB TIMES U OVER LAGAB TIMES U,3OVER KASKAL LAGAB TIMES U OVER LAGAB TIMES U,2KESH2,2KI,2KI TIMES BAD,4U,4UD
2KID,2KIN,2KISAL,2KISH,2KISIM5,2KISIM5 OVER KISIM5,2KU,2KU OVER HI TIMES ASH2 KU OVER HI TIMES ASH2,2KU3,+1
2KU4 VARIANT FORM,2KU7,2KUL,2KUL GUNU,2KUN,2KUR,2KUR OPPOSING KUR,2KUSHU2,2KWU318,2LA,2LAGAB,2LAGAB TIMES A
4A PLUS DA PLUS HA,6GAR,6LAL,4AL,4AN,4ASH ZIDA TENU,4BAD,4BI,4DAR,4EN,4GA,4GAR,4GUD,4GUD PLUS GUD,4HA,4HAL
4HI TIMES NUN,4IGI GUNU,4IM,4IM PLUS HA,6LU,4KI,4KIN,4KU3,4KUL,4KUL PLUS HI PLUS A,4LAGAB,4LISH,4LU,4LUL,4ME
4ME PLUS EN,4MUSH,4NE,4SHE PLUS SUM,4SHITA PLUS GISH PLUS ERIN2,7TENU,4SHU2,4SHU2 PLUS SHU2,4SUM,4TAG,4TAK4
4TE PLUS A PLUS SU PLUS NA,4U,4U PLUS A,6U PLUS U,4U2 PLUS ASH,4UD,4USH,3SQUARED,2LAGAR,2LAGAR TIMES SHE,4SHE PLUS SUM
3GUNU,3GUNU OVER LAGAR GUNU SHE,2LAHSHU,2LAL,2LAL TIMES LAL,2LAM,2LAM TIMES KUR,4KUR PLUS RU,2LI,2LIL,2LIMMU2,2LISH
2LU,2LU TIMES BAD,2LU2,2LU2 TIMES AL,4BAD,4ESH2,4ESH2 TENU,4GAN2 ~,4HI TIMES BAD,4IM,4KAD2,+1,4KAD3 PLUS ASH,4KI
4LA PLUS ASH,4LAGAB,4ME PLUS EN,4NE,4NU,4SI PLUS ASH,4SIK2 PLUS BU,4TUG2,3TENU,3CROSSING LU2,3OPPOSING ~,3SQUARED
3SHESHIG,2LU3,2LUGAL,2LUGAL OVER LUGAL,3OPPOSING ~,3SHESHIG,2LUH,2LUL,+1,2LUM OVER LUM,4LUM GAR OVER GAR,2MA
2MA TIMES TAK4,3GUNU,2MA2,2MAH,2MAR,2MASH,2MASH2,2ME,2MES,2MI,2MIN,2MU,2MU OVER MU,2MUG,2MUG GUNU,2MUNSUB,2MURGU2
2MUSH,2MUSH TIMES A,4KUR,4ZA,3OVER MUSH,4MUSH TIMES A PLUS NA,3CROSSING MUSH,2MUSH3,2MUSH3 TIMES A,4A PLUS DI,4DI
3GUNU,2NA,2NA2,2NAGA,2NAGA INVERTED,3TIMES SHU TENU,3OPPOSING NAGA,2NAGAR,2NAM NUTILLU,2NAM,2NAM2,2NE,2NE TIMES A,4UD
3SHESHIG,2NI,2NI TIMES E,2NI2,2NIM,2NIM TIMES GAN2 TENU,4GAR PLUS GAN2 TENU,2NINDA2,2NINDA2 TIMES AN,4ASH
4ASH PLUS ASH,4GUD,4ME PLUS GAN2 TENU,4NE,4NUN,4SHE,4SHE PLUS A AN,6ASH,6ASH PLUS ASH,4U2 PLUS ASH,4USH,2NISAG,2NU
2NU11,2NUN,2NUN LAGAR TIMES GAR,5MASH,5SAL,5SAL OVER NUN LAGAR TIMES SAL,5USH,3TENU,3OVER NUN,3CROSSING ~
4NUN LAGAR OVER LAGAR,2NUNUZ,2NUNUZ AB2 TIMES ASHGAB,5BI,5DUG,5GUD,5IGI GUNU,5KAD3,5LA,5NE,5SILA3,5U2,3KISIM5 TIMES BI
5BI U,2PA,2PAD,2PAN,2PAP,2PESH2,2PI,2PI TIMES A,4AB,4BI,4BU,4E,4I,4IB,4U,4U2,3CROSSING PI,2PIRIG,2PIRIG TIMES KAL,4UD
4ZA,3OPPOSING PIRIG,2RA,2RAB,2RI,2RU,2SA,2SAG NUTILLU,2SAG,2SAG TIMES A,4DU,4DUB,4HA,4KAK,4KUR,4LUM,4MI,4NUN,4SAL
4SHID,4TAB,4U2,4UB,4UM,4UR,4USH,3OVER SAG,3GUNU,2SAL,2SAL LAGAB TIMES ASH2,2SANGA2,2SAR,2SHA,2SHA3,2SHA3 TIMES A,4BAD
4GISH,4NE,4SHU2,4TUR,4U,4U PLUS A,2SHA6,2SHAB6,2SHAR2,2SHE,2SHE HU,3OVER SHE GAD OVER GAD GAR OVER GAR,5TAB OVER TAB ~
2SHEG9,2SHEN,2SHESH,2SHESH2,2SHESHLAM,2SHID,2SHID TIMES A,4IM,2SHIM,2SHIM TIMES A,4BAL,4BULUG,4DIN,4GAR,4IGI,4IGI GUNU
4KUSHU2,4LUL,4MUG,4SAL,2SHINIG,2SHIR,2SHIR TENU,3OVER SHIR BUR OVER BUR,2SHITA,2SHU,2SHU OVER INVERTED SHU,2SHU2
2SHUBUR,2SI,2SI GUNU,2SIG,2SIG4,2SIG4 OVER SIG4 SHU2,2SIK2,2SILA3,2SU,2SU OVER SU,2SUD,2SUD2,2SUHUR,2SUM,2SUMASH,2SUR
2SUR9,2TA,2TA ASTERISK,3TIMES HI,4MI,3GUNU,2TAB,2TAB OVER TAB NI OVER NI DISH OVER DISH,3SQUARED,2TAG,2TAG TIMES BI
4GUD,4SHE,4SHU,4TUG2,4UD,2TAK4,2TAR,2TE,2TE GUNU,2TI,2TI TENU,2TIL,2TIR,2TIR TIMES TAK4,3OVER TIR
4TIR GAD OVER GAD GAR OVER GAR,2TU,2TUG2,2TUK,2TUM,2TUR,2TUR OVER TUR ZA OVER ZA,2U,2U GUD,3U U
3OVER U PA OVER PA GAR OVER GAR,5SUR OVER SUR,5U REVERSED OVER U REVERSED,2U2,2UB,2UD,2UD KUSHU2,3TIMES BAD,4MI
4U PLUS U PLUS U,8U GUNU,3GUNU,3SHESHIG,3SHESHIG TIMES BAD,2UDUG,2UM,2UM TIMES LAGAB,4ME PLUS DA,4SHA3,4U,2UMBIN,2UMUM
2UMUM TIMES KASKAL,4PA,2UN,2UN GUNU,2UR,2UR CROSSING UR,3SHESHIG,2UR2,2UR2 TIMES A PLUS HA,6NA,4AL,4HA,4NUN,4U2
4U2 PLUS ASH,6BI,2UR4,2URI,2URI3,2URU,2URU TIMES A,4ASHGAB,4BAR,4DUN,4GA,4GAL,4GAN2 TENU,4GAR,4GU,4HA,4IGI,4IM,4ISH
4KI,4LUM,4MIN,4PA,4SHE,4SIG4,4TU,4U PLUS GUD,4UD,4URUDA,2URUDA,2URUDA TIMES U,2USH,2USH TIMES A,4KU,4KUR,4TAK4,2USHX
2USH2,2USHUMX,2UTUKI,2UZ3,2UZ3 TIMES KASKAL,2UZU,2ZA,2ZA TENU,3SQUARED TIMES KUR,2ZAG,2ZAMX,2ZE2,2ZI,2ZI OVER ZI,2ZI3
2ZIB,2ZIB KABA TENU,2ZIG,2ZIZ2,2ZU,2ZU5,2ZU5 TIMES A,2ZUBUR,2ZUM,2KAP ELAMITE,2AB TIMES NUN,2AB2 TIMES A
2AMAR TIMES KUG,2DAG KISIM5 TIMES U2 PLUS MASH,2DAG3,2DISH PLUS SHU,2DUB TIMES SHE,2EZEN TIMES GUD,4SHE
2GA2 TIMES AN PLUS KAK PLUS A,4ASH2,2GE22,2GIG,2HUSH,2KA TIMES ANSHE,4ASH3,4GISH,4GUD,4HI TIMES ASH2,4LUM,4PA,4SHUL
4TU,4UR2,2LAGAB TIMES GI,2LU2 SHESHIG TIMES BAD,3TIMES ESH2 PLUS LAL,4SHU,2MESH,2MUSH3 TIMES ZA,2NA4,2NIN,2NIN9
2NINDA2 TIMES BAL,4GI,2NU11 ROTATED NINETY DEGREES,2PESH2 ASTERISK,2PIR2,2SAG TIMES IGI GUNU,2TI2,2UM TIMES ME,2U U
@12400,1NUMERIC SIGN TWO ASH,3THREE ~,3FOUR ~,3FIVE ~,3SIX ~,3SEVEN ~,3EIGHT ~,3NINE ~,3THREE DISH,3FOUR ~,3FIVE ~
3SIX ~,3SEVEN ~,3EIGHT ~,3NINE ~,3FOUR U,3FIVE U,3SIX U,3SEVEN U,3EIGHT U,3NINE U,3ONE GESH2,3TWO ~,3THREE ~,3FOUR ~
3FIVE ~,3SIX ~,3SEVEN ~,3EIGHT ~,3NINE ~,3ONE GESHU,3TWO ~,3THREE ~,3FOUR ~,3FIVE ~,3TWO SHAR2,3THREE ~
4SHAR2 VARIANT FORM,3FOUR SHAR2,3FIVE ~,3SIX ~,3SEVEN ~,3EIGHT ~,3NINE ~,3ONE SHARU,3TWO ~,3THREE ~
4SHARU VARIANT FORM,3FOUR SHARU,3FIVE ~,3SHAR2 TIMES GAL PLUS DISH,7MIN,3ONE BURU,3TWO ~,3THREE ~,4BURU VARIANT FORM
3FOUR BURU,3FIVE ~,3THREE VARIANT FORM ESH16,6ESH21,3FOUR VARIANT FORM LIMMU,6LIMMU4,6LIMMU A,+1
3SIX VARIANT FORM ASH9,3SEVEN VARIANT FORM IMIN3,6IMIN A,+1,3EIGHT VARIANT FORM USSU,6USSU3,3NINE VARIANT FORM ILIMMU
6ILIMMU3,+1,6ILIMMU A,3TWO ASH TENU,3THREE ~,3FOUR ~,3FIVE ~,3SIX ~,3ONE BAN2,3TWO ~,3THREE ~,3FOUR ~
4BAN2 VARIANT FORM,3FIVE BAN2,4BAN2 VARIANT FORM,3NIGIDAMIN,3NIGIDAESH,3ONE ESHE3,3TWO ~,3ONE THIRD DISH,3TWO THIRDS ~
3FIVE SIXTHS ~,3ONE THIRD VARIANT FORM A,3TWO THIRDS ~,3ONE EIGHTH ASH,4QUARTER ~,3OLD ASSYRIAN ONE SIXTH,6QUARTER
3ONE QUARTER GUR,4HALF ~,3ELAMITE ONE THIRD,4TWO THIRDS,4FORTY,4FIFTY,3FOUR U VARIANT FORM,3FIVE ~,3SIX ~,3SEVEN ~
3EIGHT ~,3NINE ~,@12470,1PUNCTUATION SIGN OLD ASSYRIAN WORD DIVIDER,3VERTICAL COLON,3DIAGONAL ~,4TRICOLON,4QUADCOLON
@12480,1SIGN AB TIMES NUN TENU,4SHU2,2AD TIMES ESH2,2BAD TIMES DISH TENU,2BAHAR2 TIMES AB2,4NI,4ZA
2BU OVER BU TIMES NA2,2DA TIMES TAK4,2DAG TIMES KUR,2DIM TIMES IGI,4U U U,2DIM2 TIMES UD,2DUG TIMES ANSHE,4ASH
4ASH AT LEFT,4DIN,4DUN,4ERIN2,4GA,4GI,4GIR2 GUNU,4GISH,4HA,4HI,4IGI GUNU,4KASKAL,4KUR,4KUSHU2,4KUSHU2 PLUS KASKAL
4LAK-020,4LAM,4LAM TIMES KUR,4LUH PLUS GISH,4MASH,4MES,4MI,4NI,4PI,4SHE,4SI GUNU,2E2 TIMES KUR,4PAP,2ERIN2 X
2ESH2 CROSSING ESH2,2EZEN SHESHIG TIMES ASH,5HI,5IGI GUNU,5LA,5LAL,5ME,5MES,5SU,3TIMES SU,2GA2 TIMES BAHAR2,4DIM GUNU
4DUG TIMES IGI GUNU,6KASKAL,4EREN,4GA,4GAR PLUS DI,6NE,4HA PLUS A,4KUSHU2 PLUS KASKAL,4LAM,4LAM TIMES KUR,4LUH,4MUSH
4NE,4NE PLUS E2,6GI,4SHIM,4ZIZ2,2GABA ROTATED NINETY DEGREES,2GESHTIN TIMES U,2GISH TIMES GISH CROSSING GISH
2GU2 TIMES IGI GUNU,2GUD PLUS GISH TIMES TAK4,2HA TENU GUNU,2HI TIMES ASH OVER HI TIMES ASH,2KA TIMES BU,4KA,4U U U
4UR,2LAGAB TIMES ZU OVER ZU,2LAK-003,3021,3025,3030,3050,+1,3062,3079 OVER LAK-079 GUNU,3080,3081 OVER LAK-081,3092
3130,3142,3210,3219,+1,3225,3228,3238,3265,+1,3343,3347,+1,3383,+1,3390,3441,3449,3449 TIMES GU,5IGI,5PAP PLUS LU3
7PAP PLUS LU3,5U2 PLUS BA,3450,3457,3470,3483,3490,3492,+1,3495,3550,3608,3617,3617 TIMES ASH,5BAD,5DUN3 GUNU GUNU
5KU3,5LA,5TAR,5TE,5U2,5UD,5URUDA,3636,3648,3648 TIMES DUB,5GA,5IGI,5IGI GUNU,5NI,5PAP PLUS PAP PLUS LU3,5SHESH PLUS KI
5UD,5URUDA,3724,3749,2LU2 GUNU TIMES ASH,3TIMES DISH,4HAL,4PAP,4PAP PLUS PAP PLUS LU3,4TAK4,2MI PLUS ZA7
2MUSH OVER MUSH TIMES GA,6KAK,2NINDA2 TIMES DIM GUNU,4GISH,4GUL,4HI,4KESH2,4LAK-050,4MASH,4PAP PLUS PAP,4U,4U PLUS U
4URUDA,2SAG GUNU TIMES HA,3TIMES EN,4SHE AT LEFT,4TAK4,2SHA6 TENU,2SHE OVER SHE,3PLUS HUB2,4NAM2,4SAR
2SHU2 PLUS DUG TIMES NI,4E2 TIMES AN,2SI TIMES TAK4,2TAK4 PLUS SAG,2TUM TIMES GAN2 TENU,4THREE DISH,2UR2 INVERTED
3TIMES UD,2URU TIMES DARA3,4LAK-668,4LU3,2ZA7,2ZU OVER ZU PLUS SAR,2ZU5 TIMES THREE DISH TENU,@12F90
CYPRO-MINOAN SIGN CM001,+1,3CM004,+8,3CM012B,3CM013,3CM015,3CM017,3CM019,3CM021,3CM023,+7,3CM033,+8,3CM044,3CM046,+1
3CM049,+7,3CM058,+6,3CM066,+9,3CM075B,3CM076,3CM078,+14,3CM094,+11,3CM107,+3,3CM112,3CM114,3CM301,+1,@13000
EGYPTIAN HIEROGLYPH A001,+4,2A005A,2A006,2A006A,+1,2A007,+7,2A014A,2A015,+2,2A017A,2A018,+14,2A032A,2A033,+7,2A040A
2A041,+1,2A042A,2A043,2A043A,2A044,+1,2A045A,2A046,+24,2B001,+4,2B005A,2B006,+3,2C001,+1,2C002A,+2,2C003,+7,2C010A
2C011,+13,2D001,+7,2D008A,2D009,+18,2D027A,2D028,+3,2D031A,2D032,+2,2D034A,2D035,+11,2D046A,2D047,+1,2D048A,2D049,+1
2D050A,+8,2D051,+1,2D052A,2D053,+1,2D054A,2D055,+12,2D067A,+7,2E001,+7,2E008A,2E009,2E009A,2E010,+6,2E016A,2E017
2E017A,2E018,+2,2E020A,2E021,+7,2E028A,2E029,+5,2E034A,2E036,+2,2F001,2F001A,2F002,+11,2F013A,2F014,+7,2F021A,2F022,+9
2F031A,2F032,+5,2F037A,2F038,2F038A,2F039,+6,2F045A,2F046,2F046A,2F047,2F047A,2F048,+3,2F051A,+2,2F052,+1,2G001,+5
2G006A,2G007,2G007A,+1,2G008,+3,2G011A,2G012,+8,2G020A,2G021,+5,2G026A,2G027,+9,2G036A,2G037,2G037A,2G038,+5,2G043A
2G044,+1,2G045A,2G046,+8,2H001,+5,2H006A,2H007,+1,2I001,+4,2I005A,2I006,+3,2I009A,2I010,2I010A,2I011,2I011A,2I012,+3
2K001,+7,2L001,+1,2L002A,2L003,+3,2L006A,2L007,+1,2M001,2M001A,+1,2M002,+1,2M003A,2M004,+6,2M010A,2M011,+1,2M012A,+7
2M013,+2,2M015A,2M016,2M016A,2M017,2M017A,2M018,+4,2M022A,2M023,+1,2M024A,2M025,+3,2M028A,2M029,+2,2M031A,2M032,+1
2M033A,+1,2M034,+6,2M040A,2M041,+3,2N001,+17,2N018A,+1,2N019,+6,2N025A,2N026,+7,2N033A,2N034,2N034A,2N035,2N035A,2N036
+1,2N037A,2N038,+4,2NL001,+4,2NL005A,2NL006,+11,2NL017A,2NL018,+2,2NU001,+9,2NU010A,2NU011,2NU011A,2NU012,+6,2NU018A
2NU019,+3,2NU022A,2O001,2O001A,2O002,+3,2O005A,2O006,2O006A,+5,2O007,+3,2O010A,+2,2O011,+8,2O019A,2O020,2O020A,2O021
+3,2O024A,2O025,2O025A,2O026,+3,2O029A,2O030,2O030A,2O031,+2,2O033A,2O034,+2,2O036A,+3,2O037,+13,2O050A,+1,2O051,2P001
2P001A,2P002,+1,2P003A,2P004,+7,2Q001,+6,2R001,+1,2R002A,2R003,2R003A,+1,2R004,+6,2R010A,2R011,+5,2R016A,2R017,+12
2S001,+1,2S002A,2S003,+3,2S006A,2S007,+7,2S014A,+1,2S015,+2,2S017A,2S018,+8,2S026A,+1,2S027,+8,2S035A,2S036,+10,2T001
+2,2T003A,2T004,+3,2T007A,2T008,2T008A,2T009,2T009A,2T010,+1,2T011A,2T012,+4,2T016A,2T017,+15,2T032A,2T033,2T033A
2T034,+2,2U001,+5,2U006A,+1,2U007,+16,2U023A,2U024,+5,2U029A,2U030,+2,2U032A,2U033,+9,2V001,2V001A,+8,2V002,2V002A
2V003,+4,2V007A,+1,2V008,+3,2V011A,+2,2V012,2V012A,+1,2V013,+7,2V020A,+11,2V021,+2,2V023A,2V024,+4,2V028A,2V029,2V029A
2V030,2V030A,2V031,2V031A,2V032,+1,2V033A,2V034,+3,2V037A,2V038,+2,2V040A,2W001,+2,2W003A,2W004,+5,2W009A,2W010,2W010A
2W011,+3,2W014A,2W015,+2,2W017A,2W018,2W018A,2W019,+5,2W024A,2W025,2X001,+3,2X004A,+1,2X005,+1,2X006A,2X007,+1,2X008A
2Y001,2Y001A,2Y002,+6,2Z001,+1,2Z002A,+3,2Z003,2Z003A,+1,2Z004,2Z004A,2Z005,2Z005A,2Z006,+9,2Z015A,+8,2Z016,2Z016A,+7
2AA001,+6,2AA007A,+1,2AA008,+24,@13430,2VERTICAL JOINER,2HORIZONTAL ~,2INSERT AT TOP START,4BOTTOM ~,4TOP END
4BOTTOM ~,2OVERLAY MIDDLE,2BEGIN SEGMENT,2END ~,@14400,ANATOLIAN HIEROGLYPH A001,+9,2A010A,2A011,+15,2A026A,2A027,+12
2A039A,2A040,+1,2A041A,2A042,+3,2A045A,2A046,2A046A,+1,2A047,+19,2A066A,+2,2A067,+30,2A097A,2A098,2A098A,2A099,+1
2A100A,2A101,2A101A,2A102,2A102A,2A103,+1,2A104A,+2,2A105,2A105A,+1,2A106,+1,2A107A,+2,2A108,+2,2A110A,+1,2A111,+4
2A115A,2A116,+9,2A125A,2A126,+9,2A135A,2A136,+66,2A202A,+1,2A203,+4,2A207A,2A208,+1,2A209A,2A210,+5,2A215A,2A216
2A216A,2A217,+10,2A227A,2A228,+39,2A267A,2A268,+21,2A289A,2A290,+4,2A294A,2A295,+4,2A299A,2A300,+9,2A309A,2A310,+19
2A329A,2A330,+1,2A332A,+2,2A333,+3,2A336A,+2,2A337,+22,2A359A,2A360,+4,2A364A,2A365,+3,2A368A,2A369,+2,2A371A,2A372,+9
2A381A,2A382,2A383 RA OR RI,2A383A,2A384,+2,2A386A,2A387,+5,2A393 EIGHT,2A394,+15,2A410 BEGIN LOGOGRAM MARK
2A410A END ~,2A411,+39,2A450A,2A451,+6,2A457A,2A458,+39,2A501,+29,@16800,BAMUM LETTER PHASE-A NGKUE MFON,4GBIEE FON
4PON MFON PIPAEMGBIEE,6PIPAEMBA,4NAA MFON,4SHUENSHUET,4TITA MFON,4NZA ~,4SHINDA PA NJI,4PON PA NJI PIPAEMGBIEE
7PIPAEMBA,4MAEMBGBIEE,4TU MAEMBA,4NGANGU,4MAEMVEUX,4MANSUAE,4MVEUAENGAM,4SEUNYAM,4NTOQPEN,4KEUKEUTNDA,4NKINDI,4SUU
4NGKUENZEUM,4LAPAQ,4LET KUT,4NTAP MFAA,4MAEKEUP,4PASHAE,4GHEUAERAE,4PAMSHAE,4MON NGGEUAET,4NZUN MEUT,4U YUQ NAE
4GHEUAEGHEUAE,4NTAP NTAA,4SISA,4MGBASA,4MEUNJOMNDEUQ,4MOOMPUQ,4KAFA,4PA LEERAEWA,4NDA ~,4PET,4MAEMKPEN,4NIKA,4PUP
4TUAEP,4LUAEP,4SONJAM,4TEUTEUWEN,4MAENYI,4KET,4NDAANGGEUAET,4KUOQ,4MOOMEUT,4SHUM,4LOMMAE,4FIRI,4ROM,4KPOQ,4SOQ
4MAP PIEET,4SHIRAE,4NTAP,4SHOQ NSHUT YUM,4NYIT MONGKEUAEQ,4PAARAE,4NKAARAE,4UNKNOWN,4NGGEN,4MAESI,4NJAM,4MBANYI,4NYET
4TEUAEN,4SOT,4PAAM,4NSHIEE,4MAEM,4NYI,4KAQ,4NSHA,4VEE,4LU,4NEN,4NAQ,4MBAQ,3B NSHUET,4TU MAEMGBIEE,4SIEE,4SET TU
4LOM NTEUM,4MBA MAELEE,4KIEEM,4YEURAE,4MBAARAE,4KAM,4PEESHI,4YAFU LEERAEWA,4LAM NSHUT NYAM,4NTIEE SHEUOQ,4NDU NJAA
4GHEUGHEUAEM,4PIT,4TU NSIEE,4SHET NJAQ,4SHEUAEQTU,4MFON TEUAEQ,4MBIT MBAAKET,4NYI NTEUM,4KEUPUQ,4GHEUGHEN,4KEUYEUX
4LAANAE,4PARUM,4VEUM,4NGKINDI MVOP,4NGGEU MBU,4WUAET,4SAKEUAE,4TAAM,4MEUQ,4NGGUOQ,4NGGUOQ LARGE,4MFIYAQ,4SUE,4MBEURI
4MONTIEEN,4NYAEMAE,4PUNGAAM,4MEUT NGGEET,4FEUX,4MBUOQ,4FEE,4KEUAEM,4MA NJEUAENA,5NJUQA,4LET,4NGGAAM,4NSEN,4MA,4KIQ
4NGOM,3C NGKUE MAEMBA,4NZA,4YUM,4WANGKUOQ,4NGGEN,4NDEUAEREE,4NGKAQ,4GHARAE,4MBEEKEET,4GBAYI,4NYIR MKPARAQ MEUN
4NTU MBIT,4MBEUM,4PIRIEEN,4NDOMBU,4MBAA CABBAGE-TREE,4KEUSHEUAEP,4GHAP,4KEUKAQ,4YU MUOMAE,4NZEUM,4MBUE,4NSEUAEN,4MBIT
4YEUQ,4KPARAQ,4KAA,4SEUX,4NDIDA,4TAASHAE,4NJUEQ,4TITA YUE,4SUAET,4NGGUAEN NYAM,4VEUX,4NANSANAQ,4MA KEUAERI,4NTAA
4NGGUON,4LAP,4MBIRIEEN,4MGBASAQ,4NTEUNGBA,4TEUTEUX,4NGGUM,4FUE,4NDEUT,4NSA,4NSHAQ,4BUNG,4VEUAEPEN,4MBERAE,4RU,4NJAEM
4LAM,4TITUAEP,4NSUOT NGOM,4NJEEEE,4KET,4NGGU,4MAESI,4MBUAEM,4LU,4KUT,4NJAM,4NGOM,4WUP,4NGGUEET,4NSOM,4NTEN
4KUOP NKAARAE,4NSUN,4NDAM,4MA NSIEE,4YAA,4NDAP,4SHUEQ,4SETFON,4MBI,4MAEMBA,4MBANYI,4KEUSEUX,4MBEUX,4KEUM,4MBAA PICKET
4YUWOQ,4NJEUX,4MIEE,4MUAE,4SHIQ,4KEN LAW,5FATIGUE,4NGAQ,4NAQ,4LIQ,4PIN,4PEN,4TET,3D MBUO,4WAP,4NJI,4MFON,4NJIEE,4LIEE
4NJEUT,4NSHEE,4NGGAAMAE,4NYAM,4WUAEN,4NGKUN,4SHEE,4NGKAP,4KEUAETMEUN,4TEUT,4SHEUAE,4NJAP,4SUE,4KET,4YAEMMAE,4KUOM,4SAP
4MFEUT,4NDEUX,4MALEERI,4MEUT,4SEUAEQ,4YEN,4NJEUAEM,4KEUOT MBUAE,4NGKEURI,4TU,4GHAA,4NGKYEE,4FEUFEUAET,4NDEE,4MGBOFUM
4LEUAEP,4NDON,4MONI,4MGBEUN,4PUUT,4MGBIEE,4MFO,4LUM,4NSIEEP,4MBAA,4KWAET,4NYET,4TEUAEN,4SOT,4YUWOQ,4KEUM,4RAEM,4TEEEE
4NGKEUAEQ,4MFEUAE,4NSIEET,4KEUP,4PIP,4PEUTAE,4NYUE,4LET,4NGGAAM,4MFIEE,4NGGWAEN,4YUOM,4PAP,4YUOP,4NDAM,4NTEUM,4SUAE
4KUN,4NGGEUX,4NGKIEE,4TUOT,4MEUN,4KUQ,4NSUM,4TEUN,4MAENJET,4NGGAP,4LEUM,4NGGUOM,4NSHUT,4NJUEQ,4GHEUAE,4KU,4REN OLD
4TAE,4TOQ,4NYI,4RII,4LEEEE,4MEEEE,4M,4SUU,4MU,4SHII,4SHEUX,4KYEE,4NU,4SHU,4NTEE,4PEE,4NI,4SHOQ,4PUQ,4MVOP,4LOQ
4REN MUCH,4TI,4NTUU,4MBAA SEVEN,4SAQ,4FAA,3E NDAP,4TOON,4MBEUM,4LAP,4VOM,4LOON,4PAA,4SOM,4RAQ,4NSHUOP,4NDUN,4PUAE,4TAM
4NGKA,4KPEUX,4WUO,4SEE,4NGGEUAET,4PAAM,4TOO,4KUOP,4LOM,4NSHIEE,4NGOP,4MAEM,4NGKEUX,4NGOQ,4NSHUE,4RIMGBA,4NJEUX,4PEEM
4SAA,4NGGURAE,4MGBA,4GHEUX,4NGKEUAEM,4NJAEMLI,4MAP,4LOOT,4NGGEEEE,4NDIQ,4TAEN NTEUM,4SET,4PUM,4NDAA SOFTNESS
4NGGUAESHAE NYAM,4YIEE,4GHEUN,4TUAE,4YEUAE,4PO,4TUMAE,4KEUAE,4SUAEN,4TEUAEQ,4VEUAE,4WEUX,4LAAM,4PU,4TAAQ,4GHAAMAE
4NGEUREUT,4SHEUAEQ,4MGBEN,4MBEE,4NZAQ,4NKOM,4GBET,4TUM,4KUET,4YAP,4NYI CLEAVER,4YIT,4MFEUQ,4NDIAQ,4PIEEQ,4YUEQ,4LEUAEM
4FUE,4GBEUX,4NGKUP,4KET,4MAE,4NGKAAMI,4GHET,4FA,4NTUM,4PEUT,4YEUM,4NGGEUAE,4NYI BETWEEN,4NZUQ,4POON,4MIEE,4FUET,4NAE
4MUAE,4GHEUAE,4FU I,4MVI,4PUAQ,4NGKUM,4KUT,4PIET,4NTAP,4YEUAET,4NGGUP,4PA PEOPLE,4FU CALL,4FOM,4NJEE,4A,4TOQ,4O,4I
4LAQ,4PA PLURAL,4TAA,4TAQ,4NDAA MY HOUSE,4SHIQ,4YEUX,4NGUAE,4YUAEN,4YOQ SWIMMING,5COVER,4YUQ,4YUN,4KEUX,4PEUX
4NJEE EPOCH,4PUE,4WUE,4FEE,4VEE,4LU,4MI,4REUX,4RAE,4NGUAET,4NGA,4SHO,4SHOQ,4FU REMEDY,4NA,4PI,4LOQ,4KO,4MEN,4MA,4MAQ
4TEU,4KI,4MON,4TEN,4FAQ,4GHOM,3F KA,4U,4KU,4EE,4REE,4TAE,4NYI,4LA,4RII,4RIEE,4MEEEE,4TAA,4NDAA,4NJAEM,4M,4SUU,4SHII
4SI,4SEUX,4KYEE,4KET,4NUAE,4NU,4NJUAE,4YOQ,4SHU,4YA,4NSHA,4PEUX,4NTEE,4WUE,4PEE,4RU,4NI,4REUX,4KEN,4NGKWAEN,4NGGA,4SHO
4PUAE,4FOM,4WA,4LI,4LOQ,4KO,4MBEN,4REN,4MA,4MO,4MBAA,4TET,4KPA,4SAMBA,4VUEQ,@16A40,MRO LETTER TA,2NGI,2YO,2MIM,2BA,2DA
2A,2PHI,2KHAI,2HAO,2DAI,2CHU,2KEAAE,2OL,2MAEM,2NIN,2PA,2OO,2O,2RO,2SHI,2THEA,2EA,2WA,2E,2KO,2LAN,2LA,2HAI,2RI,2TEK
@16A60,1DIGIT ZERO,2ONE,2TWO,2THREE,2FOUR,2FIVE,2SIX,2SEVEN,2EIGHT,2NINE,@16A6E,1DANDA,1DOUBLE DANDA,TANGSA LETTER OZ
2OC,2OQ,2OX,2AZ,2AC,2AQ,2AX,2VZ,2VC,2VQ,2VX,2EZ,2EC,2EQ,2EX,2IZ,2IC,2IQ,2IX,2UZ,2UC,2UQ,2UX,2AWZ,2AWC,2AWQ,2AWX,2UIZ
2UIC,2UIQ,2UIX,2FINAL NG,2LONG UEX,2SHORT UEZ,3AWX,2UEC,2UEZ,2UEQ,2UEX,2UIUZ,2UIUC,2UIUQ,2UIUX,2MZ,2MC,2MQ,2MX,2KA
2KHA,2GA,2NGA,2SA,2YA,2WA,2PA,2NYA,2PHA,2BA,2MA,2NA,2HA,2LA,2HTA,2TA,2DA,2RA,2NHA,2SHA,2CA,2TSA,2GHA,2HTTA,2THA,2XA
2FA,2DHA,2CHA,2ZA,@16AC0,1DIGIT ZERO,2ONE,2TWO,2THREE,2FOUR,2FIVE,2SIX,2SEVEN,2EIGHT,2NINE,@16AD0
BASSA VAH LETTER ENNI,3KA,3SE,3FA,3MBE,3YIE,3GAH,3DHII,3KPAH,3JO,3HWAH,3WA,3ZO,3GBU,3DO,3CE,3UWU,3TO,3BA,3VU,3YEIN,3PA
3WADDA,3A,3O,3OO,3U,3EE,3E,3I,@16AF0,2COMBINING HIGH TONE,3LOW ~,3MID ~,3LOW-MID TONE,3HIGH-LOW ~,2FULL STOP,@16B00
PAHAWH HMONG VOWEL KEEB,3KEEV,3KIB,3KIV,3KAUB,3KAUV,3KUB,3KUV,3KEB,3KEV,3KAIB,3KAIV,3KOOB,3KOOV,3KAWB,3KAWV,3KUAB
3KUAV,3KOB,3KOV,3KIAB,3KIAV,3KAB,3KAV,3KWB,3KWV,3KAAB,3KAAV,2CONSONANT VAU,3NTSAU,3LAU,3HAU,3NLAU,3RAU,3NKAU,3QHAU
3YAU,3HLAU,3MAU,3CHAU,3NCHAU,3HNAU,3PLHAU,3NTHAU,3NAU,3AU,3XAU,3CAU,2MARK CIM TUB,4SO,4KES,4KHAV,4SUAM,4HOM,4TAUM
2SIGN VOS THOM,4TSHAB CEEB,3CIM CHEEM,3VOS THIAB,4FEEM,3XYEEM NTXIV,4RHO,4TOV,4FAIB,3VOS SEEV,3MEEJ SUAB,3VOS NRUA
3IB YAM,3XAUS,3CIM TSOV ROG,@16B50,2DIGIT ZERO,3ONE,3TWO,3THREE,3FOUR,3FIVE,3SIX,3SEVEN,3EIGHT,3NINE,@16B5B
2NUMBER TENS,3HUNDREDS,3TEN THOUSANDS,3MILLIONS,3HUNDRED MILLIONS,3TEN BILLIONS,3TRILLIONS,@16B63,2SIGN VOS LUB,3XYOO
3HLI,3THIRD-STAGE HLI,3ZWJ THAJ,3HNUB,3NQIG,3XIAB,3NTUJ,3AV,3TXHEEJ CEEV,3MEEJ TSEEB,3TAU,3LOS,3MUS
3CIM HAIS LUS NTOG NTOG,4CUAM TSHOOJ,4TXWV,4TXWV CHWV,4PUB DAWB,4NRES TOS,@16B7D,2CLAN SIGN TSHEEJ,4YEEG,4LIS,4LAUJ
4XYOOJ,4KOO,4HAWJ,4MUAS,4THOJ,4TSAB,4PHAB,4KHAB,4HAM,4VAJ,4FAJ,4YAJ,4TSWB,4KWM,4VWJ,@16E40
MEDEFAIDRIN CAPITAL LETTER M,3S,3V,+1,3ATIU,3Z,3KP,3P,3T,3G,3F,3I,3K,3A,3J,3E,3B,+1,3U,3YU,3L,3Q,3HP,3NY,3X,3D,3OE,3N
3R,3O,3AI,3Y,1SMALL LETTER M,3S,3V,+1,3ATIU,3Z,3KP,3P,3T,3G,3F,3I,3K,3A,3J,3E,3B,+1,3U,3YU,3L,3Q,3HP,3NY,3X,3D,3OE,3N
3R,3O,3AI,3Y,1DIGIT ZERO,2ONE,2TWO,2THREE,2FOUR,2FIVE,2SIX,2SEVEN,2EIGHT,2NINE,1NUMBER TEN,2ELEVEN,2TWELVE,2THIRTEEN
2FOURTEEN,2FIFTEEN,2SIXTEEN,2SEVENTEEN,2EIGHTEEN,2NINETEEN,1DIGIT ONE ALTERNATE FORM,2TWO ~,2THREE ~,1COMMA,1FULL STOP
1SYMBOL AIVA,1EXCLAMATION OH,@16F00,MIAO LETTER PA,2BA,2YI PA,2PLA,2MA,2MHA,2ARCHAIC MA,2FA,2VA,2VFA,2TA,2DA,2YI TTA
3TA,2TTA,2DDA,2NA,2NHA,2YI NNA,2ARCHAIC NA,2NNA,2NNHA,2LA,2LYA,2LHA,2LHYA,2TLHA,2DLHA,2TLHYA,2DLHYA,2KA,2GA,2YI KA,2QA
2QGA,2NGA,2NGHA,2ARCHAIC NGA,2HA,2XA,2GHA,2GHHA,2TSSA,2DZZA,2NYA,2NYHA,2TSHA,2DZHA,2YI TSHA,3DZHA,2REFORMED TSHA,2SHA
2SSA,2ZHA,2ZSHA,2TSA,2DZA,2YI TSA,2SA,2ZA,2ZSA,2ZZA,2ZZSA,2ARCHAIC ZZA,2ZZYA,2ZZSYA,2WA,2AH,2HHA,2BRI,2SYI,2DZYI,2TE
2TSE,2RTE,@16F4F,1SIGN CONSONANT MODIFIER BAR,1LETTER NASALIZATION,1SIGN ASPIRATION,2REFORMED VOICING,3ASPIRATION
1VOWEL SIGN A,3AA,3AHH,3AN,3ANG,3O,3OO,3WO,3W,3E,3EN,3ENG,3OEY,3I,3IA,3IAN,3IANG,3IO,3IE,3II,3IU,3ING,3U,3UA,3UAN
3UANG,3UU,3UEI,3UNG,3Y,3YI,3AE,3AEE,3ERR,3ROUNDED ERR,3ER,3ROUNDED ER,3AI,3EI,3AU,3OU,3N,3NG,3UOG,3YUI,3OG,3OER,3VW
3IG,3EA,3IONG,3UI,@16F8F,1TONE RIGHT,2TOP RIGHT,2ABOVE,2BELOW,1LETTER TONE-2,+6,2REFORMED TONE-1,+1,44,+2,48,@16FE0
TANGUT ITERATION MARK,NUSHU ~,OLD CHINESE HOOK MARK,2ITERATION ~,KHITAN SMALL SCRIPT FILLER,@16FF0
VIETNAMESE ALTERNATE READING MARK CA,4NHAY,@18800,TANGUT COMPONENT-001,+767,@1AFF0,KATAKANA LETTER MINNAN TONE-2,+3
@1AFF5,47,+1,3NASALIZED TONE-1,+4,@1AFFD,57,+1,@1B000,2ARCHAIC E,HIRAGANA LETTER ARCHAIC YE,HENTAIGANA LETTER A-1,+2
3WO,2I-1,+3,2U-1,+4,2E-2,+4,2O-1,+2,2KA-1,+8,310,+1,3KE,2KI-1,+7,2KU-1,+6,2KE-1,+5,2KO-1,+2,3KI,2SA-1,+7,2SI-1,+5
2SU-1,+7,2SE-1,+4,2SO-1,+6,2TA-1,+3,2TI-1,+6,2TU-1,+3,3TO,2TE-1,+8,2TO-1,+5,3RA,2NA-1,+8,2NI-1,+6,3TE,2NU-1,+2,2NE-1
+5,3KO,2NO-1,+4,2HA-1,+8,310,+1,2HI-1,+6,2HU-1,+2,2HE-1,+6,2HO-1,+7,2MA-1,+6,2MI-1,+6,2MU-1,+3,2ME-1,+1,3MA,2MO-1,+5
2YA-1,+4,3YO,2YU-1,+3,2YO-1,+5,2RA-1,+3,2RI-1,+6,2RU-1,+5,2RE-1,+3,2RO-1,+5,2WA-1,+4,2WI-1,+4,2WE-1,+3,2WO-1,+6
2N-MU-MO-1,+1,HIRAGANA LETTER ARCHAIC WU,KATAKANA LETTER ARCHAIC YI,3YE,3WU,@1B150,HIRAGANA LETTER SMALL WI,3WE,3WO
@1B164,KATAKANA LETTER SMALL WI,3WE,3WO,3N,@1BC00,DUPLOYAN LETTER H,2X,2P,2T,2F,2K,+1,2B,2D,2V,2G,2R,2P N,2D S,2F N
2K M,2R S,2TH,2SLOAN DH,2DH,2KK,2SLOAN J,2HL,2LH,2RH,2M,+1,2J,2S,2M N,2N M,2J M,2S J,2M WITH DOT,2N ~,2J ~
4DOTS INSIDE AND ABOVE,2S WITH DOT,4DOT BELOW,2M S,2N S,2J S,2S S,2M N S,2N M S,2J ~,2S J S,2J S WITH DOT,3N,3N S,2S T
3T R,3P,3P R,2T S,3R S,2W,2WH,2W R,2S N,3M,2K R S,2G ~,2S K,3K R,2A,2SLOAN OW,2OA,2O,2AOU,2I,2E,2IE,2SHORT I,2UI,2EE
2SLOAN EH,2ROMANIAN I,2SLOAN EE,2LONG I,2YE,2U,2EU,2XW,2U N,2LONG U,2ROMANIAN U,2UH,2SLOAN U,2OOH,2OW,2OU,2WA,2WO,2WI
2WEI,2WOW,2NASAL U,3O,3I,3A,2PERNIN AN,3AM,2SLOAN EN,3AN,3ON,2VOCALIC M,@1BC70,1AFFIX LEFT HORIZONTAL SECANT,2MID ~
2RIGHT ~,2LOW VERTICAL ~,2MID ~,2HIGH ~,2ATTACHED SECANT,3LEFT-TO-RIGHT SECANT,3TANGENT,3TAIL,3E HOOK,3I ~,3TANGENT ~
@1BC80,2HIGH ACUTE,3TIGHT ACUTE,3GRAVE,3LONG GRAVE,3DOT,3CIRCLE,3LINE,3WAVE,3VERTICAL,@1BC90,2LOW ACUTE,3TIGHT ACUTE
3GRAVE,3LONG GRAVE,3DOT,3CIRCLE,3LINE,3WAVE,3VERTICAL,3ARROW,@1BC9C,1SIGN O WITH CROSS,1THICK LETTER SELECTOR
1DOUBLE MARK,1PUNCTUATION CHINOOK FULL STOP,SHORTHAND FORMAT LETTER OVERLAP,2CONTINUING ~,2DOWN STEP,2UP ~,@1CF00
ZNAMENNY COMBINING MARK GORAZDO NIZKO S KRYZHEM ON LEFT,3NIZKO S KRYZHEM ON LEFT,3TSATA ON LEFT,3GORAZDO NIZKO ON LEFT
3NIZKO ON LEFT,3SREDNE ~,3MALO POVYSHE ON LEFT,3POVYSHE ON LEFT,3VYSOKO ~,3MALO POVYSHE S KHOKHLOM ON LEFT
3POVYSHE S KHOKHLOM ON LEFT,3VYSOKO ~,3GORAZDO NIZKO S KRYZHEM ON RIGHT,3NIZKO S KRYZHEM ON RIGHT,3TSATA ON RIGHT
3GORAZDO NIZKO ON RIGHT,3NIZKO ON RIGHT,3SREDNE ~,3MALO POVYSHE ON RIGHT,3POVYSHE ON RIGHT,3VYSOKO ~
3MALO POVYSHE S KHOKHLOM ON RIGHT,3POVYSHE S KHOKHLOM ON RIGHT,3VYSOKO ~,3TSATA S KRYZHEM,3MALO POVYSHE S KRYZHEM
3STRANNO MALO POVYSHE,3POVYSHE S KRYZHEM,4STRANNO,3VYSOKO S KRYZHEM,3MALO POVYSHE STRANNO,3GORAZDO VYSOKO,3ZELO,3ON
3RAVNO,3TIKHAYA,3BORZAYA,3UDARKA,3PODVERTKA,3LOMKA,3KUPNAYA,3KACHKA,3ZEVOK,3SKOBA,3RAZSEKA,3KRYZH ON LEFT,@1CF30
2TONAL RANGE MARK MRACHNO,5SVETLO,5TRESVETLO,2MARK ZADERZHKA,3DEMESTVENNY ZADERZHKA,3OTSECHKA,3PODCHASHIE
3PODCHASHIE WITH VERTICAL STROKE,3CHASHKA,3CHASHKA POLNAYA,3OBLACHKO,3SOROCHYA NOZHKA,3TOCHKA,3DVOETOCHIE
2ATTACHING VERTICAL OMET,2MARK CURVED ~,3KRYZH,2LOWER TONAL RANGE INDICATOR,1PRIZNAK MODIFIER LEVEL-2,+1
3DIRECTION FLIP,3KRYZH,3ROG,@1CF50,1NEUME KRYUK,2KRYUK TIKHY,2PARAKLIT,2DVA V CHELNU,2KLYUCH,2ZANOZHEK,2STOPITSA
2STOPITSA S OCHKOM,2PEREVODKA,2PEREVODKA NEPOSTOYANNAYA,2STOPITSA WITH SOROCHYA NOZHKA,2CHELYUSTKA,2PALKA,2ZAPYATAYA
2GOLUBCHIK BORZY,3TIKHY,3MRACHNY,3SVETLY,3TRESVETLY,2VRAKHIYA PROSTAYA,3MRACHNAYA,3SVETLAYA,3TRESVETLAYA
3KLYUCHEVAYA PROSTAYA,4MRACHNAYA,4SVETLAYA,4TRESVETLAYA,2DOUBLE ZAPYATAYA,2REVERSED CHELYUSTKA,2DERBITSA,2KHAMILO
2CHASHKA,2PODCHASHIE,2SKAMEYTSA MRACHNAYA,3SVETLAYA,3TRESVETLAYA,3TIKHAYA,2DEMESTVENNY KLYUCH
2SKAMEYTSA KLYUCHEVAYA SVETLAYA,3KLYUCHENEPOSTOYANNAYA,3KLYUCHEVAYA TIKHAYA,3DVOECHELNAYA PROSTAYA,4SVETLAYA
4NEPOSTOYANNAYA,4KLYUCHEVAYA,2SLOZHITIE,2SLOZHITIE S ZAPYATOY,3ZAKRYTOE,3S KRYZHEM,2KRYZH,2ROG,2FITA,2KOBYLA,2ZMEYTSA
2STATYA,2STATYA S ZAPYATOY,4KRYZHEM,4ZAPYATOY I KRYZHEM,4KRYZHEM I ZAPYATOY,3ZAKRYTAYA,3ZAKRYTAYA S ZAPYATOY,3S ROGOM
4DVUMYA ZAPYATYMI,4ZAPYATOY I PODCHASHIEM,2POLKULIZMY,2STATYA NEPOSTOYANNAYA,2STRELA PROSTAYA,3MRACHNOTIKHAYA
3KRYZHEVAYA,3POLUPOVODNAYA,3POVODNAYA,3NEPOSTOYANNAYA,3KLYUCHEPOVODNAYA,3KLYUCHENEPOSTOYANNAYA,3TIKHAYA PUTNAYA
3DVOECHELNAYA,3DVOECHELNOKRYZHEVAYA,3DVOECHELNOPOVODNAYA,3DVOECHELNAYA KLYUCHEVAYA,3DVOECHELNOPOVODNAYA ~
3GROMNAYA WITH SINGLE ZAPYATAYA,3GROMOPOVODNAYA ~,3GROMNAYA,3GROMOPOVODNAYA,3GROMOPOVODNAYA WITH DOUBLE ZAPYATAYA
3GROMOKRYZHEVAYA,3GROMOKRYZHEVAYA POVODNAYA,2MECHIK,2MECHIK POVODNY,3KLYUCHEVOY,3KLYUCHEPOVODNY,3KLYUCHENEPOSTOYANNY
2STRELA TRYASOGLASNAYA,3TRYASOPOVODNAYA,3TRYASOSTRELNAYA,2OSOKA,2OSOKA SVETLAYA,3TRESVETLAYA,3KRYUKOVAYA SVETLAYA
3KLYUCHEVAYA ~,4NEPOSTOYANNAYA,2STRELA KRYUKOVAYA,3KRYUKOVAYA POVODNAYA,4GROMNAYA WITH SINGLE ZAPYATAYA
4GROMOPOVODNAYA ~,4GROMNAYA,4GROMOPOVODNAYA,4GROMOPOVODNAYA WITH DOUBLE ZAPYATAYA,4GROMOKRYZHEVAYA
4GROMOKRYZHEVAYA POVODNAYA,4TRYASKA,2KUFISMA,2OBLAKO,2DUDA,2NEMKA,2PAUK"

end CodeAtlas.Text.Name
