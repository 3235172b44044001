/-!
# Names of characters from U+1D000 on

Music, mathematical alphabets, games, pictures and tags. The form of the table is described with `Name.decode`.
-/

namespace CodeAtlas.Text.Name

/-- The names of these characters. -/
def pictures : String := "
@1D000,BYZANTINE MUSICAL SYMBOL PSILI,3DASEIA,3PERISPOMENI,3OXEIA EKFONITIKON,4DIPLI,3VAREIA EKFONITIKON,4DIPLI
3KATHISTI,3SYRMATIKI,3PARAKLITIKI,3YPOKRISIS,3YPOKRISIS DIPLI,3KREMASTI,3APESO EKFONITIKON,3EXO ~,3TELEIA,3KENTIMATA
3APOSTROFOS,3APOSTROFOS DIPLI,3SYNEVMA,3THITA,3OLIGON ARCHAION,3GORGON ~,3PSILON,3CHAMILON,3VATHY,3ISON ARCHAION
3KENTIMA ~,3KENTIMATA ~,3SAXIMATA,3PARICHON,3STAVROS APODEXIA,3OXEIAI ARCHAION,3VAREIAI ~,3APODERMA ~,3APOTHEMA
3KLASMA,3REVMA,3PIASMA ARCHAION,3TINAGMA,3ANATRICHISMA,3SEISMA,3SYNAGMA ARCHAION,4META STAVROU,3OYRANISMA ARCHAION
3THEMA,3LEMOI,3DYO,3TRIA,3TESSERA,3KRATIMATA,3APESO EXO NEO,3FTHORA ARCHAION,3IMIFTHORA,3TROMIKON ARCHAION
3KATAVA TROMIKON,3PELASTON,3PSIFISTON,3KONTEVMA,3CHOREVMA ARCHAION,3RAPISMA,3PARAKALESMA ARCHAION,3PARAKLITIKI ~
3ICHADIN,3NANA,3PETASMA,3KONTEVMA ALLO,3TROMIKON ~,3STRAGGISMATA,3GRONTHISMATA,3ISON NEO,3OLIGON ~,3OXEIA ~,3PETASTI
3KOUFISMA,3PETASTOKOUFISMA,3KRATIMOKOUFISMA,3PELASTON NEO,3KENTIMATA NEO ANO,3KENTIMA ~,3YPSILI,3APOSTROFOS NEO
3APOSTROFOI SYNDESMOS NEO,3YPORROI,3KRATIMOYPORROON,3ELAFRON,3CHAMILI,3MIKRON ISON,3VAREIA NEO,3PIASMA ~,3PSIFISTON ~
3OMALON,3ANTIKENOMA,3LYGISMA,3PARAKLITIKI NEO,3PARAKALESMA ~,3ETERON PARAKALESMA,3KYLISMA,3ANTIKENOKYLISMA
3TROMIKON NEO,3EKSTREPTON,3SYNAGMA NEO,3SYRMA,3CHOREVMA NEO,3EPEGERMA,3SEISMA NEO,3XIRON KLASMA,3TROMIKOPSIFISTON
3PSIFISTOLYGISMA,3TROMIKOLYGISMA,3TROMIKOPARAKALESMA,3PSIFISTOPARAKALESMA,3TROMIKOSYNAGMA,3PSIFISTOSYNAGMA
3GORGOSYNTHETON,3ARGOSYNTHETON,3ETERON ARGOSYNTHETON,3OYRANISMA NEO,3THEMATISMOS ESO,4EXO,3THEMA APLOUN
3THES KAI APOTHES,3KATAVASMA,3ENDOFONON,3YFEN KATO,4ANO,3STAVROS,3KLASMA ANO,3DIPLI ARCHAION,3KRATIMA ~,4ALLO,4NEO
3APODERMA ~,3APLI,3DIPLI,3TRIPLI,3TETRAPLI,3KORONIS,3LEIMMA ENOS CHRONOU,4DYO CHRONON,4TRION ~,4TESSARON ~
4IMISEOS CHRONOU,3GORGON NEO ANO,4PARESTIGMENON ARISTERA,5DEXIA,3DIGORGON,3DIGORGON PARESTIGMENON ARISTERA KATO,6ANO
5DEXIA,3TRIGORGON,3ARGON,3IMIDIARGON,3DIARGON,3AGOGI POLI ARGI,4ARGOTERI,4ARGI,4METRIA,4MESI,4GORGI,4GORGOTERI
4POLI GORGI,3MARTYRIA PROTOS ICHOS,4ALLI PROTOS ICHOS,4DEYTEROS ICHOS,4ALLI DEYTEROS ICHOS,4TRITOS ICHOS,4TRIFONIAS
4TETARTOS ICHOS,5LEGETOS ICHOS,4LEGETOS ICHOS,4PLAGIOS ~,3ISAKIA TELOUS ICHIMATOS,3APOSTROFOI ~,3FANEROSIS TETRAFONIAS
4MONOFONIAS,4DIFONIAS,3MARTYRIA VARYS ICHOS,4PROTOVARYS ~,4PLAGIOS TETARTOS ICHOS,3GORTHMIKON N APLOUN,5DIPLOUN
3ENARXIS KAI FTHORA VOU,3IMIFONON,3IMIFTHORON,3FTHORA ARCHAION DEYTEROU ICHOU,4DIATONIKI PA,5NANA,4NAOS ICHOS
4DIATONIKI DI,4SKLIRON DIATONON DI,4DIATONIKI KE,5ZO,5NI KATO,6ANO,4MALAKON CHROMA DIFONIAS,6MONOFONIAS
3FHTORA SKLIRON CHROMA VASIS,3FTHORA SKLIRON CHROMA SYNAFI,4NENANO,3CHROA ZYGOS,4KLITON,4SPATHI
3FTHORA I YFESIS TETARTIMORION,4ENARMONIOS ANTIFONIA,3YFESIS TRITIMORION,3DIESIS ~,4TETARTIMORION,4APLI DYO DODEKATA
4MONOGRAMMOS TESSERA ~,4DIGRAMMOS EX ~,4TRIGRAMMOS OKTO ~,3YFESIS APLI DYO ~,4MONOGRAMMOS TESSERA ~,4DIGRAMMOS EX ~
4TRIGRAMMOS OKTO ~,3GENIKI DIESIS,4YFESIS,3DIASTOLI APLI MIKRI,5MEGALI,4DIPLI,4THESEOS,3SIMANSIS ~,4THESEOS DISIMOU
5TRISIMOU,5TETRASIMOU,4ARSEOS,4ARSEOS DISIMOU,5TRISIMOU,5TETRASIMOU,3DIGRAMMA GG,3DIFTOGGOS OU,3STIGMA,3ARKTIKO PA
4VOU,4GA,4DI,4KE,4ZO,4NI,3KENTIMATA NEO MESO,3KENTIMA ~,3KENTIMATA NEO KATO,3KENTIMA ~,3KLASMA KATO,3GORGON NEO KATO
@1D100,MUSICAL SYMBOL SINGLE BARLINE,2DOUBLE ~,2FINAL ~,2REVERSE FINAL BARLINE,2DASHED BARLINE,2SHORT ~
2LEFT REPEAT SIGN,2RIGHT ~,2REPEAT DOTS,2DAL SEGNO,2DA CAPO,2SEGNO,2CODA,2REPEATED FIGURE-1,+2,2FERMATA,2FERMATA BELOW
2BREATH MARK,2CAESURA,2BRACE,2BRACKET,2ONE-LINE STAFF,2TWO-~,2THREE-~,2FOUR-~,2FIVE-~,2SIX-~,3STRING FRETBOARD,2FOUR-~
2G CLEF,3CLEF OTTAVA ALTA,5BASSA,2C CLEF,2F ~,3CLEF OTTAVA ALTA,5BASSA,2DRUM CLEF-1,+1,@1D129,2MULTIPLE MEASURE REST
2DOUBLE SHARP,3FLAT,2FLAT UP,3DOWN,2NATURAL UP,3DOWN,2SHARP UP,3DOWN,2QUARTER TONE SHARP,4FLAT,2COMMON TIME,2CUT ~
2OTTAVA ALTA,3BASSA,2QUINDICESIMA ALTA,3BASSA,2MULTI REST,2WHOLE ~,2HALF ~,2QUARTER ~,2EIGHTH ~,2SIXTEENTH ~
2THIRTY-SECOND REST,2SIXTY-FOURTH ~,2ONE HUNDRED TWENTY-EIGHTH REST,2X NOTEHEAD,2PLUS ~,2CIRCLE X NOTEHEAD
2SQUARE NOTEHEAD WHITE,4BLACK,2TRIANGLE NOTEHEAD UP WHITE,5BLACK,4LEFT WHITE,5BLACK,4RIGHT WHITE,5BLACK,4DOWN WHITE
5BLACK,4UP RIGHT WHITE,6BLACK,2MOON NOTEHEAD WHITE,4BLACK,2TRIANGLE-ROUND NOTEHEAD DOWN WHITE,6BLACK
2PARENTHESIS NOTEHEAD,2VOID ~,2NOTEHEAD BLACK,2NULL NOTEHEAD,2CLUSTER NOTEHEAD WHITE,4BLACK,2BREVE,2WHOLE NOTE,2HALF ~
2QUARTER ~,2EIGHTH ~,2SIXTEENTH ~,2THIRTY-SECOND NOTE,2SIXTY-FOURTH ~,2ONE HUNDRED TWENTY-EIGHTH NOTE,2COMBINING STEM
3SPRECHGESANG STEM,3TREMOLO-1,+2,2FINGERED TREMOLO-1,+2,2COMBINING AUGMENTATION DOT,3FLAG-1,+4,2BEGIN BEAM,2END ~
2BEGIN TIE,2END ~,2BEGIN SLUR,2END ~,2BEGIN PHRASE,2END ~,2COMBINING ACCENT,3STACCATO,3TENUTO,3STACCATISSIMO,3MARCATO
3MARCATO-STACCATO,3ACCENT-~,3LOURE,2ARPEGGIATO UP,3DOWN,2COMBINING DOIT,3RIP,3FLIP,3SMEAR,3BEND,3DOUBLE TONGUE
3TRIPLE ~,2RINFORZANDO,2SUBITO,2Z,2PIANO,2MEZZO,2FORTE,2CRESCENDO,2DECRESCENDO,2GRACE NOTE SLASH,4NO SLASH,2TR,2TURN
2INVERTED TURN,2TURN SLASH,3UP,2ORNAMENT STROKE-1,+8,410,+1,2HAUPTSTIMME,2NEBENSTIMME,2END OF STIMME,2DEGREE SLASH
2COMBINING DOWN BOW,3UP ~,3HARMONIC,3SNAP PIZZICATO,2PEDAL MARK,3UP MARK,2HALF PEDAL ~,2GLISSANDO UP,3DOWN
2WITH FINGERNAILS,2DAMP,2DAMP ALL,2MAXIMA,2LONGA,2BREVIS,2SEMIBREVIS WHITE,3BLACK,2MINIMA,2MINIMA BLACK
2SEMIMINIMA WHITE,3BLACK,2FUSA WHITE,3BLACK,2LONGA PERFECTA REST,3IMPERFECTA ~,2BREVIS REST,2SEMIBREVIS ~,2MINIMA ~
2SEMIMINIMA ~,2TEMPUS PERFECTUM CUM PROLATIONE PERFECTA,6IMPERFECTA,6PERFECTA DIMINUTION-1
3IMPERFECTUM CUM PROLATIONE PERFECTA,6IMPERFECTA,6IMPERFECTA DIMINUTION-1,+2,2CROIX,2GREGORIAN C CLEF,3F ~,2SQUARE B
2VIRGA,2PODATUS,2CLIVIS,2SCANDICUS,2CLIMACUS,2TORCULUS,2PORRECTUS,2PORRECTUS FLEXUS,2SCANDICUS ~,2TORCULUS RESUPINUS
2PES SUBPUNCTIS,2KIEVAN C CLEF,3END OF PIECE,3FINAL NOTE,3RECITATIVE MARK,3WHOLE NOTE,3HALF ~,3QUARTER NOTE STEM DOWN
6UP,3EIGHTH NOTE STEM DOWN,6UP,3FLAT SIGN,2SORI,2KORON,@1D200,GREEK VOCAL NOTATION SYMBOL-1,+8,410,+14,450,+4
1INSTRUMENTAL NOTATION SYMBOL-1,+1,44,+1,47,+1,411,+3,417,+2,423,+4,429,+1,432,436,+4,442,+1,445,447,+7
COMBINING GREEK MUSICAL TRISEME,3TETRASEME,3PENTASEME,GREEK MUSICAL LEIMMA,@1D2E0,MAYAN NUMERAL ZERO,2ONE,2TWO,2THREE
2FOUR,2FIVE,2SIX,2SEVEN,2EIGHT,2NINE,2TEN,2ELEVEN,2TWELVE,2THIRTEEN,2FOURTEEN,2FIFTEEN,2SIXTEEN,2SEVENTEEN,2EIGHTEEN
2NINETEEN,@1D300,MONOGRAM FOR EARTH,DIGRAM FOR HEAVENLY EARTH,2HUMAN ~,2EARTHLY HEAVEN,3HUMAN,2EARTH
TETRAGRAM FOR CENTRE,2FULL CIRCLE,2MIRED,2BARRIER,2KEEPING SMALL,2CONTRARIETY,2ASCENT,2OPPOSITION,2BRANCHING OUT
2DEFECTIVENESS OR DISTORTION,2DIVERGENCE,2YOUTHFULNESS,2INCREASE,2PENETRATION,2REACH,2CONTACT,2HOLDING BACK,2WAITING
2FOLLOWING,2ADVANCE,2RELEASE,2RESISTANCE,2EASE,2JOY,2CONTENTION,2ENDEAVOUR,2DUTIES,2CHANGE,2DECISIVENESS
2BOLD RESOLUTION,2PACKING,2LEGION,2CLOSENESS,2KINSHIP,2GATHERING,2STRENGTH,2PURITY,2FULLNESS,2RESIDENCE,2LAW OR MODEL
2RESPONSE,2GOING TO MEET,2ENCOUNTERS,2STOVE,2GREATNESS,2ENLARGEMENT,2PATTERN,2RITUAL,2FLIGHT,2VASTNESS OR WASTING
2CONSTANCY,2MEASURE,2ETERNITY,2UNITY,2DIMINISHMENT,2CLOSED MOUTH,2GUARDEDNESS,2GATHERING IN,2MASSING,2ACCUMULATION
2EMBELLISHMENT,2DOUBT,2WATCH,2SINKING,2INNER,2DEPARTURE,2DARKENING,2DIMMING,2EXHAUSTION,2SEVERANCE,2STOPPAGE,2HARDNESS
2COMPLETION,2CLOSURE,2FAILURE,2AGGRAVATION,2COMPLIANCE,2ON THE VERGE,2DIFFICULTIES,2LABOURING,2FOSTERING,@1D360
COUNTING ROD UNIT DIGIT ONE,4TWO,4THREE,4FOUR,4FIVE,4SIX,4SEVEN,4EIGHT,4NINE,2TENS DIGIT ONE,4TWO,4THREE,4FOUR,4FIVE
4SIX,4SEVEN,4EIGHT,4NINE,IDEOGRAPHIC TALLY MARK ONE,3TWO,3THREE,3FOUR,3FIVE,TALLY MARK ONE,2FIVE,@1D400
MATHEMATICAL BOLD CAPITAL A,+25,2SMALL A,+25,1ITALIC CAPITAL A,+25,2SMALL A,+6,@1D456,3I,+17,1BOLD ITALIC CAPITAL A
+25,3SMALL A,+25,1SCRIPT CAPITAL A,@1D49E,3C,+1,@1D4A2,3G,@1D4A5,3J,+1,@1D4A9,3N,+3,@1D4AE,3S,+7,2SMALL A,+3,@1D4BB,3F
@1D4BD,3H,+6,@1D4C5,3P,+10,1BOLD SCRIPT CAPITAL A,+25,3SMALL A,+25,1FRAKTUR CAPITAL A,+1,@1D507,3D,+3,@1D50D,3J,+7
@1D516,3S,+6,@1D51E,2SMALL A,+25,1DOUBLE-STRUCK CAPITAL A,+1,@1D53B,4D,+3,@1D540,4I,+4,@1D546,4O,@1D54A,4S,+6,@1D552
3SMALL A,+25,1BOLD FRAKTUR CAPITAL A,+25,3SMALL A,+25,1SANS-SERIF CAPITAL A,+25,3SMALL A,+25,3BOLD CAPITAL A,+25
4SMALL A,+25,3ITALIC CAPITAL A,+25,4SMALL A,+25,3BOLD ITALIC CAPITAL A,+25,5SMALL A,+25,1MONOSPACE CAPITAL A,+25
2SMALL A,+25,1ITALIC SMALL DOTLESS I,+1,@1D6A8,1BOLD CAPITAL ALPHA,3BETA,3GAMMA,3DELTA,3EPSILON,3ZETA,3ETA,3THETA
3IOTA,3KAPPA,3LAMDA,3MU,3NU,3XI,3OMICRON,3PI,3RHO,3THETA SYMBOL,3SIGMA,3TAU,3UPSILON,3PHI,3CHI,3PSI,3OMEGA,2NABLA
2SMALL ALPHA,3BETA,3GAMMA,3DELTA,3EPSILON,3ZETA,3ETA,3THETA,3IOTA,3KAPPA,3LAMDA,3MU,3NU,3XI,3OMICRON,3PI,3RHO
3FINAL SIGMA,3SIGMA,3TAU,3UPSILON,3PHI,3CHI,3PSI,3OMEGA,2PARTIAL DIFFERENTIAL,2EPSILON SYMBOL,2THETA ~,2KAPPA ~,2PHI ~
2RHO ~,2PI ~,1ITALIC CAPITAL ALPHA,3BETA,3GAMMA,3DELTA,3EPSILON,3ZETA,3ETA,3THETA,3IOTA,3KAPPA,3LAMDA,3MU,3NU,3XI
3OMICRON,3PI,3RHO,3THETA SYMBOL,3SIGMA,3TAU,3UPSILON,3PHI,3CHI,3PSI,3OMEGA,2NABLA,2SMALL ALPHA,3BETA,3GAMMA,3DELTA
3EPSILON,3ZETA,3ETA,3THETA,3IOTA,3KAPPA,3LAMDA,3MU,3NU,3XI,3OMICRON,3PI,3RHO,3FINAL SIGMA,3SIGMA,3TAU,3UPSILON,3PHI
3CHI,3PSI,3OMEGA,2PARTIAL DIFFERENTIAL,2EPSILON SYMBOL,2THETA ~,2KAPPA ~,2PHI ~,2RHO ~,2PI ~
1BOLD ITALIC CAPITAL ALPHA,4BETA,4GAMMA,4DELTA,4EPSILON,4ZETA,4ETA,4THETA,4IOTA,4KAPPA,4LAMDA,4MU,4NU,4XI,4OMICRON,4PI
4RHO,4THETA SYMBOL,4SIGMA,4TAU,4UPSILON,4PHI,4CHI,4PSI,4OMEGA,3NABLA,3SMALL ALPHA,4BETA,4GAMMA,4DELTA,4EPSILON,4ZETA
4ETA,4THETA,4IOTA,4KAPPA,4LAMDA,4MU,4NU,4XI,4OMICRON,4PI,4RHO,4FINAL SIGMA,4SIGMA,4TAU,4UPSILON,4PHI,4CHI,4PSI,4OMEGA
3PARTIAL DIFFERENTIAL,3EPSILON SYMBOL,3THETA ~,3KAPPA ~,3PHI ~,3RHO ~,3PI ~,1SANS-SERIF BOLD CAPITAL ALPHA,5BETA
5GAMMA,5DELTA,5EPSILON,5ZETA,5ETA,5THETA,5IOTA,5KAPPA,5LAMDA,5MU,5NU,5XI,5OMICRON,5PI,5RHO,5THETA SYMBOL,5SIGMA,5TAU
5UPSILON,5PHI,5CHI,5PSI,5OMEGA,4NABLA,4SMALL ALPHA,5BETA,5GAMMA,5DELTA,5EPSILON,5ZETA,5ETA,5THETA,5IOTA,5KAPPA,5LAMDA
5MU,5NU,5XI,5OMICRON,5PI,5RHO,5FINAL SIGMA,5SIGMA,5TAU,5UPSILON,5PHI,5CHI,5PSI,5OMEGA,4PARTIAL DIFFERENTIAL
4EPSILON SYMBOL,4THETA ~,4KAPPA ~,4PHI ~,4RHO ~,4PI ~,4ITALIC CAPITAL ALPHA,6BETA,6GAMMA,6DELTA,6EPSILON,6ZETA,6ETA
6THETA,6IOTA,6KAPPA,6LAMDA,6MU,6NU,6XI,6OMICRON,6PI,6RHO,6THETA SYMBOL,6SIGMA,6TAU,6UPSILON,6PHI,6CHI,6PSI,6OMEGA
5NABLA,5SMALL ALPHA,6BETA,6GAMMA,6DELTA,6EPSILON,6ZETA,6ETA,6THETA,6IOTA,6KAPPA,6LAMDA,6MU,6NU,6XI,6OMICRON,6PI,6RHO
6FINAL SIGMA,6SIGMA,6TAU,6UPSILON,6PHI,6CHI,6PSI,6OMEGA,5PARTIAL DIFFERENTIAL,5EPSILON SYMBOL,5THETA ~,5KAPPA ~,5PHI ~
5RHO ~,5PI ~,1BOLD CAPITAL DIGAMMA,2SMALL ~,@1D7CE,2DIGIT ZERO,3ONE,3TWO,3THREE,3FOUR,3FIVE,3SIX,3SEVEN,3EIGHT,3NINE
1DOUBLE-STRUCK DIGIT ZERO,4ONE,4TWO,4THREE,4FOUR,4FIVE,4SIX,4SEVEN,4EIGHT,4NINE,1SANS-SERIF DIGIT ZERO,4ONE,4TWO
4THREE,4FOUR,4FIVE,4SIX,4SEVEN,4EIGHT,4NINE,3BOLD DIGIT ZERO,5ONE,5TWO,5THREE,5FOUR,5FIVE,5SIX,5SEVEN,5EIGHT,5NINE
1MONOSPACE DIGIT ZERO,3ONE,3TWO,3THREE,3FOUR,3FIVE,3SIX,3SEVEN,3EIGHT,3NINE,SIGNWRITING HAND-FIST INDEX,2CIRCLE ~
2CUP ~,2OVAL ~,2HINGE ~,2ANGLE ~,2FIST INDEX BENT,2CIRCLE ~,2FIST THUMB UNDER INDEX BENT,3INDEX RAISED KNUCKLE,4CUPPED
4HINGED,4HINGED LOW,2CIRCLE INDEX HINGE,2FIST INDEX MIDDLE,2CIRCLE ~,2FIST INDEX MIDDLE BENT,5RAISED KNUCKLES,5HINGED
4UP MIDDLE HINGED,4HINGED MIDDLE UP,4MIDDLE CONJOINED,5CONJOINED INDEX BENT,6MIDDLE ~,6CUPPED,6HINGED,5CROSSED
2CIRCLE ~,2FIST MIDDLE BENT OVER INDEX,3INDEX BENT OVER MIDDLE,4MIDDLE THUMB,2CIRCLE ~
2FIST INDEX MIDDLE STRAIGHT THUMB BENT,5BENT THUMB STRAIGHT,5THUMB BENT,5HINGED SPREAD THUMB SIDE,4UP MIDDLE HINGED ~
8CONJOINED,4HINGED MIDDLE UP THUMB SIDE,4MIDDLE UP SPREAD THUMB FORWARD,5THUMB CUPPED,6CIRCLED,6HOOKED,6HINGED
3THUMB BETWEEN INDEX MIDDLE STRAIGHT,3INDEX MIDDLE CONJOINED THUMB SIDE,7SIDE CONJOINED,8BENT
3MIDDLE THUMB HOOKED INDEX UP,3INDEX THUMB HOOKED MIDDLE ~,4MIDDLE CONJOINED HINGED THUMB SIDE,5CROSSED THUMB SIDE
5CONJOINED THUMB FORWARD,6CUPPED THUMB FORWARD,3MIDDLE THUMB CUPPED INDEX UP,3INDEX THUMB CUPPED MIDDLE ~
3MIDDLE THUMB CIRCLED INDEX ~,7HINGED,3INDEX THUMB ANGLED OUT MIDDLE UP,6IN ~,5CIRCLED MIDDLE UP
4MIDDLE THUMB CONJOINED HINGED,6ANGLED OUT,6ANGLED,3MIDDLE THUMB ANGLED OUT INDEX UP,8CROSSED,6INDEX UP
3INDEX THUMB HOOKED MIDDLE HINGED,2FLAT FOUR FINGERS,4FINGERS BENT,5HINGED,5CONJOINED,5CONJOINED SPLIT
2CLAW FOUR FINGERS CONJOINED,2FIST FOUR FINGERS CONJOINED BENT,2HINGE FOUR FINGERS CONJOINED,2FLAT FIVE FINGERS SPREAD
3HEEL FIVE FINGERS SPREAD,3FIVE FINGERS SPREAD FOUR BENT,3HEEL FIVE FINGERS SPREAD FOUR BENT,3FIVE FINGERS SPREAD BENT
3HEEL FIVE FINGERS SPREAD BENT,3FIVE FINGERS SPREAD THUMB FORWARD,2CUP FIVE FINGERS SPREAD,5SPREAD OPEN,2HINGE ~
2OVAL FIVE FINGERS SPREAD,2FLAT FIVE FINGERS SPREAD HINGED,6HINGED THUMB SIDE,7NO THUMB,2FLAT
2FLAT BETWEEN PALM FACINGS,3HEEL,3THUMB SIDE,3HEEL THUMB SIDE,3THUMB BENT,4FORWARD,3SPLIT INDEX THUMB SIDE,4CENTRE
4CENTRE THUMB SIDE,6SIDE BENT,4LITTLE,2CLAW,2CLAW THUMB SIDE,3NO THUMB,3THUMB FORWARD,2HOOK CURLICUE,2HOOK,2CUP OPEN
2CUP,2CUP OPEN THUMB SIDE,3THUMB SIDE,3OPEN NO THUMB,3NO THUMB,3OPEN THUMB FORWARD,3THUMB FORWARD,2CURLICUE OPEN
2CURLICUE,2CIRCLE,2OVAL,2OVAL THUMB SIDE,3NO THUMB,3THUMB FORWARD,2HINGE OPEN,3OPEN THUMB FORWARD,2HINGE,2HINGE SMALL
3OPEN THUMB SIDE,3THUMB SIDE,3OPEN NO THUMB,3NO THUMB,3THUMB SIDE TOUCHING INDEX,4BETWEEN MIDDLE RING,2ANGLE
2FIST INDEX MIDDLE RING,2CIRCLE ~,2HINGE ~,2ANGLE ~,2HINGE LITTLE,2FIST INDEX MIDDLE RING BENT,6CONJOINED,2HINGE ~
2FIST LITTLE DOWN,4DOWN RIPPLE STRAIGHT,6CURVED,5OTHERS CIRCLED,4UP,3THUMB UNDER LITTLE UP,2CIRCLE LITTLE UP,2OVAL ~
2ANGLE ~,2FIST LITTLE RAISED KNUCKLE,4BENT,4TOUCHES THUMB,4THUMB,2HINGE ~,2FIST LITTLE INDEX THUMB,2HINGE ~
2ANGLE LITTLE INDEX THUMB INDEX THUMB OUT,7THUMB,2FIST LITTLE INDEX,2CIRCLE ~,2HINGE ~,2ANGLE ~
2FIST INDEX MIDDLE LITTLE,2CIRCLE ~,2HINGE ~,3RING,2ANGLE INDEX MIDDLE LITTLE,2FIST INDEX MIDDLE CROSS LITTLE
2CIRCLE ~,2FIST RING DOWN,2HINGE RING DOWN INDEX THUMB HOOK MIDDLE,2ANGLE RING DOWN MIDDLE THUMB INDEX CROSS
2FIST RING UP,4RAISED KNUCKLE,4LITTLE,2CIRCLE ~,2OVAL ~,2ANGLE ~,2FIST RING MIDDLE,4MIDDLE CONJOINED,5RAISED KNUCKLES
4INDEX,4THUMB,2HOOK ~,2FIST INDEX RING LITTLE,2CIRCLE ~,2CURLICUE INDEX RING LITTLE ON,2HOOK INDEX RING LITTLE OUT,6IN
6UNDER,2CUP INDEX RING LITTLE,2HINGE ~,2ANGLE INDEX RING LITTLE OUT,5LITTLE,2FIST MIDDLE DOWN,2HINGE MIDDLE
2FIST MIDDLE UP,2CIRCLE ~,2FIST MIDDLE RAISED KNUCKLE,4UP THUMB SIDE,2HOOK MIDDLE THUMB,2FIST MIDDLE THUMB LITTLE
4LITTLE,4RING LITTLE,2CIRCLE ~,2CURLICUE MIDDLE RING LITTLE ON,2CUP MIDDLE RING LITTLE,2HINGE ~
2ANGLE MIDDLE RING LITTLE OUT,6IN,5LITTLE,2CIRCLE MIDDLE RING LITTLE BENT,2CLAW MIDDLE RING LITTLE CONJOINED
6CONJOINED SIDE,2HOOK MIDDLE RING LITTLE CONJOINED OUT,7IN,6CONJOINED,2HINGE INDEX HINGED,2FIST INDEX THUMB SIDE
2HINGE ~,2FIST INDEX THUMB SIDE THUMB DIAGONAL,7CONJOINED,7BENT,6INDEX ~,6BOTH ~,6INDEX HINGE,5FORWARD INDEX STRAIGHT
7BENT,5HOOK,5CURLICUE,5CURVE THUMB INSIDE,2CLAW ~,2FIST INDEX THUMB CURVE THUMB UNDER,5CIRCLE,2CUP INDEX THUMB
4THUMB OPEN,2HINGE ~,5LARGE,4THUMB,4THUMB SMALL,2ANGLE INDEX THUMB OUT,5IN,4THUMB,2FIST THUMB,3THUMB HEEL
4SIDE DIAGONAL,5CONJOINED,5BENT,4FORWARD,4BETWEEN INDEX MIDDLE,5MIDDLE RING,5RING LITTLE,4UNDER TWO FINGERS,4OVER ~
4UNDER THREE ~,5FOUR ~,4OVER FOUR RAISED KNUCKLES,2FIST,2FIST HEEL,1TOUCH SINGLE,2MULTIPLE,2BETWEEN,1GRASP SINGLE
2MULTIPLE,2BETWEEN,1STRIKE SINGLE,2MULTIPLE,2BETWEEN,1BRUSH SINGLE,2MULTIPLE,2BETWEEN,1RUB SINGLE,2MULTIPLE,2BETWEEN
1SURFACE SYMBOLS,2BETWEEN,1SQUEEZE LARGE SINGLE,2SMALL ~,2LARGE MULTIPLE,2SMALL ~,2SEQUENTIAL,1FLICK LARGE SINGLE
2SMALL ~,2LARGE MULTIPLE,2SMALL ~,2SEQUENTIAL,1SQUEEZE FLICK ALTERNATING,1MOVEMENT-HINGE UP DOWN LARGE,5SMALL
4SEQUENTIAL,3DOWN ~,3UP DOWN ALTERNATING LARGE,6SMALL,3SIDE TO SIDE SCISSORS,2WALLPLANE FINGER CONTACT,2FLOORPLANE ~
2WALLPLANE SINGLE STRAIGHT SMALL,5MEDIUM,5LARGE,5LARGEST,4WRIST FLEX,3DOUBLE STRAIGHT,4WRIST FLEX,4ALTERNATING
4ALTERNATING WRIST FLEX,3CROSS,3TRIPLE STRAIGHT MOVEMENT,4WRIST FLEX,4ALTERNATING,4ALTERNATING WRIST FLEX,3BEND SMALL
4MEDIUM,4LARGE,3CORNER SMALL,4MEDIUM,4LARGE,4ROTATION,3CHECK SMALL,4MEDIUM,4LARGE,3BOX SMALL,4MEDIUM,4LARGE
3ZIGZAG SMALL,4MEDIUM,4LARGE,3PEAKS SMALL,4MEDIUM,4LARGE,1TRAVEL-WALLPLANE ROTATION-WALLPLANE SINGLE,5DOUBLE
5ALTERNATING,4FLOORPLANE SINGLE,5DOUBLE,5ALTERNATING,3SHAKING,3ARM SPIRAL SINGLE,5DOUBLE,5TRIPLE
1MOVEMENT-DIAGONAL AWAY SMALL,4MEDIUM,4LARGE,4LARGEST,3TOWARDS SMALL,4MEDIUM,4LARGE,4LARGEST,3BETWEEN AWAY SMALL
5MEDIUM,5LARGE,5LARGEST,4TOWARDS SMALL,5MEDIUM,5LARGE,5LARGEST,2FLOORPLANE SINGLE STRAIGHT SMALL,5MEDIUM,5LARGE
5LARGEST,4WRIST FLEX,3DOUBLE STRAIGHT,4WRIST FLEX,4ALTERNATING,4ALTERNATING WRIST FLEX,3CROSS
3TRIPLE STRAIGHT MOVEMENT,4WRIST FLEX,4ALTERNATING MOVEMENT,5WRIST FLEX,3BEND,3CORNER SMALL,4MEDIUM,4LARGE,3CHECK
3BOX SMALL,4MEDIUM,4LARGE,3ZIGZAG SMALL,4MEDIUM,4LARGE,3PEAKS SMALL,4MEDIUM,4LARGE
1TRAVEL-FLOORPLANE ROTATION-FLOORPLANE SINGLE,5DOUBLE,5ALTERNATING,4WALLPLANE SINGLE,5DOUBLE,5ALTERNATING,3SHAKING
1MOVEMENT-WALLPLANE CURVE QUARTER SMALL,5MEDIUM,5LARGE,5LARGEST,4HALF-CIRCLE SMALL,6MEDIUM,6LARGE,6LARGEST
4THREE-QUARTER CIRCLE SMALL,7MEDIUM,3HUMP SMALL,4MEDIUM,4LARGE,3LOOP SMALL,4MEDIUM,4LARGE,4SMALL DOUBLE
3WAVE CURVE DOUBLE SMALL,6MEDIUM,6LARGE,5TRIPLE SMALL,6MEDIUM,6LARGE,3CURVE THEN STRAIGHT,3CURVED CROSS SMALL,5MEDIUM
1ROTATION-WALLPLANE SINGLE,3DOUBLE,3ALTERNATE,1MOVEMENT-WALLPLANE SHAKING,3CURVE HITTING FRONT WALL,3HUMP ~,3LOOP ~
3WAVE ~,1ROTATION-WALLPLANE SINGLE ~,3DOUBLE ~,3ALTERNATING ~,1MOVEMENT-WALLPLANE CURVE HITTING CHEST,3HUMP ~,3LOOP ~
3WAVE ~,1ROTATION-WALLPLANE SINGLE ~,3DOUBLE ~,3ALTERNATING ~,1MOVEMENT-WALLPLANE WAVE DIAGONAL PATH SMALL,6MEDIUM
6LARGE,2FLOORPLANE CURVE HITTING CEILING SMALL,6LARGE,3HUMP HITTING CEILING SMALL DOUBLE,6LARGE ~,6SMALL TRIPLE
6LARGE ~,3LOOP HITTING CEILING SMALL SINGLE,6LARGE ~,6SMALL DOUBLE,6LARGE ~,3WAVE HITTING CEILING SMALL,6LARGE
1ROTATION-FLOORPLANE SINGLE HITTING CEILING,3DOUBLE ~,3ALTERNATING ~,1MOVEMENT-FLOORPLANE CURVE HITTING FLOOR SMALL
6LARGE,3HUMP HITTING FLOOR SMALL DOUBLE,6LARGE ~,6TRIPLE SMALL TRIPLE,7LARGE ~,3LOOP HITTING FLOOR SMALL SINGLE
6LARGE ~,6SMALL DOUBLE,6LARGE ~,3WAVE HITTING FLOOR SMALL,6LARGE,1ROTATION-FLOORPLANE SINGLE HITTING FLOOR,3DOUBLE ~
3ALTERNATING ~,1MOVEMENT-FLOORPLANE CURVE SMALL,4MEDIUM,4LARGE,4LARGEST,4COMBINED,3HUMP SMALL,3LOOP ~,3WAVE SNAKE
4SMALL,4LARGE,1ROTATION-FLOORPLANE SINGLE,3DOUBLE,3ALTERNATING,1MOVEMENT-FLOORPLANE SHAKING PARALLEL
2WALLPLANE ARM CIRCLE SMALL SINGLE,5MEDIUM ~,5SMALL DOUBLE,5MEDIUM ~,2FLOORPLANE ARM CIRCLE HITTING WALL SMALL SINGLE
7MEDIUM ~,7LARGE ~,7SMALL DOUBLE,7MEDIUM ~,7LARGE ~,2WALLPLANE WRIST CIRCLE FRONT SINGLE,6DOUBLE
2FLOORPLANE WRIST CIRCLE HITTING WALL SINGLE,7DOUBLE,2WALLPLANE FINGER CIRCLES SINGLE,5DOUBLE
2FLOORPLANE FINGER CIRCLES HITTING WALL SINGLE,7DOUBLE,1DYNAMIC ARROWHEAD SMALL,3LARGE,2FAST,2SLOW,2TENSE,2RELAXED
2SIMULTANEOUS,2SIMULTANEOUS ALTERNATING,2EVERY OTHER TIME,2GRADUAL,1HEAD,1HEAD RIM,2MOVEMENT-WALLPLANE STRAIGHT,4TILT
3FLOORPLANE STRAIGHT,3WALLPLANE CURVE,3FLOORPLANE ~,2MOVEMENT CIRCLE,1FACE DIRECTION POSITION NOSE FORWARD TILTING
5UP OR DOWN,7DOWN TILTING,1EYEBROWS STRAIGHT UP,3NEUTRAL,3DOWN,1DREAMY EYEBROWS NEUTRAL DOWN,3DOWN NEUTRAL,3UP ~
3NEUTRAL UP,1FOREHEAD NEUTRAL,2CONTACT,2WRINKLED,1EYES OPEN,2SQUEEZED,2CLOSED,1EYE BLINK SINGLE,3MULTIPLE
1EYES HALF OPEN,2WIDE ~,2HALF CLOSED,2WIDENING MOVEMENT,1EYE WINK,1EYELASHES UP,2DOWN,2FLUTTERING
1EYEGAZE-WALLPLANE STRAIGHT,3STRAIGHT DOUBLE,4ALTERNATING,2FLOORPLANE STRAIGHT,3STRAIGHT DOUBLE,4ALTERNATING
2WALLPLANE CURVED,2FLOORPLANE ~,2WALLPLANE CIRCLING,1CHEEKS PUFFED,2NEUTRAL,2SUCKED,1TENSE CHEEKS HIGH,3MIDDLE,3LOW
1EARS,1NOSE NEUTRAL,2CONTACT,2WRINKLES,2WIGGLES,1AIR BLOWING OUT,2SUCKING IN,2BLOW SMALL ROTATIONS,2SUCK ~
1BREATH INHALE,2EXHALE,1MOUTH CLOSED NEUTRAL,3FORWARD,3CONTACT,2SMILE,2SMILE WRINKLED,3OPEN,2FROWN,2FROWN WRINKLED
3OPEN,2OPEN CIRCLE,3FORWARD,3WRINKLED,3OVAL,3OVAL WRINKLED,4YAWN,3RECTANGLE,3RECTANGLE WRINKLED,4YAWN,2KISS
2KISS FORWARD,3WRINKLED,2TENSE,2TENSE FORWARD,3SUCKED,1LIPS PRESSED TOGETHER,1LIP LOWER OVER UPPER,2UPPER OVER LOWER
1MOUTH CORNERS,2WRINKLES SINGLE,3DOUBLE,1TONGUE STICKING OUT FAR,2LICKING LIPS,2TIP BETWEEN LIPS
3TOUCHING INSIDE MOUTH,2INSIDE MOUTH RELAXED,2MOVES AGAINST CHEEK,2CENTRE STICKING OUT,3INSIDE MOUTH,1TEETH
1TEETH MOVEMENT,2ON TONGUE,3TONGUE MOVEMENT,3LIPS,3LIPS MOVEMENT,2BITE LIPS,1MOVEMENT-WALLPLANE JAW,2FLOORPLANE ~
1NECK,1HAIR,1EXCITEMENT,1SHOULDER HIP SPINE,3POSITIONS,1WALLPLANE SHOULDER HIP MOVE,1FLOORPLANE ~
1SHOULDER TILTING FROM WAIST,1TORSO-WALLPLANE STRAIGHT STRETCH,3CURVED BEND,2FLOORPLANE TWISTING
1UPPER BODY TILTING FROM HIP JOINTS,1LIMB COMBINATION,2LENGTH-1,+6,1FINGER,1LOCATION-WALLPLANE SPACE,2FLOORPLANE ~
1LOCATION HEIGHT,2WIDTH,2DEPTH,2HEAD NECK,2TORSO,2LIMBS DIGITS,1COMMA,1FULL STOP,1SEMICOLON,1COLON,1PARENTHESIS,@1DA9B
1FILL MODIFIER-2,+4,@1DAA1,1ROTATION MODIFIER-2,+7,310,+6,@1DF00,LATIN SMALL LETTER FENG DIGRAPH WITH TRILL
3REVERSED SCRIPT G,1LETTER SMALL CAPITAL TURNED G,1SMALL LETTER REVERSED K,1LETTER SMALL CAPITAL L WITH BELT
1SMALL LETTER LEZH WITH RETROFLEX HOOK,3TURNED Y WITH BELT,3REVERSED ENG,3TURNED R WITH LONG LEG AND RETROFLEX HOOK
3T WITH HOOK AND RETROFLEX HOOK,1LETTER RETROFLEX CLICK WITH RETROFLEX HOOK,1SMALL LETTER ESH WITH DOUBLE BAR
6BAR AND CURL,3TURNED T WITH CURL,1LETTER INVERTED GLOTTAL STOP ~,2STRETCHED C WITH CURL,2SMALL CAPITAL TURNED K
1SMALL LETTER L WITH FISHHOOK,3DEZH DIGRAPH WITH PALATAL HOOK,3L WITH BELT AND PALATAL HOOK,3ENG WITH PALATAL HOOK
3TURNED R WITH PALATAL HOOK,3R WITH FISHHOOK AND PALATAL HOOK,3TESH DIGRAPH WITH PALATAL HOOK,3EZH WITH PALATAL HOOK
3DEZH DIGRAPH WITH RETROFLEX HOOK,3I WITH STROKE AND RETROFLEX HOOK,3O WITH RETROFLEX HOOK
3TESH DIGRAPH WITH RETROFLEX HOOK,3C WITH RETROFLEX HOOK,3S WITH CURL,@1E000,COMBINING GLAGOLITIC LETTER AZU,3BUKY
3VEDE,3GLAGOLI,3DOBRO,3YESTU,3ZHIVETE,@1E008,3ZEMLJA,3IZHE,3INITIAL IZHE,3I,3DJERVI,3KAKO,3LJUDIJE,3MYSLITE,3NASHI
3ONU,3POKOJI,3RITSI,3SLOVO,3TVRIDO,3UKU,3FRITU,3HERU,@1E01B,3SHTA,3TSI,3CHRIVI,3SHA,3YERU,3YERI,3YATI,@1E023,3YU
3SMALL YUS,@1E026,3YO,3IOTATED SMALL YUS,3BIG YUS,3IOTATED BIG YUS,3FITA,@1E100,NYIAKENG PUACHUE HMONG LETTER MA,4TSA
4NTA,4TA,4HA,4NA,4XA,4NKA,4CA,4LA,4SA,4ZA,4NCA,4NTSA,4KA,4DA,4NYA,4NRA,4VA,4NTXA,4TXA,4FA,4RA,4QA,4YA,4NQA,4PA,4XYA
4NPA,4DLA,4NPLA,4HAH,4MLA,4PLA,4GA,4RRA,4A,4AA,4I,4U,4O,4OO,4E,4EE,4W,@1E130,3TONE-B,4M,4J,4V,4S,4G,4D
3SIGN FOR PERSON,5THING,5LOCATION,5ANIMAL,5INVERTEBRATE,4XW XW,3SYLLABLE LENGTHENER,@1E140,3DIGIT ZERO,4ONE,4TWO
4THREE,4FOUR,4FIVE,4SIX,4SEVEN,4EIGHT,4NINE,@1E14E,3LOGOGRAM NYAJ,3CIRCLED CA,@1E290,TOTO LETTER PA,2BA,2TA,2DA,2KA
2GA,2MA,2NA,2NGA,2SA,2CHA,2YA,2WA,2JA,2HA,2RA,2LA,2I,2BREATHY I,2IU,2BREATHY IU,2U,2E,2BREATHY E,2EO,2BREATHY EO,2O
2AE,2BREATHY AE,2A,1SIGN RISING TONE,@1E2C0,WANCHO LETTER AA,2A,2BA,2CA,2DA,2GA,2YA,2PHA,2LA,2NA,2PA,2TA,2THA,2FA,2SA
2SHA,2JA,2ZA,2WA,2VA,2KA,2O,2AU,2RA,2MA,2KHA,2HA,2E,2I,2NGA,2U,2LLHA,2TSA,2TRA,2ONG,2AANG,2ANG,2ING,2ON,2EN,2AAN,2NYA
2UEN,2YIH,1TONE TUP,2TUPNI,2KOI,2KOINI,1DIGIT ZERO,2ONE,2TWO,2THREE,2FOUR,2FIVE,2SIX,2SEVEN,2EIGHT,2NINE,@1E2FF
1NGUN SIGN,@1E7E0,ETHIOPIC SYLLABLE HHYA,2HHYU,2HHYI,2HHYAA,2HHYEE,2HHYE,2HHYO,@1E7E8,2GURAGE HHWA,2HHWI,2HHWEE,2HHWE
@1E7ED,2GURAGE MWI,3MWEE,@1E7F0,3QWI,3QWEE,3QWE,3BWI,3BWEE,3KWI,3KWEE,3KWE,3GWI,3GWEE,3GWE,3FWI,3FWEE,3PWI,3PWEE
@1E800,MENDE KIKAKUI SYLLABLE M001 KI,3M002 KA,3M003 KU,3M065 KEE,3M095 KE,3M076 KOO,3M048 KO,3M179 KUA,3M004 WI
3M005 WA,3M006 WU,3M126 WEE,3M118 WE,3M114 WOO,3M045 WO,3M194 WUI,3M143 WEI,3M061 WVI,3M049 WVA,3M139 WVE,3M007 MIN
3M008 MAN,3M009 MUN,3M059 MEN,3M094 MON,3M154 MUAN,3M189 MUEN,3M010 BI,3M011 BA,3M012 BU,3M150 BEE,3M097 BE,3M103 BOO
3M138 BO,3M013 I,3M014 A,3M015 U,3M163 EE,3M100 E,3M165 OO,3M147 O,3M137 EI,3M131 IN,3M135 ~,3M195 AN,3M178 EN
3M019 SI,3M020 SA,3M021 SU,3M162 SEE,3M116 SE,3M136 SOO,3M079 SO,3M196 SIA,3M025 LI,3M026 LA,3M027 LU,3M084 LEE
3M073 LE,3M054 LOO,3M153 LO,3M110 LONG LE,3M016 DI,3M017 DA,3M018 DU,3M089 DEE,3M180 DOO,3M181 DO,3M022 TI,3M023 TA
3M024 TU,3M091 TEE,3M055 TE,3M104 TOO,3M069 TO,3M028 JI,3M029 JA,3M030 JU,3M157 JEE,3M113 JE,3M160 JOO,3M063 JO
3M175 LONG JO,3M031 YI,3M032 YA,3M033 YU,3M109 YEE,3M080 YE,3M141 YOO,3M121 YO,3M034 FI,3M035 FA,3M036 FU,3M078 FEE
3M075 FE,3M133 FOO,3M088 FO,3M197 FUA,3M101 FAN,3M037 NIN,3M038 NAN,3M039 NUN,3M117 NEN,3M169 NON,3M176 HI,3M041 HA
3M186 HU,3M040 HEE,3M096 HE,3M042 HOO,3M140 HO,3M083 HEEI,3M128 HOOU,3M053 HIN,3M130 HAN,3M087 HUN,3M052 HEN,3M193 HON
3M046 HUAN,3M090 NGGI,3M043 NGGA,3M082 NGGU,3M115 NGGEE,3M146 NGGE,3M156 NGGOO,3M120 NGGO,3M159 NGGAA,3M127 NGGUA
3M086 LONG NGGE,3M106 LONG NGGOO,3M183 LONG NGGO,3M155 GI,3M111 GA,3M168 GU,3M190 GEE,3M166 GUEI,3M167 GUAN,3M184 NGEN
3M057 NGON,3M177 NGUAN,3M068 PI,3M099 PA,3M050 PU,3M081 PEE,3M051 PE,3M102 POO,3M066 PO,3M145 MBI,3M062 MBA,3M122 MBU
3M047 MBEE,3M188 ~,3M072 MBE,3M172 MBOO,3M174 MBO,3M187 MBUU,3M161 LONG MBE,3M105 LONG MBOO,3M142 LONG MBO,3M132 KPI
3M092 KPA,3M074 KPU,3M044 KPEE,3M108 KPE,3M112 KPOO,3M158 KPO,3M124 GBI,3M056 GBA,3M148 GBU,3M093 GBEE,3M107 GBE
3M071 GBOO,3M070 GBO,3M171 RA,3M123 NDI,3M129 NDA,3M125 NDU,3M191 NDEE,3M119 NDE,3M067 NDOO,3M064 NDO,3M152 NJA
3M192 NJU,3M149 NJEE,3M134 NJOO,3M182 VI,3M185 VA,3M151 VU,3M173 VEE,3M085 VE,3M144 VOO,3M077 VO,3M164 NYIN,3M058 NYAN
3M170 NYUN,3M098 NYEN,3M060 NYON,@1E8C7,2DIGIT ONE,3TWO,3THREE,3FOUR,3FIVE,3SIX,3SEVEN,3EIGHT,3NINE
2COMBINING NUMBER TEENS,4TENS,4HUNDREDS,4THOUSANDS,4TEN THOUSANDS,4HUNDRED ~,4MILLIONS,@1E900
ADLAM CAPITAL LETTER ALIF,3DAALI,3LAAM,3MIIM,3BA,3SINNYIIYHE,3PE,3BHE,3RA,3E,3FA,3I,3O,3DHA,3YHE,3WAW,3NUN,3KAF,3YA,3U
3JIIM,3CHI,3HA,3QAAF,3GA,3NYA,3TU,3NHA,3VA,3KHA,3GBE,3ZAL,3KPO,3SHA,1SMALL LETTER ALIF,3DAALI,3LAAM,3MIIM,3BA
3SINNYIIYHE,3PE,3BHE,3RA,3E,3FA,3I,3O,3DHA,3YHE,3WAW,3NUN,3KAF,3YA,3U,3JIIM,3CHI,3HA,3QAAF,3GA,3NYA,3TU,3NHA,3VA,3KHA
3GBE,3ZAL,3KPO,3SHA,1ALIF LENGTHENER,1VOWEL ~,1GEMINATION MARK,1HAMZA,1CONSONANT MODIFIER,1GEMINATE CONSONANT MODIFIER
1NUKTA,1NASALIZATION MARK,@1E950,1DIGIT ZERO,2ONE,2TWO,2THREE,2FOUR,2FIVE,2SIX,2SEVEN,2EIGHT,2NINE,@1E95E
1INITIAL EXCLAMATION MARK,2QUESTION ~,@1EC71,INDIC SIYAQ NUMBER ONE,3TWO,3THREE,3FOUR,3FIVE,3SIX,3SEVEN,3EIGHT,3NINE
3TEN,3TWENTY,3THIRTY,3FORTY,3FIFTY,3SIXTY,3SEVENTY,3EIGHTY,3NINETY,3ONE HUNDRED,3TWO ~,3THREE ~,3FOUR ~,3FIVE ~,3SIX ~
3SEVEN ~,3EIGHT ~,3NINE ~,3ONE THOUSAND,3TWO ~,3THREE ~,3FOUR ~,3FIVE ~,3SIX ~,3SEVEN ~,3EIGHT ~,3NINE ~,3TEN ~
3TWENTY ~,3THIRTY ~,3FORTY ~,3FIFTY ~,3SIXTY ~,3SEVENTY ~,3EIGHTY ~,3NINETY ~,3LAKH,3LAKHAN,2LAKH MARK,2NUMBER KAROR
3KARORAN,3PREFIXED ONE,4TWO,4THREE,4FOUR,4FIVE,4SIX,4SEVEN,4EIGHT,4NINE,2PLACEHOLDER,2FRACTION ONE QUARTER,4HALF
3THREE QUARTERS,2RUPEE MARK,2NUMBER ALTERNATE ONE,4TWO,4TEN THOUSAND,2ALTERNATE LAKH MARK,@1ED01
OTTOMAN SIYAQ NUMBER ONE,3TWO,3THREE,3FOUR,3FIVE,3SIX,3SEVEN,3EIGHT,3NINE,3TEN,3TWENTY,3THIRTY,3FORTY,3FIFTY,3SIXTY
3SEVENTY,3EIGHTY,3NINETY,3ONE HUNDRED,3TWO ~,3THREE ~,3FOUR ~,3FIVE ~,3SIX ~,3SEVEN ~,3EIGHT ~,3NINE ~,3ONE THOUSAND
3TWO ~,3THREE ~,3FOUR ~,3FIVE ~,3SIX ~,3SEVEN ~,3EIGHT ~,3NINE ~,3TEN ~,3TWENTY ~,3THIRTY ~,3FORTY ~,3FIFTY ~,3SIXTY ~
3SEVENTY ~,3EIGHTY ~,3NINETY ~,2MARRATAN,2ALTERNATE NUMBER TWO,4THREE,4FOUR,4FIVE,4SIX,4SEVEN,4EIGHT,4NINE,4TEN
4FOUR HUNDRED,4SIX ~,4TWO THOUSAND,4TEN ~,2FRACTION ONE HALF,4SIXTH,@1EE00,ARABIC MATHEMATICAL ALEF,2BEH,2JEEM,2DAL
@1EE05,2WAW,2ZAIN,2HAH,2TAH,2YEH,2KAF,2LAM,2MEEM,2NOON,2SEEN,2AIN,2FEH,2SAD,2QAF,2REH,2SHEEN,2TEH,2THEH,2KHAH,2THAL
2DAD,2ZAH,2GHAIN,2DOTLESS BEH,3NOON,3FEH,3QAF,@1EE21,2INITIAL BEH,3JEEM,@1EE24,3HEH,@1EE27,3HAH,@1EE29,3YEH,3KAF,3LAM
3MEEM,3NOON,3SEEN,3AIN,3FEH,3SAD,3QAF,@1EE34,3SHEEN,3TEH,3THEH,3KHAH,@1EE39,3DAD,@1EE3B,3GHAIN,@1EE42,2TAILED JEEM
@1EE47,3HAH,@1EE49,3YEH,@1EE4B,3LAM,@1EE4D,3NOON,3SEEN,3AIN,@1EE51,3SAD,3QAF,@1EE54,3SHEEN,@1EE57,3KHAH,@1EE59,3DAD
@1EE5B,3GHAIN,@1EE5D,3DOTLESS NOON,@1EE5F,4QAF,@1EE61,2STRETCHED BEH,3JEEM,@1EE64,3HEH,@1EE67,3HAH,3TAH,3YEH,3KAF
@1EE6C,3MEEM,3NOON,3SEEN,3AIN,3FEH,3SAD,3QAF,@1EE74,3SHEEN,3TEH,3THEH,3KHAH,@1EE79,3DAD,3ZAH,3GHAIN,3DOTLESS BEH
@1EE7E,4FEH,@1EE80,2LOOPED ALEF,3BEH,3JEEM,3DAL,3HEH,3WAW,3ZAIN,3HAH,3TAH,3YEH,@1EE8B,3LAM,3MEEM,3NOON,3SEEN,3AIN,3FEH
3SAD,3QAF,3REH,3SHEEN,3TEH,3THEH,3KHAH,3THAL,3DAD,3ZAH,3GHAIN,@1EEA1,2DOUBLE-STRUCK BEH,4JEEM,4DAL,@1EEA5,4WAW,4ZAIN
4HAH,4TAH,4YEH,@1EEAB,4LAM,4MEEM,4NOON,4SEEN,4AIN,4FEH,4SAD,4QAF,4REH,4SHEEN,4TEH,4THEH,4KHAH,4THAL,4DAD,4ZAH,4GHAIN
@1EEF0,2OPERATOR MEEM WITH HAH WITH TATWEEL,3HAH WITH DAL,@1F000,MAHJONG TILE EAST WIND,2SOUTH ~,2WEST ~,2NORTH ~
2RED DRAGON,2GREEN ~,2WHITE ~,2ONE OF CHARACTERS,2TWO ~,2THREE ~,2FOUR ~,2FIVE ~,2SIX ~,2SEVEN ~,2EIGHT ~,2NINE ~
2ONE OF BAMBOOS,2TWO ~,2THREE ~,2FOUR ~,2FIVE ~,2SIX ~,2SEVEN ~,2EIGHT ~,2NINE ~,2ONE OF CIRCLES,2TWO ~,2THREE ~
2FOUR ~,2FIVE ~,2SIX ~,2SEVEN ~,2EIGHT ~,2NINE ~,2PLUM,2ORCHID,2BAMBOO,2CHRYSANTHEMUM,2SPRING,2SUMMER,2AUTUMN,2WINTER
2JOKER,2BACK,@1F030,DOMINO TILE HORIZONTAL BACK,2HORIZONTAL-00-00,+6,301-00,+6,302-00,+6,303-00,+6,304-00,+6,305-00,+6
306-00,+6,2VERTICAL BACK,2VERTICAL-00-00,+6,301-00,+6,302-00,+6,303-00,+6,304-00,+6,305-00,+6,306-00,+6,@1F0A0
PLAYING CARD BACK,2ACE OF SPADES,2TWO ~,2THREE ~,2FOUR ~,2FIVE ~,2SIX ~,2SEVEN ~,2EIGHT ~,2NINE ~,2TEN ~,2JACK ~
2KNIGHT ~,2QUEEN ~,2KING ~,@1F0B1,2ACE OF HEARTS,2TWO ~,2THREE ~,2FOUR ~,2FIVE ~,2SIX ~,2SEVEN ~,2EIGHT ~,2NINE ~
2TEN ~,2JACK ~,2KNIGHT ~,2QUEEN ~,2KING ~,2RED JOKER,@1F0C1,2ACE OF DIAMONDS,2TWO ~,2THREE ~,2FOUR ~,2FIVE ~,2SIX ~
2SEVEN ~,2EIGHT ~,2NINE ~,2TEN ~,2JACK ~,2KNIGHT ~,2QUEEN ~,2KING ~,2BLACK JOKER,@1F0D1,2ACE OF CLUBS,2TWO ~,2THREE ~
2FOUR ~,2FIVE ~,2SIX ~,2SEVEN ~,2EIGHT ~,2NINE ~,2TEN ~,2JACK ~,2KNIGHT ~,2QUEEN ~,2KING ~,2WHITE JOKER,2FOOL,2TRUMP-1
+8,310,+11,@1F100,DIGIT ZERO FULL STOP,2COMMA,1ONE ~,1TWO ~,1THREE ~,1FOUR ~,1FIVE ~,1SIX ~,1SEVEN ~,1EIGHT ~,1NINE ~
DINGBAT CIRCLED SANS-SERIF DIGIT ZERO,1NEGATIVE CIRCLED SANS-SERIF DIGIT ZERO,CIRCLED ZERO WITH SLASH
1ANTICLOCKWISE ARROW,1DOLLAR SIGN WITH OVERLAID BACKSLASH,PARENTHESIZED LATIN CAPITAL LETTER A,+25
TORTOISE SHELL BRACKETED LATIN CAPITAL LETTER S,CIRCLED ITALIC LATIN CAPITAL LETTER C,5R,1CD,1WZ,COPYLEFT SYMBOL
SQUARED LATIN CAPITAL LETTER A,+25,1HV,1MV,1SD,1SS,1PPV,1WC,NEGATIVE CIRCLED LATIN CAPITAL LETTER A,+25,RAISED MC SIGN
1MD ~,1MR ~,CIRCLED CC,1C WITH OVERLAID BACKSLASH,1HUMAN FIGURE,NEGATIVE SQUARED LATIN CAPITAL LETTER A,+25
CROSSED NEGATIVE SQUARED LATIN CAPITAL LETTER P,NEGATIVE SQUARED IC,2PA,2SA,2AB,2WC,SQUARE DJ,SQUARED CL,1COOL,1FREE
1ID,1NEW,1NG,1OK,1SOS,1UP WITH EXCLAMATION MARK,1VS,1THREE D,1SECOND SCREEN,1TWO K,1FOUR K,1EIGHT K,1FIVE POINT ONE
1SEVEN ~,1TWENTY-TWO POINT TWO,1SIXTY P,1ONE HUNDRED TWENTY P,1LATIN SMALL LETTER D,1HC,1HDR,1HI-RES,1LOSSLESS,1SHV
1UHD,1VOD,MASK WORK SYMBOL,@1F1E6,REGIONAL INDICATOR SYMBOL LETTER A,+25,SQUARE HIRAGANA HOKA,SQUARED KATAKANA KOKO
2SA,@1F210,1CJK UNIFIED IDEOGRAPH-624B,45B57,453CC,1KATAKANA DE,1CJK UNIFIED IDEOGRAPH-4E8C,4591A,489E3,45929,44EA4
46620,47121,46599,4524D,45F8C,4518D,465B0,4521D,47D42,4751F,48CA9,458F0,45439,46F14,46295,46355,44E00,44E09,4904A
45DE6,44E2D,453F3,46307,48D70,46253,47981,47A7A,45408,46E80,46709,46708,47533,45272,455B6,4914D,@1F240
TORTOISE SHELL BRACKETED CJK UNIFIED IDEOGRAPH-672C,64E09,64E8C,65B89,670B9,66253,676D7,652DD,66557,@1F250
CIRCLED IDEOGRAPH ADVANTAGE,2ACCEPT,@1F260,ROUNDED SYMBOL FOR FU,3LU,3SHOU,3XI,3SHUANGXI,3CAI,@1F300,CYCLONE,FOGGY
CLOSED UMBRELLA,NIGHT WITH STARS,SUNRISE OVER MOUNTAINS,SUNRISE,CITYSCAPE AT DUSK,SUNSET OVER BUILDINGS,RAINBOW
BRIDGE AT NIGHT,WATER WAVE,VOLCANO,MILKY WAY,EARTH GLOBE EUROPE-AFRICA,2AMERICAS,2ASIA-AUSTRALIA,GLOBE WITH MERIDIANS
NEW MOON SYMBOL,WAXING CRESCENT MOON SYMBOL,FIRST QUARTER ~,WAXING GIBBOUS ~,FULL MOON SYMBOL
WANING GIBBOUS MOON SYMBOL,LAST QUARTER ~,WANING CRESCENT ~,CRESCENT MOON,NEW MOON WITH FACE
FIRST QUARTER MOON WITH FACE,LAST ~,FULL MOON WITH FACE,SUN WITH FACE,GLOWING STAR,SHOOTING ~,THERMOMETER
BLACK DROPLET,WHITE SUN,1SUN WITH SMALL CLOUD,2BEHIND CLOUD,3CLOUD WITH RAIN,CLOUD WITH RAIN,2SNOW,2LIGHTNING,2TORNADO
FOG,WIND BLOWING FACE,HOT DOG,TACO,BURRITO,CHESTNUT,SEEDLING,EVERGREEN TREE,DECIDUOUS ~,PALM ~,CACTUS,HOT PEPPER,TULIP
CHERRY BLOSSOM,ROSE,HIBISCUS,SUNFLOWER,BLOSSOM,EAR OF MAIZE,2RICE,HERB,FOUR LEAF CLOVER,MAPLE LEAF,FALLEN ~
LEAF FLUTTERING IN WIND,MUSHROOM,TOMATO,AUBERGINE,GRAPES,MELON,WATERMELON,TANGERINE,LEMON,BANANA,PINEAPPLE,RED APPLE
GREEN ~,PEAR,PEACH,CHERRIES,STRAWBERRY,HAMBURGER,SLICE OF PIZZA,MEAT ON BONE,POULTRY LEG,RICE CRACKER,1BALL
COOKED RICE,CURRY AND RICE,STEAMING BOWL,SPAGHETTI,BREAD,FRENCH FRIES,ROASTED SWEET POTATO,DANGO,ODEN,SUSHI
FRIED SHRIMP,FISH CAKE WITH SWIRL DESIGN,SOFT ICE CREAM,SHAVED ICE,ICE CREAM,DOUGHNUT,COOKIE,CHOCOLATE BAR,CANDY
LOLLIPOP,CUSTARD,HONEY POT,SHORTCAKE,BENTO BOX,POT OF FOOD,COOKING,FORK AND KNIFE,TEACUP WITHOUT HANDLE
SAKE BOTTLE AND CUP,WINE GLASS,COCKTAIL ~,TROPICAL DRINK,BEER MUG,CLINKING BEER MUGS,BABY BOTTLE
FORK AND KNIFE WITH PLATE,BOTTLE WITH POPPING CORK,POPCORN,RIBBON,WRAPPED PRESENT,BIRTHDAY CAKE,JACK-O-LANTERN
CHRISTMAS TREE,FATHER CHRISTMAS,FIREWORKS,FIREWORK SPARKLER,BALLOON,PARTY POPPER,CONFETTI BALL,TANABATA TREE
CROSSED FLAGS,PINE DECORATION,JAPANESE DOLLS,CARP STREAMER,WIND CHIME,MOON VIEWING CEREMONY,SCHOOL SATCHEL
GRADUATION CAP,HEART WITH TIP ON THE LEFT,BOUQUET OF FLOWERS,MILITARY MEDAL,REMINDER RIBBON
MUSICAL KEYBOARD WITH JACKS,STUDIO MICROPHONE,LEVEL SLIDER,CONTROL KNOBS,BEAMED ASCENDING MUSICAL NOTES,1DESCENDING ~
FILM FRAMES,ADMISSION TICKETS,CAROUSEL HORSE,FERRIS WHEEL,ROLLER COASTER,FISHING POLE AND FISH,MICROPHONE,MOVIE CAMERA
CINEMA,HEADPHONE,ARTIST PALETTE,TOP HAT,CIRCUS TENT,TICKET,CLAPPER BOARD,PERFORMING ARTS,VIDEO GAME,DIRECT HIT
SLOT MACHINE,BILLIARDS,GAME DIE,BOWLING,FLOWER PLAYING CARDS,MUSICAL NOTE,MULTIPLE MUSICAL NOTES,SAXOPHONE,GUITAR
MUSICAL KEYBOARD,TRUMPET,VIOLIN,MUSICAL SCORE,RUNNING SHIRT WITH SASH,TENNIS RACQUET AND BALL,SKI AND SKI BOOT
BASKETBALL AND HOOP,CHEQUERED FLAG,SNOWBOARDER,RUNNER,SURFER,SPORTS MEDAL,TROPHY,HORSE RACING,AMERICAN FOOTBALL
RUGBY ~,SWIMMER,WEIGHT LIFTER,GOLFER,RACING MOTORCYCLE,1CAR,CRICKET BAT AND BALL,VOLLEYBALL
FIELD HOCKEY STICK AND BALL,ICE HOCKEY STICK AND PUCK,TABLE TENNIS PADDLE AND BALL,SNOW CAPPED MOUNTAIN,CAMPING
BEACH WITH UMBRELLA,BUILDING CONSTRUCTION,HOUSE BUILDINGS,CITYSCAPE,DERELICT HOUSE BUILDING,CLASSICAL BUILDING,DESERT
DESERT ISLAND,NATIONAL PARK,STADIUM,HOUSE BUILDING,1WITH GARDEN,OFFICE BUILDING,JAPANESE POST OFFICE,EUROPEAN ~
HOSPITAL,BANK,AUTOMATED TELLER MACHINE,HOTEL,LOVE HOTEL,CONVENIENCE STORE,SCHOOL,DEPARTMENT STORE,FACTORY
IZAKAYA LANTERN,JAPANESE CASTLE,EUROPEAN ~,WHITE PENNANT,BLACK ~,WAVING WHITE FLAG,1BLACK ~,ROSETTE,BLACK ROSETTE
LABEL,BADMINTON RACQUET AND SHUTTLECOCK,BOW AND ARROW,AMPHORA,EMOJI MODIFIER FITZPATRICK TYPE-1-2,43,+3,RAT,MOUSE,OX
WATER BUFFALO,COW,TIGER,LEOPARD,RABBIT,CAT,DRAGON,CROCODILE,WHALE,SNAIL,SNAKE,HORSE,RAM,GOAT,SHEEP,MONKEY,ROOSTER
CHICKEN,DOG,PIG,BOAR,ELEPHANT,OCTOPUS,SPIRAL SHELL,BUG,ANT,HONEYBEE,LADY BEETLE,FISH,TROPICAL FISH,BLOWFISH,TURTLE
HATCHING CHICK,BABY ~,FRONT-FACING BABY CHICK,BIRD,PENGUIN,KOALA,POODLE,DROMEDARY CAMEL,BACTRIAN ~,DOLPHIN,MOUSE FACE
COW ~,TIGER ~,RABBIT ~,CAT ~,DRAGON ~,SPOUTING WHALE,HORSE FACE,MONKEY ~,DOG ~,PIG ~,FROG ~,HAMSTER ~,WOLF ~,BEAR ~
PANDA ~,PIG NOSE,PAW PRINTS,CHIPMUNK,EYES,EYE,EAR,NOSE,MOUTH,TONGUE,WHITE UP POINTING BACKHAND INDEX,1DOWN ~,1LEFT ~
1RIGHT ~,FISTED HAND SIGN,WAVING ~,OK ~,THUMBS UP ~,1DOWN ~,CLAPPING HANDS ~,OPEN ~,CROWN,WOMANS HAT,EYEGLASSES
NECKTIE,T-SHIRT,JEANS,DRESS,KIMONO,BIKINI,WOMANS CLOTHES,PURSE,HANDBAG,POUCH,MANS SHOE,ATHLETIC ~,HIGH-HEELED SHOE
WOMANS SANDAL,1BOOTS,FOOTPRINTS,BUST IN SILHOUETTE,BUSTS ~,BOY,GIRL,MAN,WOMAN,FAMILY,MAN AND WOMAN HOLDING HANDS
TWO MEN HOLDING HANDS,1WOMEN ~,POLICE OFFICER,WOMAN WITH BUNNY EARS,BRIDE WITH VEIL,PERSON WITH BLOND HAIR
MAN WITH GUA PI MAO,2TURBAN,OLDER MAN,1WOMAN,BABY,CONSTRUCTION WORKER,PRINCESS,JAPANESE OGRE,1GOBLIN,GHOST,BABY ANGEL
EXTRATERRESTRIAL ALIEN,ALIEN MONSTER,IMP,SKULL,INFORMATION DESK PERSON,GUARDSMAN,DANCER,LIPSTICK,NAIL POLISH
FACE MASSAGE,HAIRCUT,BARBER POLE,SYRINGE,PILL,KISS MARK,LOVE LETTER,RING,GEM STONE,KISS,BOUQUET,COUPLE WITH HEART
WEDDING,BEATING HEART,BROKEN ~,TWO HEARTS,SPARKLING HEART,GROWING ~,HEART WITH ARROW,BLUE HEART,GREEN ~,YELLOW ~
PURPLE ~,HEART WITH RIBBON,REVOLVING HEARTS,HEART DECORATION,DIAMOND SHAPE WITH A DOT INSIDE,ELECTRIC LIGHT BULB
ANGER SYMBOL,BOMB,SLEEPING SYMBOL,COLLISION ~,SPLASHING SWEAT SYMBOL,DROPLET,DASH SYMBOL,PILE OF POO,FLEXED BICEPS
DIZZY SYMBOL,SPEECH BALLOON,THOUGHT ~,WHITE FLOWER,HUNDRED POINTS SYMBOL,MONEY BAG,CURRENCY EXCHANGE,HEAVY DOLLAR SIGN
CREDIT CARD,BANKNOTE WITH YEN SIGN,2DOLLAR ~,2EURO ~,2POUND ~,MONEY WITH WINGS,CHART WITH UPWARDS TREND AND YEN SIGN
SEAT,PERSONAL COMPUTER,BRIEFCASE,MINIDISC,FLOPPY DISK,OPTICAL DISC,DVD,FILE FOLDER,OPEN FILE FOLDER,PAGE WITH CURL
1FACING UP,CALENDAR,TEAR-OFF CALENDAR,CARD INDEX,CHART WITH UPWARDS TREND,2DOWNWARDS ~,BAR CHART,CLIPBOARD,PUSHPIN
ROUND PUSHPIN,PAPERCLIP,STRAIGHT RULER,TRIANGULAR ~,BOOKMARK TABS,LEDGER,NOTEBOOK,NOTEBOOK WITH DECORATIVE COVER
CLOSED BOOK,OPEN ~,GREEN ~,BLUE ~,ORANGE ~,BOOKS,NAME BADGE,SCROLL,MEMO,TELEPHONE RECEIVER,PAGER,FAX MACHINE
SATELLITE ANTENNA,PUBLIC ADDRESS LOUDSPEAKER,CHEERING MEGAPHONE,OUTBOX TRAY,INBOX ~,PACKAGE,E-MAIL SYMBOL
INCOMING ENVELOPE,ENVELOPE WITH DOWNWARDS ARROW ABOVE,CLOSED MAILBOX WITH LOWERED FLAG,3RAISED ~,OPEN ~,3LOWERED ~
POSTBOX,POSTAL HORN,NEWSPAPER,MOBILE PHONE,1PHONE WITH RIGHTWARDS ARROW AT LEFT,VIBRATION MODE,MOBILE PHONE OFF
NO MOBILE PHONES,ANTENNA WITH BARS,CAMERA,CAMERA WITH FLASH,VIDEO CAMERA,TELEVISION,RADIO,VIDEOCASSETTE,FILM PROJECTOR
PORTABLE STEREO,PRAYER BEADS,TWISTED RIGHTWARDS ARROWS,CLOCKWISE RIGHTWARDS AND LEFTWARDS OPEN CIRCLE ARROWS
6ARROWS WITH CIRCLED ONE OVERLAY,1DOWNWARDS AND UPWARDS OPEN CIRCLE ARROWS,ANTICLOCKWISE ~,LOW BRIGHTNESS SYMBOL
HIGH ~,SPEAKER WITH CANCELLATION STROKE,SPEAKER,SPEAKER WITH ONE SOUND WAVE,2THREE SOUND WAVES,BATTERY,ELECTRIC PLUG
LEFT-POINTING MAGNIFYING GLASS,RIGHT-~,LOCK WITH INK PEN,CLOSED LOCK WITH KEY,KEY,LOCK,OPEN LOCK,BELL
BELL WITH CANCELLATION STROKE,BOOKMARK,LINK SYMBOL,RADIO BUTTON,BACK WITH LEFTWARDS ARROW ABOVE,END ~
ON WITH EXCLAMATION MARK WITH LEFT RIGHT ARROW ABOVE,SOON WITH RIGHTWARDS ARROW ABOVE,TOP WITH UPWARDS ~
NO ONE UNDER EIGHTEEN SYMBOL,KEYCAP TEN,INPUT SYMBOL FOR LATIN CAPITAL LETTERS,4SMALL ~,3NUMBERS,3SYMBOLS
3LATIN LETTERS,FIRE,ELECTRIC TORCH,WRENCH,HAMMER,NUT AND BOLT,HOCHO,PISTOL,MICROSCOPE,TELESCOPE,CRYSTAL BALL
SIX POINTED STAR WITH MIDDLE DOT,JAPANESE SYMBOL FOR BEGINNER,TRIDENT EMBLEM,BLACK SQUARE BUTTON,WHITE ~
LARGE RED CIRCLE,1BLUE ~,1ORANGE DIAMOND,1BLUE ~,SMALL ORANGE ~,1BLUE ~,UP-POINTING RED TRIANGLE,DOWN-~
UP-POINTING SMALL RED TRIANGLE,DOWN-~,LOWER RIGHT SHADOWED WHITE CIRCLE,UPPER ~,CIRCLED CROSS POMMEE
CROSS POMMEE WITH HALF-CIRCLE BELOW,1POMMEE,NOTCHED LEFT SEMICIRCLE WITH THREE DOTS,1RIGHT ~,SYMBOL FOR MARKS CHAPTER
WHITE LATIN CROSS,HEAVY ~,CELTIC CROSS,OM SYMBOL,DOVE OF PEACE,KAABA,MOSQUE,SYNAGOGUE,MENORAH WITH NINE BRANCHES
BOWL OF HYGIEIA,CLOCK FACE ONE OCLOCK,2TWO ~,2THREE ~,2FOUR ~,2FIVE ~,2SIX ~,2SEVEN ~,2EIGHT ~,2NINE ~,2TEN ~
2ELEVEN ~,2TWELVE ~,2ONE-THIRTY,2TWO-~,2THREE-~,2FOUR-~,2FIVE-~,2SIX-~,2SEVEN-~,2EIGHT-~,2NINE-~,2TEN-~,2ELEVEN-~
2TWELVE-~,RIGHT SPEAKER,1SPEAKER WITH ONE SOUND WAVE,3THREE SOUND WAVES,BULLHORN,BULLHORN WITH SOUND WAVES
RINGING BELL,BOOK,CANDLE,MANTELPIECE CLOCK,BLACK SKULL AND CROSSBONES,NO PIRACY,HOLE,MAN IN BUSINESS SUIT LEVITATING
SLEUTH OR SPY,DARK SUNGLASSES,SPIDER,SPIDER WEB,JOYSTICK,MAN DANCING,LEFT HAND TELEPHONE RECEIVER
TELEPHONE RECEIVER WITH PAGE,RIGHT HAND TELEPHONE RECEIVER,WHITE TOUCHTONE TELEPHONE,BLACK ~,TELEPHONE ON TOP OF MODEM
CLAMSHELL MOBILE PHONE,BACK OF ENVELOPE,STAMPED ENVELOPE,ENVELOPE WITH LIGHTNING,FLYING ENVELOPE
PEN OVER STAMPED ENVELOPE,LINKED PAPERCLIPS,BLACK PUSHPIN,LOWER LEFT PENCIL,2BALLPOINT PEN,2FOUNTAIN ~,2PAINTBRUSH
2CRAYON,LEFT WRITING HAND,TURNED OK HAND SIGN,RAISED HAND WITH FINGERS SPLAYED
REVERSED RAISED HAND WITH FINGERS SPLAYED,1THUMBS UP SIGN,2DOWN ~,1VICTORY HAND,1HAND WITH MIDDLE FINGER EXTENDED
RAISED HAND WITH PART BETWEEN MIDDLE AND RING FINGERS,WHITE DOWN POINTING LEFT HAND INDEX
SIDEWAYS WHITE LEFT POINTING INDEX,2RIGHT ~,1BLACK LEFT ~,2RIGHT ~,BLACK LEFT POINTING BACKHAND ~,1RIGHT ~
SIDEWAYS WHITE UP POINTING ~,2DOWN ~,1BLACK UP ~,2DOWN ~,BLACK UP POINTING BACKHAND ~,1DOWN ~,1HEART,DESKTOP COMPUTER
KEYBOARD AND MOUSE,THREE NETWORKED COMPUTERS,PRINTER,POCKET CALCULATOR,BLACK HARD SHELL FLOPPY DISK,WHITE ~
SOFT SHELL FLOPPY DISK,TAPE CARTRIDGE,WIRED KEYBOARD,ONE BUTTON MOUSE,TWO ~,THREE ~,TRACKBALL,OLD PERSONAL COMPUTER
HARD DISK,SCREEN,PRINTER ICON,FAX ~,OPTICAL DISC ICON,DOCUMENT WITH TEXT,2TEXT AND PICTURE,2PICTURE,FRAME ~,2TILES
2AN X,BLACK FOLDER,FOLDER,OPEN FOLDER,CARD INDEX DIVIDERS,1FILE BOX,FILE CABINET,EMPTY NOTE,1NOTE PAGE,2PAD,NOTE
NOTE PAGE,1PAD,EMPTY DOCUMENT,1PAGE,1PAGES,DOCUMENT,PAGE,PAGES,WASTEBASKET,SPIRAL NOTE PAD,1CALENDAR ~,DESKTOP WINDOW
MINIMIZE,MAXIMIZE,OVERLAP,CLOCKWISE RIGHT AND LEFT SEMICIRCLE ARROWS,CANCELLATION X,INCREASE FONT SIZE SYMBOL
DECREASE ~,COMPRESSION,OLD KEY,ROLLED-UP NEWSPAPER,PAGE WITH CIRCLED TEXT,STOCK CHART,DAGGER KNIFE,LIPS
SPEAKING HEAD IN SILHOUETTE,THREE RAYS ABOVE,2BELOW,2LEFT,2RIGHT,LEFT SPEECH BUBBLE,RIGHT ~,TWO SPEECH BUBBLES,THREE ~
LEFT THOUGHT BUBBLE,RIGHT ~,LEFT ANGER ~,RIGHT ~,MOOD BUBBLE,LIGHTNING MOOD BUBBLE,1MOOD,BALLOT BOX WITH BALLOT
1SCRIPT X,1BOX WITH SCRIPT X,1BOLD SCRIPT X,1BOX WITH BOLD SCRIPT X,LIGHT CHECK MARK,BALLOT BOX WITH BOLD CHECK
WORLD MAP,MOUNT FUJI,TOKYO TOWER,STATUE OF LIBERTY,SILHOUETTE OF JAPAN,MOYAI,GRINNING FACE,1FACE WITH SMILING EYES
FACE WITH TEARS OF JOY,SMILING FACE WITH OPEN MOUTH,4MOUTH AND SMILING EYES,6COLD SWEAT,6TIGHTLY-CLOSED EYES,3HALO
3HORNS,WINKING FACE,SMILING FACE WITH SMILING EYES,FACE SAVOURING DELICIOUS FOOD,RELIEVED FACE
SMILING FACE WITH HEART-SHAPED EYES,3SUNGLASSES,SMIRKING FACE,NEUTRAL ~,EXPRESSIONLESS ~,UNAMUSED ~
FACE WITH COLD SWEAT,PENSIVE FACE,CONFUSED ~,CONFOUNDED ~,KISSING ~,FACE THROWING A KISS
KISSING FACE WITH SMILING EYES,3CLOSED ~,FACE WITH STUCK-OUT TONGUE,4TONGUE AND WINKING EYE,6TIGHTLY-CLOSED EYES
DISAPPOINTED FACE,WORRIED ~,ANGRY ~,POUTING ~,CRYING ~,PERSEVERING ~,FACE WITH LOOK OF TRIUMPH
DISAPPOINTED BUT RELIEVED FACE,FROWNING FACE WITH OPEN MOUTH,ANGUISHED FACE,FEARFUL ~,WEARY ~,SLEEPY ~,TIRED ~
GRIMACING ~,LOUDLY CRYING FACE,FACE WITH OPEN MOUTH,HUSHED FACE,FACE WITH OPEN MOUTH AND COLD SWEAT,1SCREAMING IN FEAR
ASTONISHED FACE,FLUSHED ~,SLEEPING ~,DIZZY ~,FACE WITHOUT MOUTH,1WITH MEDICAL MASK,GRINNING CAT FACE WITH SMILING EYES
CAT FACE WITH TEARS OF JOY,SMILING CAT FACE WITH OPEN MOUTH,4HEART-SHAPED EYES,CAT FACE WITH WRY SMILE
KISSING CAT FACE WITH CLOSED EYES,POUTING CAT FACE,CRYING ~,WEARY ~,SLIGHTLY FROWNING ~,1SMILING ~,UPSIDE-DOWN ~
FACE WITH ROLLING EYES,2NO GOOD GESTURE,2OK GESTURE,PERSON BOWING DEEPLY,SEE-NO-EVIL MONKEY,HEAR-~,SPEAK-~
HAPPY PERSON RAISING ONE HAND,PERSON RAISING BOTH HANDS IN CELEBRATION,1FROWNING,1WITH POUTING FACE,2FOLDED HANDS
NORTH WEST POINTING LEAF,SOUTH ~,NORTH EAST ~,SOUTH ~,TURNED NORTH WEST POINTING LEAF,1SOUTH ~,1NORTH EAST ~,1SOUTH ~
NORTH WEST POINTING VINE ~,SOUTH ~,NORTH EAST ~,SOUTH ~,HEAVY NORTH WEST POINTING VINE LEAF,1SOUTH ~,1NORTH EAST ~
1SOUTH ~,NORTH WEST POINTING BUD,SOUTH ~,NORTH EAST ~,SOUTH ~,HEAVY NORTH WEST POINTING BUD,1SOUTH ~,1NORTH EAST ~
1SOUTH ~,HOLLOW QUILT SQUARE ORNAMENT,3ORNAMENT IN BLACK SQUARE,SOLID QUILT SQUARE ORNAMENT,3ORNAMENT IN BLACK SQUARE
LEFTWARDS ROCKET,UPWARDS ~,RIGHTWARDS ~,DOWNWARDS ~,SCRIPT LIGATURE ET ORNAMENT,HEAVY SCRIPT LIGATURE ET ORNAMENT
LIGATURE OPEN ET ORNAMENT,HEAVY LIGATURE OPEN ET ORNAMENT,1AMPERSAND ORNAMENT,SWASH ~
SANS-SERIF HEAVY DOUBLE TURNED COMMA QUOTATION MARK ORNAMENT,4COMMA QUOTATION MARK ORNAMENT
3LOW DOUBLE COMMA QUOTATION MARK ORNAMENT,HEAVY INTERROBANG ORNAMENT,SANS-SERIF INTERROBANG ORNAMENT
HEAVY SANS-SERIF INTERROBANG ORNAMENT,VERY HEAVY SOLIDUS,2REVERSE SOLIDUS,CHECKER BOARD,REVERSE CHECKER BOARD,ROCKET
HELICOPTER,STEAM LOCOMOTIVE,RAILWAY CAR,HIGH-SPEED TRAIN,2TRAIN WITH BULLET NOSE,TRAIN,METRO,LIGHT RAIL,STATION,TRAM
TRAM CAR,BUS,ONCOMING BUS,TROLLEYBUS,BUS STOP,MINIBUS,AMBULANCE,FIRE ENGINE,POLICE CAR,ONCOMING POLICE CAR,TAXI
ONCOMING TAXI,AUTOMOBILE,ONCOMING AUTOMOBILE,RECREATIONAL VEHICLE,DELIVERY TRUCK,ARTICULATED LORRY,TRACTOR,MONORAIL
MOUNTAIN RAILWAY,SUSPENSION ~,MOUNTAIN CABLEWAY,AERIAL TRAMWAY,SHIP,ROWBOAT,SPEEDBOAT,HORIZONTAL TRAFFIC LIGHT
VERTICAL ~,CONSTRUCTION SIGN,POLICE CARS REVOLVING LIGHT,TRIANGULAR FLAG ON POST,DOOR,NO ENTRY SIGN,SMOKING SYMBOL
NO SMOKING SYMBOL,PUT LITTER IN ITS PLACE SYMBOL,DO NOT LITTER SYMBOL,POTABLE WATER SYMBOL,NON-POTABLE WATER SYMBOL
BICYCLE,NO BICYCLES,BICYCLIST,MOUNTAIN BICYCLIST,PEDESTRIAN,NO PEDESTRIANS,CHILDREN CROSSING,MENS SYMBOL,WOMENS ~
RESTROOM,BABY SYMBOL,TOILET,WATER CLOSET,SHOWER,BATH,BATHTUB,PASSPORT CONTROL,CUSTOMS,BAGGAGE CLAIM,LEFT LUGGAGE
TRIANGLE WITH ROUNDED CORNERS,PROHIBITED SIGN,CIRCLED INFORMATION SOURCE,BOYS SYMBOL,GIRLS ~,COUCH AND LAMP
SLEEPING ACCOMMODATION,SHOPPING BAGS,BELLHOP BELL,BED,PLACE OF WORSHIP,OCTAGONAL SIGN,SHOPPING TROLLEY,STUPA,PAGODA
HINDU TEMPLE,HUT,ELEVATOR,@1F6DD,PLAYGROUND SLIDE,WHEEL,RING BUOY,HAMMER AND WRENCH,SHIELD,OIL DRUM,MOTORWAY
RAILWAY TRACK,MOTOR BOAT,UP-POINTING MILITARY AIRPLANE,2AIRPLANE,2SMALL AIRPLANE,SMALL AIRPLANE
NORTHEAST-POINTING AIRPLANE,AIRPLANE DEPARTURE,1ARRIVING,@1F6F0,SATELLITE,ONCOMING FIRE ENGINE,DIESEL LOCOMOTIVE
PASSENGER SHIP,SCOOTER,MOTOR SCOOTER,CANOE,SLED,FLYING SAUCER,SKATEBOARD,AUTO RICKSHAW,PICKUP TRUCK,ROLLER SKATE
@1F700,ALCHEMICAL SYMBOL FOR QUINTESSENCE,3AIR,3FIRE,3EARTH,3WATER,3AQUAFORTIS,3AQUA REGIA,4REGIA-2,4VITAE,4VITAE-2
3VINEGAR,3VINEGAR-2,+1,3SULFUR,3PHILOSOPHERS SULFUR,3BLACK ~,3MERCURY SUBLIMATE,4SUBLIMATE-2,+1,3CINNABAR,3SALT,3NITRE
3VITRIOL,3VITRIOL-2,3ROCK SALT,4SALT-2,3GOLD,3SILVER,3IRON ORE,4ORE-2,3CROCUS OF IRON,3REGULUS ~,3COPPER ORE
3IRON-COPPER ORE,3SUBLIMATE OF COPPER,3CROCUS ~,5COPPER-2,3COPPER ANTIMONIATE,3SALT OF COPPER ANTIMONIATE
3SUBLIMATE OF SALT OF COPPER,3VERDIGRIS,3TIN ORE,3LEAD ~,3ANTIMONY ~,3SUBLIMATE OF ANTIMONY,3SALT ~
3SUBLIMATE OF SALT OF ANTIMONY,3VINEGAR OF ANTIMONY,3REGULUS ~,5ANTIMONY-2,3REGULUS,3REGULUS-2,+2,3ALKALI,3ALKALI-2
3MARCASITE,3SAL-AMMONIAC,3ARSENIC,3REALGAR,3REALGAR-2,3AURIPIGMENT,3BISMUTH ORE,3TARTAR,3TARTAR-2,3QUICK LIME,3BORAX
3BORAX-2,+1,3ALUM,3OIL,3SPIRIT,3TINCTURE,3GUM,3WAX,3POWDER,3CALX,3TUTTY,3CAPUT MORTUUM,3SCEPTER OF JOVE,3CADUCEUS
3TRIDENT,3STARRED TRIDENT,3LODESTONE,3SOAP,3URINE,3HORSE DUNG,3ASHES,3POT ASHES,3BRICK,3POWDERED BRICK,3AMALGAM
3STRATUM SUPER STRATUM,5STRATUM-2,3SUBLIMATION,3PRECIPITATE,3DISTILL,3DISSOLVE,3DISSOLVE-2,3PURIFY,3PUTREFACTION
3CRUCIBLE,3CRUCIBLE-2,+3,3ALEMBIC,3BATH OF MARY,5VAPOURS,3RETORT,3HOUR,3NIGHT,3DAY-NIGHT,3MONTH,3HALF DRAM,4OUNCE
@1F780,BLACK LEFT-POINTING ISOSCELES RIGHT TRIANGLE,1UP-~,1RIGHT-~,1DOWN-~,1SLIGHTLY SMALL CIRCLE,MEDIUM BOLD WHITE ~
BOLD WHITE CIRCLE,HEAVY ~,VERY HEAVY WHITE CIRCLE,EXTREMELY ~,WHITE CIRCLE CONTAINING BLACK SMALL CIRCLE,ROUND TARGET
BLACK TINY SQUARE,1SLIGHTLY SMALL SQUARE,LIGHT WHITE SQUARE,MEDIUM ~,BOLD ~,HEAVY ~,VERY HEAVY WHITE SQUARE
EXTREMELY ~,WHITE SQUARE CONTAINING BLACK VERY SMALL SQUARE,4MEDIUM SQUARE,SQUARE TARGET,BLACK TINY DIAMOND
1VERY SMALL DIAMOND,1MEDIUM ~,WHITE DIAMOND CONTAINING BLACK VERY SMALL DIAMOND,4MEDIUM DIAMOND,DIAMOND TARGET
BLACK TINY LOZENGE,1VERY SMALL LOZENGE,1MEDIUM ~,WHITE LOZENGE CONTAINING BLACK SMALL LOZENGE,THIN GREEK CROSS,LIGHT ~
MEDIUM ~,BOLD ~,VERY BOLD GREEK CROSS,1HEAVY ~,EXTREMELY ~,THIN SALTIRE,LIGHT ~,MEDIUM ~,BOLD ~,HEAVY ~
VERY HEAVY SALTIRE,EXTREMELY ~,LIGHT FIVE SPOKED ASTERISK,MEDIUM ~,BOLD ~,HEAVY ~,VERY HEAVY FIVE SPOKED ASTERISK
EXTREMELY ~,LIGHT SIX SPOKED ASTERISK,MEDIUM ~,BOLD ~,HEAVY ~,VERY HEAVY SIX SPOKED ASTERISK,EXTREMELY ~
LIGHT EIGHT SPOKED ASTERISK,MEDIUM ~,BOLD ~,HEAVY ~,VERY HEAVY EIGHT SPOKED ASTERISK,LIGHT THREE POINTED BLACK STAR
MEDIUM ~,THREE POINTED BLACK STAR,MEDIUM THREE POINTED PINWHEEL STAR,LIGHT FOUR POINTED BLACK ~,MEDIUM ~
FOUR POINTED BLACK STAR,MEDIUM FOUR POINTED PINWHEEL STAR,REVERSE LIGHT FOUR POINTED PINWHEEL STAR
LIGHT FIVE POINTED BLACK STAR,HEAVY ~,MEDIUM SIX ~,HEAVY ~,SIX POINTED PINWHEEL STAR,MEDIUM EIGHT POINTED BLACK STAR
HEAVY ~,VERY HEAVY EIGHT POINTED BLACK STAR,HEAVY EIGHT POINTED PINWHEEL STAR,LIGHT TWELVE POINTED BLACK ~,HEAVY ~
3PINWHEEL ~,CIRCLED TRIANGLE,NEGATIVE CIRCLED TRIANGLE,CIRCLED SQUARE,NEGATIVE CIRCLED SQUARE,@1F7E0
LARGE ORANGE CIRCLE,1YELLOW ~,1GREEN ~,1PURPLE ~,1BROWN ~,1RED SQUARE,1BLUE ~,1ORANGE ~,1YELLOW ~,1GREEN ~,1PURPLE ~
1BROWN ~,@1F7F0,HEAVY EQUALS SIGN,@1F800,LEFTWARDS ARROW WITH SMALL TRIANGLE ARROWHEAD,UPWARDS ~,RIGHTWARDS ~
DOWNWARDS ~,LEFTWARDS ARROW WITH MEDIUM ~,UPWARDS ~,RIGHTWARDS ~,DOWNWARDS ~,LEFTWARDS ARROW WITH LARGE ~,UPWARDS ~
RIGHTWARDS ~,DOWNWARDS ~,@1F810,LEFTWARDS ARROW WITH SMALL EQUILATERAL ~,UPWARDS ~,RIGHTWARDS ~,DOWNWARDS ~
LEFTWARDS ARROW WITH EQUILATERAL ARROWHEAD,UPWARDS ~,RIGHTWARDS ~,DOWNWARDS ~
HEAVY LEFTWARDS ARROW WITH EQUILATERAL ARROWHEAD,1UPWARDS ~,1RIGHTWARDS ~,1DOWNWARDS ~
1LEFTWARDS ARROW WITH LARGE EQUILATERAL ARROWHEAD,1UPWARDS ~,1RIGHTWARDS ~,1DOWNWARDS ~
LEFTWARDS TRIANGLE-HEADED ARROW WITH NARROW SHAFT,UPWARDS ~,RIGHTWARDS ~,DOWNWARDS ~
LEFTWARDS TRIANGLE-HEADED ARROW WITH MEDIUM ~,UPWARDS ~,RIGHTWARDS ~,DOWNWARDS ~
LEFTWARDS TRIANGLE-HEADED ARROW WITH BOLD ~,UPWARDS ~,RIGHTWARDS ~,DOWNWARDS ~
LEFTWARDS TRIANGLE-HEADED ARROW WITH HEAVY ~,UPWARDS ~,RIGHTWARDS ~,DOWNWARDS ~
LEFTWARDS TRIANGLE-HEADED ARROW WITH VERY HEAVY SHAFT,UPWARDS ~,RIGHTWARDS ~,DOWNWARDS ~,LEFTWARDS FINGER-POST ARROW
UPWARDS ~,RIGHTWARDS ~,DOWNWARDS ~,LEFTWARDS SQUARED ARROW,UPWARDS ~,RIGHTWARDS ~,DOWNWARDS ~,LEFTWARDS COMPRESSED ~
UPWARDS ~,RIGHTWARDS ~,DOWNWARDS ~,LEFTWARDS HEAVY COMPRESSED ARROW,UPWARDS ~,RIGHTWARDS ~,DOWNWARDS ~
LEFTWARDS HEAVY ARROW,UPWARDS ~,RIGHTWARDS ~,DOWNWARDS ~,@1F850,LEFTWARDS SANS-SERIF ARROW,UPWARDS ~,RIGHTWARDS ~
DOWNWARDS ~,NORTH WEST SANS-SERIF ARROW,1EAST ~,SOUTH ~,1WEST ~,LEFT RIGHT ~,UP DOWN ~,@1F860
WIDE-HEADED LEFTWARDS LIGHT BARB ARROW,2UPWARDS ~,2RIGHTWARDS ~,2DOWNWARDS ~,2NORTH WEST LIGHT BARB ARROW,3EAST ~
2SOUTH ~,3WEST ~,2LEFTWARDS BARB ARROW,2UPWARDS ~,2RIGHTWARDS ~,2DOWNWARDS ~,2NORTH WEST BARB ARROW,3EAST ~,2SOUTH ~
3WEST ~,2LEFTWARDS MEDIUM ~,2UPWARDS ~,2RIGHTWARDS ~,2DOWNWARDS ~,2NORTH WEST MEDIUM BARB ARROW,3EAST ~,2SOUTH ~
3WEST ~,2LEFTWARDS HEAVY BARB ARROW,2UPWARDS ~,2RIGHTWARDS ~,2DOWNWARDS ~,2NORTH WEST HEAVY BARB ARROW,3EAST ~
2SOUTH ~,3WEST ~,2LEFTWARDS VERY ~,2UPWARDS ~,2RIGHTWARDS ~,2DOWNWARDS ~,2NORTH WEST VERY HEAVY BARB ARROW,3EAST ~
2SOUTH ~,3WEST ~,@1F890,LEFTWARDS TRIANGLE ARROWHEAD,UPWARDS ~,RIGHTWARDS ~,DOWNWARDS ~
LEFTWARDS WHITE ARROW WITHIN TRIANGLE ARROWHEAD,UPWARDS ~,RIGHTWARDS ~,DOWNWARDS ~,LEFTWARDS ARROW WITH NOTCHED TAIL
UPWARDS ~,RIGHTWARDS ~,DOWNWARDS ~,HEAVY ARROW SHAFT WIDTH ONE,4TWO THIRDS,4ONE HALF,5THIRD
LEFTWARDS BOTTOM-SHADED WHITE ARROW,RIGHTWARDS BOTTOM ~,LEFTWARDS TOP ~,RIGHTWARDS ~,LEFTWARDS LEFT-~
RIGHTWARDS RIGHT-~,LEFTWARDS ~,RIGHTWARDS LEFT-~,LEFTWARDS BACK-TILTED SHADOWED WHITE ARROW,RIGHTWARDS ~
LEFTWARDS FRONT-~,RIGHTWARDS ~,WHITE ARROW SHAFT WIDTH ONE,4TWO THIRDS,@1F8B0,ARROW POINTING UPWARDS THEN NORTH WEST
2RIGHTWARDS THEN CURVING SOUTH WEST,@1F900,CIRCLED CROSS FORMEE WITH FOUR DOTS,4TWO ~,2FORMEE
LEFT HALF CIRCLE WITH FOUR DOTS,4THREE ~,4TWO ~,4DOT,2CIRCLE,DOWNWARD FACING HOOK,2NOTCHED HOOK,2HOOK WITH DOT
2NOTCHED HOOK WITH DOT,PINCHED FINGERS,WHITE HEART,BROWN ~,PINCHING HAND,ZIPPER-MOUTH FACE,MONEY-~
FACE WITH THERMOMETER,NERD FACE,THINKING ~,FACE WITH HEAD-BANDAGE,ROBOT FACE,HUGGING ~,SIGN OF THE HORNS,CALL ME HAND
RAISED BACK OF HAND,LEFT-FACING FIST,RIGHT-~,HANDSHAKE,HAND WITH INDEX AND MIDDLE FINGERS CROSSED,I LOVE YOU HAND SIGN
FACE WITH COWBOY HAT,CLOWN FACE,NAUSEATED ~,ROLLING ON THE FLOOR LAUGHING,DROOLING FACE,LYING ~,FACE PALM
SNEEZING FACE,FACE WITH ONE EYEBROW RAISED,GRINNING FACE WITH STAR EYES,3ONE LARGE AND ONE SMALL EYE
FACE WITH FINGER COVERING CLOSED LIPS,SERIOUS FACE WITH SYMBOLS COVERING MOUTH
SMILING FACE WITH SMILING EYES AND HAND COVERING MOUTH,FACE WITH OPEN MOUTH VOMITING,SHOCKED FACE WITH EXPLODING HEAD
PREGNANT WOMAN,BREAST-FEEDING,PALMS UP TOGETHER,SELFIE,PRINCE,MAN IN TUXEDO,MOTHER CHRISTMAS,SHRUG
PERSON DOING CARTWHEEL,JUGGLING,FENCER,MODERN PENTATHLON,WRESTLERS,WATER POLO,HANDBALL,DIVING MASK,WILTED FLOWER
DRUM WITH DRUMSTICKS,CLINKING GLASSES,TUMBLER GLASS,SPOON,GOAL NET,RIFLE,FIRST PLACE MEDAL,SECOND ~,THIRD ~
BOXING GLOVE,MARTIAL ARTS UNIFORM,CURLING STONE,LACROSSE STICK AND BALL,SOFTBALL,FLYING DISC,CROISSANT,AVOCADO
CUCUMBER,BACON,POTATO,CARROT,BAGUETTE BREAD,GREEN SALAD,SHALLOW PAN OF FOOD,STUFFED FLATBREAD,EGG,GLASS OF MILK
PEANUTS,KIWIFRUIT,PANCAKES,DUMPLING,FORTUNE COOKIE,TAKEOUT BOX,CHOPSTICKS,BOWL WITH SPOON,CUP WITH STRAW,COCONUT
BROCCOLI,PIE,PRETZEL,CUT OF MEAT,SANDWICH,CANNED FOOD,LEAFY GREEN,MANGO,MOON CAKE,BAGEL
SMILING FACE WITH SMILING EYES AND THREE HEARTS,YAWNING FACE,SMILING FACE WITH TEAR,FACE WITH PARTY HORN AND PARTY HAT
2UNEVEN EYES AND WAVY MOUTH,OVERHEATED FACE,FREEZING ~,NINJA,DISGUISED FACE,FACE HOLDING BACK TEARS
1WITH PLEADING EYES,SARI,LAB COAT,GOGGLES,HIKING BOOT,FLAT SHOE,CRAB,LION FACE,SCORPION,TURKEY,UNICORN FACE,EAGLE,DUCK
BAT,SHARK,OWL,FOX FACE,BUTTERFLY,DEER,GORILLA,LIZARD,RHINOCEROS,SHRIMP,SQUID,GIRAFFE FACE,ZEBRA ~,HEDGEHOG,SAUROPOD
T-REX,CRICKET,KANGAROO,LLAMA,PEACOCK,HIPPOPOTAMUS,PARROT,RACCOON,LOBSTER,MOSQUITO,MICROBE,BADGER,SWAN,MAMMOTH,DODO
SLOTH,OTTER,ORANGUTAN,SKUNK,FLAMINGO,OYSTER,BEAVER,BISON,SEAL,GUIDE DOG,PROBING CANE,EMOJI COMPONENT RED HAIR,2CURLY ~
2BALD,2WHITE HAIR,BONE,LEG,FOOT,TOOTH,SUPERHERO,SUPERVILLAIN,SAFETY VEST,EAR WITH HEARING AID,MOTORIZED WHEELCHAIR
MANUAL ~,MECHANICAL ARM,1LEG,CHEESE WEDGE,CUPCAKE,SALT SHAKER,BEVERAGE BOX,GARLIC,ONION,FALAFEL,WAFFLE,BUTTER
MATE DRINK,ICE CUBE,BUBBLE TEA,TROLL,STANDING PERSON,KNEELING ~,DEAF ~,FACE WITH MONOCLE,ADULT,CHILD,OLDER ADULT
BEARDED PERSON,PERSON WITH HEADSCARF,1IN STEAMY ROOM,1CLIMBING,1IN LOTUS POSITION,MAGE,FAIRY,VAMPIRE,MERPERSON,ELF
GENIE,ZOMBIE,BRAIN,ORANGE HEART,BILLED CAP,SCARF,GLOVES,COAT,SOCKS,RED GIFT ENVELOPE,FIRECRACKER,JIGSAW PUZZLE PIECE
TEST TUBE,PETRI DISH,DNA DOUBLE HELIX,COMPASS,ABACUS,FIRE EXTINGUISHER,TOOLBOX,BRICK,MAGNET,LUGGAGE,LOTION BOTTLE
SPOOL OF THREAD,BALL OF YARN,SAFETY PIN,TEDDY BEAR,BROOM,BASKET,ROLL OF PAPER,BAR OF SOAP,SPONGE,RECEIPT,NAZAR AMULET
NEUTRAL CHESS KING,2QUEEN,2ROOK,2BISHOP,2KNIGHT,2PAWN,WHITE CHESS KNIGHT ROTATED FORTY-FIVE DEGREES,BLACK ~,NEUTRAL ~
WHITE CHESS KING ROTATED NINETY DEGREES,2QUEEN ~,2ROOK ~,2BISHOP ~,2KNIGHT ~,2PAWN ~,BLACK CHESS KING ~,2QUEEN ~
2ROOK ~,2BISHOP ~,2KNIGHT ~,2PAWN ~,NEUTRAL CHESS KING ~,2QUEEN ~,2ROOK ~,2BISHOP ~,2KNIGHT ~,2PAWN ~
WHITE CHESS KNIGHT ROTATED ONE HUNDRED THIRTY-FIVE DEGREES,BLACK ~,NEUTRAL ~,WHITE CHESS TURNED KING,3QUEEN,3ROOK
3BISHOP,3KNIGHT,3PAWN,BLACK CHESS TURNED KING,3QUEEN,3ROOK,3BISHOP,3KNIGHT,3PAWN,NEUTRAL CHESS TURNED KING,3QUEEN
3ROOK,3BISHOP,3KNIGHT,3PAWN,WHITE CHESS KNIGHT ROTATED TWO HUNDRED TWENTY-FIVE DEGREES,BLACK ~,NEUTRAL ~
WHITE CHESS KING ROTATED TWO HUNDRED SEVENTY DEGREES,2QUEEN ~,2ROOK ~,2BISHOP ~,2KNIGHT ~,2PAWN ~,BLACK CHESS KING ~
2QUEEN ~,2ROOK ~,2BISHOP ~,2KNIGHT ~,2PAWN ~,NEUTRAL CHESS KING ~,2QUEEN ~,2ROOK ~,2BISHOP ~,2KNIGHT ~,2PAWN ~
WHITE CHESS KNIGHT ROTATED THREE HUNDRED FIFTEEN ~,BLACK ~,NEUTRAL ~,WHITE CHESS EQUIHOPPER,BLACK ~,NEUTRAL ~
WHITE CHESS EQUIHOPPER ROTATED NINETY DEGREES,BLACK ~,NEUTRAL ~,WHITE CHESS KNIGHT-QUEEN,3ROOK,3BISHOP
BLACK CHESS KNIGHT-QUEEN,3ROOK,3BISHOP,@1FA60,XIANGQI RED GENERAL,2MANDARIN,2ELEPHANT,2HORSE,2CHARIOT,2CANNON,2SOLDIER
1BLACK GENERAL,2MANDARIN,2ELEPHANT,2HORSE,2CHARIOT,2CANNON,2SOLDIER,@1FA70,BALLET SHOES,ONE-PIECE SWIMSUIT,BRIEFS
SHORTS,THONG SANDAL,@1FA78,DROP OF BLOOD,ADHESIVE BANDAGE,STETHOSCOPE,X-RAY,CRUTCH,@1FA80,YO-YO,KITE,PARACHUTE
BOOMERANG,MAGIC WAND,PINATA,NESTING DOLLS,@1FA90,RINGED PLANET,CHAIR,RAZOR,AXE,DIYA LAMP,BANJO,MILITARY HELMET
ACCORDION,LONG DRUM,COIN,CARPENTRY SAW,SCREWDRIVER,LADDER,HOOK,MIRROR,WINDOW,PLUNGER,SEWING NEEDLE,KNOT,BUCKET
MOUSE TRAP,TOOTHBRUSH,HEADSTONE,PLACARD,ROCK,MIRROR BALL,IDENTIFICATION CARD,LOW BATTERY,HAMSA,@1FAB0,FLY,WORM,BEETLE
COCKROACH,POTTED PLANT,WOOD,FEATHER,LOTUS,CORAL,EMPTY NEST,NEST WITH EGGS,@1FAC0,ANATOMICAL HEART,LUNGS,PEOPLE HUGGING
PREGNANT MAN,1PERSON,PERSON WITH CROWN,@1FAD0,BLUEBERRIES,BELL PEPPER,OLIVE,FLATBREAD,TAMALE,FONDUE,TEAPOT
POURING LIQUID,BEANS,JAR,@1FAE0,MELTING FACE,SALUTING ~,FACE WITH OPEN EYES AND HAND OVER MOUTH,2PEEKING EYE
2DIAGONAL MOUTH,DOTTED LINE FACE,BITING LIP,BUBBLES,@1FAF0,HAND WITH INDEX FINGER AND THUMB CROSSED,RIGHTWARDS HAND
LEFTWARDS ~,PALM DOWN HAND,1UP ~,INDEX POINTING AT THE VIEWER,HEART HANDS,@1FB00,BLOCK SEXTANT-1,+1,212,23,213,223
2123,24,214,224,2124,234,2134,2234,21234,25,215,225,2125,235,2235,21235,245,2145,2245,21245,2345,21345,22345,212345,26
216,226,2126,236,2136,2236,21236,246,2146,21246,2346,21346,22346,212346,256,2156,2256,21256,2356,21356,22356,212356
2456,21456,22456,212456,23456,213456,223456,LOWER LEFT BLOCK DIAGONAL LOWER MIDDLE LEFT TO LOWER CENTRE,9RIGHT
4UPPER MIDDLE LEFT TO LOWER CENTRE,9RIGHT,5LEFT TO LOWER CENTRE
1RIGHT BLOCK DIAGONAL UPPER MIDDLE LEFT TO UPPER CENTRE,9RIGHT,4LOWER MIDDLE LEFT TO UPPER CENTRE,9RIGHT
5LEFT TO UPPER CENTRE,5MIDDLE LEFT TO UPPER MIDDLE RIGHT,5CENTRE TO LOWER MIDDLE RIGHT,5LEFT ~,5CENTRE TO UPPER ~
5LEFT ~,5CENTRE TO UPPER RIGHT,1LEFT BLOCK DIAGONAL UPPER CENTRE TO UPPER MIDDLE RIGHT,5LEFT ~,5CENTRE TO LOWER ~
5LEFT ~,5CENTRE TO LOWER RIGHT,5MIDDLE LEFT TO LOWER MIDDLE RIGHT
UPPER RIGHT BLOCK DIAGONAL LOWER MIDDLE LEFT TO LOWER CENTRE,9RIGHT,4UPPER MIDDLE LEFT TO LOWER CENTRE,9RIGHT
5LEFT TO LOWER CENTRE,1LEFT BLOCK DIAGONAL UPPER MIDDLE LEFT TO UPPER CENTRE,9RIGHT,4LOWER MIDDLE LEFT TO UPPER CENTRE
9RIGHT,5LEFT TO UPPER CENTRE,5MIDDLE LEFT TO UPPER MIDDLE RIGHT,5CENTRE TO LOWER MIDDLE RIGHT,5LEFT ~
5CENTRE TO UPPER ~,5LEFT ~,5CENTRE TO UPPER RIGHT,1RIGHT BLOCK DIAGONAL UPPER CENTRE TO UPPER MIDDLE RIGHT,5LEFT ~
5CENTRE TO LOWER ~,5LEFT ~,5CENTRE TO LOWER RIGHT,5MIDDLE LEFT TO LOWER MIDDLE RIGHT
1AND RIGHT AND LOWER TRIANGULAR THREE QUARTERS BLOCK,LEFT AND LOWER AND RIGHT ~,UPPER AND LEFT AND LOWER ~
LEFT AND UPPER AND RIGHT ~,1TRIANGULAR ONE QUARTER BLOCK,UPPER ~,RIGHT ~,LOWER ~,VERTICAL ONE EIGHTH BLOCK-2,+5
HORIZONTAL ONE EIGHTH BLOCK-2,+5,LEFT AND LOWER ONE EIGHTH BLOCK,2UPPER ~,RIGHT ~,2LOWER ~,UPPER ~
HORIZONTAL ONE EIGHTH BLOCK-1358,UPPER ONE QUARTER BLOCK,1THREE EIGHTHS ~,1FIVE ~,1THREE QUARTERS ~,1SEVEN EIGHTHS ~
RIGHT ONE QUARTER ~,1THREE EIGHTHS ~,1FIVE ~,1THREE QUARTERS ~,1SEVEN EIGHTHS ~,LEFT HALF MEDIUM SHADE,RIGHT ~,UPPER ~
LOWER ~,INVERSE MEDIUM SHADE,UPPER HALF BLOCK AND LOWER HALF INVERSE MEDIUM SHADE
2INVERSE MEDIUM SHADE AND LOWER HALF BLOCK,@1FB94,LEFT HALF INVERSE MEDIUM SHADE AND RIGHT ~,CHECKER BOARD FILL
INVERSE CHECKER BOARD FILL,HEAVY HORIZONTAL FILL,UPPER LEFT TO LOWER RIGHT FILL,1RIGHT TO LOWER LEFT ~
1AND LOWER TRIANGULAR HALF BLOCK,LEFT AND RIGHT ~,UPPER LEFT TRIANGULAR MEDIUM SHADE,1RIGHT ~,LOWER ~,1LEFT ~
BOX DRAWINGS LIGHT DIAGONAL UPPER CENTRE TO MIDDLE LEFT,8RIGHT,4MIDDLE LEFT TO LOWER CENTRE,5RIGHT ~
4UPPER CENTRE TO MIDDLE LEFT TO LOWER CENTRE,8RIGHT ~,4MIDDLE LEFT TO LOWER CENTRE TO MIDDLE RIGHT,7UPPER ~
4UPPER CENTRE TO MIDDLE LEFT AND MIDDLE RIGHT TO LOWER CENTRE,8RIGHT AND MIDDLE LEFT ~,9TO LOWER CENTRE TO MIDDLE LEFT
8LEFT TO LOWER CENTRE TO MIDDLE RIGHT,4MIDDLE LEFT TO UPPER CENTRE TO MIDDLE RIGHT TO LOWER CENTRE
5RIGHT TO UPPER CENTRE TO MIDDLE LEFT ~,4DIAMOND,3HORIZONTAL WITH VERTICAL STROKE,ARROWHEAD-SHAPED POINTER
INVERSE CHECK MARK,LEFT HALF RUNNING MAN,RIGHT ~,INVERSE DOWNWARDS ARROW WITH TIP LEFTWARDS
LEFTWARDS ARROW AND UPPER AND LOWER ONE EIGHTH BLOCK,RIGHTWARDS ~,DOWNWARDS ARROW AND RIGHT ONE EIGHTH BLOCK,UPWARDS ~
LEFT HALF FOLDER,RIGHT ~,VOIDED GREEK CROSS,RIGHT OPEN SQUARED DOT,NEGATIVE DIAGONAL CROSS
2MIDDLE RIGHT TO LOWER CENTRE,2DIAMOND,WHITE HEAVY SALTIRE WITH ROUNDED CORNERS,LEFT THIRD WHITE RIGHT POINTING INDEX
MIDDLE ~,RIGHT ~,NEGATIVE SQUARED QUESTION MARK,STICK FIGURE,1FIGURE WITH ARMS RAISED,2LEANING LEFT,3RIGHT,2WITH DRESS
WHITE UP-POINTING CHEVRON,@1FBF0,SEGMENTED DIGIT ZERO,2ONE,2TWO,2THREE,2FOUR,2FIVE,2SIX,2SEVEN,2EIGHT,2NINE,@E0001
LANGUAGE TAG,@E0020,TAG SPACE,1EXCLAMATION MARK,1QUOTATION ~,1NUMBER SIGN,1DOLLAR ~,1PERCENT ~,1AMPERSAND,1APOSTROPHE
1LEFT PARENTHESIS,1RIGHT ~,1ASTERISK,1PLUS SIGN,1COMMA,1HYPHEN-MINUS,1FULL STOP,1SOLIDUS,1DIGIT ZERO,2ONE,2TWO,2THREE
2FOUR,2FIVE,2SIX,2SEVEN,2EIGHT,2NINE,1COLON,1SEMICOLON,1LESS-THAN SIGN,1EQUALS SIGN,1GREATER-THAN SIGN,1QUESTION MARK
1COMMERCIAL AT,1LATIN CAPITAL LETTER A,+25,1LEFT SQUARE BRACKET,1REVERSE SOLIDUS,1RIGHT SQUARE BRACKET
1CIRCUMFLEX ACCENT,1LOW LINE,1GRAVE ACCENT,1LATIN SMALL LETTER A,+25,1LEFT CURLY BRACKET,1VERTICAL LINE
1RIGHT CURLY BRACKET,1TILDE,CANCEL TAG,@E0100,VARIATION SELECTOR-17,+82,2100,+156"

end CodeAtlas.Text.Name
