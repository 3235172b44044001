/-!
# Names of characters from U+2000 on

Punctuation, arrows, mathematical signs, drawings and other symbols. The form of the table is described with `Name.decode`.
-/

namespace CodeAtlas.Text.Name

/-- The names of these characters. -/
def symbols : String := "
@2000,EN QUAD,EM ~,EN SPACE,EM ~,THREE-PER-EM SPACE,FOUR-~,SIX-~,FIGURE SPACE,PUNCTUATION ~,THIN ~,HAIR ~
ZERO WIDTH SPACE,2NON-JOINER,2JOINER,LEFT-TO-RIGHT MARK,RIGHT-TO-LEFT ~,HYPHEN,NON-BREAKING HYPHEN,FIGURE DASH,EN ~
EM ~,HORIZONTAL BAR,DOUBLE VERTICAL LINE,1LOW ~,LEFT SINGLE QUOTATION MARK,RIGHT ~,SINGLE LOW-9 QUOTATION MARK
1HIGH-REVERSED-9 QUOTATION MARK,LEFT DOUBLE QUOTATION MARK,RIGHT ~,DOUBLE LOW-9 QUOTATION MARK
1HIGH-REVERSED-9 QUOTATION MARK,DAGGER,DOUBLE DAGGER,BULLET,TRIANGULAR BULLET,ONE DOT LEADER,TWO ~,HORIZONTAL ELLIPSIS
HYPHENATION POINT,LINE SEPARATOR,PARAGRAPH ~,LEFT-TO-RIGHT EMBEDDING,RIGHT-TO-LEFT ~,POP DIRECTIONAL FORMATTING
LEFT-TO-RIGHT OVERRIDE,RIGHT-TO-LEFT ~,NARROW NO-BREAK SPACE,PER MILLE SIGN,1TEN THOUSAND SIGN,PRIME,DOUBLE PRIME
TRIPLE ~,REVERSED ~,1DOUBLE PRIME,1TRIPLE ~,CARET,SINGLE LEFT-POINTING ANGLE QUOTATION MARK,1RIGHT-~,REFERENCE MARK
DOUBLE EXCLAMATION MARK,INTERROBANG,OVERLINE,UNDERTIE,CHARACTER TIE,CARET INSERTION POINT,ASTERISM,HYPHEN BULLET
FRACTION SLASH,LEFT SQUARE BRACKET WITH QUILL,RIGHT ~,DOUBLE QUESTION MARK,QUESTION EXCLAMATION ~
EXCLAMATION QUESTION ~,TIRONIAN SIGN ET,REVERSED PILCROW SIGN,BLACK LEFTWARDS BULLET,1RIGHTWARDS ~,LOW ASTERISK
REVERSED SEMICOLON,CLOSE UP,TWO ASTERISKS ALIGNED VERTICALLY,COMMERCIAL MINUS SIGN,SWUNG DASH,INVERTED UNDERTIE
FLOWER PUNCTUATION MARK,THREE DOT PUNCTUATION,QUADRUPLE PRIME,FOUR DOT PUNCTUATION,FIVE ~,TWO ~,FOUR DOT MARK
DOTTED CROSS,TRICOLON,VERTICAL FOUR DOTS,MEDIUM MATHEMATICAL SPACE,WORD JOINER,FUNCTION APPLICATION,INVISIBLE TIMES
1SEPARATOR,1PLUS,@2066,LEFT-TO-RIGHT ISOLATE,RIGHT-TO-LEFT ~,FIRST STRONG ISOLATE,POP DIRECTIONAL ~
INHIBIT SYMMETRIC SWAPPING,ACTIVATE ~,INHIBIT ARABIC FORM SHAPING,ACTIVATE ~,NATIONAL DIGIT SHAPES,NOMINAL ~
SUPERSCRIPT ZERO,1LATIN SMALL LETTER I,@2074,1FOUR,1FIVE,1SIX,1SEVEN,1EIGHT,1NINE,1PLUS SIGN,1MINUS,1EQUALS SIGN
1LEFT PARENTHESIS,1RIGHT ~,1LATIN SMALL LETTER N,SUBSCRIPT ZERO,1ONE,1TWO,1THREE,1FOUR,1FIVE,1SIX,1SEVEN,1EIGHT,1NINE
1PLUS SIGN,1MINUS,1EQUALS SIGN,1LEFT PARENTHESIS,1RIGHT ~,@2090,LATIN SUBSCRIPT SMALL LETTER A,4E,4O,4X,4SCHWA,4H,4K
+3,4P,4S,+1,@20A0,EURO-CURRENCY SIGN,COLON SIGN,CRUZEIRO ~,FRENCH FRANC SIGN,LIRA SIGN,MILL ~,NAIRA ~,PESETA ~,RUPEE ~
WON ~,NEW SHEQEL SIGN,DONG SIGN,EURO ~,KIP ~,TUGRIK ~,DRACHMA ~,GERMAN PENNY SIGN,PESO SIGN,GUARANI ~,AUSTRAL ~
HRYVNIA ~,CEDI ~,LIVRE TOURNOIS SIGN,SPESMILO SIGN,TENGE ~,INDIAN RUPEE SIGN,TURKISH LIRA ~,NORDIC MARK ~,MANAT SIGN
RUBLE ~,LARI ~,BITCOIN ~,SOM ~,@20D0,COMBINING LEFT HARPOON ABOVE,1RIGHT ~,1LONG VERTICAL LINE OVERLAY,1SHORT ~
1ANTICLOCKWISE ARROW ABOVE,1CLOCKWISE ~,1LEFT ~,1RIGHT ~,1RING OVERLAY,1CLOCKWISE RING OVERLAY,1ANTICLOCKWISE ~
1THREE DOTS ABOVE,1FOUR ~,1ENCLOSING CIRCLE,2SQUARE,2DIAMOND,2CIRCLE BACKSLASH,1LEFT RIGHT ARROW ABOVE
1ENCLOSING SCREEN,2KEYCAP,2UPWARD POINTING TRIANGLE,1REVERSE SOLIDUS OVERLAY,1DOUBLE VERTICAL STROKE OVERLAY
1ANNUITY SYMBOL,1TRIPLE UNDERDOT,1WIDE BRIDGE ABOVE,1LEFTWARDS ARROW OVERLAY,1LONG DOUBLE SOLIDUS OVERLAY
1RIGHTWARDS HARPOON WITH BARB DOWNWARDS,1LEFTWARDS ~,1LEFT ARROW BELOW,1RIGHT ~,1ASTERISK ABOVE,@2100,ACCOUNT OF
ADDRESSED TO THE SUBJECT,DOUBLE-STRUCK CAPITAL C,DEGREE CELSIUS,CENTRE LINE SYMBOL,CARE OF,CADA UNA,EULER CONSTANT
SCRUPLE,DEGREE FAHRENHEIT,SCRIPT SMALL G,1CAPITAL H,BLACK-LETTER CAPITAL H,DOUBLE-STRUCK ~,PLANCK CONSTANT
1CONSTANT OVER TWO PI,SCRIPT CAPITAL I,BLACK-LETTER CAPITAL I,SCRIPT CAPITAL L,1SMALL L,L B BAR SYMBOL
DOUBLE-STRUCK CAPITAL N,NUMERO SIGN,SOUND RECORDING COPYRIGHT,SCRIPT CAPITAL P,DOUBLE-STRUCK CAPITAL P,+1
SCRIPT CAPITAL R,BLACK-LETTER CAPITAL R,DOUBLE-STRUCK ~,PRESCRIPTION TAKE,RESPONSE,SERVICE MARK,TELEPHONE SIGN
TRADE MARK SIGN,VERSICLE,DOUBLE-STRUCK CAPITAL Z,OUNCE SIGN,OHM ~,INVERTED OHM SIGN,BLACK-LETTER CAPITAL Z
TURNED GREEK SMALL LETTER IOTA,KELVIN SIGN,ANGSTROM ~,SCRIPT CAPITAL B,BLACK-LETTER CAPITAL C,ESTIMATED SYMBOL
SCRIPT SMALL E,1CAPITAL E,+1,TURNED ~,SCRIPT CAPITAL M,1SMALL O,ALEF SYMBOL,BET ~,GIMEL ~,DALET ~,INFORMATION SOURCE
ROTATED CAPITAL Q,FACSIMILE SIGN,DOUBLE-STRUCK SMALL PI,3GAMMA,2CAPITAL ~,3PI,2N-ARY SUMMATION
TURNED SANS-SERIF CAPITAL G,4L,REVERSED ~,TURNED SANS-SERIF CAPITAL Y,DOUBLE-STRUCK ITALIC CAPITAL D,3SMALL D,+1,4I,+1
PROPERTY LINE,TURNED AMPERSAND,PER SIGN,AKTIESELSKAB,TURNED SMALL F,SYMBOL FOR SAMARITAN SOURCE
VULGAR FRACTION ONE SEVENTH,3NINTH,3TENTH,3THIRD,2TWO THIRDS,2ONE FIFTH,2TWO FIFTHS,2THREE ~,2FOUR ~,2ONE SIXTH
2FIVE SIXTHS,2ONE EIGHTH,2THREE EIGHTHS,2FIVE ~,2SEVEN ~,FRACTION NUMERATOR ONE,ROMAN NUMERAL ~,2TWO,2THREE,2FOUR
2FIVE,2SIX,2SEVEN,2EIGHT,2NINE,2TEN,2ELEVEN,2TWELVE,2FIFTY,2ONE HUNDRED,2FIVE ~,2ONE THOUSAND,SMALL ROMAN NUMERAL ONE
3TWO,3THREE,3FOUR,3FIVE,3SIX,3SEVEN,3EIGHT,3NINE,3TEN,3ELEVEN,3TWELVE,3FIFTY,3ONE HUNDRED,3FIVE ~,3ONE THOUSAND
ROMAN NUMERAL ONE THOUSAND C D,2FIVE THOUSAND,2TEN ~,2REVERSED ONE HUNDRED,LATIN SMALL LETTER REVERSED C
ROMAN NUMERAL SIX LATE FORM,2FIFTY EARLY ~,3THOUSAND,2ONE HUNDRED THOUSAND,VULGAR FRACTION ZERO THIRDS
TURNED DIGIT TWO,2THREE,@2190,LEFTWARDS ARROW,UPWARDS ~,RIGHTWARDS ~,DOWNWARDS ~,LEFT RIGHT ARROW,UP DOWN ~
NORTH WEST ~,1EAST ~,SOUTH ~,1WEST ~,LEFTWARDS ARROW WITH STROKE,RIGHTWARDS ~,LEFTWARDS WAVE ARROW,RIGHTWARDS ~
LEFTWARDS TWO HEADED ARROW,UPWARDS ~,RIGHTWARDS ~,DOWNWARDS ~,LEFTWARDS ARROW WITH TAIL,RIGHTWARDS ~
LEFTWARDS ARROW FROM BAR,UPWARDS ~,RIGHTWARDS ~,DOWNWARDS ~,UP DOWN ARROW WITH BASE,LEFTWARDS ARROW WITH HOOK
RIGHTWARDS ~,LEFTWARDS ARROW WITH LOOP,RIGHTWARDS ~,LEFT RIGHT WAVE ARROW,2ARROW WITH STROKE,DOWNWARDS ZIGZAG ARROW
UPWARDS ARROW WITH TIP LEFTWARDS,4RIGHTWARDS,DOWNWARDS ARROW WITH TIP LEFTWARDS,4RIGHTWARDS
RIGHTWARDS ARROW WITH CORNER DOWNWARDS,DOWNWARDS ARROW WITH CORNER LEFTWARDS,ANTICLOCKWISE TOP SEMICIRCLE ARROW
CLOCKWISE ~,NORTH WEST ARROW TO LONG BAR,LEFTWARDS ARROW TO BAR OVER RIGHTWARDS ARROW TO BAR
ANTICLOCKWISE OPEN CIRCLE ARROW,CLOCKWISE ~,LEFTWARDS HARPOON WITH BARB UPWARDS,4DOWNWARDS
UPWARDS HARPOON WITH BARB RIGHTWARDS,4LEFTWARDS,RIGHTWARDS HARPOON WITH BARB UPWARDS,4DOWNWARDS
DOWNWARDS HARPOON WITH BARB RIGHTWARDS,4LEFTWARDS,RIGHTWARDS ARROW OVER LEFTWARDS ARROW
UPWARDS ARROW LEFTWARDS OF DOWNWARDS ARROW,LEFTWARDS ARROW OVER RIGHTWARDS ARROW,1PAIRED ARROWS,UPWARDS ~,RIGHTWARDS ~
DOWNWARDS ~,LEFTWARDS HARPOON OVER RIGHTWARDS HARPOON,RIGHTWARDS HARPOON OVER LEFTWARDS ~
LEFTWARDS DOUBLE ARROW WITH STROKE,LEFT RIGHT DOUBLE ARROW WITH STROKE,RIGHTWARDS DOUBLE ARROW WITH STROKE
LEFTWARDS DOUBLE ARROW,UPWARDS ~,RIGHTWARDS ~,DOWNWARDS ~,LEFT RIGHT DOUBLE ARROW,UP DOWN ~,NORTH WEST ~,1EAST ~
SOUTH ~,1WEST ~,LEFTWARDS TRIPLE ARROW,RIGHTWARDS ~,LEFTWARDS SQUIGGLE ~,RIGHTWARDS ~,UPWARDS ARROW WITH DOUBLE STROKE
DOWNWARDS ~,LEFTWARDS DASHED ARROW,UPWARDS ~,RIGHTWARDS ~,DOWNWARDS ~,LEFTWARDS ARROW TO BAR,RIGHTWARDS ~
LEFTWARDS WHITE ARROW,UPWARDS ~,RIGHTWARDS ~,DOWNWARDS ~,UPWARDS WHITE ARROW FROM BAR,3ON PEDESTAL
4PEDESTAL WITH HORIZONTAL BAR,6VERTICAL ~,2DOUBLE ARROW,3ARROW ON PEDESTAL,RIGHTWARDS WHITE ARROW FROM WALL
NORTH WEST ARROW TO CORNER,SOUTH EAST ~,UP DOWN WHITE ARROW,RIGHT ARROW WITH SMALL CIRCLE
DOWNWARDS ARROW LEFTWARDS OF UPWARDS ARROW,THREE RIGHTWARDS ARROWS,LEFTWARDS ARROW WITH VERTICAL STROKE,RIGHTWARDS ~
LEFT RIGHT ARROW WITH VERTICAL STROKE,LEFTWARDS ARROW WITH DOUBLE ~,RIGHTWARDS ~
LEFT RIGHT ARROW WITH DOUBLE VERTICAL STROKE,LEFTWARDS OPEN-HEADED ARROW,RIGHTWARDS ~,LEFT RIGHT OPEN-HEADED ARROW
FOR ALL,COMPLEMENT,PARTIAL DIFFERENTIAL,THERE EXISTS,1DOES NOT EXIST,EMPTY SET,INCREMENT,NABLA,ELEMENT OF
NOT AN ELEMENT OF,SMALL ELEMENT OF,CONTAINS AS MEMBER,DOES NOT CONTAIN AS MEMBER,SMALL CONTAINS AS MEMBER,END OF PROOF
N-ARY PRODUCT,2COPRODUCT,2SUMMATION,MINUS SIGN,MINUS-OR-PLUS SIGN,DOT PLUS,DIVISION SLASH,SET MINUS,ASTERISK OPERATOR
RING ~,BULLET ~,SQUARE ROOT,CUBE ~,FOURTH ~,PROPORTIONAL TO,INFINITY,RIGHT ANGLE,ANGLE,MEASURED ANGLE,SPHERICAL ~
DIVIDES,DOES NOT DIVIDE,PARALLEL TO,NOT PARALLEL TO,LOGICAL AND,1OR,INTERSECTION,UNION,INTEGRAL,DOUBLE INTEGRAL
TRIPLE ~,CONTOUR ~,SURFACE ~,VOLUME ~,CLOCKWISE ~,1CONTOUR INTEGRAL,ANTICLOCKWISE ~,THEREFORE,BECAUSE,RATIO,PROPORTION
DOT MINUS,EXCESS,GEOMETRIC PROPORTION,HOMOTHETIC,TILDE OPERATOR,REVERSED TILDE,INVERTED LAZY S,SINE WAVE
WREATH PRODUCT,NOT TILDE,MINUS ~,ASYMPTOTICALLY EQUAL TO,NOT ASYMPTOTICALLY EQUAL TO,APPROXIMATELY EQUAL TO
1BUT NOT ACTUALLY EQUAL TO,NEITHER APPROXIMATELY NOR ~,ALMOST EQUAL TO,NOT ALMOST EQUAL TO,ALMOST EQUAL OR EQUAL TO
TRIPLE TILDE,ALL EQUAL TO,EQUIVALENT TO,GEOMETRICALLY EQUIVALENT TO,DIFFERENCE BETWEEN,APPROACHES THE LIMIT
GEOMETRICALLY EQUAL TO,APPROXIMATELY EQUAL TO OR THE IMAGE OF,IMAGE OF OR APPROXIMATELY EQUAL TO,COLON EQUALS
EQUALS COLON,RING IN EQUAL TO,1EQUAL TO,CORRESPONDS TO,ESTIMATES,EQUIANGULAR TO,STAR EQUALS,DELTA EQUAL TO
EQUAL TO BY DEFINITION,MEASURED BY,QUESTIONED EQUAL TO,NOT ~,IDENTICAL TO,NOT IDENTICAL TO,STRICTLY EQUIVALENT ~
LESS-THAN OR EQUAL TO,GREATER-~,LESS-THAN OVER ~,GREATER-~,LESS-THAN BUT NOT EQUAL TO,GREATER-~,MUCH LESS-THAN
1GREATER-~,BETWEEN,NOT EQUIVALENT TO,1LESS-THAN,1GREATER-~,NEITHER LESS-THAN NOR EQUAL TO,1GREATER-~
LESS-THAN OR EQUIVALENT TO,GREATER-~,NEITHER LESS-THAN NOR EQUIVALENT TO,1GREATER-~,LESS-THAN OR GREATER-THAN
GREATER-THAN OR LESS-~,NEITHER LESS-THAN NOR GREATER-THAN,1GREATER-THAN NOR LESS-~,PRECEDES,SUCCEEDS
PRECEDES OR EQUAL TO,SUCCEEDS ~,PRECEDES OR EQUIVALENT ~,SUCCEEDS ~,DOES NOT PRECEDE,2SUCCEED,SUBSET OF,SUPERSET ~
NOT A SUBSET OF,2SUPERSET ~,SUBSET OF OR EQUAL TO,SUPERSET ~,NEITHER A SUBSET OF NOR EQUAL TO,2SUPERSET ~
SUBSET OF WITH NOT EQUAL TO,SUPERSET ~,MULTISET,MULTISET MULTIPLICATION,1UNION,SQUARE IMAGE OF,1ORIGINAL ~
1IMAGE OF OR EQUAL TO,1ORIGINAL ~,1CAP,1CUP,CIRCLED PLUS,1MINUS,1TIMES,1DIVISION SLASH,1DOT OPERATOR,1RING ~
1ASTERISK ~,1EQUALS,1DASH,SQUARED PLUS,1MINUS,1TIMES,1DOT OPERATOR,RIGHT TACK,LEFT ~,DOWN ~,UP ~,ASSERTION,MODELS,TRUE
FORCES,TRIPLE VERTICAL BAR RIGHT TURNSTILE,DOUBLE VERTICAL BAR DOUBLE RIGHT TURNSTILE,DOES NOT PROVE,NOT TRUE
DOES NOT FORCE,NEGATED DOUBLE VERTICAL BAR DOUBLE RIGHT TURNSTILE,PRECEDES UNDER RELATION,SUCCEEDS ~
NORMAL SUBGROUP OF,CONTAINS AS NORMAL SUBGROUP,NORMAL SUBGROUP OF OR EQUAL TO,CONTAINS AS NORMAL SUBGROUP OR EQUAL TO
ORIGINAL OF,IMAGE ~,MULTIMAP,HERMITIAN CONJUGATE MATRIX,INTERCALATE,XOR,NAND,NOR,RIGHT ANGLE WITH ARC,1TRIANGLE
N-ARY LOGICAL AND,3OR,2INTERSECTION,2UNION,DIAMOND OPERATOR,DOT ~,STAR ~,DIVISION TIMES,BOWTIE
LEFT NORMAL FACTOR SEMIDIRECT PRODUCT,RIGHT ~,LEFT SEMIDIRECT PRODUCT,RIGHT ~,REVERSED TILDE EQUALS,CURLY LOGICAL OR
2AND,DOUBLE SUBSET,1SUPERSET,1INTERSECTION,1UNION,PITCHFORK,EQUAL AND PARALLEL TO,LESS-THAN WITH DOT,GREATER-~
VERY MUCH LESS-THAN,2GREATER-~,LESS-THAN EQUAL TO OR GREATER-THAN,GREATER-THAN EQUAL TO OR LESS-~
EQUAL TO OR LESS-THAN,3GREATER-~,3PRECEDES,3SUCCEEDS,DOES NOT PRECEDE OR EQUAL,2SUCCEED ~
NOT SQUARE IMAGE OF OR EQUAL TO,2ORIGINAL ~,SQUARE IMAGE OF OR NOT ~,1ORIGINAL ~,LESS-THAN BUT NOT EQUIVALENT TO
GREATER-~,PRECEDES BUT NOT EQUIVALENT TO,SUCCEEDS ~,NOT NORMAL SUBGROUP OF,DOES NOT CONTAIN AS NORMAL SUBGROUP
NOT NORMAL SUBGROUP OF OR EQUAL TO,DOES NOT CONTAIN AS NORMAL SUBGROUP OR EQUAL,VERTICAL ELLIPSIS
MIDLINE HORIZONTAL ELLIPSIS,UP RIGHT DIAGONAL ELLIPSIS,DOWN ~,ELEMENT OF WITH LONG HORIZONTAL STROKE
3VERTICAL BAR AT END OF HORIZONTAL STROKE,SMALL ELEMENT OF WITH VERTICAL BAR AT END OF HORIZONTAL STROKE
ELEMENT OF WITH DOT ABOVE,3OVERBAR,SMALL ELEMENT OF WITH OVERBAR,ELEMENT OF WITH UNDERBAR,3TWO HORIZONTAL STROKES
CONTAINS WITH LONG HORIZONTAL STROKE,2VERTICAL BAR AT END OF HORIZONTAL STROKE
SMALL CONTAINS WITH VERTICAL BAR AT END OF HORIZONTAL STROKE,CONTAINS WITH OVERBAR,SMALL CONTAINS WITH OVERBAR
Z NOTATION BAG MEMBERSHIP,DIAMETER SIGN,ELECTRIC ARROW,HOUSE,UP ARROWHEAD,DOWN ~,PROJECTIVE,PERSPECTIVE,WAVY LINE
LEFT CEILING,RIGHT ~,LEFT FLOOR,RIGHT ~,BOTTOM RIGHT CROP,1LEFT ~,TOP RIGHT ~,1LEFT ~,REVERSED NOT SIGN,SQUARE LOZENGE
ARC,SEGMENT,SECTOR,TELEPHONE RECORDER,POSITION INDICATOR,VIEWDATA SQUARE,PLACE OF INTEREST SIGN,TURNED NOT SIGN,WATCH
HOURGLASS,TOP LEFT CORNER,1RIGHT ~,BOTTOM LEFT ~,1RIGHT ~,TOP HALF INTEGRAL,BOTTOM ~,FROWN,SMILE
UP ARROWHEAD BETWEEN TWO HORIZONTAL BARS,OPTION KEY,ERASE TO THE RIGHT,X IN A RECTANGLE BOX,KEYBOARD
LEFT-POINTING ANGLE BRACKET,RIGHT-~,ERASE TO THE LEFT,BENZENE RING,CYLINDRICITY,ALL AROUND-PROFILE,SYMMETRY
TOTAL RUNOUT,DIMENSION ORIGIN,CONICAL TAPER,SLOPE,COUNTERBORE,COUNTERSINK,APL FUNCTIONAL SYMBOL I-BEAM,3SQUISH QUAD
3QUAD EQUAL,4DIVIDE,4DIAMOND,4JOT,4CIRCLE,3CIRCLE STILE,4JOT,3SLASH BAR,3BACKSLASH ~,3QUAD SLASH,4BACKSLASH,4LESS-THAN
4GREATER-~,3LEFTWARDS VANE,3RIGHTWARDS ~,3QUAD LEFTWARDS ARROW,4RIGHTWARDS ~,3CIRCLE BACKSLASH,3DOWN TACK UNDERBAR
3DELTA STILE,3QUAD DOWN CARET,4DELTA,3DOWN TACK JOT,3UPWARDS VANE,3QUAD UPWARDS ARROW,3UP TACK OVERBAR,3DEL STILE
3QUAD UP CARET,4DEL,3UP TACK JOT,3DOWNWARDS VANE,3QUAD DOWNWARDS ARROW,3QUOTE UNDERBAR,3DELTA ~,3DIAMOND ~,3JOT ~
3CIRCLE ~,3UP SHOE JOT,3QUOTE QUAD,3CIRCLE STAR,3QUAD COLON,3UP TACK DIAERESIS,3DEL DIAERESIS,3STAR ~,3JOT ~,3CIRCLE ~
3DOWN SHOE STILE,3LEFT ~,3TILDE DIAERESIS,3GREATER-THAN DIAERESIS,3COMMA BAR,3DEL TILDE,3ZILDE,3STILE TILDE
3SEMICOLON UNDERBAR,3QUAD NOT EQUAL,4QUESTION,3DOWN CARET TILDE,3UP ~,3IOTA,3RHO,3OMEGA,3ALPHA UNDERBAR,3EPSILON ~
3IOTA ~,3OMEGA ~,3ALPHA,NOT CHECK MARK,RIGHT ANGLE WITH DOWNWARDS ZIGZAG ARROW,SHOULDERED OPEN BOX,BELL SYMBOL
VERTICAL LINE WITH MIDDLE DOT,INSERTION SYMBOL,CONTINUOUS UNDERLINE SYMBOL,DISCONTINUOUS ~,EMPHASIS SYMBOL
COMPOSITION ~,WHITE SQUARE WITH CENTRE VERTICAL LINE,ENTER SYMBOL,ALTERNATIVE KEY SYMBOL,HELM SYMBOL
CIRCLED HORIZONTAL BAR WITH NOTCH,1TRIANGLE DOWN,BROKEN CIRCLE WITH NORTHWEST ARROW,UNDO SYMBOL,MONOSTABLE ~
HYSTERESIS ~,OPEN-CIRCUIT-OUTPUT H-TYPE SYMBOL,3L-~,PASSIVE-PULL-DOWN-OUTPUT SYMBOL,2UP-~
DIRECT CURRENT SYMBOL FORM TWO,SOFTWARE-FUNCTION SYMBOL,APL FUNCTIONAL SYMBOL QUAD,DECIMAL SEPARATOR KEY SYMBOL
PREVIOUS PAGE,NEXT ~,PRINT SCREEN SYMBOL,CLEAR ~,LEFT PARENTHESIS UPPER HOOK,2EXTENSION,2LOWER HOOK
RIGHT PARENTHESIS UPPER ~,2EXTENSION,2LOWER HOOK,LEFT SQUARE BRACKET UPPER CORNER,3EXTENSION,3LOWER CORNER
RIGHT SQUARE BRACKET UPPER ~,3EXTENSION,3LOWER CORNER,LEFT CURLY BRACKET UPPER HOOK,3MIDDLE PIECE,3LOWER HOOK
CURLY BRACKET EXTENSION,RIGHT CURLY BRACKET UPPER HOOK,3MIDDLE PIECE,3LOWER HOOK,INTEGRAL EXTENSION
HORIZONTAL LINE EXTENSION,UPPER LEFT OR LOWER RIGHT CURLY BRACKET SECTION,1RIGHT OR LOWER LEFT ~,SUMMATION TOP,1BOTTOM
TOP SQUARE BRACKET,BOTTOM ~,2BRACKET OVER TOP SQUARE BRACKET,RADICAL SYMBOL BOTTOM,LEFT VERTICAL BOX LINE,RIGHT ~
HORIZONTAL SCAN LINE-1,33,37,39,DENTISTRY SYMBOL LIGHT VERTICAL AND TOP RIGHT,5BOTTOM ~,4WITH CIRCLE
3DOWN AND HORIZONTAL WITH CIRCLE,3UP ~,3VERTICAL WITH TRIANGLE,3DOWN AND HORIZONTAL WITH TRIANGLE,3UP ~
3VERTICAL AND WAVE,3DOWN AND HORIZONTAL WITH WAVE,3UP ~,3DOWN AND HORIZONTAL,3UP ~,3VERTICAL AND TOP LEFT,5BOTTOM ~
SQUARE FOOT,RETURN SYMBOL,EJECT ~,VERTICAL LINE EXTENSION,METRICAL BREVE,1LONG OVER SHORT,1SHORT OVER LONG
1LONG OVER TWO SHORTS,1TWO SHORTS OVER LONG,3JOINED,1TRISEME,1TETRASEME,1PENTASEME,EARTH GROUND,FUSE,TOP PARENTHESIS
BOTTOM ~,TOP CURLY BRACKET,BOTTOM ~,TOP TORTOISE SHELL BRACKET,BOTTOM ~,WHITE TRAPEZIUM,BENZENE RING WITH CIRCLE
STRAIGHTNESS,FLATNESS,AC CURRENT,ELECTRICAL INTERSECTION,DECIMAL EXPONENT SYMBOL,BLACK RIGHT-POINTING DOUBLE TRIANGLE
1LEFT-~,1UP-~,1DOWN-~,1RIGHT-POINTING DOUBLE TRIANGLE WITH VERTICAL BAR,1LEFT-~,1RIGHT-POINTING TRIANGLE WITH DOUBLE ~
ALARM CLOCK,STOPWATCH,TIMER CLOCK,HOURGLASS WITH FLOWING SAND,BLACK MEDIUM LEFT-POINTING TRIANGLE,2RIGHT-~,2UP-~
2DOWN-~,DOUBLE VERTICAL BAR,BLACK SQUARE FOR STOP,1CIRCLE FOR RECORD,POWER SYMBOL,1ON-OFF SYMBOL,1ON SYMBOL,1SLEEP ~
OBSERVER EYE ~,SYMBOL FOR NULL,2START OF HEADING,4TEXT,2END ~,4TRANSMISSION,2ENQUIRY,2ACKNOWLEDGE,2BELL,2BACKSPACE
2HORIZONTAL TABULATION,2LINE FEED,2VERTICAL TABULATION,2FORM FEED,2CARRIAGE RETURN,2SHIFT OUT,3IN,2DATA LINK ESCAPE
2DEVICE CONTROL ONE,4TWO,4THREE,4FOUR,2NEGATIVE ACKNOWLEDGE,2SYNCHRONOUS IDLE,2END OF TRANSMISSION BLOCK,2CANCEL
2END OF MEDIUM,2SUBSTITUTE,2ESCAPE,2FILE SEPARATOR,2GROUP ~,2RECORD ~,2UNIT ~,2SPACE,2DELETE,BLANK SYMBOL,OPEN BOX
SYMBOL FOR NEWLINE,2DELETE FORM TWO,2SUBSTITUTE ~,@2440,OCR HOOK,1CHAIR,1FORK,1INVERTED FORK,1BELT BUCKLE,1BOW TIE
1BRANCH BANK IDENTIFICATION,1AMOUNT OF CHECK,1DASH,1CUSTOMER ACCOUNT NUMBER,1DOUBLE BACKSLASH,@2460,CIRCLED DIGIT ONE
2TWO,2THREE,2FOUR,2FIVE,2SIX,2SEVEN,2EIGHT,2NINE,1NUMBER TEN,2ELEVEN,2TWELVE,2THIRTEEN,2FOURTEEN,2FIFTEEN,2SIXTEEN
2SEVENTEEN,2EIGHTEEN,2NINETEEN,2TWENTY,PARENTHESIZED DIGIT ONE,2TWO,2THREE,2FOUR,2FIVE,2SIX,2SEVEN,2EIGHT,2NINE
1NUMBER TEN,2ELEVEN,2TWELVE,2THIRTEEN,2FOURTEEN,2FIFTEEN,2SIXTEEN,2SEVENTEEN,2EIGHTEEN,2NINETEEN,2TWENTY
DIGIT ONE FULL STOP,1TWO ~,1THREE ~,1FOUR ~,1FIVE ~,1SIX ~,1SEVEN ~,1EIGHT ~,1NINE ~,NUMBER TEN ~,1ELEVEN ~,1TWELVE ~
1THIRTEEN ~,1FOURTEEN ~,1FIFTEEN ~,1SIXTEEN ~,1SEVENTEEN ~,1EIGHTEEN ~,1NINETEEN ~,1TWENTY ~
PARENTHESIZED LATIN SMALL LETTER A,+25,CIRCLED LATIN CAPITAL LETTER A,+25,2SMALL LETTER A,+25,1DIGIT ZERO
NEGATIVE CIRCLED NUMBER ELEVEN,3TWELVE,3THIRTEEN,3FOURTEEN,3FIFTEEN,3SIXTEEN,3SEVENTEEN,3EIGHTEEN,3NINETEEN,3TWENTY
DOUBLE CIRCLED DIGIT ONE,3TWO,3THREE,3FOUR,3FIVE,3SIX,3SEVEN,3EIGHT,3NINE,2NUMBER TEN,NEGATIVE CIRCLED DIGIT ZERO
BOX DRAWINGS LIGHT HORIZONTAL,2HEAVY ~,2LIGHT VERTICAL,2HEAVY ~,2LIGHT TRIPLE DASH HORIZONTAL,2HEAVY ~
2LIGHT TRIPLE DASH VERTICAL,2HEAVY ~,2LIGHT QUADRUPLE DASH HORIZONTAL,2HEAVY ~,2LIGHT QUADRUPLE DASH VERTICAL,2HEAVY ~
2LIGHT DOWN AND RIGHT,2DOWN LIGHT AND RIGHT HEAVY,3HEAVY AND RIGHT LIGHT,2HEAVY DOWN AND RIGHT,2LIGHT DOWN AND LEFT
2DOWN LIGHT AND LEFT HEAVY,3HEAVY AND LEFT LIGHT,2HEAVY DOWN AND LEFT,2LIGHT UP AND RIGHT,2UP LIGHT AND RIGHT HEAVY
3HEAVY AND RIGHT LIGHT,2HEAVY UP AND RIGHT,2LIGHT UP AND LEFT,2UP LIGHT AND LEFT HEAVY,3HEAVY AND LEFT LIGHT
2HEAVY UP AND LEFT,2LIGHT VERTICAL AND RIGHT,2VERTICAL LIGHT AND RIGHT HEAVY,2UP HEAVY AND RIGHT DOWN LIGHT
2DOWN HEAVY AND RIGHT UP ~,2VERTICAL HEAVY AND RIGHT LIGHT,2DOWN LIGHT AND RIGHT UP HEAVY,2UP LIGHT AND RIGHT DOWN ~
2HEAVY VERTICAL AND RIGHT,2LIGHT VERTICAL AND LEFT,2VERTICAL LIGHT AND LEFT HEAVY,2UP HEAVY AND LEFT DOWN LIGHT
2DOWN HEAVY AND LEFT UP ~,2VERTICAL HEAVY AND LEFT LIGHT,2DOWN LIGHT AND LEFT UP HEAVY,2UP LIGHT AND LEFT DOWN ~
2HEAVY VERTICAL AND LEFT,2LIGHT DOWN AND HORIZONTAL,2LEFT HEAVY AND RIGHT DOWN LIGHT,2RIGHT HEAVY AND LEFT ~
2DOWN LIGHT AND HORIZONTAL HEAVY,3HEAVY AND HORIZONTAL LIGHT,2RIGHT LIGHT AND LEFT DOWN HEAVY,2LEFT LIGHT AND RIGHT ~
2HEAVY DOWN AND HORIZONTAL,2LIGHT UP ~,2LEFT HEAVY AND RIGHT UP LIGHT,2RIGHT HEAVY AND LEFT ~
2UP LIGHT AND HORIZONTAL HEAVY,3HEAVY AND HORIZONTAL LIGHT,2RIGHT LIGHT AND LEFT UP HEAVY,2LEFT LIGHT AND RIGHT ~
2HEAVY UP AND HORIZONTAL,2LIGHT VERTICAL ~,2LEFT HEAVY AND RIGHT VERTICAL LIGHT,2RIGHT HEAVY AND LEFT ~
2VERTICAL LIGHT AND HORIZONTAL HEAVY,2UP HEAVY AND DOWN HORIZONTAL LIGHT,2DOWN HEAVY AND UP ~
2VERTICAL HEAVY AND HORIZONTAL LIGHT,2LEFT UP HEAVY AND RIGHT DOWN LIGHT,2RIGHT UP HEAVY AND LEFT ~
2LEFT DOWN HEAVY AND RIGHT UP ~,2RIGHT DOWN HEAVY AND LEFT ~,2DOWN LIGHT AND UP HORIZONTAL HEAVY,2UP LIGHT AND DOWN ~
2RIGHT LIGHT AND LEFT VERTICAL ~,2LEFT LIGHT AND RIGHT ~,2HEAVY VERTICAL AND HORIZONTAL,2LIGHT DOUBLE DASH ~,2HEAVY ~
2LIGHT DOUBLE DASH VERTICAL,2HEAVY ~,2DOUBLE HORIZONTAL,3VERTICAL,2DOWN SINGLE AND RIGHT DOUBLE
3DOUBLE AND RIGHT SINGLE,2DOUBLE DOWN AND RIGHT,2DOWN SINGLE AND LEFT DOUBLE,3DOUBLE AND LEFT SINGLE
2DOUBLE DOWN AND LEFT,2UP SINGLE AND RIGHT DOUBLE,3DOUBLE AND RIGHT SINGLE,2DOUBLE UP AND RIGHT
2UP SINGLE AND LEFT DOUBLE,3DOUBLE AND LEFT SINGLE,2DOUBLE UP AND LEFT,2VERTICAL SINGLE AND RIGHT DOUBLE
3DOUBLE AND RIGHT SINGLE,2DOUBLE VERTICAL AND RIGHT,2VERTICAL SINGLE AND LEFT DOUBLE,3DOUBLE AND LEFT SINGLE
2DOUBLE VERTICAL AND LEFT,2DOWN SINGLE AND HORIZONTAL DOUBLE,3DOUBLE AND HORIZONTAL SINGLE,2DOUBLE DOWN AND HORIZONTAL
2UP SINGLE AND HORIZONTAL DOUBLE,3DOUBLE AND HORIZONTAL SINGLE,2DOUBLE UP AND HORIZONTAL
2VERTICAL SINGLE AND HORIZONTAL DOUBLE,3DOUBLE AND HORIZONTAL SINGLE,2DOUBLE VERTICAL AND HORIZONTAL
2LIGHT ARC DOWN AND RIGHT,6LEFT,4UP ~,6RIGHT,3DIAGONAL UPPER RIGHT TO LOWER LEFT,5LEFT TO LOWER RIGHT,4CROSS,3LEFT,3UP
3RIGHT,3DOWN,2HEAVY LEFT,3UP,3RIGHT,3DOWN,2LIGHT LEFT AND HEAVY RIGHT,3UP AND HEAVY DOWN,2HEAVY LEFT AND LIGHT RIGHT
3UP AND LIGHT DOWN,UPPER HALF BLOCK,LOWER ONE EIGHTH BLOCK,2QUARTER ~,1THREE EIGHTHS ~,1HALF BLOCK,1FIVE EIGHTHS BLOCK
1THREE QUARTERS ~,1SEVEN EIGHTHS ~,FULL BLOCK,LEFT SEVEN EIGHTHS BLOCK,1THREE QUARTERS ~,1FIVE EIGHTHS ~,1HALF BLOCK
1THREE EIGHTHS BLOCK,1ONE QUARTER ~,2EIGHTH ~,RIGHT HALF BLOCK,LIGHT SHADE,MEDIUM ~,DARK ~,UPPER ONE EIGHTH BLOCK
RIGHT ~,QUADRANT LOWER LEFT,2RIGHT,1UPPER LEFT,2LEFT AND LOWER LEFT AND LOWER RIGHT,5RIGHT,4UPPER RIGHT AND LOWER LEFT
8RIGHT,2RIGHT,2RIGHT AND LOWER LEFT,5LEFT AND LOWER RIGHT,BLACK SQUARE,WHITE ~,1SQUARE WITH ROUNDED CORNERS
2CONTAINING BLACK SMALL SQUARE,SQUARE WITH HORIZONTAL FILL,2VERTICAL ~,2ORTHOGONAL CROSSHATCH FILL
2UPPER LEFT TO LOWER RIGHT FILL,3RIGHT TO LOWER LEFT ~,2DIAGONAL CROSSHATCH FILL,BLACK SMALL SQUARE,WHITE ~
BLACK RECTANGLE,WHITE ~,BLACK VERTICAL RECTANGLE,WHITE ~,BLACK PARALLELOGRAM,WHITE ~,BLACK UP-POINTING TRIANGLE
WHITE ~,BLACK UP-POINTING SMALL TRIANGLE,WHITE ~,BLACK RIGHT-POINTING TRIANGLE,WHITE ~
BLACK RIGHT-POINTING SMALL TRIANGLE,WHITE ~,BLACK RIGHT-POINTING POINTER,WHITE ~,BLACK DOWN-POINTING TRIANGLE,WHITE ~
BLACK DOWN-POINTING SMALL TRIANGLE,WHITE ~,BLACK LEFT-POINTING TRIANGLE,WHITE ~,BLACK LEFT-POINTING SMALL TRIANGLE
WHITE ~,BLACK LEFT-POINTING POINTER,WHITE ~,BLACK DIAMOND,WHITE ~,1DIAMOND CONTAINING BLACK SMALL DIAMOND,FISHEYE
LOZENGE,WHITE CIRCLE,DOTTED ~,CIRCLE WITH VERTICAL FILL,BULLSEYE,BLACK CIRCLE,CIRCLE WITH LEFT HALF BLACK,2RIGHT ~
2LOWER ~,2UPPER ~,3RIGHT QUADRANT BLACK,2ALL BUT UPPER LEFT QUADRANT BLACK,LEFT HALF BLACK CIRCLE,RIGHT ~
INVERSE BULLET,1WHITE CIRCLE,UPPER HALF INVERSE WHITE CIRCLE,LOWER ~,UPPER LEFT QUADRANT CIRCULAR ARC,1RIGHT ~,LOWER ~
1LEFT ~,UPPER HALF CIRCLE,LOWER ~,BLACK LOWER RIGHT TRIANGLE,2LEFT ~,1UPPER ~,2RIGHT ~,WHITE BULLET
SQUARE WITH LEFT HALF BLACK,2RIGHT ~,2UPPER LEFT DIAGONAL HALF BLACK,2LOWER RIGHT ~
WHITE SQUARE WITH VERTICAL BISECTING LINE,1UP-POINTING TRIANGLE WITH DOT,UP-POINTING TRIANGLE WITH LEFT HALF BLACK
4RIGHT ~,LARGE CIRCLE,WHITE SQUARE WITH UPPER LEFT QUADRANT,3LOWER ~,4RIGHT ~,3UPPER ~,1CIRCLE WITH UPPER LEFT ~
3LOWER ~,4RIGHT ~,3UPPER ~,UPPER LEFT TRIANGLE,1RIGHT ~,LOWER LEFT ~,WHITE MEDIUM SQUARE,BLACK ~
WHITE MEDIUM SMALL SQUARE,BLACK ~,LOWER RIGHT TRIANGLE,BLACK SUN WITH RAYS,CLOUD,UMBRELLA,SNOWMAN,COMET,BLACK STAR
WHITE ~,LIGHTNING,THUNDERSTORM,SUN,ASCENDING NODE,DESCENDING ~,CONJUNCTION,OPPOSITION,BLACK TELEPHONE,WHITE ~
BALLOT BOX,1BOX WITH CHECK,3X,SALTIRE,UMBRELLA WITH RAIN DROPS,HOT BEVERAGE,WHITE SHOGI PIECE,BLACK ~,SHAMROCK
REVERSED ROTATED FLORAL HEART BULLET,BLACK LEFT POINTING INDEX,1RIGHT ~,WHITE LEFT ~,1UP ~,1RIGHT ~,1DOWN ~
SKULL AND CROSSBONES,CAUTION SIGN,RADIOACTIVE ~,BIOHAZARD ~,CADUCEUS,ANKH,ORTHODOX CROSS,CHI RHO,CROSS OF LORRAINE
2JERUSALEM,STAR AND CRESCENT,FARSI SYMBOL,ADI SHAKTI,HAMMER AND SICKLE,PEACE SYMBOL,YIN YANG,TRIGRAM FOR HEAVEN,2LAKE
2FIRE,2THUNDER,2WIND,2WATER,2MOUNTAIN,2EARTH,WHEEL OF DHARMA,WHITE FROWNING FACE,1SMILING ~,BLACK ~
WHITE SUN WITH RAYS,FIRST QUARTER MOON,LAST ~,MERCURY,FEMALE SIGN,EARTH,MALE SIGN,JUPITER,SATURN,URANUS,NEPTUNE,PLUTO
ARIES,TAURUS,GEMINI,CANCER,LEO,VIRGO,LIBRA,SCORPIUS,SAGITTARIUS,CAPRICORN,AQUARIUS,PISCES,WHITE CHESS KING,2QUEEN
2ROOK,2BISHOP,2KNIGHT,2PAWN,BLACK CHESS KING,2QUEEN,2ROOK,2BISHOP,2KNIGHT,2PAWN,1SPADE SUIT,WHITE HEART ~,1DIAMOND ~
BLACK CLUB ~,WHITE SPADE ~,BLACK HEART ~,1DIAMOND ~,WHITE CLUB ~,HOT SPRINGS,QUARTER NOTE,EIGHTH ~,BEAMED EIGHTH NOTES
1SIXTEENTH ~,MUSIC FLAT SIGN,1NATURAL ~,1SHARP ~,WEST SYRIAC CROSS,EAST ~,UNIVERSAL RECYCLING SYMBOL
RECYCLING SYMBOL FOR TYPE-1 PLASTICS,42 ~,43 ~,44 ~,45 ~,46 ~,47 ~,3GENERIC MATERIALS,BLACK UNIVERSAL RECYCLING SYMBOL
RECYCLED PAPER SYMBOL,PARTIALLY-RECYCLED PAPER SYMBOL,PERMANENT PAPER SIGN,WHEELCHAIR SYMBOL,DIE FACE-1,+5
WHITE CIRCLE WITH DOT RIGHT,3TWO DOTS,BLACK CIRCLE WITH WHITE DOT RIGHT,3TWO WHITE DOTS,MONOGRAM FOR YANG,2YIN
DIGRAM FOR GREATER YANG,2LESSER YIN,3YANG,2GREATER YIN,WHITE FLAG,BLACK ~,HAMMER AND PICK,ANCHOR,CROSSED SWORDS
STAFF OF AESCULAPIUS,SCALES,ALEMBIC,FLOWER,GEAR,STAFF OF HERMES,ATOM SYMBOL,FLEUR-DE-LIS,OUTLINED WHITE STAR
THREE LINES CONVERGING RIGHT,3LEFT,WARNING SIGN,HIGH VOLTAGE SIGN,DOUBLED FEMALE ~,1MALE ~
INTERLOCKED FEMALE AND MALE SIGN,MALE AND FEMALE SIGN,1WITH STROKE ~,3AND MALE AND FEMALE SIGN
VERTICAL MALE WITH STROKE SIGN,HORIZONTAL ~,MEDIUM WHITE CIRCLE,1BLACK ~,1SMALL WHITE CIRCLE,MARRIAGE SYMBOL,DIVORCE ~
UNMARRIED PARTNERSHIP SYMBOL,COFFIN,FUNERAL URN,NEUTER,CERES,PALLAS,JUNO,VESTA,CHIRON,BLACK MOON LILITH,SEXTILE
SEMISEXTILE,QUINCUNX,SESQUIQUADRATE,SOCCER BALL,BASEBALL,SQUARED KEY,WHITE DRAUGHTS MAN,2KING,BLACK DRAUGHTS MAN,2KING
SNOWMAN WITHOUT SNOW,SUN BEHIND CLOUD,RAIN,BLACK SNOWMAN,THUNDER CLOUD AND RAIN,TURNED WHITE SHOGI PIECE,1BLACK ~
WHITE DIAMOND IN SQUARE,CROSSING LANES,DISABLED CAR,OPHIUCHUS,PICK,CAR SLIDING,HELMET WITH WHITE CROSS
CIRCLED CROSSING LANES,CHAINS,NO ENTRY,ALTERNATE ONE-WAY LEFT WAY TRAFFIC,BLACK TWO-~,WHITE ~,BLACK LEFT LANE MERGE
WHITE ~,DRIVE SLOW SIGN,HEAVY WHITE DOWN-POINTING TRIANGLE,LEFT CLOSED ENTRY,SQUARED SALTIRE
FALLING DIAGONAL IN WHITE CIRCLE IN BLACK SQUARE,BLACK TRUCK,RESTRICTED LEFT ENTRY-1,+1,ASTRONOMICAL SYMBOL FOR URANUS
HEAVY CIRCLE WITH STROKE AND TWO DOTS ABOVE,PENTAGRAM,RIGHT-HANDED INTERLACED PENTAGRAM,LEFT-~,INVERTED PENTAGRAM
BLACK CROSS ON SHIELD,SHINTO SHRINE,CHURCH,CASTLE,HISTORIC SITE,GEAR WITHOUT HUB,1WITH HANDLES
MAP SYMBOL FOR LIGHTHOUSE,MOUNTAIN,UMBRELLA ON GROUND,FOUNTAIN,FLAG IN HOLE,FERRY,SAILBOAT,SQUARE FOUR CORNERS,SKIER
ICE SKATE,PERSON WITH BALL,TENT,JAPANESE BANK SYMBOL,HEADSTONE GRAVEYARD ~,FUEL PUMP,CUP ON BLACK SQUARE
WHITE FLAG WITH HORIZONTAL MIDDLE BLACK STRIPE,BLACK SAFETY SCISSORS,UPPER BLADE ~,BLACK SCISSORS,LOWER BLADE SCISSORS
WHITE SCISSORS,1HEAVY CHECK MARK,TELEPHONE LOCATION SIGN,TAPE DRIVE,AIRPLANE,ENVELOPE,RAISED FIST,1HAND,VICTORY ~
WRITING ~,LOWER RIGHT PENCIL,PENCIL,UPPER RIGHT PENCIL,WHITE NIB,BLACK ~,CHECK MARK,HEAVY CHECK MARK,MULTIPLICATION X
HEAVY MULTIPLICATION X,BALLOT X,HEAVY BALLOT X,OUTLINED GREEK CROSS,HEAVY ~,OPEN CENTRE ~,HEAVY OPEN CENTRE CROSS
LATIN CROSS,SHADOWED WHITE LATIN CROSS,OUTLINED LATIN CROSS,MALTESE CROSS,STAR OF DAVID,FOUR TEARDROP-SPOKED ASTERISK
1BALLOON-~,HEAVY FOUR BALLOON-SPOKED ASTERISK,FOUR CLUB-SPOKED ASTERISK,BLACK FOUR POINTED STAR,WHITE ~,SPARKLES
STRESS OUTLINED WHITE STAR,CIRCLED WHITE STAR,OPEN CENTRE BLACK STAR,BLACK CENTRE WHITE ~,OUTLINED BLACK STAR
HEAVY OUTLINED BLACK STAR,PINWHEEL STAR,SHADOWED WHITE STAR,HEAVY ASTERISK,OPEN CENTRE ASTERISK,EIGHT SPOKED ~
1POINTED BLACK STAR,2PINWHEEL ~,SIX POINTED BLACK ~,EIGHT POINTED RECTILINEAR BLACK STAR
HEAVY EIGHT POINTED RECTILINEAR BLACK STAR,TWELVE POINTED BLACK STAR,SIXTEEN POINTED ASTERISK,TEARDROP-SPOKED ~
OPEN CENTRE TEARDROP-SPOKED ASTERISK,HEAVY TEARDROP-SPOKED ASTERISK,SIX PETALLED BLACK AND WHITE FLORETTE
BLACK FLORETTE,WHITE ~,EIGHT PETALLED OUTLINED BLACK FLORETTE,CIRCLED OPEN CENTRE EIGHT POINTED STAR
HEAVY TEARDROP-SPOKED PINWHEEL ASTERISK,SNOWFLAKE,TIGHT TRIFOLIATE SNOWFLAKE,HEAVY CHEVRON ~,SPARKLE,HEAVY SPARKLE
BALLOON-SPOKED ASTERISK,EIGHT TEARDROP-SPOKED PROPELLER ASTERISK,HEAVY EIGHT TEARDROP-SPOKED PROPELLER ASTERISK
CROSS MARK,SHADOWED WHITE CIRCLE,NEGATIVE SQUARED CROSS MARK,LOWER RIGHT DROP-SHADOWED WHITE SQUARE,UPPER ~
LOWER RIGHT SHADOWED WHITE SQUARE,UPPER ~,BLACK QUESTION MARK ORNAMENT,WHITE ~,1EXCLAMATION ~
BLACK DIAMOND MINUS WHITE X,HEAVY EXCLAMATION MARK SYMBOL,LIGHT VERTICAL BAR,MEDIUM ~,HEAVY ~
1SINGLE TURNED COMMA QUOTATION MARK ORNAMENT,2COMMA QUOTATION MARK ORNAMENT
1DOUBLE TURNED COMMA QUOTATION MARK ORNAMENT,2COMMA QUOTATION MARK ORNAMENT,1LOW SINGLE COMMA QUOTATION MARK ORNAMENT
2DOUBLE ~,CURVED STEM PARAGRAPH SIGN ORNAMENT,HEAVY EXCLAMATION MARK ORNAMENT,1HEART EXCLAMATION MARK ORNAMENT
1BLACK HEART,ROTATED HEAVY BLACK HEART BULLET,FLORAL HEART,ROTATED FLORAL HEART BULLET
MEDIUM LEFT PARENTHESIS ORNAMENT,1RIGHT ~,1FLATTENED LEFT PARENTHESIS ORNAMENT,2RIGHT ~
1LEFT-POINTING ANGLE BRACKET ORNAMENT,1RIGHT-~,HEAVY LEFT-POINTING ANGLE QUOTATION MARK ORNAMENT,1RIGHT-~
1LEFT-POINTING ANGLE BRACKET ORNAMENT,1RIGHT-~,LIGHT LEFT TORTOISE SHELL ~,1RIGHT ~,MEDIUM LEFT CURLY BRACKET ORNAMENT
1RIGHT ~,DINGBAT NEGATIVE CIRCLED DIGIT ONE,4TWO,4THREE,4FOUR,4FIVE,4SIX,4SEVEN,4EIGHT,4NINE,3NUMBER TEN
1CIRCLED SANS-SERIF DIGIT ONE,5TWO,5THREE,5FOUR,5FIVE,5SIX,5SEVEN,5EIGHT,5NINE,4NUMBER TEN
1NEGATIVE CIRCLED SANS-SERIF DIGIT ONE,6TWO,6THREE,6FOUR,6FIVE,6SIX,6SEVEN,6EIGHT,6NINE,5NUMBER TEN
HEAVY WIDE-HEADED RIGHTWARDS ARROW,1PLUS SIGN,1MINUS ~,1DIVISION ~,1SOUTH EAST ARROW,1RIGHTWARDS ARROW
1NORTH EAST ARROW,DRAFTING POINT RIGHTWARDS ~,HEAVY ROUND-TIPPED RIGHTWARDS ARROW,TRIANGLE-HEADED RIGHTWARDS ARROW
HEAVY TRIANGLE-HEADED RIGHTWARDS ARROW,DASHED ~,HEAVY DASHED TRIANGLE-HEADED RIGHTWARDS ARROW,BLACK RIGHTWARDS ARROW
THREE-D TOP-LIGHTED RIGHTWARDS ARROWHEAD,2BOTTOM-~,BLACK RIGHTWARDS ARROWHEAD
HEAVY BLACK CURVED DOWNWARDS AND RIGHTWARDS ARROW,3UPWARDS ~,SQUAT BLACK RIGHTWARDS ARROW
HEAVY CONCAVE-POINTED BLACK RIGHTWARDS ARROW,RIGHT-SHADED WHITE RIGHTWARDS ARROW,LEFT-~
BACK-TILTED SHADOWED WHITE RIGHTWARDS ARROW,FRONT-~,HEAVY LOWER RIGHT-SHADOWED WHITE RIGHTWARDS ARROW,1UPPER ~
NOTCHED LOWER ~,CURLY LOOP,NOTCHED UPPER RIGHT-SHADOWED WHITE RIGHTWARDS ARROW,CIRCLED HEAVY WHITE RIGHTWARDS ARROW
WHITE-FEATHERED RIGHTWARDS ARROW,BLACK-FEATHERED SOUTH EAST ARROW,2RIGHTWARDS ARROW,2NORTH EAST ARROW
HEAVY BLACK-FEATHERED SOUTH EAST ARROW,3RIGHTWARDS ARROW,3NORTH EAST ARROW,TEARDROP-BARBED RIGHTWARDS ARROW
HEAVY TEARDROP-SHANKED RIGHTWARDS ARROW,WEDGE-TAILED RIGHTWARDS ARROW,HEAVY WEDGE-TAILED RIGHTWARDS ARROW
OPEN-OUTLINED RIGHTWARDS ARROW,DOUBLE CURLY LOOP,THREE DIMENSIONAL ANGLE
WHITE TRIANGLE CONTAINING SMALL WHITE TRIANGLE,PERPENDICULAR,OPEN SUBSET,1SUPERSET,LEFT S-SHAPED BAG DELIMITER,RIGHT ~
OR WITH DOT INSIDE,REVERSE SOLIDUS PRECEDING SUBSET,SUPERSET PRECEDING SOLIDUS,VERTICAL BAR WITH HORIZONTAL STROKE
MATHEMATICAL RISING DIAGONAL,LONG DIVISION,MATHEMATICAL FALLING DIAGONAL,SQUARED LOGICAL AND,2OR
WHITE DIAMOND WITH CENTRED DOT,AND WITH DOT,ELEMENT OF OPENING UPWARDS,LOWER RIGHT CORNER WITH DOT,UPPER LEFT ~
LEFT OUTER JOIN,RIGHT ~,FULL ~,LARGE UP TACK,1DOWN ~,LEFT AND RIGHT DOUBLE TURNSTILE,3TACK,1MULTIMAP,LONG RIGHT TACK
1LEFT ~,UP TACK WITH CIRCLE ABOVE,LOZENGE DIVIDED BY HORIZONTAL RULE,WHITE CONCAVE-SIDED DIAMOND
3DIAMOND WITH LEFTWARDS TICK,5RIGHTWARDS ~,1SQUARE WITH LEFTWARDS TICK,3RIGHTWARDS ~
MATHEMATICAL LEFT WHITE SQUARE BRACKET,1RIGHT ~,1LEFT ANGLE BRACKET,1RIGHT ~,1LEFT DOUBLE ANGLE BRACKET,1RIGHT ~
1LEFT WHITE TORTOISE SHELL BRACKET,1RIGHT ~,1LEFT FLATTENED PARENTHESIS,1RIGHT ~,UPWARDS QUADRUPLE ARROW,DOWNWARDS ~
ANTICLOCKWISE GAPPED CIRCLE ARROW,CLOCKWISE ~,RIGHT ARROW WITH CIRCLED PLUS,LONG LEFTWARDS ARROW,1RIGHTWARDS ~
1LEFT RIGHT ARROW,1LEFTWARDS DOUBLE ~,1RIGHTWARDS ~,1LEFT RIGHT DOUBLE ARROW,1LEFTWARDS ARROW FROM BAR,1RIGHTWARDS ~
1LEFTWARDS DOUBLE ARROW FROM BAR,1RIGHTWARDS ~,2SQUIGGLE ARROW,BRAILLE PATTERN BLANK,2DOTS-1,+1,312,33,313,323,3123,34
314,324,3124,334,3134,3234,31234,35,315,325,3125,335,3135,3235,31235,345,3145,3245,31245,3345,31345,32345,312345,36
316,326,3126,336,3136,3236,31236,346,3146,3246,31246,3346,31346,32346,312346,356,3156,3256,31256,3356,31356,32356
312356,3456,31456,32456,312456,33456,313456,323456,3123456,37,317,327,3127,337,3137,3237,31237,347,3147,3247,31247
3347,31347,32347,312347,357,3157,3257,31257,3357,31357,32357,312357,3457,31457,32457,312457,33457,313457,323457
3123457,367,3167,3267,31267,3367,31367,32367,312367,3467,31467,32467,312467,33467,313467,323467,3123467,3567,31567
32567,312567,33567,313567,323567,3123567,34567,314567,324567,3124567,334567,3134567,3234567,31234567,38,318,328,3128
338,3138,3238,31238,348,3148,3248,31248,3348,31348,32348,312348,358,3158,3258,31258,3358,31358,32358,312358,3458,31458
32458,312458,33458,313458,323458,3123458,368,3168,3268,31268,3368,31368,32368,312368,3468,31468,32468,312468,33468
313468,323468,3123468,3568,31568,32568,312568,33568,313568,323568,3123568,34568,314568,324568,3124568,334568,3134568
3234568,31234568,378,3178,3278,31278,3378,31378,32378,312378,3478,31478,32478,312478,33478,313478,323478,3123478,3578
31578,32578,312578,33578,313578,323578,3123578,34578,314578,324578,3124578,334578,3134578,3234578,31234578,3678,31678
32678,312678,33678,313678,323678,3123678,34678,314678,324678,3124678,334678,3134678,3234678,31234678,35678,315678
325678,3125678,335678,3135678,3235678,31235678,345678,3145678,3245678,31245678,3345678,31345678,32345678,312345678
RIGHTWARDS TWO-HEADED ARROW WITH VERTICAL STROKE,5DOUBLE VERTICAL STROKE,LEFTWARDS DOUBLE ARROW WITH VERTICAL STROKE
RIGHTWARDS ~,LEFT RIGHT DOUBLE ARROW WITH VERTICAL STROKE,RIGHTWARDS TWO-HEADED ARROW FROM BAR
LEFTWARDS DOUBLE ARROW FROM BAR,RIGHTWARDS ~,DOWNWARDS ARROW WITH HORIZONTAL STROKE,UPWARDS ~,1TRIPLE ARROW
DOWNWARDS ~,LEFTWARDS DOUBLE DASH ARROW,RIGHTWARDS ~,LEFTWARDS TRIPLE ~,RIGHTWARDS ~,1TWO-HEADED TRIPLE DASH ARROW
1ARROW WITH DOTTED STEM,UPWARDS ARROW TO BAR,DOWNWARDS ~,RIGHTWARDS ARROW WITH TAIL WITH VERTICAL STROKE
5DOUBLE VERTICAL STROKE,1TWO-HEADED ARROW WITH TAIL,5TAIL WITH VERTICAL STROKE,7DOUBLE VERTICAL STROKE
LEFTWARDS ARROW-TAIL,RIGHTWARDS ~,LEFTWARDS DOUBLE ARROW-TAIL,RIGHTWARDS ~,LEFTWARDS ARROW TO BLACK DIAMOND
RIGHTWARDS ~,LEFTWARDS ARROW FROM BAR TO BLACK DIAMOND,RIGHTWARDS ~,NORTH WEST AND SOUTH EAST ARROW
1EAST AND SOUTH WEST ~,1WEST ARROW WITH HOOK,1EAST ~,SOUTH ~,1WEST ~,NORTH WEST ARROW AND NORTH EAST ARROW
1EAST ARROW AND SOUTH ~,SOUTH EAST ARROW AND SOUTH WEST ~,1WEST ARROW AND NORTH ~
RISING DIAGONAL CROSSING FALLING DIAGONAL,FALLING DIAGONAL CROSSING RISING ~
SOUTH EAST ARROW CROSSING NORTH EAST ARROW,NORTH EAST ARROW CROSSING SOUTH ~
FALLING DIAGONAL CROSSING NORTH EAST ARROW,RISING DIAGONAL CROSSING SOUTH ~,NORTH EAST ARROW CROSSING NORTH WEST ARROW
1WEST ARROW CROSSING NORTH EAST ~,WAVE ARROW POINTING DIRECTLY RIGHT,ARROW POINTING RIGHTWARDS THEN CURVING UPWARDS
5DOWNWARDS,2DOWNWARDS THEN CURVING LEFTWARDS,5RIGHTWARDS,RIGHT-SIDE ARC CLOCKWISE ARROW,LEFT-SIDE ARC ANTICLOCKWISE ~
TOP ARC ANTICLOCKWISE ARROW,BOTTOM ~,TOP ARC CLOCKWISE ARROW WITH MINUS,2ANTICLOCKWISE ARROW WITH PLUS
LOWER RIGHT SEMICIRCULAR CLOCKWISE ARROW,1LEFT SEMICIRCULAR ANTICLOCKWISE ~,ANTICLOCKWISE CLOSED CIRCLE ARROW
CLOCKWISE ~,RIGHTWARDS ARROW ABOVE SHORT LEFTWARDS ARROW,LEFTWARDS ARROW ABOVE SHORT RIGHTWARDS ~
SHORT RIGHTWARDS ARROW ABOVE LEFTWARDS ~,RIGHTWARDS ARROW WITH PLUS BELOW,LEFTWARDS ~,RIGHTWARDS ARROW THROUGH X
LEFT RIGHT ARROW THROUGH SMALL CIRCLE,UPWARDS TWO-HEADED ARROW FROM SMALL CIRCLE,LEFT BARB UP RIGHT BARB DOWN HARPOON
2DOWN RIGHT BARB UP ~,UP BARB RIGHT DOWN BARB LEFT ~,2LEFT DOWN BARB RIGHT ~,LEFT BARB UP RIGHT BARB UP ~
UP BARB RIGHT DOWN BARB RIGHT ~,LEFT BARB DOWN RIGHT BARB DOWN ~,UP BARB LEFT DOWN BARB LEFT ~
LEFTWARDS HARPOON WITH BARB UP TO BAR,RIGHTWARDS ~,UPWARDS HARPOON WITH BARB RIGHT ~,DOWNWARDS ~
LEFTWARDS HARPOON WITH BARB DOWN ~,RIGHTWARDS ~,UPWARDS HARPOON WITH BARB LEFT ~,DOWNWARDS ~
LEFTWARDS HARPOON WITH BARB UP FROM ~,RIGHTWARDS ~,UPWARDS HARPOON WITH BARB RIGHT ~,DOWNWARDS ~
LEFTWARDS HARPOON WITH BARB DOWN ~,RIGHTWARDS ~,UPWARDS HARPOON WITH BARB LEFT ~,DOWNWARDS ~
LEFTWARDS HARPOON WITH BARB UP ABOVE LEFTWARDS HARPOON WITH BARB DOWN
UPWARDS HARPOON WITH BARB LEFT BESIDE UPWARDS HARPOON WITH BARB RIGHT
RIGHTWARDS HARPOON WITH BARB UP ABOVE RIGHTWARDS HARPOON WITH BARB DOWN
DOWNWARDS HARPOON WITH BARB LEFT BESIDE DOWNWARDS HARPOON WITH BARB RIGHT
LEFTWARDS HARPOON WITH BARB UP ABOVE RIGHTWARDS HARPOON WITH BARB UP,4DOWN ABOVE RIGHTWARDS HARPOON WITH BARB DOWN
RIGHTWARDS HARPOON WITH BARB UP ABOVE LEFTWARDS HARPOON WITH BARB UP,4DOWN ABOVE LEFTWARDS HARPOON WITH BARB DOWN
LEFTWARDS HARPOON WITH BARB UP ABOVE LONG DASH,4DOWN BELOW ~,RIGHTWARDS HARPOON WITH BARB UP ABOVE ~,4DOWN BELOW ~
UPWARDS HARPOON WITH BARB LEFT BESIDE DOWNWARDS HARPOON WITH BARB RIGHT
DOWNWARDS HARPOON WITH BARB LEFT BESIDE UPWARDS ~,RIGHT DOUBLE ARROW WITH ROUNDED HEAD
EQUALS SIGN ABOVE RIGHTWARDS ARROW,TILDE OPERATOR ~,LEFTWARDS ARROW ABOVE TILDE OPERATOR,RIGHTWARDS ~,3ALMOST EQUAL TO
LESS-THAN ABOVE LEFTWARDS ARROW,LEFTWARDS ARROW THROUGH LESS-THAN,GREATER-THAN ABOVE RIGHTWARDS ARROW
SUBSET ABOVE RIGHTWARDS ARROW,LEFTWARDS ARROW THROUGH SUBSET,SUPERSET ABOVE LEFTWARDS ARROW,LEFT FISH TAIL,RIGHT ~
UP ~,DOWN ~,TRIPLE VERTICAL BAR DELIMITER,Z NOTATION SPOT,2TYPE COLON,LEFT WHITE CURLY BRACKET,RIGHT ~
LEFT WHITE PARENTHESIS,RIGHT ~,Z NOTATION LEFT IMAGE BRACKET,2RIGHT ~,2LEFT BINDING ~,2RIGHT ~
LEFT SQUARE BRACKET WITH UNDERBAR,RIGHT ~,LEFT SQUARE BRACKET WITH TICK IN TOP CORNER
RIGHT SQUARE BRACKET WITH TICK IN BOTTOM ~,LEFT ~,RIGHT SQUARE BRACKET WITH TICK IN TOP ~,LEFT ANGLE BRACKET WITH DOT
RIGHT ~,LEFT ARC LESS-THAN BRACKET,RIGHT ARC GREATER-~,DOUBLE LEFT ARC GREATER-THAN BRACKET,1RIGHT ARC LESS-~
LEFT BLACK TORTOISE SHELL BRACKET,RIGHT ~,DOTTED FENCE,VERTICAL ZIGZAG LINE,MEASURED ANGLE OPENING LEFT
RIGHT ANGLE VARIANT WITH SQUARE,MEASURED RIGHT ANGLE WITH DOT,ANGLE WITH S INSIDE,ACUTE ANGLE
SPHERICAL ANGLE OPENING LEFT,3UP,TURNED ANGLE,REVERSED ~,ANGLE WITH UNDERBAR,REVERSED ANGLE WITH UNDERBAR
OBLIQUE ANGLE OPENING UP,3DOWN,MEASURED ANGLE WITH OPEN ARM ENDING IN ARROW POINTING UP AND RIGHT,9UP AND LEFT
9DOWN AND RIGHT,9DOWN AND LEFT,9RIGHT AND UP,9LEFT ~,9RIGHT AND DOWN,9LEFT ~,REVERSED EMPTY SET,EMPTY SET WITH OVERBAR
3SMALL CIRCLE ABOVE,3RIGHT ARROW ~,3LEFT ~,CIRCLE WITH HORIZONTAL BAR,CIRCLED VERTICAL BAR,1PARALLEL,1REVERSE SOLIDUS
1PERPENDICULAR,CIRCLE DIVIDED BY HORIZONTAL BAR AND TOP HALF DIVIDED BY VERTICAL BAR,1WITH SUPERIMPOSED X
CIRCLED ANTICLOCKWISE-ROTATED DIVISION SIGN,UP ARROW THROUGH CIRCLE,CIRCLED WHITE BULLET,1BULLET,1LESS-THAN,1GREATER-~
CIRCLE WITH SMALL CIRCLE TO THE RIGHT,2TWO HORIZONTAL STROKES TO THE RIGHT,SQUARED RISING DIAGONAL SLASH,1FALLING ~
1ASTERISK,1SMALL CIRCLE,1SQUARE,TWO JOINED SQUARES,TRIANGLE WITH DOT ABOVE,2UNDERBAR,S IN TRIANGLE
TRIANGLE WITH SERIFS AT BOTTOM,RIGHT TRIANGLE ABOVE LEFT TRIANGLE,LEFT TRIANGLE BESIDE VERTICAL BAR
VERTICAL BAR BESIDE RIGHT TRIANGLE,BOWTIE WITH LEFT HALF BLACK,2RIGHT ~,BLACK BOWTIE,TIMES WITH LEFT HALF BLACK
2RIGHT ~,WHITE HOURGLASS,BLACK ~,LEFT WIGGLY FENCE,RIGHT ~,LEFT DOUBLE WIGGLY FENCE,RIGHT ~,INCOMPLETE INFINITY
TIE OVER INFINITY,INFINITY NEGATED WITH VERTICAL BAR,DOUBLE-ENDED MULTIMAP,SQUARE WITH CONTOURED OUTLINE,INCREASES AS
SHUFFLE PRODUCT,EQUALS SIGN AND SLANTED PARALLEL,4PARALLEL WITH TILDE ABOVE,IDENTICAL TO AND SLANTED PARALLEL
GLEICH STARK,THERMODYNAMIC,DOWN-POINTING TRIANGLE WITH LEFT HALF BLACK,4RIGHT ~,BLACK DIAMOND WITH DOWN ARROW,1LOZENGE
WHITE CIRCLE WITH DOWN ARROW,BLACK ~,ERROR-BARRED WHITE SQUARE,2BLACK ~,2WHITE DIAMOND,2BLACK ~,2WHITE CIRCLE,2BLACK ~
RULE-DELAYED,REVERSE SOLIDUS OPERATOR,SOLIDUS WITH OVERBAR,REVERSE SOLIDUS WITH HORIZONTAL STROKE,BIG SOLIDUS
1REVERSE SOLIDUS,DOUBLE PLUS,TRIPLE ~,LEFT-POINTING CURVED ANGLE BRACKET,RIGHT-~,TINY,MINY,N-ARY CIRCLED DOT OPERATOR
3PLUS ~,3TIMES ~,2UNION OPERATOR WITH DOT,5PLUS,2SQUARE INTERSECTION OPERATOR,3UNION ~,TWO LOGICAL AND OPERATOR,2OR ~
N-ARY TIMES ~,MODULO TWO SUM,SUMMATION WITH INTEGRAL,QUADRUPLE INTEGRAL OPERATOR,FINITE PART INTEGRAL
INTEGRAL WITH DOUBLE STROKE,1AVERAGE WITH SLASH,CIRCULATION FUNCTION,ANTICLOCKWISE INTEGRATION
LINE INTEGRATION WITH RECTANGULAR PATH AROUND POLE,3SEMICIRCULAR ~,2NOT INCLUDING THE POLE
INTEGRAL AROUND A POINT OPERATOR,QUATERNION INTEGRAL OPERATOR,INTEGRAL WITH LEFTWARDS ARROW WITH HOOK,2TIMES SIGN
2INTERSECTION,2UNION,2OVERBAR,2UNDERBAR,JOIN,LARGE LEFT TRIANGLE OPERATOR,Z NOTATION SCHEMA COMPOSITION,3PIPING
3PROJECTION,PLUS SIGN WITH SMALL CIRCLE ABOVE,3CIRCUMFLEX ACCENT ~,3TILDE ABOVE,3DOT BELOW,3TILDE ~,3SUBSCRIPT TWO
3BLACK TRIANGLE,MINUS SIGN WITH COMMA ABOVE,3DOT BELOW,3FALLING DOTS,3RISING ~,PLUS SIGN IN LEFT HALF CIRCLE,3RIGHT ~
VECTOR OR CROSS PRODUCT,MULTIPLICATION SIGN WITH DOT ABOVE,3UNDERBAR,SEMIDIRECT PRODUCT WITH BOTTOM CLOSED
SMASH PRODUCT,MULTIPLICATION SIGN IN LEFT HALF CIRCLE,3RIGHT ~,CIRCLED MULTIPLICATION SIGN WITH CIRCUMFLEX ACCENT
MULTIPLICATION SIGN IN DOUBLE CIRCLE,CIRCLED DIVISION SIGN,PLUS SIGN IN TRIANGLE,MINUS ~,MULTIPLICATION ~
INTERIOR PRODUCT,RIGHTHAND INTERIOR PRODUCT,Z NOTATION RELATIONAL COMPOSITION,AMALGAMATION OR COPRODUCT
INTERSECTION WITH DOT,UNION WITH MINUS SIGN,2OVERBAR,INTERSECTION ~,2LOGICAL AND,UNION WITH LOGICAL OR
1ABOVE INTERSECTION,INTERSECTION ABOVE UNION,UNION ABOVE BAR ABOVE INTERSECTION,INTERSECTION ABOVE BAR ABOVE UNION
UNION BESIDE AND JOINED WITH UNION,INTERSECTION BESIDE AND JOINED WITH INTERSECTION,CLOSED UNION WITH SERIFS
1INTERSECTION ~,DOUBLE SQUARE INTERSECTION,2UNION,CLOSED UNION WITH SERIFS AND SMASH PRODUCT
LOGICAL AND WITH DOT ABOVE,1OR ~,DOUBLE LOGICAL AND,2OR,TWO INTERSECTING LOGICAL AND,3OR,SLOPING LARGE OR,2AND
LOGICAL OR OVERLAPPING LOGICAL AND,1AND WITH MIDDLE STEM,1OR ~,1AND WITH HORIZONTAL DASH,1OR ~
1AND WITH DOUBLE OVERBAR,3UNDERBAR,3DOUBLE UNDERBAR,SMALL VEE WITH UNDERBAR,LOGICAL OR WITH DOUBLE OVERBAR,4UNDERBAR
Z NOTATION DOMAIN ANTIRESTRICTION,2RANGE ~,EQUALS SIGN WITH DOT BELOW,IDENTICAL WITH DOT ABOVE
TRIPLE HORIZONTAL BAR WITH DOUBLE VERTICAL STROKE,4TRIPLE ~,TILDE OPERATOR WITH DOT ABOVE,3RISING DOTS
SIMILAR MINUS SIMILAR,CONGRUENT WITH DOT ABOVE,EQUALS WITH ASTERISK,ALMOST EQUAL TO WITH CIRCUMFLEX ACCENT
APPROXIMATELY EQUAL OR EQUAL TO,EQUALS SIGN ABOVE PLUS SIGN,PLUS SIGN ABOVE EQUALS ~,EQUALS SIGN ABOVE TILDE OPERATOR
DOUBLE COLON EQUAL,TWO CONSECUTIVE EQUALS SIGNS,THREE ~,EQUALS SIGN WITH TWO DOTS ABOVE AND TWO DOTS BELOW
EQUIVALENT WITH FOUR DOTS ABOVE,LESS-THAN WITH CIRCLE INSIDE,GREATER-~,LESS-THAN WITH QUESTION MARK ABOVE,GREATER-~
LESS-THAN OR SLANTED EQUAL TO,GREATER-~,LESS-THAN OR SLANTED EQUAL TO WITH DOT INSIDE,GREATER-~
LESS-THAN OR SLANTED EQUAL TO WITH DOT ABOVE,GREATER-~,LESS-THAN OR SLANTED EQUAL TO WITH DOT ABOVE RIGHT
GREATER-THAN OR SLANTED EQUAL TO WITH DOT ABOVE LEFT,LESS-THAN OR APPROXIMATE,GREATER-~
LESS-THAN AND SINGLE-LINE NOT EQUAL TO,GREATER-~,LESS-THAN AND NOT APPROXIMATE,GREATER-~
LESS-THAN ABOVE DOUBLE-LINE EQUAL ABOVE GREATER-THAN,GREATER-THAN ABOVE DOUBLE-LINE EQUAL ABOVE LESS-~
LESS-THAN ABOVE SIMILAR OR EQUAL,GREATER-~,LESS-THAN ABOVE SIMILAR ABOVE GREATER-THAN
GREATER-THAN ABOVE SIMILAR ABOVE LESS-~,LESS-THAN ABOVE GREATER-THAN ABOVE DOUBLE-LINE EQUAL,GREATER-THAN ABOVE LESS-~
LESS-THAN ABOVE SLANTED EQUAL ABOVE GREATER-THAN ABOVE SLANTED EQUAL,GREATER-THAN ABOVE SLANTED EQUAL ABOVE LESS-~
SLANTED EQUAL TO OR LESS-THAN,4GREATER-~,4LESS-THAN WITH DOT INSIDE,4GREATER-~,DOUBLE-LINE EQUAL TO OR LESS-THAN
5GREATER-~,2SLANTED EQUAL TO OR LESS-THAN,6GREATER-~,SIMILAR OR LESS-THAN,2GREATER-~
1ABOVE LESS-THAN ABOVE EQUALS SIGN,2GREATER-~,DOUBLE NESTED LESS-THAN,2GREATER-~,2LESS-THAN WITH UNDERBAR
GREATER-THAN OVERLAPPING LESS-THAN,2BESIDE ~,LESS-THAN CLOSED BY CURVE,GREATER-~
LESS-THAN CLOSED BY CURVE ABOVE SLANTED EQUAL,GREATER-~,SMALLER THAN,LARGER ~,SMALLER THAN OR EQUAL TO,LARGER ~
EQUALS SIGN WITH BUMPY ABOVE,PRECEDES ABOVE SINGLE-LINE EQUALS SIGN,SUCCEEDS ~,PRECEDES ABOVE SINGLE-LINE NOT EQUAL TO
SUCCEEDS ~,PRECEDES ABOVE EQUALS SIGN,SUCCEEDS ~,PRECEDES ABOVE NOT EQUAL TO,SUCCEEDS ~,PRECEDES ABOVE ALMOST ~
SUCCEEDS ~,PRECEDES ABOVE NOT ALMOST EQUAL TO,SUCCEEDS ~,DOUBLE PRECEDES,1SUCCEEDS,SUBSET WITH DOT,SUPERSET ~
SUBSET WITH PLUS SIGN BELOW,SUPERSET ~,SUBSET WITH MULTIPLICATION ~,SUPERSET ~,SUBSET OF OR EQUAL TO WITH DOT ABOVE
SUPERSET ~,SUBSET OF ABOVE EQUALS SIGN,SUPERSET ~,SUBSET OF ABOVE TILDE OPERATOR,SUPERSET ~
SUBSET OF ABOVE ALMOST EQUAL TO,SUPERSET ~,SUBSET OF ABOVE NOT ~,SUPERSET ~,SQUARE LEFT OPEN BOX OPERATOR,1RIGHT ~
CLOSED SUBSET,1SUPERSET,1SUBSET OR EQUAL TO,1SUPERSET ~,SUBSET ABOVE SUPERSET,SUPERSET ABOVE SUBSET,SUBSET ~
SUPERSET ABOVE SUPERSET,1BESIDE SUBSET,2AND JOINED BY DASH WITH SUBSET,ELEMENT OF OPENING DOWNWARDS
PITCHFORK WITH TEE TOP,TRANSVERSAL INTERSECTION,FORKING,NONFORKING,SHORT LEFT TACK,1DOWN ~,1UP ~,PERPENDICULAR WITH S
VERTICAL BAR TRIPLE RIGHT TURNSTILE,DOUBLE VERTICAL BAR LEFT ~,VERTICAL BAR DOUBLE ~
DOUBLE VERTICAL BAR DOUBLE LEFT TURNSTILE,LONG DASH FROM LEFT MEMBER OF DOUBLE VERTICAL,SHORT DOWN TACK WITH OVERBAR
1UP TACK WITH UNDERBAR,3ABOVE SHORT DOWN TACK,DOUBLE DOWN TACK,1UP ~,1STROKE NOT SIGN,REVERSED DOUBLE STROKE NOT SIGN
DOES NOT DIVIDE WITH REVERSED NEGATION SLASH,VERTICAL LINE WITH CIRCLE ABOVE,4BELOW,DOWN TACK ~
PARALLEL WITH HORIZONTAL STROKE,2TILDE OPERATOR,TRIPLE VERTICAL BAR BINARY RELATION,3WITH HORIZONTAL STROKE
1COLON OPERATOR,1NESTED LESS-THAN,2GREATER-~,DOUBLE-LINE SLANTED LESS-THAN OR EQUAL TO,3GREATER-~
TRIPLE SOLIDUS BINARY RELATION,LARGE TRIPLE VERTICAL BAR OPERATOR,DOUBLE SOLIDUS OPERATOR,WHITE VERTICAL BAR
N-ARY WHITE VERTICAL BAR,NORTH EAST WHITE ARROW,1WEST ~,SOUTH EAST ~,1WEST ~,LEFT RIGHT ~,LEFTWARDS BLACK ARROW
UPWARDS ~,DOWNWARDS ~,NORTH EAST BLACK ARROW,1WEST ~,SOUTH EAST ~,1WEST ~,LEFT RIGHT ~,UP DOWN ~
RIGHTWARDS ARROW WITH TIP DOWNWARDS,4UPWARDS,LEFTWARDS ARROW WITH TIP DOWNWARDS,4UPWARDS,SQUARE WITH TOP HALF BLACK
2BOTTOM ~,2UPPER RIGHT DIAGONAL HALF BLACK,2LOWER LEFT ~,DIAMOND WITH LEFT HALF BLACK,2RIGHT ~,2TOP ~,2BOTTOM ~
DOTTED SQUARE,BLACK LARGE SQUARE,WHITE ~,BLACK VERY SMALL SQUARE,WHITE ~,BLACK PENTAGON,WHITE ~,1HEXAGON,BLACK ~
HORIZONTAL BLACK HEXAGON,BLACK LARGE CIRCLE,1MEDIUM DIAMOND,WHITE ~,BLACK MEDIUM LOZENGE,WHITE ~,BLACK SMALL DIAMOND
2LOZENGE,WHITE ~,BLACK HORIZONTAL ELLIPSE,WHITE ~,BLACK VERTICAL ~,WHITE ~,LEFT ARROW WITH SMALL CIRCLE
THREE LEFTWARDS ARROWS,LEFT ARROW WITH CIRCLED PLUS,LONG LEFTWARDS SQUIGGLE ARROW
LEFTWARDS TWO-HEADED ARROW WITH VERTICAL STROKE,5DOUBLE VERTICAL STROKE,4FROM BAR,3TRIPLE DASH ARROW
1ARROW WITH DOTTED STEM,3TAIL WITH VERTICAL STROKE,5DOUBLE VERTICAL STROKE,1TWO-HEADED ARROW WITH TAIL
5TAIL WITH VERTICAL STROKE,7DOUBLE VERTICAL STROKE,1ARROW THROUGH X,WAVE ARROW POINTING DIRECTLY LEFT
EQUALS SIGN ABOVE LEFTWARDS ARROW,REVERSE TILDE OPERATOR ABOVE LEFTWARDS ARROW
LEFTWARDS ARROW ABOVE REVERSE ALMOST EQUAL TO,RIGHTWARDS ARROW THROUGH GREATER-THAN,3SUPERSET
LEFTWARDS QUADRUPLE ARROW,RIGHTWARDS ~,REVERSE TILDE OPERATOR ABOVE RIGHTWARDS ARROW
RIGHTWARDS ARROW ABOVE REVERSE ALMOST EQUAL TO,TILDE OPERATOR ABOVE LEFTWARDS ARROW
LEFTWARDS ARROW ABOVE ALMOST EQUAL TO,3REVERSE TILDE OPERATOR,RIGHTWARDS ~,DOWNWARDS TRIANGLE-HEADED ZIGZAG ARROW
SHORT SLANTED NORTH ARROW,1BACKSLANTED SOUTH ~,WHITE MEDIUM STAR,BLACK SMALL ~,WHITE ~,BLACK RIGHT-POINTING PENTAGON
WHITE ~,HEAVY LARGE CIRCLE,1OVAL WITH OVAL INSIDE,1CIRCLE WITH CIRCLE ~,1CIRCLE,1CIRCLED SALTIRE
SLANTED NORTH ARROW WITH HOOKED HEAD,BACKSLANTED SOUTH ARROW WITH HOOKED TAIL,SLANTED NORTH ARROW WITH HORIZONTAL ~
BACKSLANTED SOUTH ~,BENT ARROW POINTING DOWNWARDS THEN NORTH EAST,SHORT BENT ARROW POINTING DOWNWARDS THEN NORTH EAST
LEFTWARDS TRIANGLE-HEADED ARROW,UPWARDS ~,RIGHTWARDS ~,DOWNWARDS ~,LEFT RIGHT TRIANGLE-HEADED ARROW,UP DOWN ~
NORTH WEST ~,1EAST ~,SOUTH ~,1WEST ~,LEFTWARDS TRIANGLE-HEADED DASHED ~,UPWARDS ~,RIGHTWARDS ~,DOWNWARDS ~
CLOCKWISE TRIANGLE-HEADED OPEN CIRCLE ARROW,ANTICLOCKWISE ~,LEFTWARDS TRIANGLE-HEADED ARROW TO BAR,UPWARDS ~
RIGHTWARDS ~,DOWNWARDS ~,@2B76,NORTH WEST TRIANGLE-HEADED ARROW TO BAR,1EAST ~,SOUTH ~,1WEST ~
LEFTWARDS TRIANGLE-HEADED ARROW WITH DOUBLE HORIZONTAL STROKE,UPWARDS ~,RIGHTWARDS ~,DOWNWARDS ~,HORIZONTAL TAB KEY
VERTICAL ~,LEFTWARDS TRIANGLE-HEADED ARROW OVER RIGHTWARDS TRIANGLE-HEADED ARROW
UPWARDS TRIANGLE-HEADED ARROW LEFTWARDS OF DOWNWARDS TRIANGLE-HEADED ARROW
RIGHTWARDS TRIANGLE-HEADED ARROW OVER LEFTWARDS TRIANGLE-HEADED ARROW
DOWNWARDS TRIANGLE-HEADED ARROW LEFTWARDS OF UPWARDS TRIANGLE-HEADED ARROW,LEFTWARDS TRIANGLE-HEADED PAIRED ARROWS
UPWARDS ~,RIGHTWARDS ~,DOWNWARDS ~,LEFTWARDS BLACK CIRCLED WHITE ARROW,UPWARDS ~,RIGHTWARDS ~,DOWNWARDS ~
ANTICLOCKWISE TRIANGLE-HEADED RIGHT U-SHAPED ARROW,3BOTTOM ~,3LEFT ~,3TOP ~,RETURN LEFT,1RIGHT,NEWLINE LEFT,1RIGHT
FOUR CORNER ARROWS CIRCLING ANTICLOCKWISE,RIGHTWARDS BLACK ARROW,@2B97,SYMBOL FOR TYPE A ELECTRONICS
THREE-D TOP-LIGHTED LEFTWARDS EQUILATERAL ARROWHEAD,2RIGHT-LIGHTED UPWARDS ~,2TOP-LIGHTED RIGHTWARDS ~
2LEFT-LIGHTED DOWNWARDS ~,BLACK LEFTWARDS EQUILATERAL ARROWHEAD,1UPWARDS ~,1RIGHTWARDS ~,1DOWNWARDS ~
DOWNWARDS TRIANGLE-HEADED ARROW WITH LONG TIP LEFTWARDS,7RIGHTWARDS
UPWARDS TRIANGLE-HEADED ARROW WITH LONG TIP LEFTWARDS,7RIGHTWARDS
LEFTWARDS TRIANGLE-HEADED ARROW WITH LONG TIP UPWARDS,RIGHTWARDS ~
LEFTWARDS TRIANGLE-HEADED ARROW WITH LONG TIP DOWNWARDS,RIGHTWARDS ~,BLACK CURVED DOWNWARDS AND LEFTWARDS ARROW
4RIGHTWARDS ~,2UPWARDS AND LEFTWARDS ~,4RIGHTWARDS ~,2LEFTWARDS AND UPWARDS ~,2RIGHTWARDS ~,2LEFTWARDS AND DOWNWARDS ~
2RIGHTWARDS ~,RIBBON ARROW DOWN LEFT,3RIGHT,2UP LEFT,3RIGHT,2LEFT UP,2RIGHT ~,2LEFT DOWN,2RIGHT ~
UPWARDS WHITE ARROW FROM BAR WITH HORIZONTAL BAR,UP ARROWHEAD IN A RECTANGLE BOX,OVERLAPPING WHITE SQUARES
2AND BLACK SQUARES,1BLACK SQUARES,BALLOT BOX WITH LIGHT X,CIRCLED X,1BOLD X,BLACK SQUARE CENTRED,1DIAMOND ~
TURNED BLACK PENTAGON,HORIZONTAL BLACK OCTAGON,BLACK OCTAGON,1MEDIUM UP-POINTING TRIANGLE CENTRED,2DOWN-~,2LEFT-~
2RIGHT-~,NEPTUNE FORM TWO,TOP HALF BLACK CIRCLE,BOTTOM ~,LIGHT FOUR POINTED BLACK CUSP
ROTATED LIGHT FOUR POINTED BLACK CUSP,WHITE FOUR POINTED CUSP,ROTATED WHITE FOUR POINTED CUSP
SQUARE POSITION INDICATOR,UNCERTAINTY SIGN,GROUP MARK,PLUTO FORM TWO,2THREE,2FOUR,2FIVE,TRANSPLUTO,PROSERPINA,ASTRAEA
HYGIEA,PHOLUS,NESSUS,WHITE MOON SELENA,BLACK DIAMOND ON CROSS,TRUE LIGHT MOON ARTA,CUPIDO,HADES,ZEUS,KRONOS,APOLLON
ADMETOS,VULCANUS,POSEIDON,LEFT HALF BLACK STAR,RIGHT ~,STAR WITH LEFT HALF BLACK,2RIGHT ~
LEFTWARDS TWO-HEADED ARROW WITH TRIANGLE ARROWHEADS,UPWARDS ~,RIGHTWARDS ~,DOWNWARDS ~,ERIS FORM ONE,2TWO,SEDNA
RUSSIAN ASTROLOGICAL SYMBOL VIGINTILE,3NOVILE,3QUINTILE,3BINOVILE,3SENTAGON,3TREDECILE,EQUALS SIGN WITH INFINITY BELOW
UNITED SYMBOL,SEPARATED ~,DOUBLED ~,PASSED ~,REVERSED RIGHT ANGLE,HELLSCHREIBER PAUSE SYMBOL
GLAGOLITIC CAPITAL LETTER AZU,3BUKY,3VEDE,3GLAGOLI,3DOBRO,3YESTU,3ZHIVETE,3DZELO,3ZEMLJA,3IZHE,3INITIAL IZHE,3I
3DJERVI,3KAKO,3LJUDIJE,3MYSLITE,3NASHI,3ONU,3POKOJI,3RITSI,3SLOVO,3TVRIDO,3UKU,3FRITU,3HERU,3OTU,3PE,3SHTA,3TSI
3CHRIVI,3SHA,3YERU,3YERI,3YATI,3SPIDERY HA,3YU,3SMALL YUS,4YUS WITH TAIL,3YO,3IOTATED SMALL YUS,3BIG YUS
3IOTATED BIG YUS,3FITA,3IZHITSA,3SHTAPIC,3TROKUTASTI A,3LATINATE MYSLITE,3CAUDATE CHRIVI,1SMALL LETTER AZU,3BUKY,3VEDE
3GLAGOLI,3DOBRO,3YESTU,3ZHIVETE,3DZELO,3ZEMLJA,3IZHE,3INITIAL IZHE,3I,3DJERVI,3KAKO,3LJUDIJE,3MYSLITE,3NASHI,3ONU
3POKOJI,3RITSI,3SLOVO,3TVRIDO,3UKU,3FRITU,3HERU,3OTU,3PE,3SHTA,3TSI,3CHRIVI,3SHA,3YERU,3YERI,3YATI,3SPIDERY HA,3YU
3SMALL YUS,4YUS WITH TAIL,3YO,3IOTATED SMALL YUS,3BIG YUS,3IOTATED BIG YUS,3FITA,3IZHITSA,3SHTAPIC,3TROKUTASTI A
3LATINATE MYSLITE,3CAUDATE CHRIVI,LATIN CAPITAL LETTER L WITH DOUBLE BAR,1SMALL ~,1CAPITAL LETTER L WITH MIDDLE TILDE
3P WITH STROKE,3R WITH TAIL,1SMALL LETTER A WITH STROKE,3T WITH DIAGONAL STROKE,1CAPITAL LETTER H WITH DESCENDER
1SMALL ~,1CAPITAL LETTER K ~,1SMALL ~,1CAPITAL LETTER Z ~,1SMALL ~,1CAPITAL LETTER ALPHA,3M WITH HOOK,3TURNED A,4ALPHA
1SMALL LETTER V WITH RIGHT HOOK,1CAPITAL LETTER W WITH HOOK,1SMALL ~,3V WITH CURL,1CAPITAL LETTER HALF H,1SMALL ~
3TAILLESS PHI,3E WITH NOTCH,3TURNED R WITH TAIL,3O WITH LOW RING INSIDE,1LETTER SMALL CAPITAL TURNED E
1SUBSCRIPT SMALL LETTER J,MODIFIER LETTER CAPITAL V,LATIN CAPITAL LETTER S WITH SWASH TAIL,3Z ~
COPTIC CAPITAL LETTER ALFA,1SMALL ~,1CAPITAL LETTER VIDA,1SMALL ~,1CAPITAL LETTER GAMMA,1SMALL ~,1CAPITAL LETTER DALDA
1SMALL ~,1CAPITAL LETTER EIE,1SMALL ~,1CAPITAL LETTER SOU,1SMALL ~,1CAPITAL LETTER ZATA,1SMALL ~,1CAPITAL LETTER HATE
1SMALL ~,1CAPITAL LETTER THETHE,1SMALL ~,1CAPITAL LETTER IAUDA,1SMALL ~,1CAPITAL LETTER KAPA,1SMALL ~
1CAPITAL LETTER LAULA,1SMALL ~,1CAPITAL LETTER MI,1SMALL ~,1CAPITAL LETTER NI,1SMALL ~,1CAPITAL LETTER KSI,1SMALL ~
1CAPITAL LETTER O,1SMALL ~,1CAPITAL LETTER PI,1SMALL ~,1CAPITAL LETTER RO,1SMALL ~,1CAPITAL LETTER SIMA,1SMALL ~
1CAPITAL LETTER TAU,1SMALL ~,1CAPITAL LETTER UA,1SMALL ~,1CAPITAL LETTER FI,1SMALL ~,1CAPITAL LETTER KHI,1SMALL ~
1CAPITAL LETTER PSI,1SMALL ~,1CAPITAL LETTER OOU,1SMALL ~,1CAPITAL LETTER DIALECT-P ALEF,1SMALL ~
1CAPITAL LETTER OLD COPTIC AIN,1SMALL ~,1CAPITAL LETTER CRYPTOGRAMMIC EIE,1SMALL ~,1CAPITAL LETTER DIALECT-P KAPA
1SMALL ~,1CAPITAL LETTER DIALECT-P NI,1SMALL ~,1CAPITAL LETTER CRYPTOGRAMMIC NI,1SMALL ~
1CAPITAL LETTER OLD COPTIC OOU,1SMALL ~,1CAPITAL LETTER SAMPI,1SMALL ~,1CAPITAL LETTER CROSSED SHEI,1SMALL ~
1CAPITAL LETTER OLD COPTIC SHEI,1SMALL ~,1CAPITAL LETTER OLD COPTIC ESH,1SMALL ~,1CAPITAL LETTER AKHMIMIC KHEI
1SMALL ~,1CAPITAL LETTER DIALECT-P HORI,1SMALL ~,1CAPITAL LETTER OLD COPTIC ~,1SMALL ~,1CAPITAL LETTER OLD COPTIC HA
1SMALL ~,1CAPITAL LETTER L-SHAPED ~,1SMALL ~,1CAPITAL LETTER OLD COPTIC HEI,1SMALL ~,1CAPITAL LETTER OLD COPTIC HAT
1SMALL ~,1CAPITAL LETTER OLD COPTIC GANGIA,1SMALL ~,1CAPITAL LETTER OLD COPTIC DJA,1SMALL ~
1CAPITAL LETTER OLD COPTIC SHIMA,1SMALL ~,1CAPITAL LETTER OLD NUBIAN ~,1SMALL ~,1CAPITAL LETTER OLD NUBIAN NGI
1SMALL ~,1CAPITAL LETTER OLD NUBIAN NYI,1SMALL ~,1CAPITAL LETTER OLD NUBIAN WAU,1SMALL ~,1SYMBOL KAI,2MI RO,2PI ~
2STAUROS,2TAU RO,2KHI ~,2SHIMA SIMA,1CAPITAL LETTER CRYPTOGRAMMIC SHEI,1SMALL ~,1CAPITAL LETTER CRYPTOGRAMMIC GANGIA
1SMALL ~,1COMBINING NI ABOVE,2SPIRITUS ASPER,3LENIS,1CAPITAL LETTER BOHAIRIC KHEI,1SMALL ~,@2CF9,1OLD NUBIAN FULL STOP
3DIRECT QUESTION MARK,3INDIRECT ~,3VERSE DIVIDER,1FRACTION ONE HALF,1FULL STOP,1MORPHOLOGICAL DIVIDER
GEORGIAN SMALL LETTER AN,3BAN,3GAN,3DON,3EN,3VIN,3ZEN,3TAN,3IN,3KAN,3LAS,3MAN,3NAR,3ON,3PAR,3ZHAR,3RAE,3SAN,3TAR,3UN
3PHAR,3KHAR,3GHAN,3QAR,3SHIN,3CHIN,3CAN,3JIL,3CIL,3CHAR,3XAN,3JHAN,3HAE,3HE,3HIE,3WE,3HAR,3HOE,@2D27,3YN,@2D2D,3AEN
@2D30,TIFINAGH LETTER YA,2YAB,2YABH,2YAG,2YAGHH,2BERBER ACADEMY YAJ,2YAJ,2YAD,2YADH,2YADD,2YADDH,2YEY,2YAF,2YAK
2TUAREG YAK,2YAKHH,2YAH,2BERBER ACADEMY YAH,2TUAREG YAH,2YAHH,2YAA,2YAKH,2TUAREG YAKH,2YAQ,2TUAREG YAQ,2YI,2YAZH
2AHAGGAR YAZH,2TUAREG ~,2YAL,+2,2TUAREG YAGN,3YANG,2YAP,2YU,2YAR,2YARR,2YAGH,2TUAREG YAGH,2AYER ~,2YAS,2YASS,2YASH
2YAT,2YATH,2YACH,2YATT,2YAV,+1,2YAY,+1,2TAWELLEMET YAZ,2YAZZ,2YE,2YO,@2D6F,1MODIFIER LETTER LABIALIZATION MARK
1SEPARATOR MARK,@2D7F,1CONSONANT JOINER,ETHIOPIC SYLLABLE LOA,2MOA,2ROA,2SOA,2SHOA,2BOA,2TOA,2COA,2NOA,2NYOA
2GLOTTAL OA,2ZOA,2DOA,2DDOA,2JOA,2THOA,2CHOA,2PHOA,2POA,2GGWA,2GGWI,2GGWEE,2GGWE,@2DA0,2SSA,2SSU,2SSI,2SSAA,2SSEE,2SSE
2SSO,@2DA8,2CCA,2CCU,2CCI,2CCAA,2CCEE,2CCE,2CCO,@2DB0,2ZZA,2ZZU,2ZZI,2ZZAA,2ZZEE,2ZZE,2ZZO,@2DB8,2CCHA,2CCHU,2CCHI
2CCHAA,2CCHEE,2CCHE,2CCHO,@2DC0,2QYA,2QYU,2QYI,2QYAA,2QYEE,2QYE,2QYO,@2DC8,2KYA,2KYU,2KYI,2KYAA,2KYEE,2KYE,2KYO,@2DD0
2XYA,2XYU,2XYI,2XYAA,2XYEE,2XYE,2XYO,@2DD8,2GYA,2GYU,2GYI,2GYAA,2GYEE,2GYE,2GYO,@2DE0,COMBINING CYRILLIC LETTER BE,3VE
3GHE,3DE,3ZHE,3ZE,3KA,3EL,+2,3O,3PE,3ER,+1,3TE,3HA,3TSE,3CHE,3SHA,3SHCHA,3FITA,3ES-TE,3A,3IE,3DJERV,3MONOGRAPH UK,3YAT
3YU,3IOTIFIED A,3LITTLE YUS,3BIG ~,3IOTIFIED BIG YUS,RIGHT ANGLE SUBSTITUTION MARKER,2DOTTED SUBSTITUTION MARKER
LEFT SUBSTITUTION BRACKET,RIGHT ~,LEFT DOTTED SUBSTITUTION BRACKET,RIGHT ~,RAISED INTERPOLATION MARKER
1DOTTED INTERPOLATION MARKER,DOTTED TRANSPOSITION MARKER,LEFT TRANSPOSITION BRACKET,RIGHT ~,RAISED SQUARE
LEFT RAISED OMISSION BRACKET,RIGHT ~,EDITORIAL CORONIS,PARAGRAPHOS,FORKED PARAGRAPHOS,REVERSED FORKED PARAGRAPHOS
HYPODIASTOLE,DOTTED OBELOS,DOWNWARDS ANCORA,UPWARDS ~,DOTTED RIGHT-POINTING ANGLE,DOUBLE OBLIQUE HYPHEN
INVERTED INTERROBANG,PALM BRANCH,HYPHEN WITH DIAERESIS,TILDE WITH RING ABOVE,LEFT LOW PARAPHRASE BRACKET,RIGHT ~
TILDE WITH DOT ABOVE,3BELOW,LEFT VERTICAL BAR WITH QUILL,RIGHT ~,TOP LEFT HALF BRACKET,1RIGHT ~,BOTTOM LEFT ~,1RIGHT ~
LEFT SIDEWAYS U ~,RIGHT ~,LEFT DOUBLE PARENTHESIS,RIGHT ~,TWO DOTS OVER ONE DOT PUNCTUATION,ONE DOT OVER TWO DOTS ~
SQUARED FOUR DOT PUNCTUATION,FIVE DOT MARK,REVERSED QUESTION ~,VERTICAL TILDE,RING POINT,WORD SEPARATOR MIDDLE DOT
TURNED COMMA,RAISED DOT,1COMMA,TURNED SEMICOLON,DAGGER WITH LEFT GUARD,2RIGHT ~,TURNED DAGGER,TOP HALF SECTION SIGN
TWO-EM DASH,THREE-~,STENOGRAPHIC FULL STOP,VERTICAL SIX DOTS,WIGGLY VERTICAL LINE,CAPITULUM,DOUBLE HYPHEN
REVERSED COMMA,DOUBLE LOW-REVERSED-9 QUOTATION MARK,DASH WITH LEFT UPTURN,DOUBLE SUSPENSION MARK,INVERTED LOW KAVYKA
2KAVYKA WITH KAVYKA ABOVE,LOW KAVYKA,1KAVYKA WITH DOT,DOUBLE STACKED COMMA,DOTTED SOLIDUS,TRIPLE DAGGER,MEDIEVAL COMMA
PARAGRAPHUS MARK,PUNCTUS ELEVATUS MARK,CORNISH VERSE DIVIDER,CROSS PATTY WITH RIGHT CROSSBAR,3LEFT ~
TIRONIAN SIGN CAPITAL ET,MEDIEVAL EXCLAMATION MARK,1QUESTION ~,LEFT SQUARE BRACKET WITH STROKE,RIGHT ~
LEFT SQUARE BRACKET WITH DOUBLE STROKE,RIGHT ~,TOP HALF LEFT PARENTHESIS,2RIGHT ~,BOTTOM HALF LEFT ~,2RIGHT ~
OBLIQUE HYPHEN,@2E80,CJK RADICAL REPEAT,2CLIFF,2SECOND ONE,3TWO,3THREE,2PERSON,2BOX,2TABLE,2KNIFE ONE,3TWO,2DIVINATION
2SEAL,2SMALL ONE,3TWO,2LAME ONE,3TWO,3THREE,3FOUR,2SNAKE,2THREAD,2SNOUT ONE,3TWO,2HEART ONE,3TWO,2HAND,2RAP,@2E9B
2CHOKE,2SUN,2MOON,2DEATH,2MOTHER,2CIVILIAN,2WATER ONE,3TWO,2FIRE,2PAW ONE,3TWO,2SIMPLIFIED HALF TREE TRUNK,2COW,2DOG
2JADE,2BOLT OF CLOTH,2EYE,2SPIRIT ONE,3TWO,2BAMBOO,2SILK,2C-SIMPLIFIED SILK,2NET ONE,3TWO,3THREE,3FOUR,2MESH,2SHEEP
2RAM,2EWE,2OLD,2BRUSH ONE,3TWO,2MEAT,2MORTAR,2GRASS ONE,3TWO,3THREE,2TIGER,2CLOTHES,2WEST ONE,3TWO,2C-SIMPLIFIED SEE
2SIMPLIFIED HORN,2HORN,2C-SIMPLIFIED SPEECH,4SHELL,2FOOT,2C-SIMPLIFIED CART,2SIMPLIFIED WALK,2WALK ONE,3TWO,2CITY
2C-SIMPLIFIED GOLD,2LONG ONE,3TWO,2C-SIMPLIFIED LONG,4GATE,2MOUND ONE,3TWO,2RAIN,2BLUE,2C-SIMPLIFIED TANNED LEATHER
4LEAF,4WIND,4FLY,2EAT ONE,3TWO,3THREE,2C-SIMPLIFIED EAT,2HEAD,2C-SIMPLIFIED HORSE,2BONE,2GHOST,2C-SIMPLIFIED FISH
4BIRD,4SALT,2SIMPLIFIED WHEAT,3YELLOW,2C-SIMPLIFIED FROG,2J-SIMPLIFIED EVEN,2C-~,2J-SIMPLIFIED TOOTH,2C-~
2J-SIMPLIFIED DRAGON,2C-~,2TURTLE,2J-SIMPLIFIED TURTLE,2C-~,@2F00,KANGXI RADICAL ONE,2LINE,2DOT,2SLASH,2SECOND,2HOOK
2TWO,2LID,2MAN,2LEGS,2ENTER,2EIGHT,2DOWN BOX,2COVER,2ICE,2TABLE,2OPEN BOX,2KNIFE,2POWER,2WRAP,2SPOON,2RIGHT OPEN BOX
2HIDING ENCLOSURE,2TEN,2DIVINATION,2SEAL,2CLIFF,2PRIVATE,2AGAIN,2MOUTH,2ENCLOSURE,2EARTH,2SCHOLAR,2GO,2GO SLOWLY
2EVENING,2BIG,2WOMAN,2CHILD,2ROOF,2INCH,2SMALL,2LAME,2CORPSE,2SPROUT,2MOUNTAIN,2RIVER,2WORK,2ONESELF,2TURBAN,2DRY
2SHORT THREAD,2DOTTED CLIFF,2LONG STRIDE,2TWO HANDS,2SHOOT,2BOW,2SNOUT,2BRISTLE,2STEP,2HEART,2HALBERD,2DOOR,2HAND
2BRANCH,2RAP,2SCRIPT,2DIPPER,2AXE,2SQUARE,2NOT,2SUN,2SAY,2MOON,2TREE,2LACK,2STOP,2DEATH,2WEAPON,2DO NOT,2COMPARE,2FUR
2CLAN,2STEAM,2WATER,2FIRE,2CLAW,2FATHER,2DOUBLE X,2HALF TREE TRUNK,2SLICE,2FANG,2COW,2DOG,2PROFOUND,2JADE,2MELON,2TILE
2SWEET,2LIFE,2USE,2FIELD,2BOLT OF CLOTH,2SICKNESS,2DOTTED TENT,2WHITE,2SKIN,2DISH,2EYE,2SPEAR,2ARROW,2STONE,2SPIRIT
2TRACK,2GRAIN,2CAVE,2STAND,2BAMBOO,2RICE,2SILK,2JAR,2NET,2SHEEP,2FEATHER,2OLD,2AND,2PLOW,2EAR,2BRUSH,2MEAT,2MINISTER
2SELF,2ARRIVE,2MORTAR,2TONGUE,2OPPOSE,2BOAT,2STOPPING,2COLOR,2GRASS,2TIGER,2INSECT,2BLOOD,2WALK ENCLOSURE,2CLOTHES
2WEST,2SEE,2HORN,2SPEECH,2VALLEY,2BEAN,2PIG,2BADGER,2SHELL,2RED,2RUN,2FOOT,2BODY,2CART,2BITTER,2MORNING,2WALK,2CITY
2WINE,2DISTINGUISH,2VILLAGE,2GOLD,2LONG,2GATE,2MOUND,2SLAVE,2SHORT TAILED BIRD,2RAIN,2BLUE,2WRONG,2FACE,2LEATHER
2TANNED LEATHER,2LEEK,2SOUND,2LEAF,2WIND,2FLY,2EAT,2HEAD,2FRAGRANT,2HORSE,2BONE,2TALL,2HAIR,2FIGHT,2SACRIFICIAL WINE
2CAULDRON,2GHOST,2FISH,2BIRD,2SALT,2DEER,2WHEAT,2HEMP,2YELLOW,2MILLET,2BLACK,2EMBROIDERY,2FROG,2TRIPOD,2DRUM,2RAT
2NOSE,2EVEN,2TOOTH,2DRAGON,2TURTLE,2FLUTE,@2FF0,IDEOGRAPHIC DESCRIPTION CHARACTER LEFT TO RIGHT,3ABOVE TO BELOW
3LEFT TO MIDDLE AND RIGHT,3ABOVE TO MIDDLE AND BELOW,3FULL SURROUND,3SURROUND FROM ABOVE,5BELOW,5LEFT,5UPPER LEFT
6RIGHT,5LOWER LEFT,3OVERLAID"

end CodeAtlas.Text.Name
