import TwoWay.Text.Name.Basic

/-!
# Names of characters: alphabets of Europe and the Near East
-/

namespace TwoWay.Text

/-- The names from 0x0 to 0x8ff. -/
def alphabetNames : List NameRun := [
  ⟨0x20, "", "SPACE;EXCLAMATION MARK;QUOTATION MARK;NUMBER SIGN;DOLLAR SIGN;PERCENT SIGN;
    AMPERSAND;APOSTROPHE;LEFT PARENTHESIS;RIGHT PARENTHESIS;ASTERISK;PLUS SIGN;COMMA;HYPHEN-MINUS;
    FULL STOP;SOLIDUS"⟩,
  ⟨0x30, "DIGIT ", "ZERO;ONE;TWO;THREE;FOUR;FIVE;SIX;SEVEN;EIGHT;NINE"⟩,
  ⟨0x3a, "", "COLON;SEMICOLON;LESS-THAN SIGN;EQUALS SIGN;GREATER-THAN SIGN;QUESTION MARK;
    COMMERCIAL AT"⟩,
  ⟨0x41, "LATIN CAPITAL LETTER ", "A;B;C;D;E;F;G;H;I;J;K;L;M;N;O;P;Q;R;S;T;U;V;W;X;Y;Z"⟩,
  ⟨0x5b, "", "LEFT SQUARE BRACKET;REVERSE SOLIDUS;RIGHT SQUARE BRACKET;CIRCUMFLEX ACCENT;LOW LINE;
    GRAVE ACCENT"⟩,
  ⟨0x61, "LATIN SMALL LETTER ", "A;B;C;D;E;F;G;H;I;J;K;L;M;N;O;P;Q;R;S;T;U;V;W;X;Y;Z"⟩,
  ⟨0x7b, "", "LEFT CURLY BRACKET;VERTICAL LINE;RIGHT CURLY BRACKET;TILDE"⟩,
  ⟨0xa0, "", "NO-BREAK SPACE;INVERTED EXCLAMATION MARK;CENT SIGN;POUND SIGN;CURRENCY SIGN;
    YEN SIGN;BROKEN BAR;SECTION SIGN;DIAERESIS;COPYRIGHT SIGN;FEMININE ORDINAL INDICATOR;
    LEFT-POINTING DOUBLE ANGLE QUOTATION MARK;NOT SIGN;SOFT HYPHEN;REGISTERED SIGN;MACRON;
    DEGREE SIGN;PLUS-MINUS SIGN;SUPERSCRIPT TWO;SUPERSCRIPT THREE;ACUTE ACCENT;MICRO SIGN;
    PILCROW SIGN;MIDDLE DOT;CEDILLA;SUPERSCRIPT ONE;MASCULINE ORDINAL INDICATOR;
    RIGHT-POINTING DOUBLE ANGLE QUOTATION MARK"⟩,
  ⟨0xbc, "VULGAR FRACTION ", "ONE QUARTER;ONE HALF;THREE QUARTERS"⟩,
  ⟨0xbf, "", "INVERTED QUESTION MARK"⟩,
  ⟨0xc0, "LATIN CAPITAL LETTER ", "A WITH GRAVE;A WITH ACUTE;A WITH CIRCUMFLEX;A WITH TILDE;
    A WITH DIAERESIS;A WITH RING ABOVE;AE;C WITH CEDILLA;E WITH GRAVE;E WITH ACUTE;
    E WITH CIRCUMFLEX;E WITH DIAERESIS;I WITH GRAVE;I WITH ACUTE;I WITH CIRCUMFLEX;
    I WITH DIAERESIS;ETH;N WITH TILDE;O WITH GRAVE;O WITH ACUTE;O WITH CIRCUMFLEX;O WITH TILDE;
    O WITH DIAERESIS"⟩,
  ⟨0xd7, "", "MULTIPLICATION SIGN"⟩,
  ⟨0xd8, "LATIN CAPITAL LETTER ", "O WITH STROKE;U WITH GRAVE;U WITH ACUTE;U WITH CIRCUMFLEX;
    U WITH DIAERESIS;Y WITH ACUTE;THORN"⟩,
  ⟨0xdf, "LATIN SMALL LETTER ", "SHARP S;A WITH GRAVE;A WITH ACUTE;A WITH CIRCUMFLEX;A WITH TILDE;
    A WITH DIAERESIS;A WITH RING ABOVE;AE;C WITH CEDILLA;E WITH GRAVE;E WITH ACUTE;
    E WITH CIRCUMFLEX;E WITH DIAERESIS;I WITH GRAVE;I WITH ACUTE;I WITH CIRCUMFLEX;
    I WITH DIAERESIS;ETH;N WITH TILDE;O WITH GRAVE;O WITH ACUTE;O WITH CIRCUMFLEX;O WITH TILDE;
    O WITH DIAERESIS"⟩,
  ⟨0xf7, "", "DIVISION SIGN"⟩,
  ⟨0xf8, "LATIN SMALL LETTER ", "O WITH STROKE;U WITH GRAVE;U WITH ACUTE;U WITH CIRCUMFLEX;
    U WITH DIAERESIS;Y WITH ACUTE;THORN;Y WITH DIAERESIS"⟩,
  ⟨0x100, "LATIN ", "CAPITAL LETTER A WITH MACRON;SMALL LETTER A WITH MACRON;
    CAPITAL LETTER A WITH BREVE;SMALL LETTER A WITH BREVE;CAPITAL LETTER A WITH OGONEK;
    SMALL LETTER A WITH OGONEK;CAPITAL LETTER C WITH ACUTE;SMALL LETTER C WITH ACUTE;
    CAPITAL LETTER C WITH CIRCUMFLEX;SMALL LETTER C WITH CIRCUMFLEX;
    CAPITAL LETTER C WITH DOT ABOVE;SMALL LETTER C WITH DOT ABOVE;CAPITAL LETTER C WITH CARON;
    SMALL LETTER C WITH CARON;CAPITAL LETTER D WITH CARON;SMALL LETTER D WITH CARON;
    CAPITAL LETTER D WITH STROKE;SMALL LETTER D WITH STROKE;CAPITAL LETTER E WITH MACRON;
    SMALL LETTER E WITH MACRON;CAPITAL LETTER E WITH BREVE;SMALL LETTER E WITH BREVE;
    CAPITAL LETTER E WITH DOT ABOVE;SMALL LETTER E WITH DOT ABOVE;CAPITAL LETTER E WITH OGONEK;
    SMALL LETTER E WITH OGONEK;CAPITAL LETTER E WITH CARON;SMALL LETTER E WITH CARON;
    CAPITAL LETTER G WITH CIRCUMFLEX;SMALL LETTER G WITH CIRCUMFLEX;CAPITAL LETTER G WITH BREVE;
    SMALL LETTER G WITH BREVE;CAPITAL LETTER G WITH DOT ABOVE;SMALL LETTER G WITH DOT ABOVE;
    CAPITAL LETTER G WITH CEDILLA;SMALL LETTER G WITH CEDILLA;CAPITAL LETTER H WITH CIRCUMFLEX;
    SMALL LETTER H WITH CIRCUMFLEX;CAPITAL LETTER H WITH STROKE;SMALL LETTER H WITH STROKE;
    CAPITAL LETTER I WITH TILDE;SMALL LETTER I WITH TILDE;CAPITAL LETTER I WITH MACRON;
    SMALL LETTER I WITH MACRON;CAPITAL LETTER I WITH BREVE;SMALL LETTER I WITH BREVE;
    CAPITAL LETTER I WITH OGONEK;SMALL LETTER I WITH OGONEK;CAPITAL LETTER I WITH DOT ABOVE;
    SMALL LETTER DOTLESS I;CAPITAL LIGATURE IJ;SMALL LIGATURE IJ;CAPITAL LETTER J WITH CIRCUMFLEX;
    SMALL LETTER J WITH CIRCUMFLEX;CAPITAL LETTER K WITH CEDILLA;SMALL LETTER K WITH CEDILLA;
    SMALL LETTER KRA;CAPITAL LETTER L WITH ACUTE;SMALL LETTER L WITH ACUTE;
    CAPITAL LETTER L WITH CEDILLA;SMALL LETTER L WITH CEDILLA;CAPITAL LETTER L WITH CARON;
    SMALL LETTER L WITH CARON;CAPITAL LETTER L WITH MIDDLE DOT;SMALL LETTER L WITH MIDDLE DOT;
    CAPITAL LETTER L WITH STROKE;SMALL LETTER L WITH STROKE;CAPITAL LETTER N WITH ACUTE;
    SMALL LETTER N WITH ACUTE;CAPITAL LETTER N WITH CEDILLA;SMALL LETTER N WITH CEDILLA;
    CAPITAL LETTER N WITH CARON;SMALL LETTER N WITH CARON;SMALL LETTER N PRECEDED BY APOSTROPHE;
    CAPITAL LETTER ENG;SMALL LETTER ENG;CAPITAL LETTER O WITH MACRON;SMALL LETTER O WITH MACRON;
    CAPITAL LETTER O WITH BREVE;SMALL LETTER O WITH BREVE;CAPITAL LETTER O WITH DOUBLE ACUTE;
    SMALL LETTER O WITH DOUBLE ACUTE;CAPITAL LIGATURE OE;SMALL LIGATURE OE;
    CAPITAL LETTER R WITH ACUTE;SMALL LETTER R WITH ACUTE;CAPITAL LETTER R WITH CEDILLA;
    SMALL LETTER R WITH CEDILLA;CAPITAL LETTER R WITH CARON;SMALL LETTER R WITH CARON;
    CAPITAL LETTER S WITH ACUTE;SMALL LETTER S WITH ACUTE;CAPITAL LETTER S WITH CIRCUMFLEX;
    SMALL LETTER S WITH CIRCUMFLEX;CAPITAL LETTER S WITH CEDILLA;SMALL LETTER S WITH CEDILLA;
    CAPITAL LETTER S WITH CARON;SMALL LETTER S WITH CARON;CAPITAL LETTER T WITH CEDILLA;
    SMALL LETTER T WITH CEDILLA;CAPITAL LETTER T WITH CARON;SMALL LETTER T WITH CARON;
    CAPITAL LETTER T WITH STROKE;SMALL LETTER T WITH STROKE;CAPITAL LETTER U WITH TILDE;
    SMALL LETTER U WITH TILDE;CAPITAL LETTER U WITH MACRON;SMALL LETTER U WITH MACRON;
    CAPITAL LETTER U WITH BREVE;SMALL LETTER U WITH BREVE;CAPITAL LETTER U WITH RING ABOVE;
    SMALL LETTER U WITH RING ABOVE;CAPITAL LETTER U WITH DOUBLE ACUTE;
    SMALL LETTER U WITH DOUBLE ACUTE;CAPITAL LETTER U WITH OGONEK;SMALL LETTER U WITH OGONEK;
    CAPITAL LETTER W WITH CIRCUMFLEX;SMALL LETTER W WITH CIRCUMFLEX;
    CAPITAL LETTER Y WITH CIRCUMFLEX;SMALL LETTER Y WITH CIRCUMFLEX;
    CAPITAL LETTER Y WITH DIAERESIS;CAPITAL LETTER Z WITH ACUTE;SMALL LETTER Z WITH ACUTE;
    CAPITAL LETTER Z WITH DOT ABOVE;SMALL LETTER Z WITH DOT ABOVE;CAPITAL LETTER Z WITH CARON;
    SMALL LETTER Z WITH CARON;SMALL LETTER LONG S;SMALL LETTER B WITH STROKE;
    CAPITAL LETTER B WITH HOOK;CAPITAL LETTER B WITH TOPBAR;SMALL LETTER B WITH TOPBAR;
    CAPITAL LETTER TONE SIX;SMALL LETTER TONE SIX;CAPITAL LETTER OPEN O;
    CAPITAL LETTER C WITH HOOK;SMALL LETTER C WITH HOOK;CAPITAL LETTER AFRICAN D;
    CAPITAL LETTER D WITH HOOK;CAPITAL LETTER D WITH TOPBAR;SMALL LETTER D WITH TOPBAR;
    SMALL LETTER TURNED DELTA"⟩,
  ⟨0x18e, "LATIN CAPITAL LETTER ", "REVERSED E;SCHWA;OPEN E;F WITH HOOK"⟩,
  ⟨0x192, "LATIN ", "SMALL LETTER F WITH HOOK;CAPITAL LETTER G WITH HOOK;CAPITAL LETTER GAMMA;
    SMALL LETTER HV;CAPITAL LETTER IOTA;CAPITAL LETTER I WITH STROKE;CAPITAL LETTER K WITH HOOK;
    SMALL LETTER K WITH HOOK;SMALL LETTER L WITH BAR;SMALL LETTER LAMBDA WITH STROKE;
    CAPITAL LETTER TURNED M;CAPITAL LETTER N WITH LEFT HOOK;SMALL LETTER N WITH LONG RIGHT LEG;
    CAPITAL LETTER O WITH MIDDLE TILDE;CAPITAL LETTER O WITH HORN;SMALL LETTER O WITH HORN;
    CAPITAL LETTER OI;SMALL LETTER OI;CAPITAL LETTER P WITH HOOK;SMALL LETTER P WITH HOOK;
    LETTER YR;CAPITAL LETTER TONE TWO;SMALL LETTER TONE TWO;CAPITAL LETTER ESH;
    LETTER REVERSED ESH LOOP;SMALL LETTER T WITH PALATAL HOOK;CAPITAL LETTER T WITH HOOK;
    SMALL LETTER T WITH HOOK;CAPITAL LETTER T WITH RETROFLEX HOOK;CAPITAL LETTER U WITH HORN;
    SMALL LETTER U WITH HORN;CAPITAL LETTER UPSILON;CAPITAL LETTER V WITH HOOK;
    CAPITAL LETTER Y WITH HOOK;SMALL LETTER Y WITH HOOK;CAPITAL LETTER Z WITH STROKE;
    SMALL LETTER Z WITH STROKE;CAPITAL LETTER EZH;CAPITAL LETTER EZH REVERSED;
    SMALL LETTER EZH REVERSED;SMALL LETTER EZH WITH TAIL;LETTER TWO WITH STROKE;
    CAPITAL LETTER TONE FIVE;SMALL LETTER TONE FIVE;LETTER INVERTED GLOTTAL STOP WITH STROKE;
    LETTER WYNN;LETTER DENTAL CLICK;LETTER LATERAL CLICK;LETTER ALVEOLAR CLICK;
    LETTER RETROFLEX CLICK;CAPITAL LETTER DZ WITH CARON;
    CAPITAL LETTER D WITH SMALL LETTER Z WITH CARON;SMALL LETTER DZ WITH CARON;CAPITAL LETTER LJ;
    CAPITAL LETTER L WITH SMALL LETTER J;SMALL LETTER LJ;CAPITAL LETTER NJ;
    CAPITAL LETTER N WITH SMALL LETTER J;SMALL LETTER NJ;CAPITAL LETTER A WITH CARON;
    SMALL LETTER A WITH CARON;CAPITAL LETTER I WITH CARON;SMALL LETTER I WITH CARON;
    CAPITAL LETTER O WITH CARON;SMALL LETTER O WITH CARON;CAPITAL LETTER U WITH CARON;
    SMALL LETTER U WITH CARON;CAPITAL LETTER U WITH DIAERESIS AND MACRON;
    SMALL LETTER U WITH DIAERESIS AND MACRON;CAPITAL LETTER U WITH DIAERESIS AND ACUTE;
    SMALL LETTER U WITH DIAERESIS AND ACUTE;CAPITAL LETTER U WITH DIAERESIS AND CARON;
    SMALL LETTER U WITH DIAERESIS AND CARON;CAPITAL LETTER U WITH DIAERESIS AND GRAVE;
    SMALL LETTER U WITH DIAERESIS AND GRAVE;SMALL LETTER TURNED E;
    CAPITAL LETTER A WITH DIAERESIS AND MACRON;SMALL LETTER A WITH DIAERESIS AND MACRON;
    CAPITAL LETTER A WITH DOT ABOVE AND MACRON;SMALL LETTER A WITH DOT ABOVE AND MACRON;
    CAPITAL LETTER AE WITH MACRON;SMALL LETTER AE WITH MACRON;CAPITAL LETTER G WITH STROKE;
    SMALL LETTER G WITH STROKE;CAPITAL LETTER G WITH CARON;SMALL LETTER G WITH CARON;
    CAPITAL LETTER K WITH CARON;SMALL LETTER K WITH CARON;CAPITAL LETTER O WITH OGONEK;
    SMALL LETTER O WITH OGONEK;CAPITAL LETTER O WITH OGONEK AND MACRON;
    SMALL LETTER O WITH OGONEK AND MACRON;CAPITAL LETTER EZH WITH CARON;
    SMALL LETTER EZH WITH CARON;SMALL LETTER J WITH CARON;CAPITAL LETTER DZ;
    CAPITAL LETTER D WITH SMALL LETTER Z;SMALL LETTER DZ;CAPITAL LETTER G WITH ACUTE;
    SMALL LETTER G WITH ACUTE;CAPITAL LETTER HWAIR;CAPITAL LETTER WYNN;
    CAPITAL LETTER N WITH GRAVE;SMALL LETTER N WITH GRAVE;
    CAPITAL LETTER A WITH RING ABOVE AND ACUTE;SMALL LETTER A WITH RING ABOVE AND ACUTE;
    CAPITAL LETTER AE WITH ACUTE;SMALL LETTER AE WITH ACUTE;
    CAPITAL LETTER O WITH STROKE AND ACUTE;SMALL LETTER O WITH STROKE AND ACUTE;
    CAPITAL LETTER A WITH DOUBLE GRAVE;SMALL LETTER A WITH DOUBLE GRAVE;
    CAPITAL LETTER A WITH INVERTED BREVE;SMALL LETTER A WITH INVERTED BREVE;
    CAPITAL LETTER E WITH DOUBLE GRAVE;SMALL LETTER E WITH DOUBLE GRAVE;
    CAPITAL LETTER E WITH INVERTED BREVE;SMALL LETTER E WITH INVERTED BREVE;
    CAPITAL LETTER I WITH DOUBLE GRAVE;SMALL LETTER I WITH DOUBLE GRAVE;
    CAPITAL LETTER I WITH INVERTED BREVE;SMALL LETTER I WITH INVERTED BREVE;
    CAPITAL LETTER O WITH DOUBLE GRAVE;SMALL LETTER O WITH DOUBLE GRAVE;
    CAPITAL LETTER O WITH INVERTED BREVE;SMALL LETTER O WITH INVERTED BREVE;
    CAPITAL LETTER R WITH DOUBLE GRAVE;SMALL LETTER R WITH DOUBLE GRAVE;
    CAPITAL LETTER R WITH INVERTED BREVE;SMALL LETTER R WITH INVERTED BREVE;
    CAPITAL LETTER U WITH DOUBLE GRAVE;SMALL LETTER U WITH DOUBLE GRAVE;
    CAPITAL LETTER U WITH INVERTED BREVE;SMALL LETTER U WITH INVERTED BREVE;
    CAPITAL LETTER S WITH COMMA BELOW;SMALL LETTER S WITH COMMA BELOW;
    CAPITAL LETTER T WITH COMMA BELOW;SMALL LETTER T WITH COMMA BELOW;CAPITAL LETTER YOGH;
    SMALL LETTER YOGH;CAPITAL LETTER H WITH CARON;SMALL LETTER H WITH CARON;
    CAPITAL LETTER N WITH LONG RIGHT LEG;SMALL LETTER D WITH CURL;CAPITAL LETTER OU;
    SMALL LETTER OU;CAPITAL LETTER Z WITH HOOK;SMALL LETTER Z WITH HOOK;
    CAPITAL LETTER A WITH DOT ABOVE;SMALL LETTER A WITH DOT ABOVE;CAPITAL LETTER E WITH CEDILLA;
    SMALL LETTER E WITH CEDILLA;CAPITAL LETTER O WITH DIAERESIS AND MACRON;
    SMALL LETTER O WITH DIAERESIS AND MACRON;CAPITAL LETTER O WITH TILDE AND MACRON;
    SMALL LETTER O WITH TILDE AND MACRON;CAPITAL LETTER O WITH DOT ABOVE;
    SMALL LETTER O WITH DOT ABOVE;CAPITAL LETTER O WITH DOT ABOVE AND MACRON;
    SMALL LETTER O WITH DOT ABOVE AND MACRON;CAPITAL LETTER Y WITH MACRON"⟩,
  ⟨0x233, "LATIN SMALL LETTER ", "Y WITH MACRON;L WITH CURL;N WITH CURL;T WITH CURL;DOTLESS J;
    DB DIGRAPH;QP DIGRAPH"⟩,
  ⟨0x23a, "LATIN ", "CAPITAL LETTER A WITH STROKE;CAPITAL LETTER C WITH STROKE;
    SMALL LETTER C WITH STROKE;CAPITAL LETTER L WITH BAR;CAPITAL LETTER T WITH DIAGONAL STROKE;
    SMALL LETTER S WITH SWASH TAIL;SMALL LETTER Z WITH SWASH TAIL;CAPITAL LETTER GLOTTAL STOP;
    SMALL LETTER GLOTTAL STOP"⟩,
  ⟨0x243, "LATIN CAPITAL LETTER ", "B WITH STROKE;U BAR;TURNED V;E WITH STROKE"⟩,
  ⟨0x247, "LATIN ", "SMALL LETTER E WITH STROKE;CAPITAL LETTER J WITH STROKE;
    SMALL LETTER J WITH STROKE;CAPITAL LETTER SMALL Q WITH HOOK TAIL;
    SMALL LETTER Q WITH HOOK TAIL;CAPITAL LETTER R WITH STROKE;SMALL LETTER R WITH STROKE;
    CAPITAL LETTER Y WITH STROKE"⟩,
  ⟨0x24f, "LATIN SMALL LETTER ", "Y WITH STROKE;TURNED A;ALPHA;TURNED ALPHA;B WITH HOOK;OPEN O;
    C WITH CURL;D WITH TAIL;D WITH HOOK;REVERSED E;SCHWA;SCHWA WITH HOOK;OPEN E;REVERSED OPEN E;
    REVERSED OPEN E WITH HOOK;CLOSED REVERSED OPEN E;DOTLESS J WITH STROKE;G WITH HOOK;SCRIPT G"⟩,
  ⟨0x262, "", "LATIN LETTER SMALL CAPITAL G"⟩,
  ⟨0x263, "LATIN SMALL LETTER ", "GAMMA;RAMS HORN;TURNED H;H WITH HOOK;HENG WITH HOOK;
    I WITH STROKE;IOTA"⟩,
  ⟨0x26a, "", "LATIN LETTER SMALL CAPITAL I"⟩,
  ⟨0x26b, "LATIN SMALL LETTER ", "L WITH MIDDLE TILDE;L WITH BELT;L WITH RETROFLEX HOOK;LEZH;
    TURNED M;TURNED M WITH LONG LEG;M WITH HOOK;N WITH LEFT HOOK;N WITH RETROFLEX HOOK"⟩,
  ⟨0x274, "LATIN ", "LETTER SMALL CAPITAL N;SMALL LETTER BARRED O;LETTER SMALL CAPITAL OE"⟩,
  ⟨0x277, "LATIN SMALL LETTER ", "CLOSED OMEGA;PHI;TURNED R;TURNED R WITH LONG LEG;
    TURNED R WITH HOOK;R WITH LONG LEG;R WITH TAIL;R WITH FISHHOOK;REVERSED R WITH FISHHOOK"⟩,
  ⟨0x280, "LATIN LETTER SMALL CAPITAL ", "R;INVERTED R"⟩,
  ⟨0x282, "LATIN SMALL LETTER ", "S WITH HOOK;ESH;DOTLESS J WITH STROKE AND HOOK;
    SQUAT REVERSED ESH;ESH WITH CURL;TURNED T;T WITH RETROFLEX HOOK;U BAR;UPSILON;V WITH HOOK;
    TURNED V;TURNED W;TURNED Y"⟩,
  ⟨0x28f, "", "LATIN LETTER SMALL CAPITAL Y"⟩,
  ⟨0x290, "LATIN SMALL LETTER ", "Z WITH RETROFLEX HOOK;Z WITH CURL;EZH;EZH WITH CURL"⟩,
  ⟨0x294, "LATIN LETTER ", "GLOTTAL STOP;PHARYNGEAL VOICED FRICATIVE;INVERTED GLOTTAL STOP;
    STRETCHED C;BILABIAL CLICK;SMALL CAPITAL B"⟩,
  ⟨0x29a, "LATIN ", "SMALL LETTER CLOSED OPEN E;LETTER SMALL CAPITAL G WITH HOOK;
    LETTER SMALL CAPITAL H;SMALL LETTER J WITH CROSSED-TAIL;SMALL LETTER TURNED K;
    LETTER SMALL CAPITAL L;SMALL LETTER Q WITH HOOK;LETTER GLOTTAL STOP WITH STROKE;
    LETTER REVERSED GLOTTAL STOP WITH STROKE"⟩,
  ⟨0x2a3, "LATIN SMALL LETTER ", "DZ DIGRAPH;DEZH DIGRAPH;DZ DIGRAPH WITH CURL;TS DIGRAPH;
    TESH DIGRAPH;TC DIGRAPH WITH CURL;FENG DIGRAPH;LS DIGRAPH;LZ DIGRAPH"⟩,
  ⟨0x2ac, "LATIN LETTER ", "BILABIAL PERCUSSIVE;BIDENTAL PERCUSSIVE"⟩,
  ⟨0x2ae, "LATIN SMALL LETTER TURNED H WITH ", "FISHHOOK;FISHHOOK AND TAIL"⟩,
  ⟨0x2b0, "MODIFIER LETTER SMALL ", "H;H WITH HOOK;J;R;TURNED R;TURNED R WITH HOOK;
    CAPITAL INVERTED R;W;Y"⟩,
  ⟨0x2b9, "MODIFIER LETTER ", "PRIME;DOUBLE PRIME;TURNED COMMA;APOSTROPHE;REVERSED COMMA;
    RIGHT HALF RING;LEFT HALF RING;GLOTTAL STOP;REVERSED GLOTTAL STOP;LEFT ARROWHEAD;
    RIGHT ARROWHEAD;UP ARROWHEAD;DOWN ARROWHEAD;CIRCUMFLEX ACCENT"⟩,
  ⟨0x2c7, "", "CARON"⟩,
  ⟨0x2c8, "MODIFIER LETTER ", "VERTICAL LINE;MACRON;ACUTE ACCENT;GRAVE ACCENT;LOW VERTICAL LINE;
    LOW MACRON;LOW GRAVE ACCENT;LOW ACUTE ACCENT;TRIANGULAR COLON;HALF TRIANGULAR COLON;
    CENTRED RIGHT HALF RING;CENTRED LEFT HALF RING;UP TACK;DOWN TACK;PLUS SIGN;MINUS SIGN"⟩,
  ⟨0x2d8, "", "BREVE;DOT ABOVE;RING ABOVE;OGONEK;SMALL TILDE;DOUBLE ACUTE ACCENT"⟩,
  ⟨0x2de, "MODIFIER LETTER ", "RHOTIC HOOK;CROSS ACCENT;SMALL GAMMA;SMALL L;SMALL S;SMALL X;
    SMALL REVERSED GLOTTAL STOP;EXTRA-HIGH TONE BAR;HIGH TONE BAR;MID TONE BAR;LOW TONE BAR;
    EXTRA-LOW TONE BAR;YIN DEPARTING TONE MARK;YANG DEPARTING TONE MARK;VOICING;UNASPIRATED;
    DOUBLE APOSTROPHE;LOW DOWN ARROWHEAD;LOW UP ARROWHEAD;LOW LEFT ARROWHEAD;LOW RIGHT ARROWHEAD;
    LOW RING;MIDDLE GRAVE ACCENT;MIDDLE DOUBLE GRAVE ACCENT;MIDDLE DOUBLE ACUTE ACCENT;LOW TILDE;
    RAISED COLON;BEGIN HIGH TONE;END HIGH TONE;BEGIN LOW TONE;END LOW TONE;SHELF;OPEN SHELF;
    LOW LEFT ARROW"⟩,
  ⟨0x300, "COMBINING ", "GRAVE ACCENT;ACUTE ACCENT;CIRCUMFLEX ACCENT;TILDE;MACRON;OVERLINE;BREVE;
    DOT ABOVE;DIAERESIS;HOOK ABOVE;RING ABOVE;DOUBLE ACUTE ACCENT;CARON;VERTICAL LINE ABOVE;
    DOUBLE VERTICAL LINE ABOVE;DOUBLE GRAVE ACCENT;CANDRABINDU;INVERTED BREVE;TURNED COMMA ABOVE;
    COMMA ABOVE;REVERSED COMMA ABOVE;COMMA ABOVE RIGHT;GRAVE ACCENT BELOW;ACUTE ACCENT BELOW;
    LEFT TACK BELOW;RIGHT TACK BELOW;LEFT ANGLE ABOVE;HORN;LEFT HALF RING BELOW;UP TACK BELOW;
    DOWN TACK BELOW;PLUS SIGN BELOW;MINUS SIGN BELOW;PALATALIZED HOOK BELOW;RETROFLEX HOOK BELOW;
    DOT BELOW;DIAERESIS BELOW;RING BELOW;COMMA BELOW;CEDILLA;OGONEK;VERTICAL LINE BELOW;
    BRIDGE BELOW;INVERTED DOUBLE ARCH BELOW;CARON BELOW;CIRCUMFLEX ACCENT BELOW;BREVE BELOW;
    INVERTED BREVE BELOW;TILDE BELOW;MACRON BELOW;LOW LINE;DOUBLE LOW LINE;TILDE OVERLAY;
    SHORT STROKE OVERLAY;LONG STROKE OVERLAY;SHORT SOLIDUS OVERLAY;LONG SOLIDUS OVERLAY;
    RIGHT HALF RING BELOW;INVERTED BRIDGE BELOW;SQUARE BELOW;SEAGULL BELOW;X ABOVE;VERTICAL TILDE;
    DOUBLE OVERLINE;GRAVE TONE MARK;ACUTE TONE MARK;GREEK PERISPOMENI;GREEK KORONIS;
    GREEK DIALYTIKA TONOS;GREEK YPOGEGRAMMENI;BRIDGE ABOVE;EQUALS SIGN BELOW;
    DOUBLE VERTICAL LINE BELOW;LEFT ANGLE BELOW;NOT TILDE ABOVE;HOMOTHETIC ABOVE;
    ALMOST EQUAL TO ABOVE;LEFT RIGHT ARROW BELOW;UPWARDS ARROW BELOW;GRAPHEME JOINER;
    RIGHT ARROWHEAD ABOVE;LEFT HALF RING ABOVE;FERMATA;X BELOW;LEFT ARROWHEAD BELOW;
    RIGHT ARROWHEAD BELOW;RIGHT ARROWHEAD AND UP ARROWHEAD BELOW;RIGHT HALF RING ABOVE;
    DOT ABOVE RIGHT;ASTERISK BELOW;DOUBLE RING BELOW;ZIGZAG ABOVE"⟩,
  ⟨0x35c, "COMBINING DOUBLE ", "BREVE BELOW;BREVE;MACRON;MACRON BELOW;TILDE;INVERTED BREVE;
    RIGHTWARDS ARROW BELOW"⟩,
  ⟨0x363, "COMBINING LATIN SMALL LETTER ", "A;E;I;O;U;C;D;H;M;R;T;V;X"⟩,
  ⟨0x370, "GREEK ", "CAPITAL LETTER HETA;SMALL LETTER HETA;CAPITAL LETTER ARCHAIC SAMPI;
    SMALL LETTER ARCHAIC SAMPI;NUMERAL SIGN;LOWER NUMERAL SIGN;CAPITAL LETTER PAMPHYLIAN DIGAMMA;
    SMALL LETTER PAMPHYLIAN DIGAMMA"⟩,
  ⟨0x37a, "GREEK ", "YPOGEGRAMMENI;SMALL REVERSED LUNATE SIGMA SYMBOL;
    SMALL DOTTED LUNATE SIGMA SYMBOL;SMALL REVERSED DOTTED LUNATE SIGMA SYMBOL;QUESTION MARK;
    CAPITAL LETTER YOT"⟩,
  ⟨0x384, "GREEK ", "TONOS;DIALYTIKA TONOS;CAPITAL LETTER ALPHA WITH TONOS;ANO TELEIA"⟩,
  ⟨0x388, "GREEK CAPITAL LETTER ", "EPSILON WITH TONOS;ETA WITH TONOS;IOTA WITH TONOS"⟩,
  ⟨0x38c, "", "GREEK CAPITAL LETTER OMICRON WITH TONOS"⟩,
  ⟨0x38e, "GREEK ", "CAPITAL LETTER UPSILON WITH TONOS;CAPITAL LETTER OMEGA WITH TONOS;
    SMALL LETTER IOTA WITH DIALYTIKA AND TONOS"⟩,
  ⟨0x391, "GREEK CAPITAL LETTER ", "ALPHA;BETA;GAMMA;DELTA;EPSILON;ZETA;ETA;THETA;IOTA;KAPPA;
    LAMDA;MU;NU;XI;OMICRON;PI;RHO"⟩,
  ⟨0x3a3, "GREEK CAPITAL LETTER ", "SIGMA;TAU;UPSILON;PHI;CHI;PSI;OMEGA;IOTA WITH DIALYTIKA;
    UPSILON WITH DIALYTIKA"⟩,
  ⟨0x3ac, "GREEK SMALL LETTER ", "ALPHA WITH TONOS;EPSILON WITH TONOS;ETA WITH TONOS;
    IOTA WITH TONOS;UPSILON WITH DIALYTIKA AND TONOS;ALPHA;BETA;GAMMA;DELTA;EPSILON;ZETA;ETA;
    THETA;IOTA;KAPPA;LAMDA;MU;NU;XI;OMICRON;PI;RHO;FINAL SIGMA;SIGMA;TAU;UPSILON;PHI;CHI;PSI;
    OMEGA;IOTA WITH DIALYTIKA;UPSILON WITH DIALYTIKA;OMICRON WITH TONOS;UPSILON WITH TONOS;
    OMEGA WITH TONOS"⟩,
  ⟨0x3cf, "GREEK ", "CAPITAL KAI SYMBOL;BETA SYMBOL;THETA SYMBOL;UPSILON WITH HOOK SYMBOL;
    UPSILON WITH ACUTE AND HOOK SYMBOL;UPSILON WITH DIAERESIS AND HOOK SYMBOL;PHI SYMBOL;
    PI SYMBOL;KAI SYMBOL;LETTER ARCHAIC KOPPA;SMALL LETTER ARCHAIC KOPPA;LETTER STIGMA;
    SMALL LETTER STIGMA;LETTER DIGAMMA;SMALL LETTER DIGAMMA;LETTER KOPPA;SMALL LETTER KOPPA;
    LETTER SAMPI;SMALL LETTER SAMPI"⟩,
  ⟨0x3e2, "COPTIC ", "CAPITAL LETTER SHEI;SMALL LETTER SHEI;CAPITAL LETTER FEI;SMALL LETTER FEI;
    CAPITAL LETTER KHEI;SMALL LETTER KHEI;CAPITAL LETTER HORI;SMALL LETTER HORI;
    CAPITAL LETTER GANGIA;SMALL LETTER GANGIA;CAPITAL LETTER SHIMA;SMALL LETTER SHIMA;
    CAPITAL LETTER DEI;SMALL LETTER DEI"⟩,
  ⟨0x3f0, "GREEK ", "KAPPA SYMBOL;RHO SYMBOL;LUNATE SIGMA SYMBOL;LETTER YOT;CAPITAL THETA SYMBOL;
    LUNATE EPSILON SYMBOL;REVERSED LUNATE EPSILON SYMBOL;CAPITAL LETTER SHO;SMALL LETTER SHO;
    CAPITAL LUNATE SIGMA SYMBOL;CAPITAL LETTER SAN;SMALL LETTER SAN;RHO WITH STROKE SYMBOL;
    CAPITAL REVERSED LUNATE SIGMA SYMBOL;CAPITAL DOTTED LUNATE SIGMA SYMBOL;
    CAPITAL REVERSED DOTTED LUNATE SIGMA SYMBOL"⟩,
  ⟨0x400, "CYRILLIC CAPITAL LETTER ", "IE WITH GRAVE;IO;DJE;GJE;UKRAINIAN IE;DZE;
    BYELORUSSIAN-UKRAINIAN I;YI;JE;LJE;NJE;TSHE;KJE;I WITH GRAVE;SHORT U;DZHE;A;BE;VE;GHE;DE;IE;
    ZHE;ZE;I;SHORT I;KA;EL;EM;EN;O;PE;ER;ES;TE;U;EF;HA;TSE;CHE;SHA;SHCHA;HARD SIGN;YERU;SOFT SIGN;
    E;YU;YA"⟩,
  ⟨0x430, "CYRILLIC SMALL LETTER ", "A;BE;VE;GHE;DE;IE;ZHE;ZE;I;SHORT I;KA;EL;EM;EN;O;PE;ER;ES;TE;
    U;EF;HA;TSE;CHE;SHA;SHCHA;HARD SIGN;YERU;SOFT SIGN;E;YU;YA;IE WITH GRAVE;IO;DJE;GJE;
    UKRAINIAN IE;DZE;BYELORUSSIAN-UKRAINIAN I;YI;JE;LJE;NJE;TSHE;KJE;I WITH GRAVE;SHORT U;DZHE"⟩,
  ⟨0x460, "CYRILLIC ", "CAPITAL LETTER OMEGA;SMALL LETTER OMEGA;CAPITAL LETTER YAT;
    SMALL LETTER YAT;CAPITAL LETTER IOTIFIED E;SMALL LETTER IOTIFIED E;CAPITAL LETTER LITTLE YUS;
    SMALL LETTER LITTLE YUS;CAPITAL LETTER IOTIFIED LITTLE YUS;SMALL LETTER IOTIFIED LITTLE YUS;
    CAPITAL LETTER BIG YUS;SMALL LETTER BIG YUS;CAPITAL LETTER IOTIFIED BIG YUS;
    SMALL LETTER IOTIFIED BIG YUS;CAPITAL LETTER KSI;SMALL LETTER KSI;CAPITAL LETTER PSI;
    SMALL LETTER PSI;CAPITAL LETTER FITA;SMALL LETTER FITA;CAPITAL LETTER IZHITSA;
    SMALL LETTER IZHITSA;CAPITAL LETTER IZHITSA WITH DOUBLE GRAVE ACCENT;
    SMALL LETTER IZHITSA WITH DOUBLE GRAVE ACCENT;CAPITAL LETTER UK;SMALL LETTER UK;
    CAPITAL LETTER ROUND OMEGA;SMALL LETTER ROUND OMEGA;CAPITAL LETTER OMEGA WITH TITLO;
    SMALL LETTER OMEGA WITH TITLO;CAPITAL LETTER OT;SMALL LETTER OT;CAPITAL LETTER KOPPA;
    SMALL LETTER KOPPA;THOUSANDS SIGN"⟩,
  ⟨0x483, "COMBINING CYRILLIC ", "TITLO;PALATALIZATION;DASIA PNEUMATA;PSILI PNEUMATA;POKRYTIE;
    HUNDRED THOUSANDS SIGN;MILLIONS SIGN"⟩,
  ⟨0x48a, "CYRILLIC ", "CAPITAL LETTER SHORT I WITH TAIL;SMALL LETTER SHORT I WITH TAIL;
    CAPITAL LETTER SEMISOFT SIGN;SMALL LETTER SEMISOFT SIGN;CAPITAL LETTER ER WITH TICK;
    SMALL LETTER ER WITH TICK;CAPITAL LETTER GHE WITH UPTURN;SMALL LETTER GHE WITH UPTURN;
    CAPITAL LETTER GHE WITH STROKE;SMALL LETTER GHE WITH STROKE;
    CAPITAL LETTER GHE WITH MIDDLE HOOK;SMALL LETTER GHE WITH MIDDLE HOOK;
    CAPITAL LETTER ZHE WITH DESCENDER;SMALL LETTER ZHE WITH DESCENDER;
    CAPITAL LETTER ZE WITH DESCENDER;SMALL LETTER ZE WITH DESCENDER;
    CAPITAL LETTER KA WITH DESCENDER;SMALL LETTER KA WITH DESCENDER;
    CAPITAL LETTER KA WITH VERTICAL STROKE;SMALL LETTER KA WITH VERTICAL STROKE;
    CAPITAL LETTER KA WITH STROKE;SMALL LETTER KA WITH STROKE;CAPITAL LETTER BASHKIR KA;
    SMALL LETTER BASHKIR KA;CAPITAL LETTER EN WITH DESCENDER;SMALL LETTER EN WITH DESCENDER;
    CAPITAL LIGATURE EN GHE;SMALL LIGATURE EN GHE;CAPITAL LETTER PE WITH MIDDLE HOOK;
    SMALL LETTER PE WITH MIDDLE HOOK;CAPITAL LETTER ABKHASIAN HA;SMALL LETTER ABKHASIAN HA;
    CAPITAL LETTER ES WITH DESCENDER;SMALL LETTER ES WITH DESCENDER;
    CAPITAL LETTER TE WITH DESCENDER;SMALL LETTER TE WITH DESCENDER;CAPITAL LETTER STRAIGHT U;
    SMALL LETTER STRAIGHT U;CAPITAL LETTER STRAIGHT U WITH STROKE;
    SMALL LETTER STRAIGHT U WITH STROKE;CAPITAL LETTER HA WITH DESCENDER;
    SMALL LETTER HA WITH DESCENDER;CAPITAL LIGATURE TE TSE;SMALL LIGATURE TE TSE;
    CAPITAL LETTER CHE WITH DESCENDER;SMALL LETTER CHE WITH DESCENDER;
    CAPITAL LETTER CHE WITH VERTICAL STROKE;SMALL LETTER CHE WITH VERTICAL STROKE;
    CAPITAL LETTER SHHA;SMALL LETTER SHHA;CAPITAL LETTER ABKHASIAN CHE;SMALL LETTER ABKHASIAN CHE;
    CAPITAL LETTER ABKHASIAN CHE WITH DESCENDER;SMALL LETTER ABKHASIAN CHE WITH DESCENDER;
    LETTER PALOCHKA;CAPITAL LETTER ZHE WITH BREVE;SMALL LETTER ZHE WITH BREVE;
    CAPITAL LETTER KA WITH HOOK;SMALL LETTER KA WITH HOOK;CAPITAL LETTER EL WITH TAIL;
    SMALL LETTER EL WITH TAIL;CAPITAL LETTER EN WITH HOOK;SMALL LETTER EN WITH HOOK;
    CAPITAL LETTER EN WITH TAIL;SMALL LETTER EN WITH TAIL;CAPITAL LETTER KHAKASSIAN CHE;
    SMALL LETTER KHAKASSIAN CHE;CAPITAL LETTER EM WITH TAIL;SMALL LETTER EM WITH TAIL;
    SMALL LETTER PALOCHKA;CAPITAL LETTER A WITH BREVE;SMALL LETTER A WITH BREVE;
    CAPITAL LETTER A WITH DIAERESIS;SMALL LETTER A WITH DIAERESIS;CAPITAL LIGATURE A IE;
    SMALL LIGATURE A IE;CAPITAL LETTER IE WITH BREVE;SMALL LETTER IE WITH BREVE;
    CAPITAL LETTER SCHWA;SMALL LETTER SCHWA;CAPITAL LETTER SCHWA WITH DIAERESIS;
    SMALL LETTER SCHWA WITH DIAERESIS;CAPITAL LETTER ZHE WITH DIAERESIS;
    SMALL LETTER ZHE WITH DIAERESIS;CAPITAL LETTER ZE WITH DIAERESIS;
    SMALL LETTER ZE WITH DIAERESIS;CAPITAL LETTER ABKHASIAN DZE;SMALL LETTER ABKHASIAN DZE;
    CAPITAL LETTER I WITH MACRON;SMALL LETTER I WITH MACRON;CAPITAL LETTER I WITH DIAERESIS;
    SMALL LETTER I WITH DIAERESIS;CAPITAL LETTER O WITH DIAERESIS;SMALL LETTER O WITH DIAERESIS;
    CAPITAL LETTER BARRED O;SMALL LETTER BARRED O;CAPITAL LETTER BARRED O WITH DIAERESIS;
    SMALL LETTER BARRED O WITH DIAERESIS;CAPITAL LETTER E WITH DIAERESIS;
    SMALL LETTER E WITH DIAERESIS;CAPITAL LETTER U WITH MACRON;SMALL LETTER U WITH MACRON;
    CAPITAL LETTER U WITH DIAERESIS;SMALL LETTER U WITH DIAERESIS;
    CAPITAL LETTER U WITH DOUBLE ACUTE;SMALL LETTER U WITH DOUBLE ACUTE;
    CAPITAL LETTER CHE WITH DIAERESIS;SMALL LETTER CHE WITH DIAERESIS;
    CAPITAL LETTER GHE WITH DESCENDER;SMALL LETTER GHE WITH DESCENDER;
    CAPITAL LETTER YERU WITH DIAERESIS;SMALL LETTER YERU WITH DIAERESIS;
    CAPITAL LETTER GHE WITH STROKE AND HOOK;SMALL LETTER GHE WITH STROKE AND HOOK;
    CAPITAL LETTER HA WITH HOOK;SMALL LETTER HA WITH HOOK;CAPITAL LETTER HA WITH STROKE;
    SMALL LETTER HA WITH STROKE;CAPITAL LETTER KOMI DE;SMALL LETTER KOMI DE;
    CAPITAL LETTER KOMI DJE;SMALL LETTER KOMI DJE;CAPITAL LETTER KOMI ZJE;SMALL LETTER KOMI ZJE;
    CAPITAL LETTER KOMI DZJE;SMALL LETTER KOMI DZJE;CAPITAL LETTER KOMI LJE;SMALL LETTER KOMI LJE;
    CAPITAL LETTER KOMI NJE;SMALL LETTER KOMI NJE;CAPITAL LETTER KOMI SJE;SMALL LETTER KOMI SJE;
    CAPITAL LETTER KOMI TJE;SMALL LETTER KOMI TJE;CAPITAL LETTER REVERSED ZE;
    SMALL LETTER REVERSED ZE;CAPITAL LETTER EL WITH HOOK;SMALL LETTER EL WITH HOOK;
    CAPITAL LETTER LHA;SMALL LETTER LHA;CAPITAL LETTER RHA;SMALL LETTER RHA;CAPITAL LETTER YAE;
    SMALL LETTER YAE;CAPITAL LETTER QA;SMALL LETTER QA;CAPITAL LETTER WE;SMALL LETTER WE;
    CAPITAL LETTER ALEUT KA;SMALL LETTER ALEUT KA;CAPITAL LETTER EL WITH MIDDLE HOOK;
    SMALL LETTER EL WITH MIDDLE HOOK;CAPITAL LETTER EN WITH MIDDLE HOOK;
    SMALL LETTER EN WITH MIDDLE HOOK;CAPITAL LETTER PE WITH DESCENDER;
    SMALL LETTER PE WITH DESCENDER;CAPITAL LETTER SHHA WITH DESCENDER;
    SMALL LETTER SHHA WITH DESCENDER;CAPITAL LETTER EN WITH LEFT HOOK;
    SMALL LETTER EN WITH LEFT HOOK;CAPITAL LETTER DZZHE;SMALL LETTER DZZHE;CAPITAL LETTER DCHE;
    SMALL LETTER DCHE;CAPITAL LETTER EL WITH DESCENDER;SMALL LETTER EL WITH DESCENDER"⟩,
  ⟨0x531, "ARMENIAN CAPITAL LETTER ", "AYB;BEN;GIM;DA;ECH;ZA;EH;ET;TO;ZHE;INI;LIWN;XEH;CA;KEN;HO;
    JA;GHAD;CHEH;MEN;YI;NOW;SHA;VO;CHA;PEH;JHEH;RA;SEH;VEW;TIWN;REH;CO;YIWN;PIWR;KEH;OH;FEH"⟩,
  ⟨0x559, "ARMENIAN ", "MODIFIER LETTER LEFT HALF RING;APOSTROPHE;EMPHASIS MARK;EXCLAMATION MARK;
    COMMA;QUESTION MARK;ABBREVIATION MARK"⟩,
  ⟨0x560, "ARMENIAN SMALL LETTER ", "TURNED AYB;AYB;BEN;GIM;DA;ECH;ZA;EH;ET;TO;ZHE;INI;LIWN;XEH;
    CA;KEN;HO;JA;GHAD;CHEH;MEN;YI;NOW;SHA;VO;CHA;PEH;JHEH;RA;SEH;VEW;TIWN;REH;CO;YIWN;PIWR;KEH;OH;
    FEH"⟩,
  ⟨0x587, "ARMENIAN ", "SMALL LIGATURE ECH YIWN;SMALL LETTER YI WITH STROKE;FULL STOP;HYPHEN"⟩,
  ⟨0x58d, "", "RIGHT-FACING ARMENIAN ETERNITY SIGN;LEFT-FACING ARMENIAN ETERNITY SIGN;
    ARMENIAN DRAM SIGN"⟩,
  ⟨0x591, "HEBREW ACCENT ", "ETNAHTA;SEGOL;SHALSHELET;ZAQEF QATAN;ZAQEF GADOL;TIPEHA;REVIA;ZARQA;
    PASHTA;YETIV;TEVIR;GERESH;GERESH MUQDAM;GERSHAYIM;QARNEY PARA;TELISHA GEDOLA;PAZER;
    ATNAH HAFUKH;MUNAH;MAHAPAKH;MERKHA;MERKHA KEFULA;DARGA;QADMA;TELISHA QETANA;YERAH BEN YOMO;
    OLE;ILUY;DEHI;ZINOR"⟩,
  ⟨0x5af, "", "HEBREW MARK MASORA CIRCLE"⟩,
  ⟨0x5b0, "HEBREW POINT ", "SHEVA;HATAF SEGOL;HATAF PATAH;HATAF QAMATS;HIRIQ;TSERE;SEGOL;PATAH;
    QAMATS;HOLAM;HOLAM HASER FOR VAV;QUBUTS;DAGESH OR MAPIQ;METEG"⟩,
  ⟨0x5be, "HEBREW ", "PUNCTUATION MAQAF;POINT RAFE;PUNCTUATION PASEQ;POINT SHIN DOT;POINT SIN DOT;
    PUNCTUATION SOF PASUQ;MARK UPPER DOT;MARK LOWER DOT;PUNCTUATION NUN HAFUKHA;
    POINT QAMATS QATAN"⟩,
  ⟨0x5d0, "HEBREW LETTER ", "ALEF;BET;GIMEL;DALET;HE;VAV;ZAYIN;HET;TET;YOD;FINAL KAF;KAF;LAMED;
    FINAL MEM;MEM;FINAL NUN;NUN;SAMEKH;AYIN;FINAL PE;PE;FINAL TSADI;TSADI;QOF;RESH;SHIN;TAV"⟩,
  ⟨0x5ef, "", "HEBREW YOD TRIANGLE"⟩,
  ⟨0x5f0, "HEBREW LIGATURE YIDDISH ", "DOUBLE VAV;VAV YOD;DOUBLE YOD"⟩,
  ⟨0x5f3, "HEBREW PUNCTUATION ", "GERESH;GERSHAYIM"⟩,
  ⟨0x600, "ARABIC ", "NUMBER SIGN;SIGN SANAH;FOOTNOTE MARKER;SIGN SAFHA;SIGN SAMVAT;
    NUMBER MARK ABOVE"⟩,
  ⟨0x606, "", "ARABIC-INDIC CUBE ROOT;ARABIC-INDIC FOURTH ROOT;ARABIC RAY;
    ARABIC-INDIC PER MILLE SIGN;ARABIC-INDIC PER TEN THOUSAND SIGN;AFGHANI SIGN"⟩,
  ⟨0x60c, "ARABIC ", "COMMA;DATE SEPARATOR;POETIC VERSE SIGN;SIGN MISRA;
    SIGN SALLALLAHOU ALAYHE WASSALLAM;SIGN ALAYHE ASSALLAM;SIGN RAHMATULLAH ALAYHE;
    SIGN RADI ALLAHOU ANHU;SIGN TAKHALLUS;SMALL HIGH TAH;
    SMALL HIGH LIGATURE ALEF WITH LAM WITH YEH;SMALL HIGH ZAIN;SMALL FATHA;SMALL DAMMA;
    SMALL KASRA;SEMICOLON;LETTER MARK;END OF TEXT MARK;TRIPLE DOT PUNCTUATION MARK;QUESTION MARK"⟩,
  ⟨0x620, "ARABIC LETTER ", "KASHMIRI YEH;HAMZA;ALEF WITH MADDA ABOVE;ALEF WITH HAMZA ABOVE;
    WAW WITH HAMZA ABOVE;ALEF WITH HAMZA BELOW;YEH WITH HAMZA ABOVE;ALEF;BEH;TEH MARBUTA;TEH;THEH;
    JEEM;HAH;KHAH;DAL;THAL;REH;ZAIN;SEEN;SHEEN;SAD;DAD;TAH;ZAH;AIN;GHAIN;
    KEHEH WITH TWO DOTS ABOVE;KEHEH WITH THREE DOTS BELOW"⟩,
  ⟨0x63d, "ARABIC LETTER FARSI YEH WITH ", "INVERTED V;TWO DOTS ABOVE;THREE DOTS ABOVE"⟩,
  ⟨0x640, "", "ARABIC TATWEEL"⟩,
  ⟨0x641, "ARABIC LETTER ", "FEH;QAF;KAF;LAM;MEEM;NOON;HEH;WAW;ALEF MAKSURA;YEH"⟩,
  ⟨0x64b, "ARABIC ", "FATHATAN;DAMMATAN;KASRATAN;FATHA;DAMMA;KASRA;SHADDA;SUKUN;MADDAH ABOVE;
    HAMZA ABOVE;HAMZA BELOW;SUBSCRIPT ALEF;INVERTED DAMMA;MARK NOON GHUNNA;ZWARAKAY;
    VOWEL SIGN SMALL V ABOVE;VOWEL SIGN INVERTED SMALL V ABOVE;VOWEL SIGN DOT BELOW;
    REVERSED DAMMA;FATHA WITH TWO DOTS;WAVY HAMZA BELOW"⟩,
  ⟨0x660, "ARABIC-INDIC DIGIT ", "ZERO;ONE;TWO;THREE;FOUR;FIVE;SIX;SEVEN;EIGHT;NINE"⟩,
  ⟨0x66a, "ARABIC ", "PERCENT SIGN;DECIMAL SEPARATOR;THOUSANDS SEPARATOR;FIVE POINTED STAR"⟩,
  ⟨0x66e, "ARABIC LETTER ", "DOTLESS BEH;DOTLESS QAF;SUPERSCRIPT ALEF;ALEF WASLA;
    ALEF WITH WAVY HAMZA ABOVE;ALEF WITH WAVY HAMZA BELOW;HIGH HAMZA;HIGH HAMZA ALEF;
    HIGH HAMZA WAW;U WITH HAMZA ABOVE;HIGH HAMZA YEH;TTEH;TTEHEH;BEEH;TEH WITH RING;
    TEH WITH THREE DOTS ABOVE DOWNWARDS;PEH;TEHEH;BEHEH;HAH WITH HAMZA ABOVE;
    HAH WITH TWO DOTS VERTICAL ABOVE;NYEH;DYEH;HAH WITH THREE DOTS ABOVE;TCHEH;TCHEHEH;DDAL;
    DAL WITH RING;DAL WITH DOT BELOW;DAL WITH DOT BELOW AND SMALL TAH;DAHAL;DDAHAL;DUL;
    DAL WITH THREE DOTS ABOVE DOWNWARDS;DAL WITH FOUR DOTS ABOVE;RREH;REH WITH SMALL V;
    REH WITH RING;REH WITH DOT BELOW;REH WITH SMALL V BELOW;REH WITH DOT BELOW AND DOT ABOVE;
    REH WITH TWO DOTS ABOVE;JEH;REH WITH FOUR DOTS ABOVE;SEEN WITH DOT BELOW AND DOT ABOVE;
    SEEN WITH THREE DOTS BELOW;SEEN WITH THREE DOTS BELOW AND THREE DOTS ABOVE;
    SAD WITH TWO DOTS BELOW;SAD WITH THREE DOTS ABOVE;TAH WITH THREE DOTS ABOVE;
    AIN WITH THREE DOTS ABOVE;DOTLESS FEH;FEH WITH DOT MOVED BELOW;FEH WITH DOT BELOW;VEH;
    FEH WITH THREE DOTS BELOW;PEHEH;QAF WITH DOT ABOVE;QAF WITH THREE DOTS ABOVE;KEHEH;SWASH KAF;
    KAF WITH RING;KAF WITH DOT ABOVE;NG;KAF WITH THREE DOTS BELOW;GAF;GAF WITH RING;NGOEH;
    GAF WITH TWO DOTS BELOW;GUEH;GAF WITH THREE DOTS ABOVE;LAM WITH SMALL V;LAM WITH DOT ABOVE;
    LAM WITH THREE DOTS ABOVE;LAM WITH THREE DOTS BELOW;NOON WITH DOT BELOW;NOON GHUNNA;RNOON;
    NOON WITH RING;NOON WITH THREE DOTS ABOVE;HEH DOACHASHMEE;TCHEH WITH DOT ABOVE;
    HEH WITH YEH ABOVE;HEH GOAL;HEH GOAL WITH HAMZA ABOVE;TEH MARBUTA GOAL;WAW WITH RING;
    KIRGHIZ OE;OE;U;YU;KIRGHIZ YU;WAW WITH TWO DOTS ABOVE;VE;FARSI YEH;YEH WITH TAIL;
    YEH WITH SMALL V;WAW WITH DOT ABOVE;E;YEH WITH THREE DOTS BELOW;YEH BARREE;
    YEH BARREE WITH HAMZA ABOVE"⟩,
  ⟨0x6d4, "ARABIC ", "FULL STOP;LETTER AE"⟩,
  ⟨0x6d6, "ARABIC SMALL HIGH ", "LIGATURE SAD WITH LAM WITH ALEF MAKSURA;
    LIGATURE QAF WITH LAM WITH ALEF MAKSURA;MEEM INITIAL FORM;LAM ALEF;JEEM;THREE DOTS;SEEN"⟩,
  ⟨0x6dd, "ARABIC ", "END OF AYAH;START OF RUB EL HIZB"⟩,
  ⟨0x6df, "ARABIC SMALL ", "HIGH ROUNDED ZERO;HIGH UPRIGHT RECTANGULAR ZERO;
    HIGH DOTLESS HEAD OF KHAH;HIGH MEEM ISOLATED FORM;LOW SEEN;HIGH MADDA;WAW;YEH;HIGH YEH;
    HIGH NOON"⟩,
  ⟨0x6e9, "ARABIC ", "PLACE OF SAJDAH;EMPTY CENTRE LOW STOP;EMPTY CENTRE HIGH STOP;
    ROUNDED HIGH STOP WITH FILLED CENTRE;SMALL LOW MEEM;LETTER DAL WITH INVERTED V;
    LETTER REH WITH INVERTED V"⟩,
  ⟨0x6f0, "EXTENDED ARABIC-INDIC DIGIT ", "ZERO;ONE;TWO;THREE;FOUR;FIVE;SIX;SEVEN;EIGHT;NINE"⟩,
  ⟨0x6fa, "ARABIC ", "LETTER SHEEN WITH DOT BELOW;LETTER DAD WITH DOT BELOW;
    LETTER GHAIN WITH DOT BELOW;SIGN SINDHI AMPERSAND;SIGN SINDHI POSTPOSITION MEN;
    LETTER HEH WITH INVERTED V"⟩,
  ⟨0x700, "SYRIAC ", "END OF PARAGRAPH;SUPRALINEAR FULL STOP;SUBLINEAR FULL STOP;
    SUPRALINEAR COLON;SUBLINEAR COLON;HORIZONTAL COLON;COLON SKEWED LEFT;COLON SKEWED RIGHT;
    SUPRALINEAR COLON SKEWED LEFT;SUBLINEAR COLON SKEWED RIGHT;CONTRACTION;HARKLEAN OBELUS;
    HARKLEAN METOBELUS;HARKLEAN ASTERISCUS"⟩,
  ⟨0x70f, "", "SYRIAC ABBREVIATION MARK"⟩,
  ⟨0x710, "SYRIAC LETTER ", "ALAPH;SUPERSCRIPT ALAPH;BETH;GAMAL;GAMAL GARSHUNI;DALATH;
    DOTLESS DALATH RISH;HE;WAW;ZAIN;HETH;TETH;TETH GARSHUNI;YUDH;YUDH HE;KAPH;LAMADH;MIM;NUN;
    SEMKATH;FINAL SEMKATH;E;PE;REVERSED PE;SADHE;QAPH;RISH;SHIN;TAW;PERSIAN BHETH;PERSIAN GHAMAL;
    PERSIAN DHALATH"⟩,
  ⟨0x730, "SYRIAC ", "PTHAHA ABOVE;PTHAHA BELOW;PTHAHA DOTTED;ZQAPHA ABOVE;ZQAPHA BELOW;
    ZQAPHA DOTTED;RBASA ABOVE;RBASA BELOW;DOTTED ZLAMA HORIZONTAL;DOTTED ZLAMA ANGULAR;
    HBASA ABOVE;HBASA BELOW;HBASA-ESASA DOTTED;ESASA ABOVE;ESASA BELOW;RWAHA;FEMININE DOT;
    QUSHSHAYA;RUKKAKHA;TWO VERTICAL DOTS ABOVE;TWO VERTICAL DOTS BELOW;THREE DOTS ABOVE;
    THREE DOTS BELOW;OBLIQUE LINE ABOVE;OBLIQUE LINE BELOW;MUSIC;BARREKH"⟩,
  ⟨0x74d, "SYRIAC LETTER SOGDIAN ", "ZHAIN;KHAPH;FE"⟩,
  ⟨0x750, "ARABIC LETTER BEH WITH ", "THREE DOTS HORIZONTALLY BELOW;
    DOT BELOW AND THREE DOTS ABOVE;THREE DOTS POINTING UPWARDS BELOW;
    THREE DOTS POINTING UPWARDS BELOW AND TWO DOTS ABOVE;TWO DOTS BELOW AND DOT ABOVE;
    INVERTED SMALL V BELOW;SMALL V"⟩,
  ⟨0x757, "ARABIC LETTER ", "HAH WITH TWO DOTS ABOVE;HAH WITH THREE DOTS POINTING UPWARDS BELOW;
    DAL WITH TWO DOTS VERTICALLY BELOW AND SMALL TAH;DAL WITH INVERTED SMALL V BELOW;
    REH WITH STROKE;SEEN WITH FOUR DOTS ABOVE;AIN WITH TWO DOTS ABOVE;
    AIN WITH THREE DOTS POINTING DOWNWARDS ABOVE;AIN WITH TWO DOTS VERTICALLY ABOVE;
    FEH WITH TWO DOTS BELOW;FEH WITH THREE DOTS POINTING UPWARDS BELOW;KEHEH WITH DOT ABOVE;
    KEHEH WITH THREE DOTS ABOVE;KEHEH WITH THREE DOTS POINTING UPWARDS BELOW;MEEM WITH DOT ABOVE;
    MEEM WITH DOT BELOW;NOON WITH TWO DOTS BELOW;NOON WITH SMALL TAH;NOON WITH SMALL V;
    LAM WITH BAR;REH WITH TWO DOTS VERTICALLY ABOVE;REH WITH HAMZA ABOVE;
    SEEN WITH TWO DOTS VERTICALLY ABOVE;HAH WITH SMALL ARABIC LETTER TAH BELOW;
    HAH WITH SMALL ARABIC LETTER TAH AND TWO DOTS;SEEN WITH SMALL ARABIC LETTER TAH AND TWO DOTS;
    REH WITH SMALL ARABIC LETTER TAH AND TWO DOTS;HAH WITH SMALL ARABIC LETTER TAH ABOVE"⟩,
  ⟨0x773, "ARABIC LETTER ALEF WITH EXTENDED ARABIC-INDIC DIGIT ", "TWO ABOVE;THREE ABOVE"⟩,
  ⟨0x775, "ARABIC LETTER FARSI YEH WITH EXTENDED ARABIC-INDIC DIGIT ", "TWO ABOVE;THREE ABOVE;
    FOUR BELOW"⟩,
  ⟨0x778, "ARABIC LETTER WAW WITH EXTENDED ARABIC-INDIC DIGIT ", "TWO ABOVE;THREE ABOVE"⟩,
  ⟨0x77a, "ARABIC LETTER YEH BARREE WITH EXTENDED ARABIC-INDIC DIGIT ", "TWO ABOVE;THREE ABOVE"⟩,
  ⟨0x77c, "ARABIC LETTER ", "HAH WITH EXTENDED ARABIC-INDIC DIGIT FOUR BELOW;
    SEEN WITH EXTENDED ARABIC-INDIC DIGIT FOUR ABOVE;SEEN WITH INVERTED V;
    KAF WITH TWO DOTS ABOVE"⟩,
  ⟨0x780, "THAANA LETTER ", "HAA;SHAVIYANI;NOONU;RAA;BAA;LHAVIYANI;KAAFU;ALIFU;VAAVU;MEEMU;FAAFU;
    DHAALU;THAA;LAAMU;GAAFU;GNAVIYANI;SEENU;DAVIYANI;ZAVIYANI;TAVIYANI;YAA;PAVIYANI;JAVIYANI;
    CHAVIYANI;TTAA;HHAA;KHAA;THAALU;ZAA;SHEENU;SAADHU;DAADHU;TO;ZO;AINU;GHAINU;QAAFU;WAAVU"⟩,
  ⟨0x7a6, "THAANA ", "ABAFILI;AABAAFILI;IBIFILI;EEBEEFILI;UBUFILI;OOBOOFILI;EBEFILI;EYBEYFILI;
    OBOFILI;OABOAFILI;SUKUN;LETTER NAA"⟩,
  ⟨0x7c0, "NKO DIGIT ", "ZERO;ONE;TWO;THREE;FOUR;FIVE;SIX;SEVEN;EIGHT;NINE"⟩,
  ⟨0x7ca, "NKO LETTER ", "A;EE;I;E;U;OO;O;DAGBASINNA;N;BA;PA;TA;JA;CHA;DA;RA;RRA;SA;GBA;FA;KA;LA;
    NA WOLOSO;MA;NYA;NA;HA;WA;YA;NYA WOLOSO;JONA JA;JONA CHA;JONA RA"⟩,
  ⟨0x7eb, "NKO COMBINING ", "SHORT HIGH TONE;SHORT LOW TONE;SHORT RISING TONE;
    LONG DESCENDING TONE;LONG HIGH TONE;LONG LOW TONE;LONG RISING TONE;NASALIZATION MARK;
    DOUBLE DOT ABOVE"⟩,
  ⟨0x7f4, "NKO ", "HIGH TONE APOSTROPHE;LOW TONE APOSTROPHE;SYMBOL OO DENNEN;SYMBOL GBAKURUNEN;
    COMMA;EXCLAMATION MARK;LAJANYALAN"⟩,
  ⟨0x7fd, "NKO ", "DANTAYALAN;DOROME SIGN;TAMAN SIGN"⟩,
  ⟨0x800, "SAMARITAN LETTER ", "ALAF;BIT;GAMAN;DALAT;IY;BAA;ZEN;IT;TIT;YUT;KAAF;LABAT;MIM;NUN;
    SINGAAT;IN;FI;TSAADIY;QUF;RISH;SHAN;TAAF"⟩,
  ⟨0x816, "SAMARITAN ", "MARK IN;MARK IN-ALAF;MARK OCCLUSION;MARK DAGESH;
    MODIFIER LETTER EPENTHETIC YUT;MARK EPENTHETIC YUT"⟩,
  ⟨0x81c, "SAMARITAN VOWEL SIGN ", "LONG E;E;OVERLONG AA;LONG AA;AA;OVERLONG A;LONG A;A"⟩,
  ⟨0x824, "SAMARITAN ", "MODIFIER LETTER SHORT A;VOWEL SIGN SHORT A;VOWEL SIGN LONG U;
    VOWEL SIGN U;MODIFIER LETTER I;VOWEL SIGN LONG I;VOWEL SIGN I;VOWEL SIGN O;VOWEL SIGN SUKUN;
    MARK NEQUDAA"⟩,
  ⟨0x830, "SAMARITAN PUNCTUATION ", "NEQUDAA;AFSAAQ;ANGED;BAU;ATMAAU;SHIYYAALAA"⟩,
  ⟨0x836, "", "SAMARITAN ABBREVIATION MARK"⟩,
  ⟨0x837, "SAMARITAN PUNCTUATION ", "MELODIC QITSA;ZIQAA;QITSA;ZAEF;TURU;ARKAANU;SOF MASHFAAT;
    ANNAAU"⟩,
  ⟨0x840, "MANDAIC LETTER ", "HALQA;AB;AG;AD;AH;USHENNA;AZ;IT;ATT;AKSA;AK;AL;AM;AN;AS;IN;AP;ASZ;
    AQ;AR;ASH;AT;DUSHENNA;KAD;AIN"⟩,
  ⟨0x859, "MANDAIC ", "AFFRICATION MARK;VOCALIZATION MARK;GEMINATION MARK"⟩,
  ⟨0x85e, "", "MANDAIC PUNCTUATION"⟩,
  ⟨0x860, "SYRIAC LETTER MALAYALAM ", "NGA;JA;NYA;TTA;NNA;NNNA;BHA;RA;LLA;LLLA;SSA"⟩,
  ⟨0x870, "ARABIC LETTER ALEF WITH ", "ATTACHED FATHA;ATTACHED TOP RIGHT FATHA;
    RIGHT MIDDLE STROKE;LEFT MIDDLE STROKE;ATTACHED KASRA;ATTACHED BOTTOM RIGHT KASRA;
    ATTACHED ROUND DOT ABOVE;ATTACHED RIGHT ROUND DOT;ATTACHED LEFT ROUND DOT;
    ATTACHED ROUND DOT BELOW;DOT ABOVE;ATTACHED TOP RIGHT FATHA AND DOT ABOVE;
    RIGHT MIDDLE STROKE AND DOT ABOVE;ATTACHED BOTTOM RIGHT KASRA AND DOT ABOVE;
    ATTACHED TOP RIGHT FATHA AND LEFT RING;RIGHT MIDDLE STROKE AND LEFT RING;
    ATTACHED BOTTOM RIGHT KASRA AND LEFT RING;ATTACHED RIGHT HAMZA;ATTACHED LEFT HAMZA"⟩,
  ⟨0x883, "ARABIC TATWEEL WITH ", "OVERSTRUCK HAMZA;OVERSTRUCK WAW;TWO DOTS BELOW"⟩,
  ⟨0x886, "ARABIC ", "LETTER THIN YEH;BASELINE ROUND DOT;RAISED ROUND DOT;
    LETTER NOON WITH INVERTED SMALL V;LETTER HAH WITH INVERTED SMALL V BELOW;
    LETTER TAH WITH DOT BELOW;LETTER TAH WITH THREE DOTS BELOW;
    LETTER KEHEH WITH TWO DOTS VERTICALLY BELOW;VERTICAL TAIL"⟩,
  ⟨0x890, "ARABIC ", "POUND MARK ABOVE;PIASTRE MARK ABOVE"⟩,
  ⟨0x898, "ARABIC ", "SMALL HIGH WORD AL-JUZ;SMALL LOW WORD ISHMAAM;SMALL LOW WORD IMAALA;
    SMALL LOW WORD TASHEEL;MADDA WAAJIB;SUPERSCRIPT ALEF MOKHASSAS;DOUBLED MADDA;
    HALF MADDA OVER MADDA"⟩,
  ⟨0x8a0, "ARABIC LETTER ", "BEH WITH SMALL V BELOW;BEH WITH HAMZA ABOVE;JEEM WITH TWO DOTS ABOVE;
    TAH WITH TWO DOTS ABOVE;FEH WITH DOT BELOW AND THREE DOTS ABOVE;QAF WITH DOT BELOW;
    LAM WITH DOUBLE BAR;MEEM WITH THREE DOTS ABOVE;YEH WITH TWO DOTS BELOW AND HAMZA ABOVE;
    YEH WITH TWO DOTS BELOW AND DOT ABOVE;REH WITH LOOP;WAW WITH DOT WITHIN;ROHINGYA YEH;LOW ALEF;
    DAL WITH THREE DOTS BELOW;SAD WITH THREE DOTS BELOW;GAF WITH INVERTED STROKE;STRAIGHT WAW;
    ZAIN WITH INVERTED V ABOVE;AIN WITH THREE DOTS BELOW;KAF WITH DOT BELOW;
    QAF WITH DOT BELOW AND NO DOTS ABOVE;BEH WITH SMALL MEEM ABOVE;PEH WITH SMALL MEEM ABOVE;
    TEH WITH SMALL TEH ABOVE;REH WITH SMALL NOON ABOVE;
    YEH WITH TWO DOTS BELOW AND SMALL NOON ABOVE;AFRICAN FEH;AFRICAN QAF;AFRICAN NOON;
    PEH WITH SMALL V;TEH WITH SMALL V;TTEH WITH SMALL V;TCHEH WITH SMALL V;KEHEH WITH SMALL V;
    GHAIN WITH THREE DOTS ABOVE;AFRICAN QAF WITH THREE DOTS ABOVE;JEEM WITH THREE DOTS ABOVE;
    JEEM WITH THREE DOTS BELOW;LAM WITH SMALL ARABIC LETTER TAH ABOVE;GRAF"⟩,
  ⟨0x8c9, "ARABIC SMALL ", "FARSI YEH;HIGH FARSI YEH;HIGH YEH BARREE WITH TWO DOTS BELOW;
    HIGH WORD SAH;HIGH ZAH"⟩,
  ⟨0x8ce, "ARABIC ", "LARGE ROUND DOT ABOVE;LARGE ROUND DOT BELOW;SUKUN BELOW;LARGE CIRCLE BELOW;
    LARGE ROUND DOT INSIDE CIRCLE BELOW"⟩,
  ⟨0x8d3, "ARABIC SMALL ", "LOW WAW;HIGH WORD AR-RUB;HIGH SAD;HIGH AIN;HIGH QAF;
    HIGH NOON WITH KASRA;LOW NOON WITH KASRA"⟩,
  ⟨0x8da, "ARABIC SMALL HIGH WORD ", "ATH-THALATHA;AS-SAJDA;AN-NISF;SAKTA;QIF;WAQFA"⟩,
  ⟨0x8e0, "ARABIC ", "SMALL HIGH FOOTNOTE MARKER;SMALL HIGH SIGN SAFHA;DISPUTED END OF AYAH;
    TURNED DAMMA BELOW;CURLY FATHA;CURLY DAMMA;CURLY KASRA;CURLY FATHATAN;CURLY DAMMATAN;
    CURLY KASRATAN;TONE ONE DOT ABOVE;TONE TWO DOTS ABOVE;TONE LOOP ABOVE;TONE ONE DOT BELOW;
    TONE TWO DOTS BELOW;TONE LOOP BELOW;OPEN FATHATAN;OPEN DAMMATAN;OPEN KASRATAN;SMALL HIGH WAW;
    FATHA WITH RING;FATHA WITH DOT ABOVE;KASRA WITH DOT BELOW;LEFT ARROWHEAD ABOVE;
    RIGHT ARROWHEAD ABOVE;LEFT ARROWHEAD BELOW;RIGHT ARROWHEAD BELOW;DOUBLE RIGHT ARROWHEAD ABOVE;
    DOUBLE RIGHT ARROWHEAD ABOVE WITH DOT;RIGHT ARROWHEAD ABOVE WITH DOT;DAMMA WITH DOT;
    MARK SIDEWAYS NOON GHUNNA"⟩]

end TwoWay.Text
