/-
# Names of characters

The names that the Unicode standard (version 14) gives to the characters of Latin-1,
to Greek letters, and to common punctuation and signs; and other names of control
characters.  A name counts in any case of its letters.
-/

import Recorder.Text.LetterCase

namespace Recorder
namespace Text

private def characterNames1 : List (String × Nat) := [
    ("SPACE", 0x20), ("EXCLAMATION MARK", 0x21), ("QUOTATION MARK", 0x22), ("NUMBER SIGN", 0x23),
    ("DOLLAR SIGN", 0x24), ("PERCENT SIGN", 0x25), ("AMPERSAND", 0x26), ("APOSTROPHE", 0x27),
    ("LEFT PARENTHESIS", 0x28), ("RIGHT PARENTHESIS", 0x29), ("ASTERISK", 0x2a),
    ("PLUS SIGN", 0x2b), ("COMMA", 0x2c), ("HYPHEN-MINUS", 0x2d), ("FULL STOP", 0x2e),
    ("SOLIDUS", 0x2f), ("DIGIT ZERO", 0x30), ("DIGIT ONE", 0x31), ("DIGIT TWO", 0x32),
    ("DIGIT THREE", 0x33), ("DIGIT FOUR", 0x34), ("DIGIT FIVE", 0x35), ("DIGIT SIX", 0x36),
    ("DIGIT SEVEN", 0x37), ("DIGIT EIGHT", 0x38), ("DIGIT NINE", 0x39), ("COLON", 0x3a),
    ("SEMICOLON", 0x3b), ("LESS-THAN SIGN", 0x3c), ("EQUALS SIGN", 0x3d),
    ("GREATER-THAN SIGN", 0x3e), ("QUESTION MARK", 0x3f), ("COMMERCIAL AT", 0x40),
    ("LATIN CAPITAL LETTER A", 0x41), ("LATIN CAPITAL LETTER B", 0x42),
    ("LATIN CAPITAL LETTER C", 0x43), ("LATIN CAPITAL LETTER D", 0x44),
    ("LATIN CAPITAL LETTER E", 0x45), ("LATIN CAPITAL LETTER F", 0x46),
    ("LATIN CAPITAL LETTER G", 0x47), ("LATIN CAPITAL LETTER H", 0x48),
    ("LATIN CAPITAL LETTER I", 0x49), ("LATIN CAPITAL LETTER J", 0x4a),
    ("LATIN CAPITAL LETTER K", 0x4b), ("LATIN CAPITAL LETTER L", 0x4c),
    ("LATIN CAPITAL LETTER M", 0x4d), ("LATIN CAPITAL LETTER N", 0x4e),
    ("LATIN CAPITAL LETTER O", 0x4f), ("LATIN CAPITAL LETTER P", 0x50),
    ("LATIN CAPITAL LETTER Q", 0x51), ("LATIN CAPITAL LETTER R", 0x52),
    ("LATIN CAPITAL LETTER S", 0x53), ("LATIN CAPITAL LETTER T", 0x54),
    ("LATIN CAPITAL LETTER U", 0x55), ("LATIN CAPITAL LETTER V", 0x56),
    ("LATIN CAPITAL LETTER W", 0x57), ("LATIN CAPITAL LETTER X", 0x58),
    ("LATIN CAPITAL LETTER Y", 0x59), ("LATIN CAPITAL LETTER Z", 0x5a),
    ("LEFT SQUARE BRACKET", 0x5b)]

private def characterNames2 : List (String × Nat) := [
    ("REVERSE SOLIDUS", 0x5c), ("RIGHT SQUARE BRACKET", 0x5d), ("CIRCUMFLEX ACCENT", 0x5e),
    ("LOW LINE", 0x5f), ("GRAVE ACCENT", 0x60), ("LATIN SMALL LETTER A", 0x61),
    ("LATIN SMALL LETTER B", 0x62), ("LATIN SMALL LETTER C", 0x63),
    ("LATIN SMALL LETTER D", 0x64), ("LATIN SMALL LETTER E", 0x65),
    ("LATIN SMALL LETTER F", 0x66), ("LATIN SMALL LETTER G", 0x67),
    ("LATIN SMALL LETTER H", 0x68), ("LATIN SMALL LETTER I", 0x69),
    ("LATIN SMALL LETTER J", 0x6a), ("LATIN SMALL LETTER K", 0x6b),
    ("LATIN SMALL LETTER L", 0x6c), ("LATIN SMALL LETTER M", 0x6d),
    ("LATIN SMALL LETTER N", 0x6e), ("LATIN SMALL LETTER O", 0x6f),
    ("LATIN SMALL LETTER P", 0x70), ("LATIN SMALL LETTER Q", 0x71),
    ("LATIN SMALL LETTER R", 0x72), ("LATIN SMALL LETTER S", 0x73),
    ("LATIN SMALL LETTER T", 0x74), ("LATIN SMALL LETTER U", 0x75),
    ("LATIN SMALL LETTER V", 0x76), ("LATIN SMALL LETTER W", 0x77),
    ("LATIN SMALL LETTER X", 0x78), ("LATIN SMALL LETTER Y", 0x79),
    ("LATIN SMALL LETTER Z", 0x7a), ("LEFT CURLY BRACKET", 0x7b), ("VERTICAL LINE", 0x7c),
    ("RIGHT CURLY BRACKET", 0x7d), ("TILDE", 0x7e), ("NO-BREAK SPACE", 0xa0),
    ("INVERTED EXCLAMATION MARK", 0xa1), ("CENT SIGN", 0xa2), ("POUND SIGN", 0xa3),
    ("CURRENCY SIGN", 0xa4), ("YEN SIGN", 0xa5), ("BROKEN BAR", 0xa6), ("SECTION SIGN", 0xa7),
    ("DIAERESIS", 0xa8), ("COPYRIGHT SIGN", 0xa9), ("FEMININE ORDINAL INDICATOR", 0xaa),
    ("LEFT-POINTING DOUBLE ANGLE QUOTATION MARK", 0xab), ("NOT SIGN", 0xac),
    ("SOFT HYPHEN", 0xad), ("REGISTERED SIGN", 0xae), ("MACRON", 0xaf), ("DEGREE SIGN", 0xb0),
    ("PLUS-MINUS SIGN", 0xb1), ("SUPERSCRIPT TWO", 0xb2), ("SUPERSCRIPT THREE", 0xb3),
    ("ACUTE ACCENT", 0xb4), ("MICRO SIGN", 0xb5), ("PILCROW SIGN", 0xb6), ("MIDDLE DOT", 0xb7),
    ("CEDILLA", 0xb8)]

private def characterNames3 : List (String × Nat) := [
    ("SUPERSCRIPT ONE", 0xb9), ("MASCULINE ORDINAL INDICATOR", 0xba),
    ("RIGHT-POINTING DOUBLE ANGLE QUOTATION MARK", 0xbb), ("VULGAR FRACTION ONE QUARTER", 0xbc),
    ("VULGAR FRACTION ONE HALF", 0xbd), ("VULGAR FRACTION THREE QUARTERS", 0xbe),
    ("INVERTED QUESTION MARK", 0xbf), ("LATIN CAPITAL LETTER A WITH GRAVE", 0xc0),
    ("LATIN CAPITAL LETTER A WITH ACUTE", 0xc1), ("LATIN CAPITAL LETTER A WITH CIRCUMFLEX", 0xc2),
    ("LATIN CAPITAL LETTER A WITH TILDE", 0xc3), ("LATIN CAPITAL LETTER A WITH DIAERESIS", 0xc4),
    ("LATIN CAPITAL LETTER A WITH RING ABOVE", 0xc5), ("LATIN CAPITAL LETTER AE", 0xc6),
    ("LATIN CAPITAL LETTER C WITH CEDILLA", 0xc7), ("LATIN CAPITAL LETTER E WITH GRAVE", 0xc8),
    ("LATIN CAPITAL LETTER E WITH ACUTE", 0xc9), ("LATIN CAPITAL LETTER E WITH CIRCUMFLEX", 0xca),
    ("LATIN CAPITAL LETTER E WITH DIAERESIS", 0xcb), ("LATIN CAPITAL LETTER I WITH GRAVE", 0xcc),
    ("LATIN CAPITAL LETTER I WITH ACUTE", 0xcd), ("LATIN CAPITAL LETTER I WITH CIRCUMFLEX", 0xce),
    ("LATIN CAPITAL LETTER I WITH DIAERESIS", 0xcf), ("LATIN CAPITAL LETTER ETH", 0xd0),
    ("LATIN CAPITAL LETTER N WITH TILDE", 0xd1), ("LATIN CAPITAL LETTER O WITH GRAVE", 0xd2),
    ("LATIN CAPITAL LETTER O WITH ACUTE", 0xd3), ("LATIN CAPITAL LETTER O WITH CIRCUMFLEX", 0xd4),
    ("LATIN CAPITAL LETTER O WITH TILDE", 0xd5), ("LATIN CAPITAL LETTER O WITH DIAERESIS", 0xd6),
    ("MULTIPLICATION SIGN", 0xd7), ("LATIN CAPITAL LETTER O WITH STROKE", 0xd8),
    ("LATIN CAPITAL LETTER U WITH GRAVE", 0xd9), ("LATIN CAPITAL LETTER U WITH ACUTE", 0xda),
    ("LATIN CAPITAL LETTER U WITH CIRCUMFLEX", 0xdb),
    ("LATIN CAPITAL LETTER U WITH DIAERESIS", 0xdc), ("LATIN CAPITAL LETTER Y WITH ACUTE", 0xdd),
    ("LATIN CAPITAL LETTER THORN", 0xde), ("LATIN SMALL LETTER SHARP S", 0xdf),
    ("LATIN SMALL LETTER A WITH GRAVE", 0xe0), ("LATIN SMALL LETTER A WITH ACUTE", 0xe1),
    ("LATIN SMALL LETTER A WITH CIRCUMFLEX", 0xe2), ("LATIN SMALL LETTER A WITH TILDE", 0xe3),
    ("LATIN SMALL LETTER A WITH DIAERESIS", 0xe4), ("LATIN SMALL LETTER A WITH RING ABOVE", 0xe5),
    ("LATIN SMALL LETTER AE", 0xe6), ("LATIN SMALL LETTER C WITH CEDILLA", 0xe7),
    ("LATIN SMALL LETTER E WITH GRAVE", 0xe8), ("LATIN SMALL LETTER E WITH ACUTE", 0xe9),
    ("LATIN SMALL LETTER E WITH CIRCUMFLEX", 0xea), ("LATIN SMALL LETTER E WITH DIAERESIS", 0xeb),
    ("LATIN SMALL LETTER I WITH GRAVE", 0xec), ("LATIN SMALL LETTER I WITH ACUTE", 0xed),
    ("LATIN SMALL LETTER I WITH CIRCUMFLEX", 0xee), ("LATIN SMALL LETTER I WITH DIAERESIS", 0xef),
    ("LATIN SMALL LETTER ETH", 0xf0), ("LATIN SMALL LETTER N WITH TILDE", 0xf1),
    ("LATIN SMALL LETTER O WITH GRAVE", 0xf2), ("LATIN SMALL LETTER O WITH ACUTE", 0xf3),
    ("LATIN SMALL LETTER O WITH CIRCUMFLEX", 0xf4)]

private def characterNames4 : List (String × Nat) := [
    ("LATIN SMALL LETTER O WITH TILDE", 0xf5), ("LATIN SMALL LETTER O WITH DIAERESIS", 0xf6),
    ("DIVISION SIGN", 0xf7), ("LATIN SMALL LETTER O WITH STROKE", 0xf8),
    ("LATIN SMALL LETTER U WITH GRAVE", 0xf9), ("LATIN SMALL LETTER U WITH ACUTE", 0xfa),
    ("LATIN SMALL LETTER U WITH CIRCUMFLEX", 0xfb), ("LATIN SMALL LETTER U WITH DIAERESIS", 0xfc),
    ("LATIN SMALL LETTER Y WITH ACUTE", 0xfd), ("LATIN SMALL LETTER THORN", 0xfe),
    ("LATIN SMALL LETTER Y WITH DIAERESIS", 0xff), ("LATIN CAPITAL LIGATURE OE", 0x152),
    ("LATIN SMALL LIGATURE OE", 0x153), ("LATIN CAPITAL LETTER S WITH CARON", 0x160),
    ("LATIN SMALL LETTER S WITH CARON", 0x161), ("LATIN CAPITAL LETTER Y WITH DIAERESIS", 0x178),
    ("LATIN CAPITAL LETTER Z WITH CARON", 0x17d), ("LATIN SMALL LETTER Z WITH CARON", 0x17e),
    ("LATIN SMALL LETTER F WITH HOOK", 0x192), ("LATIN SMALL LETTER DOTLESS I", 0x131),
    ("LATIN CAPITAL LETTER I WITH DOT ABOVE", 0x130), ("LATIN SMALL LETTER LONG S", 0x17f),
    ("GREEK CAPITAL LETTER ALPHA", 0x391), ("GREEK CAPITAL LETTER BETA", 0x392),
    ("GREEK CAPITAL LETTER GAMMA", 0x393), ("GREEK CAPITAL LETTER DELTA", 0x394),
    ("GREEK CAPITAL LETTER EPSILON", 0x395), ("GREEK CAPITAL LETTER ZETA", 0x396),
    ("GREEK CAPITAL LETTER ETA", 0x397), ("GREEK CAPITAL LETTER THETA", 0x398),
    ("GREEK CAPITAL LETTER IOTA", 0x399), ("GREEK CAPITAL LETTER KAPPA", 0x39a),
    ("GREEK CAPITAL LETTER LAMDA", 0x39b), ("GREEK CAPITAL LETTER MU", 0x39c),
    ("GREEK CAPITAL LETTER NU", 0x39d), ("GREEK CAPITAL LETTER XI", 0x39e),
    ("GREEK CAPITAL LETTER OMICRON", 0x39f), ("GREEK CAPITAL LETTER PI", 0x3a0),
    ("GREEK CAPITAL LETTER RHO", 0x3a1), ("GREEK CAPITAL LETTER SIGMA", 0x3a3),
    ("GREEK CAPITAL LETTER TAU", 0x3a4), ("GREEK CAPITAL LETTER UPSILON", 0x3a5),
    ("GREEK CAPITAL LETTER PHI", 0x3a6), ("GREEK CAPITAL LETTER CHI", 0x3a7),
    ("GREEK CAPITAL LETTER PSI", 0x3a8), ("GREEK CAPITAL LETTER OMEGA", 0x3a9),
    ("GREEK SMALL LETTER ALPHA", 0x3b1), ("GREEK SMALL LETTER BETA", 0x3b2),
    ("GREEK SMALL LETTER GAMMA", 0x3b3), ("GREEK SMALL LETTER DELTA", 0x3b4),
    ("GREEK SMALL LETTER EPSILON", 0x3b5), ("GREEK SMALL LETTER ZETA", 0x3b6),
    ("GREEK SMALL LETTER ETA", 0x3b7), ("GREEK SMALL LETTER THETA", 0x3b8),
    ("GREEK SMALL LETTER IOTA", 0x3b9), ("GREEK SMALL LETTER KAPPA", 0x3ba),
    ("GREEK SMALL LETTER LAMDA", 0x3bb), ("GREEK SMALL LETTER MU", 0x3bc),
    ("GREEK SMALL LETTER NU", 0x3bd), ("GREEK SMALL LETTER XI", 0x3be)]

private def characterNames5 : List (String × Nat) := [
    ("GREEK SMALL LETTER OMICRON", 0x3bf), ("GREEK SMALL LETTER PI", 0x3c0),
    ("GREEK SMALL LETTER RHO", 0x3c1), ("GREEK SMALL LETTER FINAL SIGMA", 0x3c2),
    ("GREEK SMALL LETTER SIGMA", 0x3c3), ("GREEK SMALL LETTER TAU", 0x3c4),
    ("GREEK SMALL LETTER UPSILON", 0x3c5), ("GREEK SMALL LETTER PHI", 0x3c6),
    ("GREEK SMALL LETTER CHI", 0x3c7), ("GREEK SMALL LETTER PSI", 0x3c8),
    ("GREEK SMALL LETTER OMEGA", 0x3c9), ("HYPHEN", 0x2010), ("NON-BREAKING HYPHEN", 0x2011),
    ("FIGURE DASH", 0x2012), ("EN DASH", 0x2013), ("EM DASH", 0x2014), ("HORIZONTAL BAR", 0x2015),
    ("DOUBLE VERTICAL LINE", 0x2016), ("DOUBLE LOW LINE", 0x2017),
    ("LEFT SINGLE QUOTATION MARK", 0x2018), ("RIGHT SINGLE QUOTATION MARK", 0x2019),
    ("SINGLE LOW-9 QUOTATION MARK", 0x201a), ("SINGLE HIGH-REVERSED-9 QUOTATION MARK", 0x201b),
    ("LEFT DOUBLE QUOTATION MARK", 0x201c), ("RIGHT DOUBLE QUOTATION MARK", 0x201d),
    ("DOUBLE LOW-9 QUOTATION MARK", 0x201e), ("DOUBLE HIGH-REVERSED-9 QUOTATION MARK", 0x201f),
    ("DAGGER", 0x2020), ("DOUBLE DAGGER", 0x2021), ("BULLET", 0x2022),
    ("TRIANGULAR BULLET", 0x2023), ("ONE DOT LEADER", 0x2024), ("TWO DOT LEADER", 0x2025),
    ("HORIZONTAL ELLIPSIS", 0x2026), ("HYPHENATION POINT", 0x2027), ("LINE SEPARATOR", 0x2028),
    ("PARAGRAPH SEPARATOR", 0x2029), ("LEFT-TO-RIGHT EMBEDDING", 0x202a),
    ("RIGHT-TO-LEFT EMBEDDING", 0x202b), ("POP DIRECTIONAL FORMATTING", 0x202c),
    ("LEFT-TO-RIGHT OVERRIDE", 0x202d), ("RIGHT-TO-LEFT OVERRIDE", 0x202e),
    ("NARROW NO-BREAK SPACE", 0x202f), ("PER MILLE SIGN", 0x2030),
    ("PER TEN THOUSAND SIGN", 0x2031), ("PRIME", 0x2032), ("DOUBLE PRIME", 0x2033),
    ("TRIPLE PRIME", 0x2034), ("REVERSED PRIME", 0x2035), ("REVERSED DOUBLE PRIME", 0x2036),
    ("REVERSED TRIPLE PRIME", 0x2037), ("CARET", 0x2038),
    ("SINGLE LEFT-POINTING ANGLE QUOTATION MARK", 0x2039),
    ("SINGLE RIGHT-POINTING ANGLE QUOTATION MARK", 0x203a), ("REFERENCE MARK", 0x203b),
    ("DOUBLE EXCLAMATION MARK", 0x203c), ("INTERROBANG", 0x203d), ("OVERLINE", 0x203e),
    ("UNDERTIE", 0x203f), ("EM SPACE", 0x2003)]

private def characterNames6 : List (String × Nat) := [
    ("EN SPACE", 0x2002), ("THIN SPACE", 0x2009), ("HAIR SPACE", 0x200a), ("EN QUAD", 0x2000),
    ("EM QUAD", 0x2001), ("FRACTION SLASH", 0x2044), ("EURO SIGN", 0x20ac),
    ("TRADE MARK SIGN", 0x2122), ("KELVIN SIGN", 0x212a), ("ANGSTROM SIGN", 0x212b),
    ("OHM SIGN", 0x2126), ("LEFTWARDS ARROW", 0x2190), ("UPWARDS ARROW", 0x2191),
    ("RIGHTWARDS ARROW", 0x2192), ("DOWNWARDS ARROW", 0x2193), ("LEFT RIGHT ARROW", 0x2194),
    ("FOR ALL", 0x2200), ("PARTIAL DIFFERENTIAL", 0x2202), ("THERE EXISTS", 0x2203),
    ("EMPTY SET", 0x2205), ("INCREMENT", 0x2206), ("NABLA", 0x2207), ("ELEMENT OF", 0x2208),
    ("N-ARY PRODUCT", 0x220f), ("N-ARY SUMMATION", 0x2211), ("MINUS SIGN", 0x2212),
    ("SQUARE ROOT", 0x221a), ("INFINITY", 0x221e), ("INTERSECTION", 0x2229), ("INTEGRAL", 0x222b),
    ("ALMOST EQUAL TO", 0x2248), ("NOT EQUAL TO", 0x2260), ("LESS-THAN OR EQUAL TO", 0x2264),
    ("GREATER-THAN OR EQUAL TO", 0x2265), ("BLACK CIRCLE", 0x25cf), ("WHITE CIRCLE", 0x25cb),
    ("CHECK MARK", 0x2713), ("BALLOT X", 0x2717), ("IDEOGRAPHIC SPACE", 0x3000),
    ("ZERO WIDTH NO-BREAK SPACE", 0xfeff), ("REPLACEMENT CHARACTER", 0xfffd),
    ("GRINNING FACE", 0x1f600), ("SNOWMAN", 0x2603), ("SNAKE", 0x1f40d), ("PILE OF POO", 0x1f4a9),
    ("NULL", 0x0), ("NUL", 0x0), ("BACKSPACE", 0x8), ("CHARACTER TABULATION", 0x9),
    ("HORIZONTAL TABULATION", 0x9), ("TAB", 0x9), ("HT", 0x9), ("LINE FEED", 0xa),
    ("NEW LINE", 0xa), ("END OF LINE", 0xa), ("LF", 0xa), ("NL", 0xa), ("EOL", 0xa),
    ("LINE TABULATION", 0xb), ("VERTICAL TABULATION", 0xb)]

private def characterNames7 : List (String × Nat) := [
    ("VT", 0xb), ("FORM FEED", 0xc), ("FF", 0xc), ("CARRIAGE RETURN", 0xd), ("CR", 0xd),
    ("ESCAPE", 0x1b), ("ESC", 0x1b), ("DELETE", 0x7f), ("DEL", 0x7f), ("NEXT LINE", 0x85),
    ("NEL", 0x85), ("NBSP", 0xa0), ("SHY", 0xad), ("BELL", 0x1f514), ("ALERT", 0x7), ("BEL", 0x7),
    ("SP", 0x20), ("BOM", 0xfeff), ("BYTE ORDER MARK", 0xfeff), ("ZWNBSP", 0xfeff),
    ("ZWSP", 0x200b), ("ZWNJ", 0x200c), ("ZWJ", 0x200d), ("BS", 0x8), ("SUBSTITUTE", 0x1a),
    ("SUB", 0x1a), ("SHIFT OUT", 0xe), ("SHIFT IN", 0xf), ("INFORMATION SEPARATOR ONE", 0x1f),
    ("UNIT SEPARATOR", 0x1f), ("RECORD SEPARATOR", 0x1e), ("GROUP SEPARATOR", 0x1d),
    ("FILE SEPARATOR", 0x1c), ("INFORMATION SEPARATOR FOUR", 0x1c), ("US", 0x1f), ("FS", 0x1c),
    ("GS", 0x1d), ("RS", 0x1e), ("CANCEL", 0x18), ("CAN", 0x18)]

/-- Names of characters, with their code points. -/
def characterNames : List (String × Nat) :=
  characterNames1 ++ characterNames2 ++ characterNames3 ++ characterNames4 ++
    characterNames5 ++ characterNames6 ++ characterNames7

/-- **The character of a name.** -/
def codeOfName? (name : String) : Option Nat :=
  characterNames.lookup (String.ofList (name.toList.map Char.toUpper))

end Text
end Recorder
