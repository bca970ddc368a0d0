/-!
# Compatibility tables — the characters of names that are written in more than one way

The data behind `Text.normalizeName`, for the characters that may occur in a name and without the
Hangul syllables, whose parts follow from their code points.
-/

namespace SignalLab.Text

/-- Full compatibility decompositions.  An entry gives a code point and, separated by spaces, the
decompositions of the code points from there on. -/
def decompositionBlocks : List (Nat × String) :=
  [(0xAA, "a"),
   (0xB5, "μ"),
   (0xBA, "o"),
   (0xC0, "A\u0300 A\u0301 A\u0302 A\u0303 A\u0308 A\u030a"),
   (0xC7, "C\u0327 E\u0300 E\u0301 E\u0302 E\u0308 I\u0300 I\u0301 I\u0302 I\u0308"),
   (0xD1, "N\u0303 O\u0300 O\u0301 O\u0302 O\u0303 O\u0308"),
   (0xD9, "U\u0300 U\u0301 U\u0302 U\u0308 Y\u0301"),
   (0xE0, "a\u0300 a\u0301 a\u0302 a\u0303 a\u0308 a\u030a"),
   (0xE7, "c\u0327 e\u0300 e\u0301 e\u0302 e\u0308 i\u0300 i\u0301 i\u0302 i\u0308"),
   (0xF1, "n\u0303 o\u0300 o\u0301 o\u0302 o\u0303 o\u0308"),
   (0xF9, "u\u0300 u\u0301 u\u0302 u\u0308 y\u0301"),
   (0xFF, "y\u0308 A\u0304 a\u0304 A\u0306 a\u0306 A\u0328 a\u0328 C\u0301 c\u0301 C\u0302"),
   (0x109, "c\u0302 C\u0307 c\u0307 C\u030c c\u030c D\u030c d\u030c"),
   (0x112, "E\u0304 e\u0304 E\u0306 e\u0306 E\u0307 e\u0307 E\u0328 e\u0328 E\u030c e\u030c"),
   (0x11C, "G\u0302 g\u0302 G\u0306 g\u0306 G\u0307 g\u0307 G\u0327 g\u0327 H\u0302 h\u0302"),
   (0x128, "I\u0303 i\u0303 I\u0304 i\u0304 I\u0306 i\u0306 I\u0328 i\u0328 I\u0307"),
   (0x132, "IJ ij J\u0302 j\u0302 K\u0327 k\u0327"),
   (0x139, "L\u0301 l\u0301 L\u0327 l\u0327 L\u030c l\u030c L· l·"),
   (0x143, "N\u0301 n\u0301 N\u0327 n\u0327 N\u030c n\u030c ʼn"),
   (0x14C, "O\u0304 o\u0304 O\u0306 o\u0306 O\u030b o\u030b"),
   (0x154, "R\u0301 r\u0301 R\u0327 r\u0327 R\u030c r\u030c S\u0301 s\u0301 S\u0302 s\u0302"),
   (0x15E, "S\u0327 s\u0327 S\u030c s\u030c T\u0327 t\u0327 T\u030c t\u030c"),
   (0x168, "U\u0303 u\u0303 U\u0304 u\u0304 U\u0306 u\u0306 U\u030a u\u030a U\u030b u\u030b"),
   (0x172, "U\u0328 u\u0328 W\u0302 w\u0302 Y\u0302 y\u0302 Y\u0308 Z\u0301 z\u0301 Z\u0307"),
   (0x17C, "z\u0307 Z\u030c z\u030c s"),
   (0x1A0, "O\u031b o\u031b"),
   (0x1AF, "U\u031b u\u031b"),
   (0x1C4, "DZ\u030c Dz\u030c dz\u030c LJ Lj lj NJ Nj nj A\u030c a\u030c I\u030c i\u030c"),
   (0x1D1, "O\u030c o\u030c U\u030c u\u030c U\u0308\u0304 u\u0308\u0304 U\u0308\u0301"),
   (0x1D8, "u\u0308\u0301 U\u0308\u030c u\u0308\u030c U\u0308\u0300 u\u0308\u0300"),
   (0x1DE, "A\u0308\u0304 a\u0308\u0304 A\u0307\u0304 a\u0307\u0304 Æ\u0304 æ\u0304"),
   (0x1E6, "G\u030c g\u030c K\u030c k\u030c O\u0328 o\u0328 O\u0328\u0304 o\u0328\u0304"),
   (0x1EE, "Ʒ\u030c ʒ\u030c j\u030c DZ Dz dz G\u0301 g\u0301"),
   (0x1F8, "N\u0300 n\u0300 A\u030a\u0301 a\u030a\u0301 Æ\u0301 æ\u0301 Ø\u0301 ø\u0301"),
   (0x200, "A\u030f a\u030f A\u0311 a\u0311 E\u030f e\u030f E\u0311 e\u0311 I\u030f i\u030f"),
   (0x20A, "I\u0311 i\u0311 O\u030f o\u030f O\u0311 o\u0311 R\u030f r\u030f R\u0311 r\u0311"),
   (0x214, "U\u030f u\u030f U\u0311 u\u0311 S\u0326 s\u0326 T\u0326 t\u0326"),
   (0x21E, "H\u030c h\u030c"),
   (0x226, "A\u0307 a\u0307 E\u0327 e\u0327 O\u0308\u0304 o\u0308\u0304 O\u0303\u0304"),
   (0x22D, "o\u0303\u0304 O\u0307 o\u0307 O\u0307\u0304 o\u0307\u0304 Y\u0304 y\u0304"),
   (0x2B0, "h ɦ j r ɹ ɻ ʁ w y"),
   (0x2E0, "ɣ l s x ʕ"),
   (0x340, "\u0300 \u0301"),
   (0x343, "\u0313 \u0308\u0301"),
   (0x374, "ʹ"),
   (0x386, "Α\u0301 · Ε\u0301 Η\u0301 Ι\u0301"),
   (0x38C, "Ο\u0301"),
   (0x38E, "Υ\u0301 Ω\u0301 ι\u0308\u0301"),
   (0x3AA, "Ι\u0308 Υ\u0308 α\u0301 ε\u0301 η\u0301 ι\u0301 υ\u0308\u0301"),
   (0x3CA, "ι\u0308 υ\u0308 ο\u0301 υ\u0301 ω\u0301"),
   (0x3D0, "β θ Υ Υ\u0301 Υ\u0308 φ π"),
   (0x3F0, "κ ρ ς"),
   (0x3F4, "Θ ε"),
   (0x3F9, "Σ"),
   (0x400, "Е\u0300 Е\u0308"),
   (0x403, "Г\u0301"),
   (0x407, "І\u0308"),
   (0x40C, "К\u0301 И\u0300 У\u0306"),
   (0x419, "И\u0306"),
   (0x439, "и\u0306"),
   (0x450, "е\u0300 е\u0308"),
   (0x453, "г\u0301"),
   (0x457, "і\u0308"),
   (0x45C, "к\u0301 и\u0300 у\u0306"),
   (0x476, "Ѵ\u030f ѵ\u030f"),
   (0x4C1, "Ж\u0306 ж\u0306"),
   (0x4D0, "А\u0306 а\u0306 А\u0308 а\u0308"),
   (0x4D6, "Е\u0306 е\u0306"),
   (0x4DA, "Ә\u0308 ә\u0308 Ж\u0308 ж\u0308 З\u0308 з\u0308"),
   (0x4E2, "И\u0304 и\u0304 И\u0308 и\u0308 О\u0308 о\u0308"),
   (0x4EA, "Ө\u0308 ө\u0308 Э\u0308 э\u0308 У\u0304 у\u0304 У\u0308 у\u0308 У\u030b у\u030b"),
   (0x4F4, "Ч\u0308 ч\u0308"),
   (0x4F8, "Ы\u0308 ы\u0308"),
   (0x587, "եւ"),
   (0x622, "\u0627\u0653 \u0627\u0654 \u0648\u0654 \u0627\u0655 \u064a\u0654"),
   (0x675, "\u0627\u0674 \u0648\u0674 \u06c7\u0674 \u064a\u0674"),
   (0x6C0, "\u06d5\u0654"),
   (0x6C2, "\u06c1\u0654"),
   (0x6D3, "\u06d2\u0654"),
   (0x929, "न\u093c"),
   (0x931, "र\u093c"),
   (0x934, "ळ\u093c"),
   (0x958, "क\u093c ख\u093c ग\u093c ज\u093c ड\u093c ढ\u093c फ\u093c य\u093c"),
   (0x9CB, "\u09c7\u09be \u09c7\u09d7"),
   (0x9DC, "ড\u09bc ঢ\u09bc"),
   (0x9DF, "য\u09bc"),
   (0xA33, "ਲ\u0a3c"),
   (0xA36, "ਸ\u0a3c"),
   (0xA59, "ਖ\u0a3c ਗ\u0a3c ਜ\u0a3c"),
   (0xA5E, "ਫ\u0a3c"),
   (0xB48, "\u0b47\u0b56"),
   (0xB4B, "\u0b47\u0b3e \u0b47\u0b57"),
   (0xB5C, "ଡ\u0b3c ଢ\u0b3c"),
   (0xB94, "ஒ\u0bd7"),
   (0xBCA, "\u0bc6\u0bbe \u0bc7\u0bbe \u0bc6\u0bd7"),
   (0xC48, "\u0c46\u0c56"),
   (0xCC0, "\u0cbf\u0cd5"),
   (0xCC7, "\u0cc6\u0cd5 \u0cc6\u0cd6"),
   (0xCCA, "\u0cc6\u0cc2 \u0cc6\u0cc2\u0cd5"),
   (0xD4A, "\u0d46\u0d3e \u0d47\u0d3e \u0d46\u0d57"),
   (0xDDA, "\u0dd9\u0dca"),
   (0xDDC, "\u0dd9\u0dcf \u0dd9\u0dcf\u0dca \u0dd9\u0ddf"),
   (0xE33, "\u0e4dา"),
   (0xEB3, "\u0ecdາ"),
   (0xEDC, "ຫນ ຫມ"),
   (0xF43, "ག\u0fb7"),
   (0xF4D, "ཌ\u0fb7"),
   (0xF52, "ད\u0fb7"),
   (0xF57, "བ\u0fb7"),
   (0xF5C, "ཛ\u0fb7"),
   (0xF69, "ཀ\u0fb5"),
   (0xF73, "\u0f71\u0f72"),
   (0xF75, "\u0f71\u0f74 \u0fb2\u0f80 \u0fb2\u0f71\u0f80 \u0fb3\u0f80 \u0fb3\u0f71\u0f80"),
   (0xF81, "\u0f71\u0f80"),
   (0xF93, "\u0f92\u0fb7"),
   (0xF9D, "\u0f9c\u0fb7"),
   (0xFA2, "\u0fa1\u0fb7"),
   (0xFA7, "\u0fa6\u0fb7"),
   (0xFAC, "\u0fab\u0fb7"),
   (0xFB9, "\u0f90\u0fb5"),
   (0x1026, "ဥ\u102e"),
   (0x10FC, "ნ"),
   (0x1B06, "ᬅ\u1b35"),
   (0x1B08, "ᬇ\u1b35"),
   (0x1B0A, "ᬉ\u1b35"),
   (0x1B0C, "ᬋ\u1b35"),
   (0x1B0E, "ᬍ\u1b35"),
   (0x1B12, "ᬑ\u1b35"),
   (0x1B3B, "\u1b3a\u1b35"),
   (0x1B3D, "\u1b3c\u1b35"),
   (0x1B40, "\u1b3e\u1b35 \u1b3f\u1b35"),
   (0x1B43, "\u1b42\u1b35"),
   (0x1D2C, "A Æ B"),
   (0x1D30, "D E Ǝ G H I J K L M N"),
   (0x1D3C, "O Ȣ P R T U W a ɐ ɑ ᴂ b d e ə ɛ ɜ g"),
   (0x1D4F, "k m ŋ o ɔ ᴖ ᴗ p t u ᴝ ɯ v ᴥ β γ δ φ χ i r u v β γ ρ φ χ"),
   (0x1D78, "н"),
   (0x1D9B, "ɒ c ɕ ð ɜ f ɟ ɡ ɥ ɨ ɩ ɪ ᵻ ʝ ɭ ᶅ ʟ ɱ ɰ ɲ ɳ ɴ ɵ ɸ ʂ ʃ ƫ ʉ ʊ ᴜ ʋ ʌ z ʐ ʑ ʒ θ"),
   (0x1E00, "A\u0325 a\u0325 B\u0307 b\u0307 B\u0323 b\u0323 B\u0331 b\u0331 C\u0327\u0301"),
   (0x1E09, "c\u0327\u0301 D\u0307 d\u0307 D\u0323 d\u0323 D\u0331 d\u0331 D\u0327 d\u0327"),
   (0x1E12, "D\u032d d\u032d E\u0304\u0300 e\u0304\u0300 E\u0304\u0301 e\u0304\u0301 E\u032d"),
   (0x1E19, "e\u032d E\u0330 e\u0330 E\u0327\u0306 e\u0327\u0306 F\u0307 f\u0307 G\u0304"),
   (0x1E21, "g\u0304 H\u0307 h\u0307 H\u0323 h\u0323 H\u0308 h\u0308 H\u0327 h\u0327 H\u032e"),
   (0x1E2B, "h\u032e I\u0330 i\u0330 I\u0308\u0301 i\u0308\u0301 K\u0301 k\u0301 K\u0323"),
   (0x1E33, "k\u0323 K\u0331 k\u0331 L\u0323 l\u0323 L\u0323\u0304 l\u0323\u0304 L\u0331"),
   (0x1E3B, "l\u0331 L\u032d l\u032d M\u0301 m\u0301 M\u0307 m\u0307 M\u0323 m\u0323 N\u0307"),
   (0x1E45, "n\u0307 N\u0323 n\u0323 N\u0331 n\u0331 N\u032d n\u032d O\u0303\u0301"),
   (0x1E4D, "o\u0303\u0301 O\u0303\u0308 o\u0303\u0308 O\u0304\u0300 o\u0304\u0300"),
   (0x1E52, "O\u0304\u0301 o\u0304\u0301 P\u0301 p\u0301 P\u0307 p\u0307 R\u0307 r\u0307"),
   (0x1E5A, "R\u0323 r\u0323 R\u0323\u0304 r\u0323\u0304 R\u0331 r\u0331 S\u0307 s\u0307"),
   (0x1E62, "S\u0323 s\u0323 S\u0301\u0307 s\u0301\u0307 S\u030c\u0307 s\u030c\u0307"),
   (0x1E68, "S\u0323\u0307 s\u0323\u0307 T\u0307 t\u0307 T\u0323 t\u0323 T\u0331 t\u0331"),
   (0x1E70, "T\u032d t\u032d U\u0324 u\u0324 U\u0330 u\u0330 U\u032d u\u032d U\u0303\u0301"),
   (0x1E79, "u\u0303\u0301 U\u0304\u0308 u\u0304\u0308 V\u0303 v\u0303 V\u0323 v\u0323 W\u0300"),
   (0x1E81, "w\u0300 W\u0301 w\u0301 W\u0308 w\u0308 W\u0307 w\u0307 W\u0323 w\u0323 X\u0307"),
   (0x1E8B, "x\u0307 X\u0308 x\u0308 Y\u0307 y\u0307 Z\u0302 z\u0302 Z\u0323 z\u0323 Z\u0331"),
   (0x1E95, "z\u0331 h\u0331 t\u0308 w\u030a y\u030a aʾ s\u0307"),
   (0x1EA0, "A\u0323 a\u0323 A\u0309 a\u0309 A\u0302\u0301 a\u0302\u0301 A\u0302\u0300"),
   (0x1EA7, "a\u0302\u0300 A\u0302\u0309 a\u0302\u0309 A\u0302\u0303 a\u0302\u0303"),
   (0x1EAC, "A\u0323\u0302 a\u0323\u0302 A\u0306\u0301 a\u0306\u0301 A\u0306\u0300"),
   (0x1EB1, "a\u0306\u0300 A\u0306\u0309 a\u0306\u0309 A\u0306\u0303 a\u0306\u0303"),
   (0x1EB6, "A\u0323\u0306 a\u0323\u0306 E\u0323 e\u0323 E\u0309 e\u0309 E\u0303 e\u0303"),
   (0x1EBE, "E\u0302\u0301 e\u0302\u0301 E\u0302\u0300 e\u0302\u0300 E\u0302\u0309"),
   (0x1EC3, "e\u0302\u0309 E\u0302\u0303 e\u0302\u0303 E\u0323\u0302 e\u0323\u0302 I\u0309"),
   (0x1EC9, "i\u0309 I\u0323 i\u0323 O\u0323 o\u0323 O\u0309 o\u0309 O\u0302\u0301"),
   (0x1ED1, "o\u0302\u0301 O\u0302\u0300 o\u0302\u0300 O\u0302\u0309 o\u0302\u0309"),
   (0x1ED6, "O\u0302\u0303 o\u0302\u0303 O\u0323\u0302 o\u0323\u0302 O\u031b\u0301"),
   (0x1EDB, "o\u031b\u0301 O\u031b\u0300 o\u031b\u0300 O\u031b\u0309 o\u031b\u0309"),
   (0x1EE0, "O\u031b\u0303 o\u031b\u0303 O\u031b\u0323 o\u031b\u0323 U\u0323 u\u0323 U\u0309"),
   (0x1EE7, "u\u0309 U\u031b\u0301 u\u031b\u0301 U\u031b\u0300 u\u031b\u0300 U\u031b\u0309"),
   (0x1EED, "u\u031b\u0309 U\u031b\u0303 u\u031b\u0303 U\u031b\u0323 u\u031b\u0323 Y\u0300"),
   (0x1EF3, "y\u0300 Y\u0323 y\u0323 Y\u0309 y\u0309 Y\u0303 y\u0303"),
   (0x1F00, "α\u0313 α\u0314 α\u0313\u0300 α\u0314\u0300 α\u0313\u0301 α\u0314\u0301"),
   (0x1F06, "α\u0313\u0342 α\u0314\u0342 Α\u0313 Α\u0314 Α\u0313\u0300 Α\u0314\u0300"),
   (0x1F0C, "Α\u0313\u0301 Α\u0314\u0301 Α\u0313\u0342 Α\u0314\u0342 ε\u0313 ε\u0314"),
   (0x1F12, "ε\u0313\u0300 ε\u0314\u0300 ε\u0313\u0301 ε\u0314\u0301"),
   (0x1F18, "Ε\u0313 Ε\u0314 Ε\u0313\u0300 Ε\u0314\u0300 Ε\u0313\u0301 Ε\u0314\u0301"),
   (0x1F20, "η\u0313 η\u0314 η\u0313\u0300 η\u0314\u0300 η\u0313\u0301 η\u0314\u0301"),
   (0x1F26, "η\u0313\u0342 η\u0314\u0342 Η\u0313 Η\u0314 Η\u0313\u0300 Η\u0314\u0300"),
   (0x1F2C, "Η\u0313\u0301 Η\u0314\u0301 Η\u0313\u0342 Η\u0314\u0342 ι\u0313 ι\u0314"),
   (0x1F32, "ι\u0313\u0300 ι\u0314\u0300 ι\u0313\u0301 ι\u0314\u0301 ι\u0313\u0342"),
   (0x1F37, "ι\u0314\u0342 Ι\u0313 Ι\u0314 Ι\u0313\u0300 Ι\u0314\u0300 Ι\u0313\u0301"),
   (0x1F3D, "Ι\u0314\u0301 Ι\u0313\u0342 Ι\u0314\u0342 ο\u0313 ο\u0314 ο\u0313\u0300"),
   (0x1F43, "ο\u0314\u0300 ο\u0313\u0301 ο\u0314\u0301"),
   (0x1F48, "Ο\u0313 Ο\u0314 Ο\u0313\u0300 Ο\u0314\u0300 Ο\u0313\u0301 Ο\u0314\u0301"),
   (0x1F50, "υ\u0313 υ\u0314 υ\u0313\u0300 υ\u0314\u0300 υ\u0313\u0301 υ\u0314\u0301"),
   (0x1F56, "υ\u0313\u0342 υ\u0314\u0342"),
   (0x1F59, "Υ\u0314"),
   (0x1F5B, "Υ\u0314\u0300"),
   (0x1F5D, "Υ\u0314\u0301"),
   (0x1F5F, "Υ\u0314\u0342 ω\u0313 ω\u0314 ω\u0313\u0300 ω\u0314\u0300 ω\u0313\u0301"),
   (0x1F65, "ω\u0314\u0301 ω\u0313\u0342 ω\u0314\u0342 Ω\u0313 Ω\u0314 Ω\u0313\u0300"),
   (0x1F6B, "Ω\u0314\u0300 Ω\u0313\u0301 Ω\u0314\u0301 Ω\u0313\u0342 Ω\u0314\u0342 α\u0300"),
   (0x1F71, "α\u0301 ε\u0300 ε\u0301 η\u0300 η\u0301 ι\u0300 ι\u0301 ο\u0300 ο\u0301 υ\u0300"),
   (0x1F7B, "υ\u0301 ω\u0300 ω\u0301"),
   (0x1F80, "α\u0313\u0345 α\u0314\u0345 α\u0313\u0300\u0345 α\u0314\u0300\u0345"),
   (0x1F84, "α\u0313\u0301\u0345 α\u0314\u0301\u0345 α\u0313\u0342\u0345 α\u0314\u0342\u0345"),
   (0x1F88, "Α\u0313\u0345 Α\u0314\u0345 Α\u0313\u0300\u0345 Α\u0314\u0300\u0345"),
   (0x1F8C, "Α\u0313\u0301\u0345 Α\u0314\u0301\u0345 Α\u0313\u0342\u0345 Α\u0314\u0342\u0345"),
   (0x1F90, "η\u0313\u0345 η\u0314\u0345 η\u0313\u0300\u0345 η\u0314\u0300\u0345"),
   (0x1F94, "η\u0313\u0301\u0345 η\u0314\u0301\u0345 η\u0313\u0342\u0345 η\u0314\u0342\u0345"),
   (0x1F98, "Η\u0313\u0345 Η\u0314\u0345 Η\u0313\u0300\u0345 Η\u0314\u0300\u0345"),
   (0x1F9C, "Η\u0313\u0301\u0345 Η\u0314\u0301\u0345 Η\u0313\u0342\u0345 Η\u0314\u0342\u0345"),
   (0x1FA0, "ω\u0313\u0345 ω\u0314\u0345 ω\u0313\u0300\u0345 ω\u0314\u0300\u0345"),
   (0x1FA4, "ω\u0313\u0301\u0345 ω\u0314\u0301\u0345 ω\u0313\u0342\u0345 ω\u0314\u0342\u0345"),
   (0x1FA8, "Ω\u0313\u0345 Ω\u0314\u0345 Ω\u0313\u0300\u0345 Ω\u0314\u0300\u0345"),
   (0x1FAC, "Ω\u0313\u0301\u0345 Ω\u0314\u0301\u0345 Ω\u0313\u0342\u0345 Ω\u0314\u0342\u0345"),
   (0x1FB0, "α\u0306 α\u0304 α\u0300\u0345 α\u0345 α\u0301\u0345"),
   (0x1FB6, "α\u0342 α\u0342\u0345 Α\u0306 Α\u0304 Α\u0300 Α\u0301 Α\u0345"),
   (0x1FBE, "ι"),
   (0x1FC2, "η\u0300\u0345 η\u0345 η\u0301\u0345"),
   (0x1FC6, "η\u0342 η\u0342\u0345 Ε\u0300 Ε\u0301 Η\u0300 Η\u0301 Η\u0345"),
   (0x1FD0, "ι\u0306 ι\u0304 ι\u0308\u0300 ι\u0308\u0301"),
   (0x1FD6, "ι\u0342 ι\u0308\u0342 Ι\u0306 Ι\u0304 Ι\u0300 Ι\u0301"),
   (0x1FE0, "υ\u0306 υ\u0304 υ\u0308\u0300 υ\u0308\u0301 ρ\u0313 ρ\u0314 υ\u0342 υ\u0308\u0342"),
   (0x1FE8, "Υ\u0306 Υ\u0304 Υ\u0300 Υ\u0301 Ρ\u0314"),
   (0x1FF2, "ω\u0300\u0345 ω\u0345 ω\u0301\u0345"),
   (0x1FF6, "ω\u0342 ω\u0342\u0345 Ο\u0300 Ο\u0301 Ω\u0300 Ω\u0301 Ω\u0345"),
   (0x2071, "i"),
   (0x207F, "n"),
   (0x2090, "a e o x ə h k l m n p s t"),
   (0x2102, "C"),
   (0x2107, "Ɛ"),
   (0x210A, "g H H H h ħ I I L l"),
   (0x2115, "N"),
   (0x2119, "P Q R R R"),
   (0x2124, "Z"),
   (0x2126, "Ω"),
   (0x2128, "Z"),
   (0x212A, "K A\u030a B C"),
   (0x212F, "e E F"),
   (0x2133, "M o \u05d0 \u05d1 \u05d2 \u05d3 i"),
   (0x213C, "π γ Γ Π"),
   (0x2145, "D d e i j"),
   (0x2160, "I II III IV V VI VII VIII IX X XI XII L C D M i ii iii iv v vi vii viii ix x xi"),
   (0x217B, "xii l c d m"),
   (0x2C7C, "j V"),
   (0x2D6F, "ⵡ"),
   (0x3038, "十 卄 卅"),
   (0x304C, "か\u3099"),
   (0x304E, "き\u3099"),
   (0x3050, "く\u3099"),
   (0x3052, "け\u3099"),
   (0x3054, "こ\u3099"),
   (0x3056, "さ\u3099"),
   (0x3058, "し\u3099"),
   (0x305A, "す\u3099"),
   (0x305C, "せ\u3099"),
   (0x305E, "そ\u3099"),
   (0x3060, "た\u3099"),
   (0x3062, "ち\u3099"),
   (0x3065, "つ\u3099"),
   (0x3067, "て\u3099"),
   (0x3069, "と\u3099"),
   (0x3070, "は\u3099 は\u309a"),
   (0x3073, "ひ\u3099 ひ\u309a"),
   (0x3076, "ふ\u3099 ふ\u309a"),
   (0x3079, "へ\u3099 へ\u309a"),
   (0x307C, "ほ\u3099 ほ\u309a"),
   (0x3094, "う\u3099"),
   (0x309E, "ゝ\u3099 より"),
   (0x30AC, "カ\u3099"),
   (0x30AE, "キ\u3099"),
   (0x30B0, "ク\u3099"),
   (0x30B2, "ケ\u3099"),
   (0x30B4, "コ\u3099"),
   (0x30B6, "サ\u3099"),
   (0x30B8, "シ\u3099"),
   (0x30BA, "ス\u3099"),
   (0x30BC, "セ\u3099"),
   (0x30BE, "ソ\u3099"),
   (0x30C0, "タ\u3099"),
   (0x30C2, "チ\u3099"),
   (0x30C5, "ツ\u3099"),
   (0x30C7, "テ\u3099"),
   (0x30C9, "ト\u3099"),
   (0x30D0, "ハ\u3099 ハ\u309a"),
   (0x30D3, "ヒ\u3099 ヒ\u309a"),
   (0x30D6, "フ\u3099 フ\u309a"),
   (0x30D9, "ヘ\u3099 ヘ\u309a"),
   (0x30DC, "ホ\u3099 ホ\u309a"),
   (0x30F4, "ウ\u3099"),
   (0x30F7, "ワ\u3099 ヰ\u3099 ヱ\u3099 ヲ\u3099"),
   (0x30FE, "ヽ\u3099 コト"),
   (0x3131, "ᄀ ᄁ ᆪ ᄂ ᆬ ᆭ ᄃ ᄄ ᄅ ᆰ ᆱ ᆲ ᆳ ᆴ ᆵ ᄚ ᄆ ᄇ ᄈ ᄡ ᄉ ᄊ ᄋ ᄌ ᄍ ᄎ ᄏ ᄐ ᄑ ᄒ ᅡ ᅢ ᅣ ᅤ ᅥ ᅦ ᅧ ᅨ ᅩ ᅪ ᅫ"),
   (0x315A, "ᅬ ᅭ ᅮ ᅯ ᅰ ᅱ ᅲ ᅳ ᅴ ᅵ ᅠ ᄔ ᄕ ᇇ ᇈ ᇌ ᇎ ᇓ ᇗ ᇙ ᄜ ᇝ ᇟ ᄝ ᄞ ᄠ ᄢ ᄣ ᄧ ᄩ ᄫ ᄬ ᄭ ᄮ ᄯ ᄲ ᄶ ᅀ ᅇ ᅌ ᇱ"),
   (0x3183, "ᇲ ᅗ ᅘ ᅙ ᆄ ᆅ ᆈ ᆑ ᆒ ᆔ ᆞ ᆡ"),
   (0xA69C, "ъ ь"),
   (0xA770, "ꝯ"),
   (0xA7F2, "C F Q"),
   (0xA7F8, "Ħ œ"),
   (0xAB5C, "ꜧ ꬷ ɫ ꭒ"),
   (0xAB69, "ʍ"),
   (0xF900, "豈 更 車 賈 滑 串 句 龜 龜 契 金 喇 奈 懶 癩 羅 蘿 螺 裸 邏 樂 洛 烙 珞 落 酪 駱 亂 卵 欄 爛 蘭 鸞 嵐 濫 藍 襤 拉 臘 蠟 廊"),
   (0xF929, "朗 浪 狼 郎 來 冷 勞 擄 櫓 爐 盧 老 蘆 虜 路 露 魯 鷺 碌 祿 綠 菉 錄 鹿 論 壟 弄 籠 聾 牢 磊 賂 雷 壘 屢 樓 淚 漏 累 縷 陋"),
   (0xF952, "勒 肋 凜 凌 稜 綾 菱 陵 讀 拏 樂 諾 丹 寧 怒 率 異 北 磻 便 復 不 泌 數 索 參 塞 省 葉 說 殺 辰 沈 拾 若 掠 略 亮 兩 凉 梁"),
   (0xF97B, "糧 良 諒 量 勵 呂 女 廬 旅 濾 礪 閭 驪 麗 黎 力 曆 歷 轢 年 憐 戀 撚 漣 煉 璉 秊 練 聯 輦 蓮 連 鍊 列 劣 咽 烈 裂 說 廉 念"),
   (0xF9A4, "捻 殮 簾 獵 令 囹 寧 嶺 怜 玲 瑩 羚 聆 鈴 零 靈 領 例 禮 醴 隸 惡 了 僚 寮 尿 料 樂 燎 療 蓼 遼 龍 暈 阮 劉 杻 柳 流 溜 琉"),
   (0xF9CD, "留 硫 紐 類 六 戮 陸 倫 崙 淪 輪 律 慄 栗 率 隆 利 吏 履 易 李 梨 泥 理 痢 罹 裏 裡 里 離 匿 溺 吝 燐 璘 藺 隣 鱗 麟 林 淋"),
   (0xF9F6, "臨 立 笠 粒 狀 炙 識 什 茶 刺 切 度 拓 糖 宅 洞 暴 輻 行 降 見 廓 兀 嗀"),
   (0xFA10, "塚"),
   (0xFA12, "晴"),
   (0xFA15, "凞 猪 益 礼 神 祥 福 靖 精 羽"),
   (0xFA20, "蘒"),
   (0xFA22, "諸"),
   (0xFA25, "逸 都"),
   (0xFA2A, "飯 飼 館 鶴 郞 隷 侮 僧 免 勉 勤 卑 喝 嘆 器 塀 墨 層 屮 悔 慨 憎 懲 敏 既 暑 梅 海 渚 漢 煮 爫 琢 碑 社 祉 祈 祐 祖 祝 禍"),
   (0xFA53, "禎 穀 突 節 練 縉 繁 署 者 臭 艹 艹 著 褐 視 謁 謹 賓 贈 辶 逸 難 響 頻 恵 𤋮 舘"),
   (0xFA70, "並 况 全 侀 充 冀 勇 勺 喝 啕 喙 嗢 塚 墳 奄 奔 婢 嬨 廒 廙 彩 徭 惘 慎 愈 憎 慠 懲 戴 揄 搜 摒 敖 晴 朗 望 杖 歹 殺 流 滛"),
   (0xFA99, "滋 漢 瀞 煮 瞧 爵 犯 猪 瑱 甆 画 瘝 瘟 益 盛 直 睊 着 磌 窱 節 类 絛 練 缾 者 荒 華 蝹 襁 覆 視 調 諸 請 謁 諾 諭 謹 變 贈"),
   (0xFAC2, "輸 遲 醙 鉶 陼 難 靖 韛 響 頋 頻 鬒 龜 𢡊 𢡄 𣏕 㮝 䀘 䀹 𥉉 𥳐 𧻓 齃 龎"),
   (0xFB00, "ff fi fl ffi ffl st st"),
   (0xFB13, "մն մե մի վն մխ"),
   (0xFB1D, "\u05d9\u05b4"),
   (0xFB1F, "\u05f2\u05b7 \u05e2 \u05d0 \u05d3 \u05d4 \u05db \u05dc \u05dd \u05e8 \u05ea"),
   (0xFB2A, "\u05e9\u05c1 \u05e9\u05c2 \u05e9\u05bc\u05c1 \u05e9\u05bc\u05c2 \u05d0\u05b7"),
   (0xFB2F, "\u05d0\u05b8 \u05d0\u05bc \u05d1\u05bc \u05d2\u05bc \u05d3\u05bc \u05d4\u05bc"),
   (0xFB35, "\u05d5\u05bc \u05d6\u05bc"),
   (0xFB38, "\u05d8\u05bc \u05d9\u05bc \u05da\u05bc \u05db\u05bc \u05dc\u05bc"),
   (0xFB3E, "\u05de\u05bc"),
   (0xFB40, "\u05e0\u05bc \u05e1\u05bc"),
   (0xFB43, "\u05e3\u05bc \u05e4\u05bc"),
   (0xFB46, "\u05e6\u05bc \u05e7\u05bc \u05e8\u05bc \u05e9\u05bc \u05ea\u05bc \u05d5\u05b9"),
   (0xFB4C, "\u05d1\u05bf \u05db\u05bf \u05e4\u05bf \u05d0\u05dc \u0671 \u0671 \u067b \u067b"),
   (0xFB54, "\u067b \u067b \u067e \u067e \u067e \u067e \u0680 \u0680 \u0680 \u0680 \u067a"),
   (0xFB5F, "\u067a \u067a \u067a \u067f \u067f \u067f \u067f \u0679 \u0679 \u0679 \u0679"),
   (0xFB6A, "\u06a4 \u06a4 \u06a4 \u06a4 \u06a6 \u06a6 \u06a6 \u06a6 \u0684 \u0684 \u0684"),
   (0xFB75, "\u0684 \u0683 \u0683 \u0683 \u0683 \u0686 \u0686 \u0686 \u0686 \u0687 \u0687"),
   (0xFB80, "\u0687 \u0687 \u068d \u068d \u068c \u068c \u068e \u068e \u0688 \u0688 \u0698"),
   (0xFB8B, "\u0698 \u0691 \u0691 \u06a9 \u06a9 \u06a9 \u06a9 \u06af \u06af \u06af \u06af"),
   (0xFB96, "\u06b3 \u06b3 \u06b3 \u06b3 \u06b1 \u06b1 \u06b1 \u06b1 \u06ba \u06ba \u06bb"),
   (0xFBA1, "\u06bb \u06bb \u06bb \u06d5\u0654 \u06d5\u0654 \u06c1 \u06c1 \u06c1 \u06c1 \u06be"),
   (0xFBAB, "\u06be \u06be \u06be \u06d2 \u06d2 \u06d2\u0654 \u06d2\u0654"),
   (0xFBD3, "\u06ad \u06ad \u06ad \u06ad \u06c7 \u06c7 \u06c6 \u06c6 \u06c8 \u06c8"),
   (0xFBDD, "\u06c7\u0674 \u06cb \u06cb \u06c5 \u06c5 \u06c9 \u06c9 \u06d0 \u06d0 \u06d0"),
   (0xFBE7, "\u06d0 \u0649 \u0649 \u064a\u0654\u0627 \u064a\u0654\u0627 \u064a\u0654\u06d5"),
   (0xFBED, "\u064a\u0654\u06d5 \u064a\u0654\u0648 \u064a\u0654\u0648 \u064a\u0654\u06c7"),
   (0xFBF1, "\u064a\u0654\u06c7 \u064a\u0654\u06c6 \u064a\u0654\u06c6 \u064a\u0654\u06c8"),
   (0xFBF5, "\u064a\u0654\u06c8 \u064a\u0654\u06d0 \u064a\u0654\u06d0 \u064a\u0654\u06d0"),
   (0xFBF9, "\u064a\u0654\u0649 \u064a\u0654\u0649 \u064a\u0654\u0649 \u06cc \u06cc \u06cc"),
   (0xFBFF, "\u06cc \u064a\u0654\u062c \u064a\u0654\u062d \u064a\u0654\u0645"),
   (0xFC03, "\u064a\u0654\u0649 \u064a\u0654\u064a \u0628\u062c \u0628\u062d \u0628\u062e"),
   (0xFC08, "\u0628\u0645 \u0628\u0649 \u0628\u064a \u062a\u062c \u062a\u062d \u062a\u062e"),
   (0xFC0E, "\u062a\u0645 \u062a\u0649 \u062a\u064a \u062b\u062c \u062b\u0645 \u062b\u0649"),
   (0xFC14, "\u062b\u064a \u062c\u062d \u062c\u0645 \u062d\u062c \u062d\u0645 \u062e\u062c"),
   (0xFC1A, "\u062e\u062d \u062e\u0645 \u0633\u062c \u0633\u062d \u0633\u062e \u0633\u0645"),
   (0xFC20, "\u0635\u062d \u0635\u0645 \u0636\u062c \u0636\u062d \u0636\u062e \u0636\u0645"),
   (0xFC26, "\u0637\u062d \u0637\u0645 \u0638\u0645 \u0639\u062c \u0639\u0645 \u063a\u062c"),
   (0xFC2C, "\u063a\u0645 \u0641\u062c \u0641\u062d \u0641\u062e \u0641\u0645 \u0641\u0649"),
   (0xFC32, "\u0641\u064a \u0642\u062d \u0642\u0645 \u0642\u0649 \u0642\u064a \u0643\u0627"),
   (0xFC38, "\u0643\u062c \u0643\u062d \u0643\u062e \u0643\u0644 \u0643\u0645 \u0643\u0649"),
   (0xFC3E, "\u0643\u064a \u0644\u062c \u0644\u062d \u0644\u062e \u0644\u0645 \u0644\u0649"),
   (0xFC44, "\u0644\u064a \u0645\u062c \u0645\u062d \u0645\u062e \u0645\u0645 \u0645\u0649"),
   (0xFC4A, "\u0645\u064a \u0646\u062c \u0646\u062d \u0646\u062e \u0646\u0645 \u0646\u0649"),
   (0xFC50, "\u0646\u064a \u0647\u062c \u0647\u0645 \u0647\u0649 \u0647\u064a \u064a\u062c"),
   (0xFC56, "\u064a\u062d \u064a\u062e \u064a\u0645 \u064a\u0649 \u064a\u064a \u0630\u0670"),
   (0xFC5C, "\u0631\u0670 \u0649\u0670"),
   (0xFC64, "\u064a\u0654\u0631 \u064a\u0654\u0632 \u064a\u0654\u0645 \u064a\u0654\u0646"),
   (0xFC68, "\u064a\u0654\u0649 \u064a\u0654\u064a \u0628\u0631 \u0628\u0632 \u0628\u0645"),
   (0xFC6D, "\u0628\u0646 \u0628\u0649 \u0628\u064a \u062a\u0631 \u062a\u0632 \u062a\u0645"),
   (0xFC73, "\u062a\u0646 \u062a\u0649 \u062a\u064a \u062b\u0631 \u062b\u0632 \u062b\u0645"),
   (0xFC79, "\u062b\u0646 \u062b\u0649 \u062b\u064a \u0641\u0649 \u0641\u064a \u0642\u0649"),
   (0xFC7F, "\u0642\u064a \u0643\u0627 \u0643\u0644 \u0643\u0645 \u0643\u0649 \u0643\u064a"),
   (0xFC85, "\u0644\u0645 \u0644\u0649 \u0644\u064a \u0645\u0627 \u0645\u0645 \u0646\u0631"),
   (0xFC8B, "\u0646\u0632 \u0646\u0645 \u0646\u0646 \u0646\u0649 \u0646\u064a \u0649\u0670"),
   (0xFC91, "\u064a\u0631 \u064a\u0632 \u064a\u0645 \u064a\u0646 \u064a\u0649 \u064a\u064a"),
   (0xFC97, "\u064a\u0654\u062c \u064a\u0654\u062d \u064a\u0654\u062e \u064a\u0654\u0645"),
   (0xFC9B, "\u064a\u0654\u0647 \u0628\u062c \u0628\u062d \u0628\u062e \u0628\u0645"),
   (0xFCA0, "\u0628\u0647 \u062a\u062c \u062a\u062d \u062a\u062e \u062a\u0645 \u062a\u0647"),
   (0xFCA6, "\u062b\u0645 \u062c\u062d \u062c\u0645 \u062d\u062c \u062d\u0645 \u062e\u062c"),
   (0xFCAC, "\u062e\u0645 \u0633\u062c \u0633\u062d \u0633\u062e \u0633\u0645 \u0635\u062d"),
   (0xFCB2, "\u0635\u062e \u0635\u0645 \u0636\u062c \u0636\u062d \u0636\u062e \u0636\u0645"),
   (0xFCB8, "\u0637\u062d \u0638\u0645 \u0639\u062c \u0639\u0645 \u063a\u062c \u063a\u0645"),
   (0xFCBE, "\u0641\u062c \u0641\u062d \u0641\u062e \u0641\u0645 \u0642\u062d \u0642\u0645"),
   (0xFCC4, "\u0643\u062c \u0643\u062d \u0643\u062e \u0643\u0644 \u0643\u0645 \u0644\u062c"),
   (0xFCCA, "\u0644\u062d \u0644\u062e \u0644\u0645 \u0644\u0647 \u0645\u062c \u0645\u062d"),
   (0xFCD0, "\u0645\u062e \u0645\u0645 \u0646\u062c \u0646\u062d \u0646\u062e \u0646\u0645"),
   (0xFCD6, "\u0646\u0647 \u0647\u062c \u0647\u0645 \u0647\u0670 \u064a\u062c \u064a\u062d"),
   (0xFCDC, "\u064a\u062e \u064a\u0645 \u064a\u0647 \u064a\u0654\u0645 \u064a\u0654\u0647"),
   (0xFCE1, "\u0628\u0645 \u0628\u0647 \u062a\u0645 \u062a\u0647 \u062b\u0645 \u062b\u0647"),
   (0xFCE7, "\u0633\u0645 \u0633\u0647 \u0634\u0645 \u0634\u0647 \u0643\u0644 \u0643\u0645"),
   (0xFCED, "\u0644\u0645 \u0646\u0645 \u0646\u0647 \u064a\u0645 \u064a\u0647"),
   (0xFCF2, "\u0640\u064e\u0651 \u0640\u064f\u0651 \u0640\u0650\u0651 \u0637\u0649"),
   (0xFCF6, "\u0637\u064a \u0639\u0649 \u0639\u064a \u063a\u0649 \u063a\u064a \u0633\u0649"),
   (0xFCFC, "\u0633\u064a \u0634\u0649 \u0634\u064a \u062d\u0649 \u062d\u064a \u062c\u0649"),
   (0xFD02, "\u062c\u064a \u062e\u0649 \u062e\u064a \u0635\u0649 \u0635\u064a \u0636\u0649"),
   (0xFD08, "\u0636\u064a \u0634\u062c \u0634\u062d \u0634\u062e \u0634\u0645 \u0634\u0631"),
   (0xFD0E, "\u0633\u0631 \u0635\u0631 \u0636\u0631 \u0637\u0649 \u0637\u064a \u0639\u0649"),
   (0xFD14, "\u0639\u064a \u063a\u0649 \u063a\u064a \u0633\u0649 \u0633\u064a \u0634\u0649"),
   (0xFD1A, "\u0634\u064a \u062d\u0649 \u062d\u064a \u062c\u0649 \u062c\u064a \u062e\u0649"),
   (0xFD20, "\u062e\u064a \u0635\u0649 \u0635\u064a \u0636\u0649 \u0636\u064a \u0634\u062c"),
   (0xFD26, "\u0634\u062d \u0634\u062e \u0634\u0645 \u0634\u0631 \u0633\u0631 \u0635\u0631"),
   (0xFD2C, "\u0636\u0631 \u0634\u062c \u0634\u062d \u0634\u062e \u0634\u0645 \u0633\u0647"),
   (0xFD32, "\u0634\u0647 \u0637\u0645 \u0633\u062c \u0633\u062d \u0633\u062e \u0634\u062c"),
   (0xFD38, "\u0634\u062d \u0634\u062e \u0637\u0645 \u0638\u0645 \u0627\u064b \u0627\u064b"),
   (0xFD50, "\u062a\u062c\u0645 \u062a\u062d\u062c \u062a\u062d\u062c \u062a\u062d\u0645"),
   (0xFD54, "\u062a\u062e\u0645 \u062a\u0645\u062c \u062a\u0645\u062d \u062a\u0645\u062e"),
   (0xFD58, "\u062c\u0645\u062d \u062c\u0645\u062d \u062d\u0645\u064a \u062d\u0645\u0649"),
   (0xFD5C, "\u0633\u062d\u062c \u0633\u062c\u062d \u0633\u062c\u0649 \u0633\u0645\u062d"),
   (0xFD60, "\u0633\u0645\u062d \u0633\u0645\u062c \u0633\u0645\u0645 \u0633\u0645\u0645"),
   (0xFD64, "\u0635\u062d\u062d \u0635\u062d\u062d \u0635\u0645\u0645 \u0634\u062d\u0645"),
   (0xFD68, "\u0634\u062d\u0645 \u0634\u062c\u064a \u0634\u0645\u062e \u0634\u0645\u062e"),
   (0xFD6C, "\u0634\u0645\u0645 \u0634\u0645\u0645 \u0636\u062d\u0649 \u0636\u062e\u0645"),
   (0xFD70, "\u0636\u062e\u0645 \u0637\u0645\u062d \u0637\u0645\u062d \u0637\u0645\u0645"),
   (0xFD74, "\u0637\u0645\u064a \u0639\u062c\u0645 \u0639\u0645\u0645 \u0639\u0645\u0645"),
   (0xFD78, "\u0639\u0645\u0649 \u063a\u0645\u0645 \u063a\u0645\u064a \u063a\u0645\u0649"),
   (0xFD7C, "\u0641\u062e\u0645 \u0641\u062e\u0645 \u0642\u0645\u062d \u0642\u0645\u0645"),
   (0xFD80, "\u0644\u062d\u0645 \u0644\u062d\u064a \u0644\u062d\u0649 \u0644\u062c\u062c"),
   (0xFD84, "\u0644\u062c\u062c \u0644\u062e\u0645 \u0644\u062e\u0645 \u0644\u0645\u062d"),
   (0xFD88, "\u0644\u0645\u062d \u0645\u062d\u062c \u0645\u062d\u0645 \u0645\u062d\u064a"),
   (0xFD8C, "\u0645\u062c\u062d \u0645\u062c\u0645 \u0645\u062e\u062c \u0645\u062e\u0645"),
   (0xFD92, "\u0645\u062c\u062e \u0647\u0645\u062c \u0647\u0645\u0645 \u0646\u062d\u0645"),
   (0xFD96, "\u0646\u062d\u0649 \u0646\u062c\u0645 \u0646\u062c\u0645 \u0646\u062c\u0649"),
   (0xFD9A, "\u0646\u0645\u064a \u0646\u0645\u0649 \u064a\u0645\u0645 \u064a\u0645\u0645"),
   (0xFD9E, "\u0628\u062e\u064a \u062a\u062c\u064a \u062a\u062c\u0649 \u062a\u062e\u064a"),
   (0xFDA2, "\u062a\u062e\u0649 \u062a\u0645\u064a \u062a\u0645\u0649 \u062c\u0645\u064a"),
   (0xFDA6, "\u062c\u062d\u0649 \u062c\u0645\u0649 \u0633\u062e\u0649 \u0635\u062d\u064a"),
   (0xFDAA, "\u0634\u062d\u064a \u0636\u062d\u064a \u0644\u062c\u064a \u0644\u0645\u064a"),
   (0xFDAE, "\u064a\u062d\u064a \u064a\u062c\u064a \u064a\u0645\u064a \u0645\u0645\u064a"),
   (0xFDB2, "\u0642\u0645\u064a \u0646\u062d\u064a \u0642\u0645\u062d \u0644\u062d\u0645"),
   (0xFDB6, "\u0639\u0645\u064a \u0643\u0645\u064a \u0646\u062c\u062d \u0645\u062e\u064a"),
   (0xFDBA, "\u0644\u062c\u0645 \u0643\u0645\u0645 \u0644\u062c\u0645 \u0646\u062c\u062d"),
   (0xFDBE, "\u062c\u062d\u064a \u062d\u062c\u064a \u0645\u062c\u064a \u0641\u0645\u064a"),
   (0xFDC2, "\u0628\u062d\u064a \u0643\u0645\u0645 \u0639\u062c\u0645 \u0635\u0645\u0645"),
   (0xFDC6, "\u0633\u062e\u064a \u0646\u062c\u064a"),
   (0xFDF0, "\u0635\u0644\u06d2 \u0642\u0644\u06d2 \u0627\u0644\u0644\u0647"),
   (0xFDF3, "\u0627\u0643\u0628\u0631 \u0645\u062d\u0645\u062f \u0635\u0644\u0639\u0645"),
   (0xFDF6, "\u0631\u0633\u0648\u0644 \u0639\u0644\u064a\u0647 \u0648\u0633\u0644\u0645"),
   (0xFDF9, "\u0635\u0644\u0649"),
   (0xFE33, "_ _"),
   (0xFE4D, "_ _ _"),
   (0xFE71, "\u0640\u064b"),
   (0xFE77, "\u0640\u064e"),
   (0xFE79, "\u0640\u064f"),
   (0xFE7B, "\u0640\u0650"),
   (0xFE7D, "\u0640\u0651"),
   (0xFE7F, "\u0640\u0652 \u0621 \u0627\u0653 \u0627\u0653 \u0627\u0654 \u0627\u0654"),
   (0xFE85, "\u0648\u0654 \u0648\u0654 \u0627\u0655 \u0627\u0655 \u064a\u0654 \u064a\u0654"),
   (0xFE8B, "\u064a\u0654 \u064a\u0654 \u0627 \u0627 \u0628 \u0628 \u0628 \u0628 \u0629 \u0629"),
   (0xFE95, "\u062a \u062a \u062a \u062a \u062b \u062b \u062b \u062b \u062c \u062c \u062c"),
   (0xFEA0, "\u062c \u062d \u062d \u062d \u062d \u062e \u062e \u062e \u062e \u062f \u062f"),
   (0xFEAB, "\u0630 \u0630 \u0631 \u0631 \u0632 \u0632 \u0633 \u0633 \u0633 \u0633 \u0634"),
   (0xFEB6, "\u0634 \u0634 \u0634 \u0635 \u0635 \u0635 \u0635 \u0636 \u0636 \u0636 \u0636"),
   (0xFEC1, "\u0637 \u0637 \u0637 \u0637 \u0638 \u0638 \u0638 \u0638 \u0639 \u0639 \u0639"),
   (0xFECC, "\u0639 \u063a \u063a \u063a \u063a \u0641 \u0641 \u0641 \u0641 \u0642 \u0642"),
   (0xFED7, "\u0642 \u0642 \u0643 \u0643 \u0643 \u0643 \u0644 \u0644 \u0644 \u0644 \u0645"),
   (0xFEE2, "\u0645 \u0645 \u0645 \u0646 \u0646 \u0646 \u0646 \u0647 \u0647 \u0647 \u0647"),
   (0xFEED, "\u0648 \u0648 \u0649 \u0649 \u064a \u064a \u064a \u064a \u0644\u0627\u0653"),
   (0xFEF6, "\u0644\u0627\u0653 \u0644\u0627\u0654 \u0644\u0627\u0654 \u0644\u0627\u0655"),
   (0xFEFA, "\u0644\u0627\u0655 \u0644\u0627 \u0644\u0627"),
   (0xFF10, "0 1 2 3 4 5 6 7 8 9"),
   (0xFF21, "A B C D E F G H I J K L M N O P Q R S T U V W X Y Z"),
   (0xFF3F, "_"),
   (0xFF41, "a b c d e f g h i j k l m n o p q r s t u v w x y z"),
   (0xFF66, "ヲ ァ ィ ゥ ェ ォ ャ ュ ョ ッ ー ア イ ウ エ オ カ キ ク ケ コ サ シ ス セ ソ タ チ ツ テ ト ナ ニ ヌ ネ ノ ハ ヒ フ ヘ ホ"),
   (0xFF8F, "マ ミ ム メ モ ヤ ユ ヨ ラ リ ル レ ロ ワ ン \u3099 \u309a ᅠ ᄀ ᄁ ᆪ ᄂ ᆬ ᆭ ᄃ ᄄ ᄅ ᆰ ᆱ ᆲ ᆳ ᆴ ᆵ ᄚ ᄆ ᄇ"),
   (0xFFB3, "ᄈ ᄡ ᄉ ᄊ ᄋ ᄌ ᄍ ᄎ ᄏ ᄐ ᄑ ᄒ"),
   (0xFFC2, "ᅡ ᅢ ᅣ ᅤ ᅥ ᅦ"),
   (0xFFCA, "ᅧ ᅨ ᅩ ᅪ ᅫ ᅬ"),
   (0xFFD2, "ᅭ ᅮ ᅯ ᅰ ᅱ ᅲ"),
   (0xFFDA, "ᅳ ᅴ ᅵ"),
   (0x10781, "ː ˑ æ ʙ ɓ"),
   (0x10787, "ʣ ꭦ ʥ ʤ ɖ ɗ ᶑ ɘ ɞ ʩ ɤ ɢ ɠ ʛ ħ ʜ ɧ ʄ ʪ ʫ ɬ 𝼄 ꞎ ɮ 𝼅 ʎ 𝼆 ø ɶ ɷ q ɺ 𝼈 ɽ ɾ ʀ ʨ ʦ ꭧ ʧ ʈ"),
   (0x107B0, "ⱱ"),
   (0x107B2, "ʏ ʡ ʢ ʘ ǀ ǁ ǂ 𝼊 𝼞"),
   (0x1109A, "𑂚"),
   (0x1109C, "𑂜"),
   (0x110AB, "𑂫"),
   (0x1112E, "𑄮 𑄯"),
   (0x1134B, "𑍋 𑍌"),
   (0x114BB, "𑒻 𑒼"),
   (0x114BE, "𑒾"),
   (0x115BA, "𑖺 𑖻"),
   (0x11938, "𑤸"),
   (0x1D400, "A B C D E F G H I J K L M N O P Q R S T U V W X Y Z a b c d e f g h i j k l m n o"),
   (0x1D429, "p q r s t u v w x y z A B C D E F G H I J K L M N O P Q R S T U V W X Y Z a b c d"),
   (0x1D452, "e f g"),
   (0x1D456, "i j k l m n o p q r s t u v w x y z A B C D E F G H I J K L M N O P Q R S T U V W"),
   (0x1D47F, "X Y Z a b c d e f g h i j k l m n o p q r s t u v w x y z A"),
   (0x1D49E, "C D"),
   (0x1D4A2, "G"),
   (0x1D4A5, "J K"),
   (0x1D4A9, "N O P Q"),
   (0x1D4AE, "S T U V W X Y Z a b c d"),
   (0x1D4BB, "f"),
   (0x1D4BD, "h i j k l m n"),
   (0x1D4C5, "p q r s t u v w x y z A B C D E F G H I J K L M N O P Q R S T U V W X Y Z a b c d"),
   (0x1D4EE, "e f g h i j k l m n o p q r s t u v w x y z A B"),
   (0x1D507, "D E F G"),
   (0x1D50D, "J K L M N O P Q"),
   (0x1D516, "S T U V W X Y"),
   (0x1D51E, "a b c d e f g h i j k l m n o p q r s t u v w x y z A B"),
   (0x1D53B, "D E F G"),
   (0x1D540, "I J K L M"),
   (0x1D546, "O"),
   (0x1D54A, "S T U V W X Y"),
   (0x1D552, "a b c d e f g h i j k l m n o p q r s t u v w x y z A B C D E F G H I J K L M N O"),
   (0x1D57B, "P Q R S T U V W X Y Z a b c d e f g h i j k l m n o p q r s t u v w x y z A B C D"),
   (0x1D5A4, "E F G H I J K L M N O P Q R S T U V W X Y Z a b c d e f g h i j k l m n o p q r s"),
   (0x1D5CD, "t u v w x y z A B C D E F G H I J K L M N O P Q R S T U V W X Y Z a b c d e f g h"),
   (0x1D5F6, "i j k l m n o p q r s t u v w x y z A B C D E F G H I J K L M N O P Q R S T U V W"),
   (0x1D61F, "X Y Z a b c d e f g h i j k l m n o p q r s t u v w x y z A B C D E F G H I J K L"),
   (0x1D648, "M N O P Q R S T U V W X Y Z a b c d e f g h i j k l m n o p q r s t u v w x y z A"),
   (0x1D671, "B C D E F G H I J K L M N O P Q R S T U V W X Y Z a b c d e f g h i j k l m n o p"),
   (0x1D69A, "q r s t u v w x y z ı ȷ"),
   (0x1D6A8, "Α Β Γ Δ Ε Ζ Η Θ Ι Κ Λ Μ Ν Ξ Ο Π Ρ Θ Σ Τ Υ Φ Χ Ψ Ω"),
   (0x1D6C2, "α β γ δ ε ζ η θ ι κ λ μ ν ξ ο π ρ ς σ τ υ φ χ ψ ω"),
   (0x1D6DC, "ε θ κ φ ρ π Α Β Γ Δ Ε Ζ Η Θ Ι Κ Λ Μ Ν Ξ Ο Π Ρ Θ Σ Τ Υ Φ Χ Ψ Ω"),
   (0x1D6FC, "α β γ δ ε ζ η θ ι κ λ μ ν ξ ο π ρ ς σ τ υ φ χ ψ ω"),
   (0x1D716, "ε θ κ φ ρ π Α Β Γ Δ Ε Ζ Η Θ Ι Κ Λ Μ Ν Ξ Ο Π Ρ Θ Σ Τ Υ Φ Χ Ψ Ω"),
   (0x1D736, "α β γ δ ε ζ η θ ι κ λ μ ν ξ ο π ρ ς σ τ υ φ χ ψ ω"),
   (0x1D750, "ε θ κ φ ρ π Α Β Γ Δ Ε Ζ Η Θ Ι Κ Λ Μ Ν Ξ Ο Π Ρ Θ Σ Τ Υ Φ Χ Ψ Ω"),
   (0x1D770, "α β γ δ ε ζ η θ ι κ λ μ ν ξ ο π ρ ς σ τ υ φ χ ψ ω"),
   (0x1D78A, "ε θ κ φ ρ π Α Β Γ Δ Ε Ζ Η Θ Ι Κ Λ Μ Ν Ξ Ο Π Ρ Θ Σ Τ Υ Φ Χ Ψ Ω"),
   (0x1D7AA, "α β γ δ ε ζ η θ ι κ λ μ ν ξ ο π ρ ς σ τ υ φ χ ψ ω"),
   (0x1D7C4, "ε θ κ φ ρ π Ϝ ϝ"),
   (0x1D7CE, "0 1 2 3 4 5 6 7 8 9 0 1 2 3 4 5 6 7 8 9 0 1 2 3 4 5 6 7 8 9 0 1 2 3 4 5 6 7 8 9 0"),
   (0x1D7F7, "1 2 3 4 5 6 7 8 9"),
   (0x1EE00, "\u0627 \u0628 \u062c \u062f"),
   (0x1EE05, "\u0648 \u0632 \u062d \u0637 \u064a \u0643 \u0644 \u0645 \u0646 \u0633 \u0639"),
   (0x1EE10, "\u0641 \u0635 \u0642 \u0631 \u0634 \u062a \u062b \u062e \u0630 \u0636 \u0638"),
   (0x1EE1B, "\u063a \u066e \u06ba \u06a1 \u066f"),
   (0x1EE21, "\u0628 \u062c"),
   (0x1EE24, "\u0647"),
   (0x1EE27, "\u062d"),
   (0x1EE29, "\u064a \u0643 \u0644 \u0645 \u0646 \u0633 \u0639 \u0641 \u0635 \u0642"),
   (0x1EE34, "\u0634 \u062a \u062b \u062e"),
   (0x1EE39, "\u0636"),
   (0x1EE3B, "\u063a"),
   (0x1EE42, "\u062c"),
   (0x1EE47, "\u062d"),
   (0x1EE49, "\u064a"),
   (0x1EE4B, "\u0644"),
   (0x1EE4D, "\u0646 \u0633 \u0639"),
   (0x1EE51, "\u0635 \u0642"),
   (0x1EE54, "\u0634"),
   (0x1EE57, "\u062e"),
   (0x1EE59, "\u0636"),
   (0x1EE5B, "\u063a"),
   (0x1EE5D, "\u06ba"),
   (0x1EE5F, "\u066f"),
   (0x1EE61, "\u0628 \u062c"),
   (0x1EE64, "\u0647"),
   (0x1EE67, "\u062d \u0637 \u064a \u0643"),
   (0x1EE6C, "\u0645 \u0646 \u0633 \u0639 \u0641 \u0635 \u0642"),
   (0x1EE74, "\u0634 \u062a \u062b \u062e"),
   (0x1EE79, "\u0636 \u0638 \u063a \u066e"),
   (0x1EE7E, "\u06a1"),
   (0x1EE80, "\u0627 \u0628 \u062c \u062f \u0647 \u0648 \u0632 \u062d \u0637 \u064a"),
   (0x1EE8B, "\u0644 \u0645 \u0646 \u0633 \u0639 \u0641 \u0635 \u0642 \u0631 \u0634 \u062a"),
   (0x1EE96, "\u062b \u062e \u0630 \u0636 \u0638 \u063a"),
   (0x1EEA1, "\u0628 \u062c \u062f"),
   (0x1EEA5, "\u0648 \u0632 \u062d \u0637 \u064a"),
   (0x1EEAB, "\u0644 \u0645 \u0646 \u0633 \u0639 \u0641 \u0635 \u0642 \u0631 \u0634 \u062a"),
   (0x1EEB6, "\u062b \u062e \u0630 \u0636 \u0638 \u063a"),
   (0x1FBF0, "0 1 2 3 4 5 6 7 8 9"),
   (0x2F800, "丽 丸 乁 𠄢 你 侮 侻 倂 偺 備 僧 像 㒞 𠘺 免 兔 兤 具 𠔜 㒹 內 再 𠕋 冗 冤 仌 冬 况 𩇟 凵 刃 㓟 刻 剆 割 剷 㔕 勇 勉 勤 勺"),
   (0x2F829, "包 匆 北 卉 卑 博 即 卽 卿 卿 卿 𠨬 灰 及 叟 𠭣 叫 叱 吆 咞 吸 呈 周 咢 哶 唐 啓 啣 善 善 喙 喫 喳 嗂 圖 嘆 圗 噑 噴 切 壮"),
   (0x2F852, "城 埴 堍 型 堲 報 墬 𡓤 売 壷 夆 多 夢 奢 𡚨 𡛪 姬 娛 娧 姘 婦 㛮 㛼 嬈 嬾 嬾 𡧈 寃 寘 寧 寳 𡬘 寿 将 当 尢 㞁 屠 屮 峀 岍"),
   (0x2F87B, "𡷤 嵃 𡷦 嵮 嵫 嵼 巡 巢 㠯 巽 帨 帽 幩 㡢 𢆃 㡼 庰 庳 庶 廊 𪎒 廾 𢌱 𢌱 舁 弢 弢 㣇 𣊸 𦇚 形 彫 㣣 徚 忍 志 忹 悁 㤺 㤜 悔"),
   (0x2F8A4, "𢛔 惇 慈 慌 慎 慌 慺 憎 憲 憤 憯 懞 懲 懶 成 戛 扝 抱 拔 捐 𢬌 挽 拼 捨 掃 揤 𢯱 搢 揅 掩 㨮 摩 摾 撝 摷 㩬 敏 敬 𣀊 旣 書"),
   (0x2F8CD, "晉 㬙 暑 㬈 㫤 冒 冕 最 暜 肭 䏙 朗 望 朡 杞 杓 𣏃 㭉 柺 枅 桒 梅 𣑭 梎 栟 椔 㮝 楂 榣 槪 檨 𣚣 櫛 㰘 次 𣢧 歔 㱎 歲 殟 殺"),
   (0x2F8F6, "殻 𣪍 𡴋 𣫺 汎 𣲼 沿 泍 汧 洖 派 海 流 浩 浸 涅 𣴞 洴 港 湮 㴳 滋 滇 𣻑 淹 潮 𣽞 𣾎 濆 瀹 瀞 瀛 㶖 灊 災 灷 炭 𠔥 煅 𤉣 熜"),
   (0x2F91F, "𤎫 爨 爵 牐 𤘈 犀 犕 𤜵 𤠔 獺 王 㺬 玥 㺸 㺸 瑇 瑜 瑱 璅 瓊 㼛 甤 𤰶 甾 𤲒 異 𢆟 瘐 𤾡 𤾸 𥁄 㿼 䀈 直 𥃳 𥃲 𥄙 𥄳 眞 真 真"),
   (0x2F948, "睊 䀹 瞋 䁆 䂖 𥐝 硎 碌 磌 䃣 𥘦 祖 𥚚 𥛅 福 秫 䄯 穀 穊 穏 𥥼 𥪧 𥪧 竮 䈂 𥮫 篆 築 䈧 𥲀 糒 䊠 糨 糣 紀 𥾆 絣 䌁 緇 縂 繅"),
   (0x2F971, "䌴 𦈨 𦉇 䍙 𦋙 罺 𦌾 羕 翺 者 𦓚 𦔣 聠 𦖨 聰 𣍟 䏕 育 脃 䐋 脾 媵 𦞧 𦞵 𣎓 𣎜 舁 舄 辞 䑫 芑 芋 芝 劳 花 芳 芽 苦 𦬼 若 茝"),
   (0x2F99A, "荣 莭 茣 莽 菧 著 荓 菊 菌 菜 𦰶 𦵫 𦳕 䔫 蓱 蓳 蔖 𧏊 蕤 𦼬 䕝 䕡 𦾱 𧃒 䕫 虐 虜 虧 虩 蚩 蚈 蜎 蛢 蝹 蜨 蝫 螆 䗗 蟡 蠁 䗹"),
   (0x2F9C3, "衠 衣 𧙧 裗 裞 䘵 裺 㒻 𧢮 𧥦 䚾 䛇 誠 諭 變 豕 𧲨 貫 賁 贛 起 𧼯 𠠄 跋 趼 跰 𠣞 軔 輸 𨗒 𨗭 邔 郱 鄑 𨜮 鄛 鈸 鋗 鋘 鉼 鏹"),
   (0x2F9EC, "鐕 𨯺 開 䦕 閷 𨵷 䧦 雃 嶲 霣 𩅅 𩈚 䩮 䩶 韠 𩐊 䪲 𩒖 頋 頋 頩 𩖶 飢 䬳 餩 馧 駂 駾 䯎 𩬰 鬒 鱀 鳽 䳎 䳭 鵧 𪃎 䳸 𪄅 𪈎 𪊑"),
   (0x2FA15, "麻 䵖 黹 黾 鼅 鼏 鼖 鼻 𪘀")]

/-- Combining classes other than zero: first code point, number of code points, class. -/
def combiningRuns : List (Nat × Nat × Nat) :=
  [(0x300, 21, 230), (0x315, 1, 232), (0x316, 4, 220), (0x31A, 1, 232), (0x31B, 1, 216),
   (0x31C, 5, 220), (0x321, 2, 202), (0x323, 4, 220), (0x327, 2, 202), (0x329, 11, 220),
   (0x334, 5, 1), (0x339, 4, 220), (0x33D, 8, 230), (0x345, 1, 240), (0x346, 1, 230),
   (0x347, 3, 220), (0x34A, 3, 230), (0x34D, 2, 220), (0x350, 3, 230), (0x353, 4, 220),
   (0x357, 1, 230), (0x358, 1, 232), (0x359, 2, 220), (0x35B, 1, 230), (0x35C, 1, 233),
   (0x35D, 2, 234), (0x35F, 1, 233), (0x360, 2, 234), (0x362, 1, 233), (0x363, 13, 230),
   (0x483, 5, 230), (0x591, 1, 220), (0x592, 4, 230), (0x596, 1, 220), (0x597, 3, 230),
   (0x59A, 1, 222), (0x59B, 1, 220), (0x59C, 6, 230), (0x5A2, 6, 220), (0x5A8, 2, 230),
   (0x5AA, 1, 220), (0x5AB, 2, 230), (0x5AD, 1, 222), (0x5AE, 1, 228), (0x5AF, 1, 230),
   (0x5B0, 1, 10), (0x5B1, 1, 11), (0x5B2, 1, 12), (0x5B3, 1, 13), (0x5B4, 1, 14), (0x5B5, 1, 15),
   (0x5B6, 1, 16), (0x5B7, 1, 17), (0x5B8, 1, 18), (0x5B9, 2, 19), (0x5BB, 1, 20), (0x5BC, 1, 21),
   (0x5BD, 1, 22), (0x5BF, 1, 23), (0x5C1, 1, 24), (0x5C2, 1, 25), (0x5C4, 1, 230),
   (0x5C5, 1, 220), (0x5C7, 1, 18), (0x610, 8, 230), (0x618, 1, 30), (0x619, 1, 31),
   (0x61A, 1, 32), (0x64B, 1, 27), (0x64C, 1, 28), (0x64D, 1, 29), (0x64E, 1, 30), (0x64F, 1, 31),
   (0x650, 1, 32), (0x651, 1, 33), (0x652, 1, 34), (0x653, 2, 230), (0x655, 2, 220),
   (0x657, 5, 230), (0x65C, 1, 220), (0x65D, 2, 230), (0x65F, 1, 220), (0x670, 1, 35),
   (0x6D6, 7, 230), (0x6DF, 4, 230), (0x6E3, 1, 220), (0x6E4, 1, 230), (0x6E7, 2, 230),
   (0x6EA, 1, 220), (0x6EB, 2, 230), (0x6ED, 1, 220), (0x711, 1, 36), (0x730, 1, 230),
   (0x731, 1, 220), (0x732, 2, 230), (0x734, 1, 220), (0x735, 2, 230), (0x737, 3, 220),
   (0x73A, 1, 230), (0x73B, 2, 220), (0x73D, 1, 230), (0x73E, 1, 220), (0x73F, 3, 230),
   (0x742, 1, 220), (0x743, 1, 230), (0x744, 1, 220), (0x745, 1, 230), (0x746, 1, 220),
   (0x747, 1, 230), (0x748, 1, 220), (0x749, 2, 230), (0x7EB, 7, 230), (0x7F2, 1, 220),
   (0x7F3, 1, 230), (0x7FD, 1, 220), (0x816, 4, 230), (0x81B, 9, 230), (0x825, 3, 230),
   (0x829, 5, 230), (0x859, 3, 220), (0x898, 1, 230), (0x899, 3, 220), (0x89C, 4, 230),
   (0x8CA, 5, 230), (0x8CF, 5, 220), (0x8D4, 14, 230), (0x8E3, 1, 220), (0x8E4, 2, 230),
   (0x8E6, 1, 220), (0x8E7, 2, 230), (0x8E9, 1, 220), (0x8EA, 3, 230), (0x8ED, 3, 220),
   (0x8F0, 1, 27), (0x8F1, 1, 28), (0x8F2, 1, 29), (0x8F3, 3, 230), (0x8F6, 1, 220),
   (0x8F7, 2, 230), (0x8F9, 2, 220), (0x8FB, 5, 230), (0x93C, 1, 7), (0x94D, 1, 9),
   (0x951, 1, 230), (0x952, 1, 220), (0x953, 2, 230), (0x9BC, 1, 7), (0x9CD, 1, 9),
   (0x9FE, 1, 230), (0xA3C, 1, 7), (0xA4D, 1, 9), (0xABC, 1, 7), (0xACD, 1, 9), (0xB3C, 1, 7),
   (0xB4D, 1, 9), (0xBCD, 1, 9), (0xC3C, 1, 7), (0xC4D, 1, 9), (0xC55, 1, 84), (0xC56, 1, 91),
   (0xCBC, 1, 7), (0xCCD, 1, 9), (0xD3B, 2, 9), (0xD4D, 1, 9), (0xDCA, 1, 9), (0xE38, 2, 103),
   (0xE3A, 1, 9), (0xE48, 4, 107), (0xEB8, 2, 118), (0xEBA, 1, 9), (0xEC8, 4, 122),
   (0xF18, 2, 220), (0xF35, 1, 220), (0xF37, 1, 220), (0xF39, 1, 216), (0xF71, 1, 129),
   (0xF72, 1, 130), (0xF74, 1, 132), (0xF7A, 4, 130), (0xF80, 1, 130), (0xF82, 2, 230),
   (0xF84, 1, 9), (0xF86, 2, 230), (0xFC6, 1, 220), (0x1037, 1, 7), (0x1039, 2, 9),
   (0x108D, 1, 220), (0x135D, 3, 230), (0x1714, 2, 9), (0x1734, 1, 9), (0x17D2, 1, 9),
   (0x17DD, 1, 230), (0x18A9, 1, 228), (0x1939, 1, 222), (0x193A, 1, 230), (0x193B, 1, 220),
   (0x1A17, 1, 230), (0x1A18, 1, 220), (0x1A60, 1, 9), (0x1A75, 8, 230), (0x1A7F, 1, 220),
   (0x1AB0, 5, 230), (0x1AB5, 6, 220), (0x1ABB, 2, 230), (0x1ABD, 1, 220), (0x1ABF, 2, 220),
   (0x1AC1, 2, 230), (0x1AC3, 2, 220), (0x1AC5, 5, 230), (0x1ACA, 1, 220), (0x1ACB, 4, 230),
   (0x1B34, 1, 7), (0x1B44, 1, 9), (0x1B6B, 1, 230), (0x1B6C, 1, 220), (0x1B6D, 7, 230),
   (0x1BAA, 2, 9), (0x1BE6, 1, 7), (0x1BF2, 2, 9), (0x1C37, 1, 7), (0x1CD0, 3, 230),
   (0x1CD4, 1, 1), (0x1CD5, 5, 220), (0x1CDA, 2, 230), (0x1CDC, 4, 220), (0x1CE0, 1, 230),
   (0x1CE2, 7, 1), (0x1CED, 1, 220), (0x1CF4, 1, 230), (0x1CF8, 2, 230), (0x1DC0, 2, 230),
   (0x1DC2, 1, 220), (0x1DC3, 7, 230), (0x1DCA, 1, 220), (0x1DCB, 2, 230), (0x1DCD, 1, 234),
   (0x1DCE, 1, 214), (0x1DCF, 1, 220), (0x1DD0, 1, 202), (0x1DD1, 37, 230), (0x1DF6, 1, 232),
   (0x1DF7, 2, 228), (0x1DF9, 1, 220), (0x1DFA, 1, 218), (0x1DFB, 1, 230), (0x1DFC, 1, 233),
   (0x1DFD, 1, 220), (0x1DFE, 1, 230), (0x1DFF, 1, 220), (0x20D0, 2, 230), (0x20D2, 2, 1),
   (0x20D4, 4, 230), (0x20D8, 3, 1), (0x20DB, 2, 230), (0x20E1, 1, 230), (0x20E5, 2, 1),
   (0x20E7, 1, 230), (0x20E8, 1, 220), (0x20E9, 1, 230), (0x20EA, 2, 1), (0x20EC, 4, 220),
   (0x20F0, 1, 230), (0x2CEF, 3, 230), (0x2D7F, 1, 9), (0x2DE0, 32, 230), (0x302A, 1, 218),
   (0x302B, 1, 228), (0x302C, 1, 232), (0x302D, 1, 222), (0x302E, 2, 224), (0x3099, 2, 8),
   (0xA66F, 1, 230), (0xA674, 10, 230), (0xA69E, 2, 230), (0xA6F0, 2, 230), (0xA806, 1, 9),
   (0xA82C, 1, 9), (0xA8C4, 1, 9), (0xA8E0, 18, 230), (0xA92B, 3, 220), (0xA953, 1, 9),
   (0xA9B3, 1, 7), (0xA9C0, 1, 9), (0xAAB0, 1, 230), (0xAAB2, 2, 230), (0xAAB4, 1, 220),
   (0xAAB7, 2, 230), (0xAABE, 2, 230), (0xAAC1, 1, 230), (0xAAF6, 1, 9), (0xABED, 1, 9),
   (0xFB1E, 1, 26), (0xFE20, 7, 230), (0xFE27, 7, 220), (0xFE2E, 2, 230), (0x101FD, 1, 220),
   (0x102E0, 1, 220), (0x10376, 5, 230), (0x10A0D, 1, 220), (0x10A0F, 1, 230), (0x10A38, 1, 230),
   (0x10A39, 1, 1), (0x10A3A, 1, 220), (0x10A3F, 1, 9), (0x10AE5, 1, 230), (0x10AE6, 1, 220),
   (0x10D24, 4, 230), (0x10EAB, 2, 230), (0x10F46, 2, 220), (0x10F48, 3, 230), (0x10F4B, 1, 220),
   (0x10F4C, 1, 230), (0x10F4D, 4, 220), (0x10F82, 1, 230), (0x10F83, 1, 220), (0x10F84, 1, 230),
   (0x10F85, 1, 220), (0x11046, 1, 9), (0x11070, 1, 9), (0x1107F, 1, 9), (0x110B9, 1, 9),
   (0x110BA, 1, 7), (0x11100, 3, 230), (0x11133, 2, 9), (0x11173, 1, 7), (0x111C0, 1, 9),
   (0x111CA, 1, 7), (0x11235, 1, 9), (0x11236, 1, 7), (0x112E9, 1, 7), (0x112EA, 1, 9),
   (0x1133B, 2, 7), (0x1134D, 1, 9), (0x11366, 7, 230), (0x11370, 5, 230), (0x11442, 1, 9),
   (0x11446, 1, 7), (0x1145E, 1, 230), (0x114C2, 1, 9), (0x114C3, 1, 7), (0x115BF, 1, 9),
   (0x115C0, 1, 7), (0x1163F, 1, 9), (0x116B6, 1, 9), (0x116B7, 1, 7), (0x1172B, 1, 9),
   (0x11839, 1, 9), (0x1183A, 1, 7), (0x1193D, 2, 9), (0x11943, 1, 7), (0x119E0, 1, 9),
   (0x11A34, 1, 9), (0x11A47, 1, 9), (0x11A99, 1, 9), (0x11C3F, 1, 9), (0x11D42, 1, 7),
   (0x11D44, 2, 9), (0x11D97, 1, 9), (0x16AF0, 5, 1), (0x16B30, 7, 230), (0x16FF0, 2, 6),
   (0x1BC9E, 1, 1), (0x1D165, 2, 216), (0x1D167, 3, 1), (0x1D16D, 1, 226), (0x1D16E, 5, 216),
   (0x1D17B, 8, 220), (0x1D185, 5, 230), (0x1D18A, 2, 220), (0x1D1AA, 4, 230), (0x1D242, 3, 230),
   (0x1E000, 7, 230), (0x1E008, 17, 230), (0x1E01B, 7, 230), (0x1E023, 2, 230), (0x1E026, 5, 230),
   (0x1E130, 7, 230), (0x1E2AE, 1, 230), (0x1E2EC, 4, 230), (0x1E8D0, 7, 220), (0x1E944, 6, 230),
   (0x1E94A, 1, 7)]

/-- Pairs of characters that are also written as one: the pair, then the composed character, and
a space between entries. -/
def compositionPairs : List String :=
  ["A\u0300À A\u0301Á A\u0302Â A\u0303Ã A\u0308Ä A\u030aÅ C\u0327Ç E\u0300È E\u0301É E\u0302Ê",
   "E\u0308Ë I\u0300Ì I\u0301Í I\u0302Î I\u0308Ï N\u0303Ñ O\u0300Ò O\u0301Ó O\u0302Ô O\u0303Õ",
   "O\u0308Ö U\u0300Ù U\u0301Ú U\u0302Û U\u0308Ü Y\u0301Ý a\u0300à a\u0301á a\u0302â a\u0303ã",
   "a\u0308ä a\u030aå c\u0327ç e\u0300è e\u0301é e\u0302ê e\u0308ë i\u0300ì i\u0301í i\u0302î",
   "i\u0308ï n\u0303ñ o\u0300ò o\u0301ó o\u0302ô o\u0303õ o\u0308ö u\u0300ù u\u0301ú u\u0302û",
   "u\u0308ü y\u0301ý y\u0308ÿ A\u0304Ā a\u0304ā A\u0306Ă a\u0306ă A\u0328Ą a\u0328ą C\u0301Ć",
   "c\u0301ć C\u0302Ĉ c\u0302ĉ C\u0307Ċ c\u0307ċ C\u030cČ c\u030cč D\u030cĎ d\u030cď E\u0304Ē",
   "e\u0304ē E\u0306Ĕ e\u0306ĕ E\u0307Ė e\u0307ė E\u0328Ę e\u0328ę E\u030cĚ e\u030cě G\u0302Ĝ",
   "g\u0302ĝ G\u0306Ğ g\u0306ğ G\u0307Ġ g\u0307ġ G\u0327Ģ g\u0327ģ H\u0302Ĥ h\u0302ĥ I\u0303Ĩ",
   "i\u0303ĩ I\u0304Ī i\u0304ī I\u0306Ĭ i\u0306ĭ I\u0328Į i\u0328į I\u0307İ J\u0302Ĵ j\u0302ĵ",
   "K\u0327Ķ k\u0327ķ L\u0301Ĺ l\u0301ĺ L\u0327Ļ l\u0327ļ L\u030cĽ l\u030cľ N\u0301Ń n\u0301ń",
   "N\u0327Ņ n\u0327ņ N\u030cŇ n\u030cň O\u0304Ō o\u0304ō O\u0306Ŏ o\u0306ŏ O\u030bŐ o\u030bő",
   "R\u0301Ŕ r\u0301ŕ R\u0327Ŗ r\u0327ŗ R\u030cŘ r\u030cř S\u0301Ś s\u0301ś S\u0302Ŝ s\u0302ŝ",
   "S\u0327Ş s\u0327ş S\u030cŠ s\u030cš T\u0327Ţ t\u0327ţ T\u030cŤ t\u030cť U\u0303Ũ u\u0303ũ",
   "U\u0304Ū u\u0304ū U\u0306Ŭ u\u0306ŭ U\u030aŮ u\u030aů U\u030bŰ u\u030bű U\u0328Ų u\u0328ų",
   "W\u0302Ŵ w\u0302ŵ Y\u0302Ŷ y\u0302ŷ Y\u0308Ÿ Z\u0301Ź z\u0301ź Z\u0307Ż z\u0307ż Z\u030cŽ",
   "z\u030cž O\u031bƠ o\u031bơ U\u031bƯ u\u031bư A\u030cǍ a\u030cǎ I\u030cǏ i\u030cǐ O\u030cǑ",
   "o\u030cǒ U\u030cǓ u\u030cǔ Ü\u0304Ǖ ü\u0304ǖ Ü\u0301Ǘ ü\u0301ǘ Ü\u030cǙ ü\u030cǚ Ü\u0300Ǜ",
   "ü\u0300ǜ Ä\u0304Ǟ ä\u0304ǟ Ȧ\u0304Ǡ ȧ\u0304ǡ Æ\u0304Ǣ æ\u0304ǣ G\u030cǦ g\u030cǧ K\u030cǨ",
   "k\u030cǩ O\u0328Ǫ o\u0328ǫ Ǫ\u0304Ǭ ǫ\u0304ǭ Ʒ\u030cǮ ʒ\u030cǯ j\u030cǰ G\u0301Ǵ g\u0301ǵ",
   "N\u0300Ǹ n\u0300ǹ Å\u0301Ǻ å\u0301ǻ Æ\u0301Ǽ æ\u0301ǽ Ø\u0301Ǿ ø\u0301ǿ A\u030fȀ a\u030fȁ",
   "A\u0311Ȃ a\u0311ȃ E\u030fȄ e\u030fȅ E\u0311Ȇ e\u0311ȇ I\u030fȈ i\u030fȉ I\u0311Ȋ i\u0311ȋ",
   "O\u030fȌ o\u030fȍ O\u0311Ȏ o\u0311ȏ R\u030fȐ r\u030fȑ R\u0311Ȓ r\u0311ȓ U\u030fȔ u\u030fȕ",
   "U\u0311Ȗ u\u0311ȗ S\u0326Ș s\u0326ș T\u0326Ț t\u0326ț H\u030cȞ h\u030cȟ A\u0307Ȧ a\u0307ȧ",
   "E\u0327Ȩ e\u0327ȩ Ö\u0304Ȫ ö\u0304ȫ Õ\u0304Ȭ õ\u0304ȭ O\u0307Ȯ o\u0307ȯ Ȯ\u0304Ȱ ȯ\u0304ȱ",
   "Y\u0304Ȳ y\u0304ȳ Α\u0301Ά Ε\u0301Έ Η\u0301Ή Ι\u0301Ί Ο\u0301Ό Υ\u0301Ύ Ω\u0301Ώ ϊ\u0301ΐ",
   "Ι\u0308Ϊ Υ\u0308Ϋ α\u0301ά ε\u0301έ η\u0301ή ι\u0301ί ϋ\u0301ΰ ι\u0308ϊ υ\u0308ϋ ο\u0301ό",
   "υ\u0301ύ ω\u0301ώ ϒ\u0301ϓ ϒ\u0308ϔ Е\u0300Ѐ Е\u0308Ё Г\u0301Ѓ І\u0308Ї К\u0301Ќ И\u0300Ѝ",
   "У\u0306Ў И\u0306Й и\u0306й е\u0300ѐ е\u0308ё г\u0301ѓ і\u0308ї к\u0301ќ и\u0300ѝ у\u0306ў",
   "Ѵ\u030fѶ ѵ\u030fѷ Ж\u0306Ӂ ж\u0306ӂ А\u0306Ӑ а\u0306ӑ А\u0308Ӓ а\u0308ӓ Е\u0306Ӗ е\u0306ӗ",
   "Ә\u0308Ӛ ә\u0308ӛ Ж\u0308Ӝ ж\u0308ӝ З\u0308Ӟ з\u0308ӟ И\u0304Ӣ и\u0304ӣ И\u0308Ӥ и\u0308ӥ",
   "О\u0308Ӧ о\u0308ӧ Ө\u0308Ӫ ө\u0308ӫ Э\u0308Ӭ э\u0308ӭ У\u0304Ӯ у\u0304ӯ У\u0308Ӱ у\u0308ӱ",
   "У\u030bӲ у\u030bӳ Ч\u0308Ӵ ч\u0308ӵ Ы\u0308Ӹ ы\u0308ӹ \u0627\u0653\u0622",
   "\u0627\u0654\u0623 \u0648\u0654\u0624 \u0627\u0655\u0625 \u064a\u0654\u0626",
   "\u06d5\u0654\u06c0 \u06c1\u0654\u06c2 \u06d2\u0654\u06d3 न\u093cऩ र\u093cऱ ळ\u093cऴ",
   "\u09c7\u09be\u09cb \u09c7\u09d7\u09cc \u0b47\u0b56\u0b48 \u0b47\u0b3e\u0b4b",
   "\u0b47\u0b57\u0b4c ஒ\u0bd7ஔ \u0bc6\u0bbe\u0bca \u0bc7\u0bbe\u0bcb \u0bc6\u0bd7\u0bcc",
   "\u0c46\u0c56\u0c48 \u0cbf\u0cd5\u0cc0 \u0cc6\u0cd5\u0cc7 \u0cc6\u0cd6\u0cc8",
   "\u0cc6\u0cc2\u0cca \u0cca\u0cd5\u0ccb \u0d46\u0d3e\u0d4a \u0d47\u0d3e\u0d4b",
   "\u0d46\u0d57\u0d4c \u0dd9\u0dca\u0dda \u0dd9\u0dcf\u0ddc \u0ddc\u0dca\u0ddd",
   "\u0dd9\u0ddf\u0dde ဥ\u102eဦ ᬅ\u1b35ᬆ ᬇ\u1b35ᬈ ᬉ\u1b35ᬊ ᬋ\u1b35ᬌ ᬍ\u1b35ᬎ ᬑ\u1b35ᬒ",
   "\u1b3a\u1b35\u1b3b \u1b3c\u1b35\u1b3d \u1b3e\u1b35\u1b40 \u1b3f\u1b35\u1b41",
   "\u1b42\u1b35\u1b43 A\u0325Ḁ a\u0325ḁ B\u0307Ḃ b\u0307ḃ B\u0323Ḅ b\u0323ḅ B\u0331Ḇ",
   "b\u0331ḇ Ç\u0301Ḉ ç\u0301ḉ D\u0307Ḋ d\u0307ḋ D\u0323Ḍ d\u0323ḍ D\u0331Ḏ d\u0331ḏ D\u0327Ḑ",
   "d\u0327ḑ D\u032dḒ d\u032dḓ Ē\u0300Ḕ ē\u0300ḕ Ē\u0301Ḗ ē\u0301ḗ E\u032dḘ e\u032dḙ E\u0330Ḛ",
   "e\u0330ḛ Ȩ\u0306Ḝ ȩ\u0306ḝ F\u0307Ḟ f\u0307ḟ G\u0304Ḡ g\u0304ḡ H\u0307Ḣ h\u0307ḣ H\u0323Ḥ",
   "h\u0323ḥ H\u0308Ḧ h\u0308ḧ H\u0327Ḩ h\u0327ḩ H\u032eḪ h\u032eḫ I\u0330Ḭ i\u0330ḭ Ï\u0301Ḯ",
   "ï\u0301ḯ K\u0301Ḱ k\u0301ḱ K\u0323Ḳ k\u0323ḳ K\u0331Ḵ k\u0331ḵ L\u0323Ḷ l\u0323ḷ Ḷ\u0304Ḹ",
   "ḷ\u0304ḹ L\u0331Ḻ l\u0331ḻ L\u032dḼ l\u032dḽ M\u0301Ḿ m\u0301ḿ M\u0307Ṁ m\u0307ṁ M\u0323Ṃ",
   "m\u0323ṃ N\u0307Ṅ n\u0307ṅ N\u0323Ṇ n\u0323ṇ N\u0331Ṉ n\u0331ṉ N\u032dṊ n\u032dṋ Õ\u0301Ṍ",
   "õ\u0301ṍ Õ\u0308Ṏ õ\u0308ṏ Ō\u0300Ṑ ō\u0300ṑ Ō\u0301Ṓ ō\u0301ṓ P\u0301Ṕ p\u0301ṕ P\u0307Ṗ",
   "p\u0307ṗ R\u0307Ṙ r\u0307ṙ R\u0323Ṛ r\u0323ṛ Ṛ\u0304Ṝ ṛ\u0304ṝ R\u0331Ṟ r\u0331ṟ S\u0307Ṡ",
   "s\u0307ṡ S\u0323Ṣ s\u0323ṣ Ś\u0307Ṥ ś\u0307ṥ Š\u0307Ṧ š\u0307ṧ Ṣ\u0307Ṩ ṣ\u0307ṩ T\u0307Ṫ",
   "t\u0307ṫ T\u0323Ṭ t\u0323ṭ T\u0331Ṯ t\u0331ṯ T\u032dṰ t\u032dṱ U\u0324Ṳ u\u0324ṳ U\u0330Ṵ",
   "u\u0330ṵ U\u032dṶ u\u032dṷ Ũ\u0301Ṹ ũ\u0301ṹ Ū\u0308Ṻ ū\u0308ṻ V\u0303Ṽ v\u0303ṽ V\u0323Ṿ",
   "v\u0323ṿ W\u0300Ẁ w\u0300ẁ W\u0301Ẃ w\u0301ẃ W\u0308Ẅ w\u0308ẅ W\u0307Ẇ w\u0307ẇ W\u0323Ẉ",
   "w\u0323ẉ X\u0307Ẋ x\u0307ẋ X\u0308Ẍ x\u0308ẍ Y\u0307Ẏ y\u0307ẏ Z\u0302Ẑ z\u0302ẑ Z\u0323Ẓ",
   "z\u0323ẓ Z\u0331Ẕ z\u0331ẕ h\u0331ẖ t\u0308ẗ w\u030aẘ y\u030aẙ ſ\u0307ẛ A\u0323Ạ a\u0323ạ",
   "A\u0309Ả a\u0309ả Â\u0301Ấ â\u0301ấ Â\u0300Ầ â\u0300ầ Â\u0309Ẩ â\u0309ẩ Â\u0303Ẫ â\u0303ẫ",
   "Ạ\u0302Ậ ạ\u0302ậ Ă\u0301Ắ ă\u0301ắ Ă\u0300Ằ ă\u0300ằ Ă\u0309Ẳ ă\u0309ẳ Ă\u0303Ẵ ă\u0303ẵ",
   "Ạ\u0306Ặ ạ\u0306ặ E\u0323Ẹ e\u0323ẹ E\u0309Ẻ e\u0309ẻ E\u0303Ẽ e\u0303ẽ Ê\u0301Ế ê\u0301ế",
   "Ê\u0300Ề ê\u0300ề Ê\u0309Ể ê\u0309ể Ê\u0303Ễ ê\u0303ễ Ẹ\u0302Ệ ẹ\u0302ệ I\u0309Ỉ i\u0309ỉ",
   "I\u0323Ị i\u0323ị O\u0323Ọ o\u0323ọ O\u0309Ỏ o\u0309ỏ Ô\u0301Ố ô\u0301ố Ô\u0300Ồ ô\u0300ồ",
   "Ô\u0309Ổ ô\u0309ổ Ô\u0303Ỗ ô\u0303ỗ Ọ\u0302Ộ ọ\u0302ộ Ơ\u0301Ớ ơ\u0301ớ Ơ\u0300Ờ ơ\u0300ờ",
   "Ơ\u0309Ở ơ\u0309ở Ơ\u0303Ỡ ơ\u0303ỡ Ơ\u0323Ợ ơ\u0323ợ U\u0323Ụ u\u0323ụ U\u0309Ủ u\u0309ủ",
   "Ư\u0301Ứ ư\u0301ứ Ư\u0300Ừ ư\u0300ừ Ư\u0309Ử ư\u0309ử Ư\u0303Ữ ư\u0303ữ Ư\u0323Ự ư\u0323ự",
   "Y\u0300Ỳ y\u0300ỳ Y\u0323Ỵ y\u0323ỵ Y\u0309Ỷ y\u0309ỷ Y\u0303Ỹ y\u0303ỹ α\u0313ἀ α\u0314ἁ",
   "ἀ\u0300ἂ ἁ\u0300ἃ ἀ\u0301ἄ ἁ\u0301ἅ ἀ\u0342ἆ ἁ\u0342ἇ Α\u0313Ἀ Α\u0314Ἁ Ἀ\u0300Ἂ Ἁ\u0300Ἃ",
   "Ἀ\u0301Ἄ Ἁ\u0301Ἅ Ἀ\u0342Ἆ Ἁ\u0342Ἇ ε\u0313ἐ ε\u0314ἑ ἐ\u0300ἒ ἑ\u0300ἓ ἐ\u0301ἔ ἑ\u0301ἕ",
   "Ε\u0313Ἐ Ε\u0314Ἑ Ἐ\u0300Ἒ Ἑ\u0300Ἓ Ἐ\u0301Ἔ Ἑ\u0301Ἕ η\u0313ἠ η\u0314ἡ ἠ\u0300ἢ ἡ\u0300ἣ",
   "ἠ\u0301ἤ ἡ\u0301ἥ ἠ\u0342ἦ ἡ\u0342ἧ Η\u0313Ἠ Η\u0314Ἡ Ἠ\u0300Ἢ Ἡ\u0300Ἣ Ἠ\u0301Ἤ Ἡ\u0301Ἥ",
   "Ἠ\u0342Ἦ Ἡ\u0342Ἧ ι\u0313ἰ ι\u0314ἱ ἰ\u0300ἲ ἱ\u0300ἳ ἰ\u0301ἴ ἱ\u0301ἵ ἰ\u0342ἶ ἱ\u0342ἷ",
   "Ι\u0313Ἰ Ι\u0314Ἱ Ἰ\u0300Ἲ Ἱ\u0300Ἳ Ἰ\u0301Ἴ Ἱ\u0301Ἵ Ἰ\u0342Ἶ Ἱ\u0342Ἷ ο\u0313ὀ ο\u0314ὁ",
   "ὀ\u0300ὂ ὁ\u0300ὃ ὀ\u0301ὄ ὁ\u0301ὅ Ο\u0313Ὀ Ο\u0314Ὁ Ὀ\u0300Ὂ Ὁ\u0300Ὃ Ὀ\u0301Ὄ Ὁ\u0301Ὅ",
   "υ\u0313ὐ υ\u0314ὑ ὐ\u0300ὒ ὑ\u0300ὓ ὐ\u0301ὔ ὑ\u0301ὕ ὐ\u0342ὖ ὑ\u0342ὗ Υ\u0314Ὑ Ὑ\u0300Ὓ",
   "Ὑ\u0301Ὕ Ὑ\u0342Ὗ ω\u0313ὠ ω\u0314ὡ ὠ\u0300ὢ ὡ\u0300ὣ ὠ\u0301ὤ ὡ\u0301ὥ ὠ\u0342ὦ ὡ\u0342ὧ",
   "Ω\u0313Ὠ Ω\u0314Ὡ Ὠ\u0300Ὢ Ὡ\u0300Ὣ Ὠ\u0301Ὤ Ὡ\u0301Ὥ Ὠ\u0342Ὦ Ὡ\u0342Ὧ α\u0300ὰ ε\u0300ὲ",
   "η\u0300ὴ ι\u0300ὶ ο\u0300ὸ υ\u0300ὺ ω\u0300ὼ ἀ\u0345ᾀ ἁ\u0345ᾁ ἂ\u0345ᾂ ἃ\u0345ᾃ ἄ\u0345ᾄ",
   "ἅ\u0345ᾅ ἆ\u0345ᾆ ἇ\u0345ᾇ Ἀ\u0345ᾈ Ἁ\u0345ᾉ Ἂ\u0345ᾊ Ἃ\u0345ᾋ Ἄ\u0345ᾌ Ἅ\u0345ᾍ Ἆ\u0345ᾎ",
   "Ἇ\u0345ᾏ ἠ\u0345ᾐ ἡ\u0345ᾑ ἢ\u0345ᾒ ἣ\u0345ᾓ ἤ\u0345ᾔ ἥ\u0345ᾕ ἦ\u0345ᾖ ἧ\u0345ᾗ Ἠ\u0345ᾘ",
   "Ἡ\u0345ᾙ Ἢ\u0345ᾚ Ἣ\u0345ᾛ Ἤ\u0345ᾜ Ἥ\u0345ᾝ Ἦ\u0345ᾞ Ἧ\u0345ᾟ ὠ\u0345ᾠ ὡ\u0345ᾡ ὢ\u0345ᾢ",
   "ὣ\u0345ᾣ ὤ\u0345ᾤ ὥ\u0345ᾥ ὦ\u0345ᾦ ὧ\u0345ᾧ Ὠ\u0345ᾨ Ὡ\u0345ᾩ Ὢ\u0345ᾪ Ὣ\u0345ᾫ Ὤ\u0345ᾬ",
   "Ὥ\u0345ᾭ Ὦ\u0345ᾮ Ὧ\u0345ᾯ α\u0306ᾰ α\u0304ᾱ ὰ\u0345ᾲ α\u0345ᾳ ά\u0345ᾴ α\u0342ᾶ ᾶ\u0345ᾷ",
   "Α\u0306Ᾰ Α\u0304Ᾱ Α\u0300Ὰ Α\u0345ᾼ ὴ\u0345ῂ η\u0345ῃ ή\u0345ῄ η\u0342ῆ ῆ\u0345ῇ Ε\u0300Ὲ",
   "Η\u0300Ὴ Η\u0345ῌ ι\u0306ῐ ι\u0304ῑ ϊ\u0300ῒ ι\u0342ῖ ϊ\u0342ῗ Ι\u0306Ῐ Ι\u0304Ῑ Ι\u0300Ὶ",
   "υ\u0306ῠ υ\u0304ῡ ϋ\u0300ῢ ρ\u0313ῤ ρ\u0314ῥ υ\u0342ῦ ϋ\u0342ῧ Υ\u0306Ῠ Υ\u0304Ῡ Υ\u0300Ὺ",
   "Ρ\u0314Ῥ ὼ\u0345ῲ ω\u0345ῳ ώ\u0345ῴ ω\u0342ῶ ῶ\u0345ῷ Ο\u0300Ὸ Ω\u0300Ὼ Ω\u0345ῼ か\u3099が",
   "き\u3099ぎ く\u3099ぐ け\u3099げ こ\u3099ご さ\u3099ざ し\u3099じ す\u3099ず せ\u3099ぜ そ\u3099ぞ た\u3099だ",
   "ち\u3099ぢ つ\u3099づ て\u3099で と\u3099ど は\u3099ば は\u309aぱ ひ\u3099び ひ\u309aぴ ふ\u3099ぶ ふ\u309aぷ",
   "へ\u3099べ へ\u309aぺ ほ\u3099ぼ ほ\u309aぽ う\u3099ゔ ゝ\u3099ゞ カ\u3099ガ キ\u3099ギ ク\u3099グ ケ\u3099ゲ",
   "コ\u3099ゴ サ\u3099ザ シ\u3099ジ ス\u3099ズ セ\u3099ゼ ソ\u3099ゾ タ\u3099ダ チ\u3099ヂ ツ\u3099ヅ テ\u3099デ",
   "ト\u3099ド ハ\u3099バ ハ\u309aパ ヒ\u3099ビ ヒ\u309aピ フ\u3099ブ フ\u309aプ ヘ\u3099ベ ヘ\u309aペ ホ\u3099ボ",
   "ホ\u309aポ ウ\u3099ヴ ワ\u3099ヷ ヰ\u3099ヸ ヱ\u3099ヹ ヲ\u3099ヺ ヽ\u3099ヾ 𑂚𑂚 𑂜𑂜 𑂫𑂫 𑄮𑄮 𑄯𑄯 𑍋𑍋",
   "𑍌𑍌 𑒻𑒻 𑒼𑒼 𑒾𑒾 𑖺𑖺 𑖻𑖻 𑤸𑤸"]

end SignalLab.Text
