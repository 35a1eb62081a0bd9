import RemoteServices.Text.Blank

/-!
# Composed characters

A letter with marks may be one character or several; Unicode says which characters are composed of
which.  A syllable of Hangul is composed of two or three letters, and its code tells which.
Characters that no text is composed into, such as those that stand for a single other one, are not
here.
-/
namespace RemoteServices.Text

/-- Characters with consecutive codes from the given one on are composed of the words of the
text. -/
def compositionTexts : List (Nat × String) :=
  [(0xc0, "A\u0300 A\u0301 A\u0302 A\u0303 A\u0308 A\u030a"),
   (0xc7, "C\u0327 E\u0300 E\u0301 E\u0302 E\u0308 I\u0300 I\u0301 I\u0302 I\u0308"),
   (0xd1, "N\u0303 O\u0300 O\u0301 O\u0302 O\u0303 O\u0308"),
   (0xd9, "U\u0300 U\u0301 U\u0302 U\u0308 Y\u0301"),
   (0xe0, "a\u0300 a\u0301 a\u0302 a\u0303 a\u0308 a\u030a"),
   (0xe7, "c\u0327 e\u0300 e\u0301 e\u0302 e\u0308 i\u0300 i\u0301 i\u0302 i\u0308"),
   (0xf1, "n\u0303 o\u0300 o\u0301 o\u0302 o\u0303 o\u0308"),
   (0xf9, "u\u0300 u\u0301 u\u0302 u\u0308 y\u0301"),
   (0xff, "y\u0308 A\u0304 a\u0304 A\u0306 a\u0306 A\u0328"),
   (0x105, "a\u0328 C\u0301 c\u0301 C\u0302 c\u0302 C\u0307"),
   (0x10b, "c\u0307 C\u030c c\u030c D\u030c d\u030c"),
   (0x112, "E\u0304 e\u0304 E\u0306 e\u0306 E\u0307 e\u0307"),
   (0x118, "E\u0328 e\u0328 E\u030c e\u030c G\u0302 g\u0302"),
   (0x11e, "G\u0306 g\u0306 G\u0307 g\u0307 G\u0327 g\u0327 H\u0302 h\u0302"),
   (0x128, "I\u0303 i\u0303 I\u0304 i\u0304 I\u0306 i\u0306 I\u0328 i\u0328 I\u0307"),
   (0x134, "J\u0302 j\u0302 K\u0327 k\u0327"),
   (0x139, "L\u0301 l\u0301 L\u0327 l\u0327 L\u030c l\u030c"),
   (0x143, "N\u0301 n\u0301 N\u0327 n\u0327 N\u030c n\u030c"),
   (0x14c, "O\u0304 o\u0304 O\u0306 o\u0306 O\u030b o\u030b"),
   (0x154, "R\u0301 r\u0301 R\u0327 r\u0327 R\u030c r\u030c"),
   (0x15a, "S\u0301 s\u0301 S\u0302 s\u0302 S\u0327 s\u0327"),
   (0x160, "S\u030c s\u030c T\u0327 t\u0327 T\u030c t\u030c"),
   (0x168, "U\u0303 u\u0303 U\u0304 u\u0304 U\u0306 u\u0306"),
   (0x16e, "U\u030a u\u030a U\u030b u\u030b U\u0328 u\u0328"),
   (0x174, "W\u0302 w\u0302 Y\u0302 y\u0302 Y\u0308 Z\u0301"),
   (0x17a, "z\u0301 Z\u0307 z\u0307 Z\u030c z\u030c"), (0x1a0, "O\u031b o\u031b"),
   (0x1af, "U\u031b u\u031b"), (0x1cd, "A\u030c a\u030c I\u030c i\u030c O\u030c"),
   (0x1d2, "o\u030c U\u030c u\u030c U\u0308\u0304 u\u0308\u0304"),
   (0x1d7, "U\u0308\u0301 u\u0308\u0301 U\u0308\u030c u\u0308\u030c U\u0308\u0300 u\u0308\u0300"),
   (0x1de, "A\u0308\u0304 a\u0308\u0304 A\u0307\u0304 a\u0307\u0304 Æ\u0304 æ\u0304"),
   (0x1e6, "G\u030c g\u030c K\u030c k\u030c O\u0328 o\u0328"),
   (0x1ec, "O\u0328\u0304 o\u0328\u0304 Ʒ\u030c ʒ\u030c j\u030c"), (0x1f4, "G\u0301 g\u0301"),
   (0x1f8, "N\u0300 n\u0300 A\u030a\u0301 a\u030a\u0301 Æ\u0301 æ\u0301"),
   (0x1fe, "Ø\u0301 ø\u0301 A\u030f a\u030f A\u0311"),
   (0x203, "a\u0311 E\u030f e\u030f E\u0311 e\u0311 I\u030f"),
   (0x209, "i\u030f I\u0311 i\u0311 O\u030f o\u030f O\u0311"),
   (0x20f, "o\u0311 R\u030f r\u030f R\u0311 r\u0311 U\u030f"),
   (0x215, "u\u030f U\u0311 u\u0311 S\u0326 s\u0326 T\u0326"), (0x21b, "t\u0326"),
   (0x21e, "H\u030c h\u030c"), (0x226, "A\u0307 a\u0307 E\u0327 e\u0327 O\u0308\u0304"),
   (0x22b, "o\u0308\u0304 O\u0303\u0304 o\u0303\u0304 O\u0307"),
   (0x22f, "o\u0307 O\u0307\u0304 o\u0307\u0304 Y\u0304 y\u0304"), (0x385, "\u00a8\u0301 Α\u0301"),
   (0x388, "Ε\u0301 Η\u0301 Ι\u0301"), (0x38c, "Ο\u0301"), (0x38e, "Υ\u0301 Ω\u0301 ι\u0308\u0301"),
   (0x3aa, "Ι\u0308 Υ\u0308 α\u0301 ε\u0301 η\u0301 ι\u0301 υ\u0308\u0301"),
   (0x3ca, "ι\u0308 υ\u0308 ο\u0301 υ\u0301 ω\u0301"), (0x3d3, "ϒ\u0301 ϒ\u0308"),
   (0x400, "Е\u0300 Е\u0308"), (0x403, "Г\u0301"), (0x407, "І\u0308"),
   (0x40c, "К\u0301 И\u0300 У\u0306"), (0x419, "И\u0306"), (0x439, "и\u0306"),
   (0x450, "е\u0300 е\u0308"), (0x453, "г\u0301"), (0x457, "і\u0308"),
   (0x45c, "к\u0301 и\u0300 у\u0306"), (0x476, "Ѵ\u030f ѵ\u030f"), (0x4c1, "Ж\u0306 ж\u0306"),
   (0x4d0, "А\u0306 а\u0306 А\u0308 а\u0308"), (0x4d6, "Е\u0306 е\u0306"),
   (0x4da, "Ә\u0308 ә\u0308 Ж\u0308 ж\u0308 З\u0308 з\u0308"),
   (0x4e2, "И\u0304 и\u0304 И\u0308 и\u0308 О\u0308 о\u0308"),
   (0x4ea, "Ө\u0308 ө\u0308 Э\u0308 э\u0308 У\u0304 у\u0304"),
   (0x4f0, "У\u0308 у\u0308 У\u030b у\u030b Ч\u0308 ч\u0308"), (0x4f8, "Ы\u0308 ы\u0308"),
   (0x622, "\u0627\u0653 \u0627\u0654 \u0648\u0654 \u0627\u0655 \u064a\u0654"),
   (0x6c0, "\u06d5\u0654"), (0x6c2, "\u06c1\u0654"), (0x6d3, "\u06d2\u0654"), (0x929, "न\u093c"),
   (0x931, "र\u093c"), (0x934, "ळ\u093c"), (0x9cb, "\u09c7\u09be \u09c7\u09d7"),
   (0xb48, "\u0b47\u0b56"), (0xb4b, "\u0b47\u0b3e \u0b47\u0b57"), (0xb94, "ஒ\u0bd7"),
   (0xbca, "\u0bc6\u0bbe \u0bc7\u0bbe \u0bc6\u0bd7"), (0xc48, "\u0c46\u0c56"),
   (0xcc0, "\u0cbf\u0cd5"), (0xcc7, "\u0cc6\u0cd5 \u0cc6\u0cd6"),
   (0xcca, "\u0cc6\u0cc2 \u0cc6\u0cc2\u0cd5"), (0xd4a, "\u0d46\u0d3e \u0d47\u0d3e \u0d46\u0d57"),
   (0xdda, "\u0dd9\u0dca"), (0xddc, "\u0dd9\u0dcf \u0dd9\u0dcf\u0dca \u0dd9\u0ddf"),
   (0x1026, "ဥ\u102e"), (0x1b06, "ᬅ\u1b35"), (0x1b08, "ᬇ\u1b35"), (0x1b0a, "ᬉ\u1b35"),
   (0x1b0c, "ᬋ\u1b35"), (0x1b0e, "ᬍ\u1b35"), (0x1b12, "ᬑ\u1b35"), (0x1b3b, "\u1b3a\u1b35"),
   (0x1b3d, "\u1b3c\u1b35"), (0x1b40, "\u1b3e\u1b35 \u1b3f\u1b35"), (0x1b43, "\u1b42\u1b35"),
   (0x1e00, "A\u0325 a\u0325 B\u0307 b\u0307 B\u0323 b\u0323"),
   (0x1e06, "B\u0331 b\u0331 C\u0327\u0301 c\u0327\u0301 D\u0307"),
   (0x1e0b, "d\u0307 D\u0323 d\u0323 D\u0331 d\u0331 D\u0327"),
   (0x1e11, "d\u0327 D\u032d d\u032d E\u0304\u0300 e\u0304\u0300"),
   (0x1e16, "E\u0304\u0301 e\u0304\u0301 E\u032d e\u032d E\u0330"),
   (0x1e1b, "e\u0330 E\u0327\u0306 e\u0327\u0306 F\u0307"),
   (0x1e1f, "f\u0307 G\u0304 g\u0304 H\u0307 h\u0307 H\u0323"),
   (0x1e25, "h\u0323 H\u0308 h\u0308 H\u0327 h\u0327 H\u032e"),
   (0x1e2b, "h\u032e I\u0330 i\u0330 I\u0308\u0301 i\u0308\u0301 K\u0301"),
   (0x1e31, "k\u0301 K\u0323 k\u0323 K\u0331 k\u0331"),
   (0x1e36, "L\u0323 l\u0323 L\u0323\u0304 l\u0323\u0304 L\u0331 l\u0331"),
   (0x1e3c, "L\u032d l\u032d M\u0301 m\u0301 M\u0307"),
   (0x1e41, "m\u0307 M\u0323 m\u0323 N\u0307 n\u0307 N\u0323"),
   (0x1e47, "n\u0323 N\u0331 n\u0331 N\u032d n\u032d O\u0303\u0301"),
   (0x1e4d, "o\u0303\u0301 O\u0303\u0308 o\u0303\u0308 O\u0304\u0300"),
   (0x1e51, "o\u0304\u0300 O\u0304\u0301 o\u0304\u0301"),
   (0x1e54, "P\u0301 p\u0301 P\u0307 p\u0307 R\u0307 r\u0307"),
   (0x1e5a, "R\u0323 r\u0323 R\u0323\u0304 r\u0323\u0304 R\u0331"),
   (0x1e5f, "r\u0331 S\u0307 s\u0307 S\u0323 s\u0323"),
   (0x1e64, "S\u0301\u0307 s\u0301\u0307 S\u030c\u0307 s\u030c\u0307"),
   (0x1e68, "S\u0323\u0307 s\u0323\u0307 T\u0307 t\u0307 T\u0323 t\u0323"),
   (0x1e6e, "T\u0331 t\u0331 T\u032d t\u032d U\u0324"),
   (0x1e73, "u\u0324 U\u0330 u\u0330 U\u032d u\u032d"),
   (0x1e78, "U\u0303\u0301 u\u0303\u0301 U\u0304\u0308 u\u0304\u0308"),
   (0x1e7c, "V\u0303 v\u0303 V\u0323 v\u0323 W\u0300 w\u0300"),
   (0x1e82, "W\u0301 w\u0301 W\u0308 w\u0308 W\u0307 w\u0307"),
   (0x1e88, "W\u0323 w\u0323 X\u0307 x\u0307 X\u0308 x\u0308"),
   (0x1e8e, "Y\u0307 y\u0307 Z\u0302 z\u0302 Z\u0323 z\u0323"),
   (0x1e94, "Z\u0331 z\u0331 h\u0331 t\u0308 w\u030a y\u030a"), (0x1e9b, "ſ\u0307"),
   (0x1ea0, "A\u0323 a\u0323 A\u0309 a\u0309 A\u0302\u0301"),
   (0x1ea5, "a\u0302\u0301 A\u0302\u0300 a\u0302\u0300 A\u0302\u0309"),
   (0x1ea9, "a\u0302\u0309 A\u0302\u0303 a\u0302\u0303 A\u0323\u0302"),
   (0x1ead, "a\u0323\u0302 A\u0306\u0301 a\u0306\u0301"),
   (0x1eb0, "A\u0306\u0300 a\u0306\u0300 A\u0306\u0309 a\u0306\u0309"),
   (0x1eb4, "A\u0306\u0303 a\u0306\u0303 A\u0323\u0306"),
   (0x1eb7, "a\u0323\u0306 E\u0323 e\u0323 E\u0309 e\u0309"),
   (0x1ebc, "E\u0303 e\u0303 E\u0302\u0301 e\u0302\u0301"),
   (0x1ec0, "E\u0302\u0300 e\u0302\u0300 E\u0302\u0309 e\u0302\u0309"),
   (0x1ec4, "E\u0302\u0303 e\u0302\u0303 E\u0323\u0302"),
   (0x1ec7, "e\u0323\u0302 I\u0309 i\u0309 I\u0323 i\u0323"),
   (0x1ecc, "O\u0323 o\u0323 O\u0309 o\u0309 O\u0302\u0301"),
   (0x1ed1, "o\u0302\u0301 O\u0302\u0300 o\u0302\u0300 O\u0302\u0309"),
   (0x1ed5, "o\u0302\u0309 O\u0302\u0303 o\u0302\u0303"),
   (0x1ed8, "O\u0323\u0302 o\u0323\u0302 O\u031b\u0301 o\u031b\u0301"),
   (0x1edc, "O\u031b\u0300 o\u031b\u0300 O\u031b\u0309"),
   (0x1edf, "o\u031b\u0309 O\u031b\u0303 o\u031b\u0303 O\u031b\u0323 o\u031b\u0323"),
   (0x1ee4, "U\u0323 u\u0323 U\u0309 u\u0309"),
   (0x1ee8, "U\u031b\u0301 u\u031b\u0301 U\u031b\u0300 u\u031b\u0300"),
   (0x1eec, "U\u031b\u0309 u\u031b\u0309 U\u031b\u0303"),
   (0x1eef, "u\u031b\u0303 U\u031b\u0323 u\u031b\u0323 Y\u0300 y\u0300"),
   (0x1ef4, "Y\u0323 y\u0323 Y\u0309 y\u0309 Y\u0303"), (0x1ef9, "y\u0303"),
   (0x1f00, "α\u0313 α\u0314 α\u0313\u0300 α\u0314\u0300"),
   (0x1f04, "α\u0313\u0301 α\u0314\u0301 α\u0313\u0342 α\u0314\u0342"),
   (0x1f08, "Α\u0313 Α\u0314 Α\u0313\u0300 Α\u0314\u0300"),
   (0x1f0c, "Α\u0313\u0301 Α\u0314\u0301 Α\u0313\u0342 Α\u0314\u0342"),
   (0x1f10, "ε\u0313 ε\u0314 ε\u0313\u0300 ε\u0314\u0300 ε\u0313\u0301 ε\u0314\u0301"),
   (0x1f18, "Ε\u0313 Ε\u0314 Ε\u0313\u0300 Ε\u0314\u0300 Ε\u0313\u0301 Ε\u0314\u0301"),
   (0x1f20, "η\u0313 η\u0314 η\u0313\u0300 η\u0314\u0300"),
   (0x1f24, "η\u0313\u0301 η\u0314\u0301 η\u0313\u0342 η\u0314\u0342"),
   (0x1f28, "Η\u0313 Η\u0314 Η\u0313\u0300 Η\u0314\u0300"),
   (0x1f2c, "Η\u0313\u0301 Η\u0314\u0301 Η\u0313\u0342 Η\u0314\u0342"),
   (0x1f30, "ι\u0313 ι\u0314 ι\u0313\u0300 ι\u0314\u0300"),
   (0x1f34, "ι\u0313\u0301 ι\u0314\u0301 ι\u0313\u0342 ι\u0314\u0342"),
   (0x1f38, "Ι\u0313 Ι\u0314 Ι\u0313\u0300 Ι\u0314\u0300"),
   (0x1f3c, "Ι\u0313\u0301 Ι\u0314\u0301 Ι\u0313\u0342 Ι\u0314\u0342"),
   (0x1f40, "ο\u0313 ο\u0314 ο\u0313\u0300 ο\u0314\u0300 ο\u0313\u0301 ο\u0314\u0301"),
   (0x1f48, "Ο\u0313 Ο\u0314 Ο\u0313\u0300 Ο\u0314\u0300 Ο\u0313\u0301 Ο\u0314\u0301"),
   (0x1f50, "υ\u0313 υ\u0314 υ\u0313\u0300 υ\u0314\u0300"),
   (0x1f54, "υ\u0313\u0301 υ\u0314\u0301 υ\u0313\u0342 υ\u0314\u0342"), (0x1f59, "Υ\u0314"),
   (0x1f5b, "Υ\u0314\u0300"), (0x1f5d, "Υ\u0314\u0301"),
   (0x1f5f, "Υ\u0314\u0342 ω\u0313 ω\u0314 ω\u0313\u0300"),
   (0x1f63, "ω\u0314\u0300 ω\u0313\u0301 ω\u0314\u0301 ω\u0313\u0342"),
   (0x1f67, "ω\u0314\u0342 Ω\u0313 Ω\u0314 Ω\u0313\u0300"),
   (0x1f6b, "Ω\u0314\u0300 Ω\u0313\u0301 Ω\u0314\u0301 Ω\u0313\u0342"),
   (0x1f6f, "Ω\u0314\u0342 α\u0300"), (0x1f72, "ε\u0300"), (0x1f74, "η\u0300"), (0x1f76, "ι\u0300"),
   (0x1f78, "ο\u0300"), (0x1f7a, "υ\u0300"), (0x1f7c, "ω\u0300"),
   (0x1f80, "α\u0313\u0345 α\u0314\u0345 α\u0313\u0300\u0345"),
   (0x1f83, "α\u0314\u0300\u0345 α\u0313\u0301\u0345"),
   (0x1f85, "α\u0314\u0301\u0345 α\u0313\u0342\u0345 α\u0314\u0342\u0345"),
   (0x1f88, "Α\u0313\u0345 Α\u0314\u0345"),
   (0x1f8a, "Α\u0313\u0300\u0345 Α\u0314\u0300\u0345 Α\u0313\u0301\u0345"),
   (0x1f8d, "Α\u0314\u0301\u0345 Α\u0313\u0342\u0345"),
   (0x1f8f, "Α\u0314\u0342\u0345 η\u0313\u0345 η\u0314\u0345"),
   (0x1f92, "η\u0313\u0300\u0345 η\u0314\u0300\u0345"),
   (0x1f94, "η\u0313\u0301\u0345 η\u0314\u0301\u0345 η\u0313\u0342\u0345"),
   (0x1f97, "η\u0314\u0342\u0345 Η\u0313\u0345"),
   (0x1f99, "Η\u0314\u0345 Η\u0313\u0300\u0345 Η\u0314\u0300\u0345"),
   (0x1f9c, "Η\u0313\u0301\u0345 Η\u0314\u0301\u0345"),
   (0x1f9e, "Η\u0313\u0342\u0345 Η\u0314\u0342\u0345 ω\u0313\u0345"),
   (0x1fa1, "ω\u0314\u0345 ω\u0313\u0300\u0345"),
   (0x1fa3, "ω\u0314\u0300\u0345 ω\u0313\u0301\u0345 ω\u0314\u0301\u0345"),
   (0x1fa6, "ω\u0313\u0342\u0345 ω\u0314\u0342\u0345"),
   (0x1fa8, "Ω\u0313\u0345 Ω\u0314\u0345 Ω\u0313\u0300\u0345"),
   (0x1fab, "Ω\u0314\u0300\u0345 Ω\u0313\u0301\u0345"),
   (0x1fad, "Ω\u0314\u0301\u0345 Ω\u0313\u0342\u0345 Ω\u0314\u0342\u0345 α\u0306"),
   (0x1fb1, "α\u0304 α\u0300\u0345 α\u0345"), (0x1fb4, "α\u0301\u0345"),
   (0x1fb6, "α\u0342 α\u0342\u0345 Α\u0306 Α\u0304 Α\u0300"), (0x1fbc, "Α\u0345"),
   (0x1fc1, "\u00a8\u0342 η\u0300\u0345 η\u0345 η\u0301\u0345"),
   (0x1fc6, "η\u0342 η\u0342\u0345 Ε\u0300"), (0x1fca, "Η\u0300"),
   (0x1fcc, "Η\u0345 \u1fbf\u0300 \u1fbf\u0301 \u1fbf\u0342 ι\u0306 ι\u0304 ι\u0308\u0300"),
   (0x1fd6, "ι\u0342 ι\u0308\u0342 Ι\u0306 Ι\u0304 Ι\u0300"),
   (0x1fdd, "\u1ffe\u0300 \u1ffe\u0301 \u1ffe\u0342 υ\u0306 υ\u0304 υ\u0308\u0300"),
   (0x1fe4, "ρ\u0313 ρ\u0314 υ\u0342 υ\u0308\u0342 Υ\u0306 Υ\u0304 Υ\u0300"),
   (0x1fec, "Ρ\u0314 \u00a8\u0300"), (0x1ff2, "ω\u0300\u0345 ω\u0345 ω\u0301\u0345"),
   (0x1ff6, "ω\u0342 ω\u0342\u0345 Ο\u0300"), (0x1ffa, "Ω\u0300"), (0x1ffc, "Ω\u0345"),
   (0x219a, "←\u0338 →\u0338"), (0x21ae, "↔\u0338"), (0x21cd, "⇐\u0338 ⇔\u0338 ⇒\u0338"),
   (0x2204, "∃\u0338"), (0x2209, "∈\u0338"), (0x220c, "∋\u0338"), (0x2224, "∣\u0338"),
   (0x2226, "∥\u0338"), (0x2241, "∼\u0338"), (0x2244, "≃\u0338"), (0x2247, "≅\u0338"),
   (0x2249, "≈\u0338"), (0x2260, "=\u0338"), (0x2262, "≡\u0338"),
   (0x226d, "≍\u0338 <\u0338 >\u0338 ≤\u0338 ≥\u0338"), (0x2274, "≲\u0338 ≳\u0338"),
   (0x2278, "≶\u0338 ≷\u0338"), (0x2280, "≺\u0338 ≻\u0338"), (0x2284, "⊂\u0338 ⊃\u0338"),
   (0x2288, "⊆\u0338 ⊇\u0338"), (0x22ac, "⊢\u0338 ⊨\u0338 ⊩\u0338 ⊫\u0338"),
   (0x22e0, "≼\u0338 ≽\u0338 ⊑\u0338 ⊒\u0338"), (0x22ea, "⊲\u0338 ⊳\u0338 ⊴\u0338 ⊵\u0338"),
   (0x304c, "か\u3099"), (0x304e, "き\u3099"), (0x3050, "く\u3099"), (0x3052, "け\u3099"),
   (0x3054, "こ\u3099"), (0x3056, "さ\u3099"), (0x3058, "し\u3099"), (0x305a, "す\u3099"),
   (0x305c, "せ\u3099"), (0x305e, "そ\u3099"), (0x3060, "た\u3099"), (0x3062, "ち\u3099"),
   (0x3065, "つ\u3099"), (0x3067, "て\u3099"), (0x3069, "と\u3099"), (0x3070, "は\u3099 は\u309a"),
   (0x3073, "ひ\u3099 ひ\u309a"), (0x3076, "ふ\u3099 ふ\u309a"), (0x3079, "へ\u3099 へ\u309a"),
   (0x307c, "ほ\u3099 ほ\u309a"), (0x3094, "う\u3099"), (0x309e, "ゝ\u3099"), (0x30ac, "カ\u3099"),
   (0x30ae, "キ\u3099"), (0x30b0, "ク\u3099"), (0x30b2, "ケ\u3099"), (0x30b4, "コ\u3099"),
   (0x30b6, "サ\u3099"), (0x30b8, "シ\u3099"), (0x30ba, "ス\u3099"), (0x30bc, "セ\u3099"),
   (0x30be, "ソ\u3099"), (0x30c0, "タ\u3099"), (0x30c2, "チ\u3099"), (0x30c5, "ツ\u3099"),
   (0x30c7, "テ\u3099"), (0x30c9, "ト\u3099"), (0x30d0, "ハ\u3099 ハ\u309a"),
   (0x30d3, "ヒ\u3099 ヒ\u309a"), (0x30d6, "フ\u3099 フ\u309a"), (0x30d9, "ヘ\u3099 ヘ\u309a"),
   (0x30dc, "ホ\u3099 ホ\u309a"), (0x30f4, "ウ\u3099"), (0x30f7, "ワ\u3099 ヰ\u3099 ヱ\u3099 ヲ\u3099"),
   (0x30fe, "ヽ\u3099"), (0x105c9, "𐗒\u0307"), (0x105e4, "𐗚\u0307"), (0x1109a, "𑂚"),
   (0x1109c, "𑂜"), (0x110ab, "𑂫"), (0x1112e, "𑄮 𑄯"), (0x1134b, "𑍋 𑍌"), (0x11383, "𑎃"),
   (0x11385, "𑎅"), (0x1138e, "𑎎"), (0x11391, "𑎑"), (0x113c5, "𑏅"), (0x113c7, "𑏇 𑏈"),
   (0x114bb, "𑒻 𑒼"), (0x114be, "𑒾"), (0x115ba, "𑖺 𑖻"), (0x11938, "𑤸"),
   (0x16121, "𖄡 𖄢 𖄣 𖄤 𖄥 𖄦 𖄧 𖄨"), (0x16d68, "𖵨 𖵩 𖵪")]

def compositionBlocks : List (Nat × List (List Char)) :=
  compositionTexts.map fun (first, text) => (first, pieces ' ' text.toList)

def compositions : List (List Char × Char) :=
  compositionBlocks.flatMap fun (first, words) => words.zipIdx.map fun (word, i) =>
    (word, .ofNat (first + i))

/-- The first composed syllable, and how many there are. -/
def firstSyllable : Nat := 0xac00

def syllableCount : Nat := 11172

/-- What stands first among the letters that begin a syllable, that are its vowel, and before those
that end it. -/
def firstLead : Nat := 0x1100

def firstVowel : Nat := 0x1161

def beforeTail : Nat := 0x11a7

/-- How many letters begin a syllable, how many vowels there are, and how many ends, that of an open
syllable included. -/
def leadCount : Nat := 19

def vowelCount : Nat := 21

def tailCount : Nat := 28

def syllableParts? (c : Char) : Option (List Char) :=
  if firstSyllable ≤ c.toNat ∧ c.toNat < firstSyllable + syllableCount then
    let n := c.toNat - firstSyllable
    let whole :=
      [.ofNat (firstLead + n / (vowelCount * tailCount)),
        .ofNat (firstVowel + n / tailCount % vowelCount)]
    some (if n % tailCount = 0 then whole else whole ++ [.ofNat (beforeTail + n % tailCount)])
  else none

/-- The syllable that a letter or an open syllable, and the letter after it, are composed into. -/
def syllable? (c d : Char) : Option Char :=
  let lead := c.toNat - firstLead
  let vowel := d.toNat - firstVowel
  let n := c.toNat - firstSyllable
  let tail := d.toNat - beforeTail
  if firstLead ≤ c.toNat ∧ lead < leadCount ∧ firstVowel ≤ d.toNat ∧ vowel < vowelCount then
    some (.ofNat (firstSyllable + (lead * vowelCount + vowel) * tailCount))
  else if firstSyllable ≤ c.toNat ∧ n < syllableCount ∧ n % tailCount = 0 ∧
    beforeTail < d.toNat ∧ tail < tailCount then
    some (.ofNat (c.toNat + tail))
  else none

def parts (c : Char) : List Char :=
  ((syllableParts? c).or <|
    compositionBlocks.findSome? fun (first, words) => if first ≤ c.toNat then
      words[c.toNat - first]? else none).getD [c]

def compose? (c d : Char) : Option Char :=
  let word := parts c ++ [d]
  (syllable? c d).or ((compositions.find? (·.1 == word)).map (·.2))

end RemoteServices.Text
