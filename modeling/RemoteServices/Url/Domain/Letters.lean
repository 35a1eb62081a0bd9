/-!
# Letters that stand for others

Characters that differ from another only in case, width or style, or that stand for the same sign.

All of this restates the library `url`.
-/
namespace RemoteServices.Url.Domain

/-- Every `step`th character from `first` to `last`; the first stands for `target`, and each of the
others for the character that is as far from `target`. -/
structure LetterRun where
  first : Nat
  last : Nat
  step : Nat
  target : Nat

def LetterRun.target? (r : LetterRun) (n : Nat) : Option Char :=
  if r.first ≤ n ∧ n ≤ r.last ∧ (n - r.first) % r.step = 0 then
    some (.ofNat (r.target + (n - r.first)))
  else none

/-- Runs of capital letters, of wide and styled letters and digits, and of symbols. -/
def letterRuns : List LetterRun :=
  [⟨0x246, 0x24e, 2, 0x247⟩, ⟨0x391, 0x3a1, 1, 0x3b1⟩, ⟨0x3a3, 0x3a9, 1, 0x3c3⟩,
   ⟨0x3d8, 0x3ee, 2, 0x3d9⟩, ⟨0x3fd, 0x3ff, 1, 0x37b⟩, ⟨0x404, 0x406, 1, 0x454⟩,
   ⟨0x408, 0x40b, 1, 0x458⟩, ⟨0x410, 0x418, 1, 0x430⟩, ⟨0x41a, 0x42f, 1, 0x43a⟩,
   ⟨0x460, 0x474, 2, 0x461⟩, ⟨0x478, 0x480, 2, 0x479⟩, ⟨0x48a, 0x4be, 2, 0x48b⟩,
   ⟨0x4c3, 0x4cd, 2, 0x4c4⟩, ⟨0x4fa, 0x52e, 2, 0x4fb⟩, ⟨0x531, 0x556, 1, 0x561⟩,
   ⟨0x10a0, 0x10c5, 1, 0x2d00⟩, ⟨0x13f8, 0x13fd, 1, 0x13f0⟩, ⟨0x1c90, 0x1cba, 1, 0x10d0⟩,
   ⟨0x1cbd, 0x1cbf, 1, 0x10fd⟩, ⟨0x1d33, 0x1d3a, 1, 0x67⟩, ⟨0x1d5d, 0x1d5f, 1, 0x3b2⟩,
   ⟨0x1da4, 0x1da6, 1, 0x268⟩, ⟨0x1dae, 0x1db1, 1, 0x272⟩, ⟨0x1dbc, 0x1dbe, 1, 0x290⟩,
   ⟨0x1efa, 0x1efe, 2, 0x1efb⟩, ⟨0x2074, 0x2079, 1, 0x34⟩, ⟨0x2080, 0x2089, 1, 0x30⟩,
   ⟨0x2096, 0x2099, 1, 0x6b⟩, ⟨0x209e, 0x209f, 1, 0x79⟩, ⟨0x2119, 0x211b, 1, 0x70⟩,
   ⟨0x2135, 0x2138, 1, 0x5d0⟩, ⟨0x2460, 0x2468, 1, 0x31⟩, ⟨0x24b6, 0x24cf, 1, 0x61⟩,
   ⟨0x24d0, 0x24e9, 1, 0x61⟩, ⟨0x2c00, 0x2c2f, 1, 0x2c30⟩, ⟨0x2c67, 0x2c6b, 2, 0x2c68⟩,
   ⟨0x2c80, 0x2ce2, 2, 0x2c81⟩, ⟨0x3137, 0x3139, 1, 0x1103⟩, ⟨0x313a, 0x313f, 1, 0x11b0⟩,
   ⟨0x3141, 0x3143, 1, 0x1106⟩, ⟨0x3145, 0x314e, 1, 0x1109⟩, ⟨0x314f, 0x3163, 1, 0x1161⟩,
   ⟨0x3178, 0x317c, 1, 0x112b⟩, ⟨0x3184, 0x3186, 1, 0x1157⟩, ⟨0x3263, 0x3265, 1, 0x1105⟩,
   ⟨0x3269, 0x326d, 1, 0x110e⟩, ⟨0x32e4, 0x32e9, 1, 0x30ca⟩, ⟨0x32ee, 0x32f2, 1, 0x30de⟩,
   ⟨0x32f5, 0x32fa, 1, 0x30e8⟩, ⟨0x32fb, 0x32fe, 1, 0x30ef⟩, ⟨0xa640, 0xa66c, 2, 0xa641⟩,
   ⟨0xa680, 0xa69a, 2, 0xa681⟩, ⟨0xa722, 0xa72e, 2, 0xa723⟩, ⟨0xa732, 0xa76e, 2, 0xa733⟩,
   ⟨0xa77e, 0xa786, 2, 0xa77f⟩, ⟨0xa796, 0xa7a8, 2, 0xa797⟩, ⟨0xa7b4, 0xa7c2, 2, 0xa7b5⟩,
   ⟨0xa7cc, 0xa7da, 2, 0xa7cd⟩, ⟨0xab6c, 0xab6d, 1, 0xab4b⟩, ⟨0xab70, 0xabbf, 1, 0x13a0⟩,
   ⟨0xfb24, 0xfb26, 1, 0x5db⟩, ⟨0xfe37, 0xfe37, 1, 0x7b⟩, ⟨0xfe38, 0xfe38, 1, 0x7d⟩,
   ⟨0xfe41, 0xfe44, 1, 0x300c⟩, ⟨0xfe5b, 0xfe5b, 1, 0x7b⟩, ⟨0xfe5c, 0xfe5c, 1, 0x7d⟩,
   ⟨0xfe68, 0xfe68, 1, 0x5c⟩, ⟨0xff01, 0xff20, 1, 0x21⟩, ⟨0xff21, 0xff3a, 1, 0x61⟩,
   ⟨0xff3b, 0xff5e, 1, 0x5b⟩, ⟨0xff85, 0xff8a, 1, 0x30ca⟩, ⟨0xff8f, 0xff93, 1, 0x30de⟩,
   ⟨0xff96, 0xff9b, 1, 0x30e8⟩, ⟨0xffa7, 0xffa9, 1, 0x1103⟩, ⟨0xffaa, 0xffaf, 1, 0x11b0⟩,
   ⟨0xffb1, 0xffb3, 1, 0x1106⟩, ⟨0xffb5, 0xffbe, 1, 0x1109⟩, ⟨0xffc2, 0xffc7, 1, 0x1161⟩,
   ⟨0xffca, 0xffcf, 1, 0x1167⟩, ⟨0xffd2, 0xffd7, 1, 0x116d⟩, ⟨0xffda, 0xffdc, 1, 0x1173⟩,
   ⟨0xffe9, 0xffec, 1, 0x2190⟩, ⟨0x10400, 0x10427, 1, 0x10428⟩, ⟨0x104b0, 0x104d3, 1, 0x104d8⟩,
   ⟨0x10570, 0x1057a, 1, 0x10597⟩, ⟨0x1057c, 0x1058a, 1, 0x105a3⟩, ⟨0x1058c, 0x10592, 1, 0x105b3⟩,
   ⟨0x107b6, 0x107b8, 1, 0x1c0⟩, ⟨0x107bc, 0x107bd, 1, 0x296⟩, ⟨0x10c80, 0x10cb2, 1, 0x10cc0⟩,
   ⟨0x10d50, 0x10d65, 1, 0x10d70⟩, ⟨0x118a0, 0x118bf, 1, 0x118c0⟩, ⟨0x16e40, 0x16e5f, 1, 0x16e60⟩,
   ⟨0x16ea0, 0x16eb8, 1, 0x16ebb⟩, ⟨0x1ccd6, 0x1ccef, 1, 0x61⟩, ⟨0x1ccf0, 0x1ccf9, 1, 0x30⟩,
   ⟨0x1d400, 0x1d419, 1, 0x61⟩, ⟨0x1d41a, 0x1d433, 1, 0x61⟩, ⟨0x1d434, 0x1d44d, 1, 0x61⟩,
   ⟨0x1d44e, 0x1d454, 1, 0x61⟩, ⟨0x1d456, 0x1d467, 1, 0x69⟩, ⟨0x1d468, 0x1d481, 1, 0x61⟩,
   ⟨0x1d482, 0x1d49b, 1, 0x61⟩, ⟨0x1d4a9, 0x1d4ac, 1, 0x6e⟩, ⟨0x1d4ae, 0x1d4b5, 1, 0x73⟩,
   ⟨0x1d4b6, 0x1d4b9, 1, 0x61⟩, ⟨0x1d4bd, 0x1d4c3, 1, 0x68⟩, ⟨0x1d4c5, 0x1d4cf, 1, 0x70⟩,
   ⟨0x1d4d0, 0x1d4e9, 1, 0x61⟩, ⟨0x1d4ea, 0x1d503, 1, 0x61⟩, ⟨0x1d507, 0x1d50a, 1, 0x64⟩,
   ⟨0x1d50d, 0x1d514, 1, 0x6a⟩, ⟨0x1d516, 0x1d51c, 1, 0x73⟩, ⟨0x1d51e, 0x1d537, 1, 0x61⟩,
   ⟨0x1d53b, 0x1d53e, 1, 0x64⟩, ⟨0x1d540, 0x1d544, 1, 0x69⟩, ⟨0x1d54a, 0x1d550, 1, 0x73⟩,
   ⟨0x1d552, 0x1d56b, 1, 0x61⟩, ⟨0x1d56c, 0x1d585, 1, 0x61⟩, ⟨0x1d586, 0x1d59f, 1, 0x61⟩,
   ⟨0x1d5a0, 0x1d5b9, 1, 0x61⟩, ⟨0x1d5ba, 0x1d5d3, 1, 0x61⟩, ⟨0x1d5d4, 0x1d5ed, 1, 0x61⟩,
   ⟨0x1d5ee, 0x1d607, 1, 0x61⟩, ⟨0x1d608, 0x1d621, 1, 0x61⟩, ⟨0x1d622, 0x1d63b, 1, 0x61⟩,
   ⟨0x1d63c, 0x1d655, 1, 0x61⟩, ⟨0x1d656, 0x1d66f, 1, 0x61⟩, ⟨0x1d670, 0x1d689, 1, 0x61⟩,
   ⟨0x1d68a, 0x1d6a3, 1, 0x61⟩, ⟨0x1d6a8, 0x1d6b8, 1, 0x3b1⟩, ⟨0x1d6ba, 0x1d6c0, 1, 0x3c3⟩,
   ⟨0x1d6c2, 0x1d6d2, 1, 0x3b1⟩, ⟨0x1d6d4, 0x1d6da, 1, 0x3c3⟩, ⟨0x1d6e2, 0x1d6f2, 1, 0x3b1⟩,
   ⟨0x1d6f4, 0x1d6fa, 1, 0x3c3⟩, ⟨0x1d6fc, 0x1d70c, 1, 0x3b1⟩, ⟨0x1d70e, 0x1d714, 1, 0x3c3⟩,
   ⟨0x1d71c, 0x1d72c, 1, 0x3b1⟩, ⟨0x1d72e, 0x1d734, 1, 0x3c3⟩, ⟨0x1d736, 0x1d746, 1, 0x3b1⟩,
   ⟨0x1d748, 0x1d74e, 1, 0x3c3⟩, ⟨0x1d756, 0x1d766, 1, 0x3b1⟩, ⟨0x1d768, 0x1d76e, 1, 0x3c3⟩,
   ⟨0x1d770, 0x1d780, 1, 0x3b1⟩, ⟨0x1d782, 0x1d788, 1, 0x3c3⟩, ⟨0x1d790, 0x1d7a0, 1, 0x3b1⟩,
   ⟨0x1d7a2, 0x1d7a8, 1, 0x3c3⟩, ⟨0x1d7aa, 0x1d7ba, 1, 0x3b1⟩, ⟨0x1d7bc, 0x1d7c2, 1, 0x3c3⟩,
   ⟨0x1d7ce, 0x1d7d7, 1, 0x30⟩, ⟨0x1d7d8, 0x1d7e1, 1, 0x30⟩, ⟨0x1d7e2, 0x1d7eb, 1, 0x30⟩,
   ⟨0x1d7ec, 0x1d7f5, 1, 0x30⟩, ⟨0x1d7f6, 0x1d7ff, 1, 0x30⟩, ⟨0x1df54, 0x1df7e, 2, 0x1df55⟩,
   ⟨0x1e030, 0x1e038, 1, 0x430⟩, ⟨0x1e039, 0x1e03b, 1, 0x43a⟩, ⟨0x1e03c, 0x1e046, 1, 0x43e⟩,
   ⟨0x1e051, 0x1e059, 1, 0x430⟩, ⟨0x1e05f, 0x1e064, 1, 0x443⟩, ⟨0x1e900, 0x1e921, 1, 0x1e922⟩,
   ⟨0x1ee0a, 0x1ee0d, 1, 0x643⟩, ⟨0x1ee2a, 0x1ee2d, 1, 0x643⟩, ⟨0x1ee8b, 0x1ee8d, 1, 0x644⟩,
   ⟨0x1eeab, 0x1eead, 1, 0x644⟩, ⟨0x1f130, 0x1f149, 1, 0x61⟩, ⟨0x1fbf0, 0x1fbf9, 1, 0x30⟩]

def letterTexts : List (Nat × String) :=
  [(0xaa, "a"), (0xb2, "23"), (0xb5, "μ"), (0xb9, "1o"), (0xc6, "æ"), (0xd0, "ð"), (0xd8, "ø"),
   (0xde, "þ"), (0x110, "đ"), (0x126, "ħ"), (0x141, "ł"), (0x14a, "ŋ"), (0x152, "œ"), (0x166, "ŧ"),
   (0x17f, "s"), (0x181, "ɓƃ"), (0x184, "ƅ"), (0x186, "ɔƈ"), (0x189, "ɖɗƌ"), (0x18e, "ǝəɛƒ"),
   (0x193, "ɠɣ"), (0x196, "ɩɨƙ"), (0x19c, "ɯɲ"), (0x19f, "ɵ"), (0x1a2, "ƣ"), (0x1a4, "ƥ"),
   (0x1a6, "ʀƨ"), (0x1a9, "ʃ"), (0x1ac, "ƭ"), (0x1ae, "ʈ"), (0x1b1, "ʊʋƴ"), (0x1b5, "ƶ"),
   (0x1b7, "ʒƹ"), (0x1bc, "ƽ"), (0x1e4, "ǥ"), (0x1f6, "ƕƿ"), (0x21c, "ȝ"), (0x220, "ƞ"),
   (0x222, "ȣ"), (0x224, "ȥ"), (0x23a, "ⱥȼ"), (0x23d, "ƚⱦ"), (0x241, "ɂ"), (0x243, "ƀʉʌ"),
   (0x2b0, "hɦjrɹɻʁwy"), (0x2e0, "ɣlsxʕ"), (0x340, "\u0300\u0301"), (0x343, "\u0313"), (0x345, "ι"),
   (0x370, "ͱ"), (0x372, "ͳ"), (0x374, "ʹ"), (0x376, "ͷ"), (0x37e, ";ϳ"), (0x387, "\u00b7"),
   (0x3cf, "ϗβθυ"), (0x3d5, "φπ"), (0x3f0, "κρσ"), (0x3f4, "θε"), (0x3f7, "ϸ"), (0x3f9, "σϻ"),
   (0x402, "ђ"), (0x40f, "џ"), (0x4c0, "ӏ"), (0x4d4, "ӕ"), (0x4d8, "ә"), (0x4e0, "ӡ"), (0x4e8, "ө"),
   (0x4f6, "ӷ"), (0x58b, "իյ"), (0xf0c, "་"), (0x10c7, "ⴧ"), (0x10cd, "ⴭ"), (0x10fc, "ნ"),
   (0x1c80, "вдосттъѣꙋᲊ"), (0x1d2c, "aæb"), (0x1d30, "deǝ"), (0x1d3c, "oȣprtuwaɐɑᴂbdeəɛɜg"),
   (0x1d4f, "kmŋoɔᴖᴗptuᴝɯvᴥ"), (0x1d60, "φχiruvβγρφχ"), (0x1d78, "н"), (0x1d9b, "ɒcɕðɜfɟɡɥ"),
   (0x1da7, "ᵻʝɭᶅʟɱɰ"), (0x1db2, "ɸʂʃƫʉʊᴜʋʌz"), (0x1dbf, "θ"), (0x1e9e, "ß"), (0x1f71, "ά"),
   (0x1f73, "έ"), (0x1f75, "ή"), (0x1f77, "ί"), (0x1f79, "ό"), (0x1f7b, "ύ"), (0x1f7d, "ώ"),
   (0x1fbb, "ά"), (0x1fbe, "ι"), (0x1fc9, "έ"), (0x1fcb, "ή"), (0x1fd3, "ΐ"), (0x1fdb, "ί"),
   (0x1fe3, "ΰ"), (0x1feb, "ύ"), (0x1fef, "`"), (0x1ff9, "ό"), (0x1ffb, "ώ"), (0x2011, "\u2010"),
   (0x2070, "0i"), (0x207a, "+−=()n"), (0x208a, "+−=()"), (0x2090, "aeoxəh"), (0x209a, "pst"),
   (0x209d, "w"), (0x2102, "c"), (0x2107, "ɛ"), (0x210a, "ghhhhħiill"), (0x2115, "n"),
   (0x211c, "rr"), (0x2124, "z"), (0x2126, "ω"), (0x2128, "z"), (0x212a, "kåbc"),
   (0x212f, "eefⅎmo"), (0x2139, "i"), (0x213c, "πγγπ∑"), (0x2145, "ddeij"), (0x2160, "i"),
   (0x2164, "v"), (0x2169, "x"), (0x216c, "lcdmi"), (0x2174, "v"), (0x2179, "x"), (0x217c, "lcdm"),
   (0x2183, "ↄ"), (0x2329, "\u3008\u3009"), (0x24ea, "0"), (0x2c60, "ⱡ"), (0x2c62, "ɫᵽɽ"),
   (0x2c6d, "ɑɱɐɒ"), (0x2c72, "ⱳ"), (0x2c75, "ⱶ"), (0x2c7c, "jvȿɀ"), (0x2ceb, "ⳬ"), (0x2ced, "ⳮ"),
   (0x2cf2, "ⳳ"), (0x2d6f, "ⵡ"), (0x2e9f, "母"), (0x2ef3, "龟"),
   (0x2f00, "一丨丶丿乙亅二亠人儿入八冂冖冫几凵刀力勹匕匚匸十卜卩厂厶又口囗土士夂夊夕大女子宀寸小尢尸屮山巛工己巾"),
   (0x2f32, "干幺广廴廾弋弓彐彡彳心戈戶手支攴文斗斤方无日曰月木欠止歹殳毋比毛氏气水火爪父爻爿片牙牛犬玄玉瓜瓦甘生"),
   (0x2f64, "用田疋疒癶白皮皿目矛矢石示禸禾穴立竹米糸缶网羊羽老而耒耳聿肉臣自至臼舌舛舟艮色艸虍虫血行衣襾見角言谷"),
   (0x2f96, "豆豕豸貝赤走足身車辛辰辵邑酉釆里金長門阜隶隹雨靑非面革韋韭音頁風飛食首香馬骨高髟鬥鬯鬲鬼魚鳥鹵鹿麥麻"), (0x2fc8, "黃黍黑黹黽鼎鼓鼠鼻齊齒龍龜龠"),
   (0x3002, "."), (0x3036, "〒"), (0x3038, "十卄卅"), (0x3131, "ᄀᄁᆪᄂᆬᆭ"), (0x3140, "ᄚ"), (0x3144, "ᄡ"),
   (0x3165, "ᄔᄕᇇᇈᇌᇎᇓᇗᇙᄜᇝᇟᄝᄞᄠᄢᄣᄧᄩ"), (0x317d, "ᄲᄶᅀᅇᅌᇱᇲ"), (0x3187, "ᆄᆅᆈᆑᆒᆔᆞᆡ"),
   (0x3192, "一二三四上中下甲乙丙丁天地人"), (0x3244, "問幼文箏"), (0x3260, "ᄀᄂᄃ"), (0x3266, "ᄉᄋᄌ"),
   (0x326e, "가나다라마바사아자차카타파하"), (0x327e, "우"),
   (0x3280, "一二三四五六七八九十月火水木金土日株有社名特財祝労秘男女適優印注項休写正上中下左右医宗学監企資協夜"), (0x32d0, "アイウエオカキクケコサシスセソタチツテト"),
   (0x32ea, "ヒフヘホ"), (0x32f3, "ヤユ"), (0xa69c, "ъь"), (0xa770, "ꝯ"), (0xa779, "ꝺ"), (0xa77b, "ꝼ"),
   (0xa77d, "ᵹ"), (0xa78b, "ꞌ"), (0xa78d, "ɥ"), (0xa790, "ꞑ"), (0xa792, "ꞓ"), (0xa7aa, "ɦɜɡɬɪ"),
   (0xa7b0, "ʞʇʝꭓ"), (0xa7c4, "ꞔʂᶎꟈ"), (0xa7c9, "ꟊ"), (0xa7cb, "ɤ"), (0xa7dc, "ƛ"), (0xa7dd, "ɷ"),
   (0xa7f1, "scfqꟶ"), (0xa7f8, "ħœ"), (0xab5c, "ꜧꬷɫꭒ"), (0xab69, "ʍ"),
   (0xf900, "豈更車賈滑串句龜龜契金喇奈懶癩羅蘿螺裸邏樂洛烙珞落酪駱亂卵欄爛蘭鸞嵐濫藍襤拉臘蠟廊朗浪狼郎來冷勞擄櫓"),
   (0xf932, "爐盧老蘆虜路露魯鷺碌祿綠菉錄鹿論壟弄籠聾牢磊賂雷壘屢樓淚漏累縷陋勒肋凜凌稜綾菱陵讀拏樂諾丹寧怒率異北"),
   (0xf964, "磻便復不泌數索參塞省葉說殺辰沈拾若掠略亮兩凉梁糧良諒量勵呂女廬旅濾礪閭驪麗黎力曆歷轢年憐戀撚漣煉璉秊"),
   (0xf996, "練聯輦蓮連鍊列劣咽烈裂說廉念捻殮簾獵令囹寧嶺怜玲瑩羚聆鈴零靈領例禮醴隸惡了僚寮尿料樂燎療蓼遼龍暈阮劉"),
   (0xf9c8, "杻柳流溜琉留硫紐類六戮陸倫崙淪輪律慄栗率隆利吏履易李梨泥理痢罹裏裡里離匿溺吝燐璘藺隣鱗麟林淋臨立笠粒"), (0xf9fa, "狀炙識什茶刺切度拓糖宅洞暴輻行降見廓兀嗀"),
   (0xfa10, "塚"), (0xfa12, "晴"), (0xfa15, "凞猪益礼神祥福靖精羽"), (0xfa20, "蘒"), (0xfa22, "諸"),
   (0xfa25, "逸都"), (0xfa2a, "飯飼館鶴郞隷侮僧免勉勤卑喝嘆器塀墨層屮悔慨憎懲敏既暑梅海渚漢煮爫琢碑社祉祈祐祖祝禍禎穀突節練縉繁署者"),
   (0xfa5c, "臭艹艹著褐視謁謹賓贈辶逸難響頻恵𤋮舘"), (0xfa70, "並况全侀充冀勇勺喝啕喙嗢塚墳奄奔婢嬨廒廙彩徭惘慎愈憎慠懲戴揄搜摒敖晴朗望杖歹殺流滛滋漢瀞煮瞧爵犯猪瑱"),
   (0xfaa2, "甆画瘝瘟益盛直睊着磌窱節类絛練缾者荒華蝹襁覆視調諸請謁諾諭謹變贈輸遲醙鉶陼難靖韛響頋頻鬒龜𢡊𢡄𣏕㮝䀘"), (0xfad4, "䀹𥉉𥳐𧻓齃龎"),
   (0xfb20, "\u05e2\u05d0\u05d3\u05d4"), (0xfb27, "\u05e8\u05ea+"),
   (0xfb50, "\u0671\u0671\u067b\u067b\u067b\u067b\u067e\u067e"),
   (0xfb58, "\u067e\u067e\u0680\u0680\u0680\u0680\u067a\u067a"),
   (0xfb60, "\u067a\u067a\u067f\u067f\u067f\u067f\u0679\u0679"),
   (0xfb68, "\u0679\u0679\u06a4\u06a4\u06a4\u06a4\u06a6\u06a6"),
   (0xfb70, "\u06a6\u06a6\u0684\u0684\u0684\u0684\u0683\u0683"),
   (0xfb78, "\u0683\u0683\u0686\u0686\u0686\u0686\u0687\u0687"),
   (0xfb80, "\u0687\u0687\u068d\u068d\u068c\u068c\u068e\u068e"),
   (0xfb88, "\u0688\u0688\u0698\u0698\u0691\u0691\u06a9\u06a9"),
   (0xfb90, "\u06a9\u06a9\u06af\u06af\u06af\u06af\u06b3\u06b3"),
   (0xfb98, "\u06b3\u06b3\u06b1\u06b1\u06b1\u06b1\u06ba\u06ba"),
   (0xfba0, "\u06bb\u06bb\u06bb\u06bb\u06c0\u06c0\u06c1\u06c1"),
   (0xfba8, "\u06c1\u06c1\u06be\u06be\u06be\u06be\u06d2\u06d2"), (0xfbb0, "\u06d3\u06d3"),
   (0xfbd3, "\u06ad\u06ad\u06ad\u06ad\u06c7\u06c7\u06c6\u06c6\u06c8\u06c8"),
   (0xfbde, "\u06cb\u06cb\u06c5\u06c5\u06c9\u06c9\u06d0\u06d0\u06d0\u06d0\u0649\u0649"),
   (0xfbfc, "\u06cc\u06cc\u06cc\u06cc"), (0xfe10, ",、"), (0xfe13, ":;!?\u3016\u3017"),
   (0xfe31, "\u2014\u2013__()"), (0xfe39, "\u3014\u3015\u3010\u3011\u300a\u300b\u3008\u3009"),
   (0xfe47, "[]"), (0xfe4d, "___,、"), (0xfe54, ";:?!\u2014()"), (0xfe5d, "\u3014\u3015#&*+-<>="),
   (0xfe69, "$%@"), (0xfe80, "\u0621\u0622\u0622\u0623\u0623\u0624\u0624\u0625"),
   (0xfe88, "\u0625\u0626\u0626\u0626\u0626\u0627\u0627\u0628"),
   (0xfe90, "\u0628\u0628\u0628\u0629\u0629\u062a\u062a\u062a"),
   (0xfe98, "\u062a\u062b\u062b\u062b\u062b\u062c\u062c\u062c"),
   (0xfea0, "\u062c\u062d\u062d\u062d\u062d\u062e\u062e\u062e"),
   (0xfea8, "\u062e\u062f\u062f\u0630\u0630\u0631\u0631\u0632"),
   (0xfeb0, "\u0632\u0633\u0633\u0633\u0633\u0634\u0634\u0634"),
   (0xfeb8, "\u0634\u0635\u0635\u0635\u0635\u0636\u0636\u0636"),
   (0xfec0, "\u0636\u0637\u0637\u0637\u0637\u0638\u0638\u0638"),
   (0xfec8, "\u0638\u0639\u0639\u0639\u0639\u063a\u063a\u063a"),
   (0xfed0, "\u063a\u0641\u0641\u0641\u0641\u0642\u0642\u0642"),
   (0xfed8, "\u0642\u0643\u0643\u0643\u0643\u0644\u0644\u0644"),
   (0xfee0, "\u0644\u0645\u0645\u0645\u0645\u0646\u0646\u0646"),
   (0xfee8, "\u0646\u0647\u0647\u0647\u0647\u0648\u0648\u0649"),
   (0xfef0, "\u0649\u064a\u064a\u064a\u064a"),
   (0xff5f, "\u2985\u2986.\u300c\u300d、・ヲァィゥェォャュョッーアイウエオカキクケコサシスセソタチツテト"), (0xff8b, "ヒフヘホ"),
   (0xff94, "ヤユ"), (0xff9c, "ワン\u3099\u309a"), (0xffa1, "ᄀᄁᆪᄂᆬᆭ"), (0xffb0, "ᄚ"), (0xffb4, "ᄡ"),
   (0xffe0, "¢£¬"), (0xffe4, "¦¥₩"), (0xffe8, "│"), (0xffed, "■○"), (0x10594, "𐖻𐖼"),
   (0x10781, "ːˑæʙɓ"), (0x10787, "ʣꭦʥʤɖɗᶑɘɞʩɤɢɠʛħʜɧʄʪʫɬ𝼄ꞎɮ𝼅ʎ𝼆øɶɷqɺ𝼈ɽɾʀʨʦꭧʧʈⱱ"), (0x107b2, "ʏʡʢʘ"),
   (0x107b9, "𝼊𝼞"), (0x107bb, "ʇ"), (0x1d49c, "a"), (0x1d49e, "cd"), (0x1d4a2, "g"),
   (0x1d4a5, "jk"), (0x1d4bb, "f"), (0x1d504, "ab"), (0x1d538, "ab"), (0x1d546, "o"),
   (0x1d6a4, "ıȷ"), (0x1d6b9, "θ"), (0x1d6c1, "∇"), (0x1d6d3, "σ"), (0x1d6db, "∂εθκφρπ"),
   (0x1d6f3, "θ"), (0x1d6fb, "∇"), (0x1d70d, "σ"), (0x1d715, "∂εθκφρπ"), (0x1d72d, "θ"),
   (0x1d735, "∇"), (0x1d747, "σ"), (0x1d74f, "∂εθκφρπ"), (0x1d767, "θ"), (0x1d76f, "∇"),
   (0x1d781, "σ"), (0x1d789, "∂εθκφρπ"), (0x1d7a1, "θ"), (0x1d7a9, "∇"), (0x1d7bb, "σ"),
   (0x1d7c3, "∂εθκφρπϝϝ"), (0x1df51, "𝽒"), (0x1dfcd, "𝽗"), (0x1dff3, "ψ"), (0x1dfff, "𝼉"),
   (0x1e047, "ыэюꚉәіјөүӏ"), (0x1e05a, "клопс"), (0x1e065, "ъыґіѕџҫꙑұ"),
   (0x1ee00, "\u0627\u0628\u062c\u062f"), (0x1ee05, "\u0648\u0632\u062d\u0637\u064a"),
   (0x1ee0e, "\u0633\u0639\u0641\u0635\u0642\u0631\u0634\u062a"),
   (0x1ee16, "\u062b\u062e\u0630\u0636\u0638\u063a\u066e\u06ba"), (0x1ee1e, "\u06a1\u066f"),
   (0x1ee21, "\u0628\u062c"), (0x1ee24, "\u0647"), (0x1ee27, "\u062d"), (0x1ee29, "\u064a"),
   (0x1ee2e, "\u0633\u0639\u0641\u0635\u0642"), (0x1ee34, "\u0634\u062a\u062b\u062e"),
   (0x1ee39, "\u0636"), (0x1ee3b, "\u063a"), (0x1ee42, "\u062c"), (0x1ee47, "\u062d"),
   (0x1ee49, "\u064a"), (0x1ee4b, "\u0644"), (0x1ee4d, "\u0646\u0633\u0639"),
   (0x1ee51, "\u0635\u0642"), (0x1ee54, "\u0634"), (0x1ee57, "\u062e"), (0x1ee59, "\u0636"),
   (0x1ee5b, "\u063a"), (0x1ee5d, "\u06ba"), (0x1ee5f, "\u066f"), (0x1ee61, "\u0628\u062c"),
   (0x1ee64, "\u0647"), (0x1ee67, "\u062d\u0637\u064a\u0643"),
   (0x1ee6c, "\u0645\u0646\u0633\u0639\u0641\u0635\u0642"), (0x1ee74, "\u0634\u062a\u062b\u062e"),
   (0x1ee79, "\u0636\u0638\u063a\u066e"), (0x1ee7e, "\u06a1"),
   (0x1ee80, "\u0627\u0628\u062c\u062f\u0647\u0648\u0632\u062d\u0637\u064a"),
   (0x1ee8e, "\u0633\u0639\u0641\u0635\u0642\u0631\u0634"),
   (0x1ee95, "\u062a\u062b\u062e\u0630\u0636\u0638\u063a"), (0x1eea1, "\u0628\u062c\u062f"),
   (0x1eea5, "\u0648\u0632\u062d\u0637\u064a"),
   (0x1eeae, "\u0633\u0639\u0641\u0635\u0642\u0631\u0634"),
   (0x1eeb5, "\u062a\u062b\u062e\u0630\u0636\u0638\u063a"), (0x1f12b, "cr"), (0x1f202, "サ"),
   (0x1f210, "手字双デ二多解天交映無料前後再新初終生販声吹演投捕一三遊左中右指走打禁空合満有月申割営配"), (0x1f250, "得可"),
   (0x2f800, "丽丸乁𠄢你侮侻倂偺備僧像㒞𠘺免兔兤具𠔜㒹內再𠕋冗冤仌冬况𩇟凵刃㓟刻剆割剷㔕勇勉勤勺包匆北卉卑博即卽卿"),
   (0x2f832, "卿卿𠨬灰及叟𠭣叫叱吆咞吸呈周咢哶唐啓啣善善喙喫喳嗂圖嘆圗噑噴切壮城埴堍型堲報墬𡓤売壷夆多夢奢𡚨𡛪姬娛"),
   (0x2f864, "娧姘婦㛮㛼嬈嬾嬾𡧈寃寘寧寳𡬘寿将当尢㞁屠屮峀岍𡷤嵃𡷦嵮嵫嵼巡巢㠯巽帨帽幩㡢𢆃㡼庰庳庶廊𪎒廾𢌱𢌱舁弢弢"),
   (0x2f896, "㣇𣊸𦇚形彫㣣徚忍志忹悁㤺㤜悔𢛔惇慈慌慎慌慺憎憲憤憯懞懲懶成戛扝抱拔捐𢬌挽拼捨掃揤𢯱搢揅掩㨮摩摾撝摷㩬"),
   (0x2f8c8, "敏敬𣀊旣書晉㬙暑㬈㫤冒冕最暜肭䏙朗望朡杞杓𣏃㭉柺枅桒梅𣑭梎栟椔㮝楂榣槪檨𣚣櫛㰘次𣢧歔㱎歲殟殺殻𣪍𡴋𣫺"),
   (0x2f8fa, "汎𣲼沿泍汧洖派海流浩浸涅𣴞洴港湮㴳滋滇𣻑淹潮𣽞𣾎濆瀹瀞瀛㶖灊災灷炭𠔥煅𤉣熜𤎫爨爵牐𤘈犀犕𤜵𤠔獺王㺬玥"),
   (0x2f92c, "㺸㺸瑇瑜瑱璅瓊㼛甤𤰶甾𤲒異𢆟瘐𤾡𤾸𥁄㿼䀈直𥃳𥃲𥄙𥄳眞真真睊䀹瞋䁆䂖𥐝硎碌磌䃣𥘦祖𥚚𥛅福秫䄯穀穊穏𥥼𥪧"),
   (0x2f95e, "𥪧竮䈂𥮫篆築䈧𥲀糒䊠糨糣紀𥾆絣䌁緇縂繅䌴𦈨𦉇䍙𦋙罺𦌾羕翺者𦓚𦔣聠𦖨聰𣍟䏕育脃䐋脾媵𦞧𦞵𣎓𣎜舁舄辞䑫芑"),
   (0x2f990, "芋芝劳花芳芽苦𦬼若茝荣莭茣莽菧著荓菊菌菜𦰶𦵫𦳕䔫蓱蓳蔖𧏊蕤𦼬䕝䕡𦾱𧃒䕫虐虜虧虩蚩蚈蜎蛢蝹蜨蝫螆䗗蟡蠁"),
   (0x2f9c2, "䗹衠衣𧙧裗裞䘵裺㒻𧢮𧥦䚾䛇誠諭變豕𧲨貫賁贛起𧼯𠠄跋趼跰𠣞軔輸𨗒𨗭邔郱鄑𨜮鄛鈸鋗鋘鉼鏹鐕𨯺開䦕閷𨵷䧦雃"),
   (0x2f9f4, "嶲霣𩅅𩈚䩮䩶韠𩐊䪲𩒖頋頋頩𩖶飢䬳餩馧駂駾䯎𩬰鬒鱀鳽䳎䳭鵧𪃎䳸𪄅𪈎𪊑麻䵖黹黾鼅鼏鼖鼻𪘀")]

def letterBlocks : List (Nat × List Char) :=
  letterTexts.map fun (first, text) => (first, text.toList)

def letter? (c : Char) : Option Char :=
  (letterRuns.findSome? (·.target? c.toNat)).or <|
    letterBlocks.findSome? fun (first, targets) => if first ≤ c.toNat then
      targets[c.toNat - first]? else none

end RemoteServices.Url.Domain
