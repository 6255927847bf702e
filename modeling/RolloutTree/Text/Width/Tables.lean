import RolloutTree.Text.Extend

/-!
# Properties that decide how wide a character is shown

Tables of Unicode 17. A character is *wide* when its East Asian width is wide or full; it is
*hidden* when it takes no column of its own. The emoji tables list the characters of the emoji
variation sequences and those with an emoji property.

## Main definitions

* `isWide`, `isHidden`: characters of two columns and of none.
* `isEmoji`: characters shown as emoji by default.
* `isModifierBase`: characters that take a skin tone.
* `hasEmojiForm`, `hasTextForm`: characters that a variation selector turns into emoji or into text.
* `isJoinTransparent`: characters between the letters of an Arabic ligature that do not break it.
-/

namespace RolloutTree.Text.Width

/-- Code points of East Asian width `W` or `F` that are not hidden. -/
def wide : Ranges := [
  (0x1100, 0x115f), (0x231a, 0x231b), (0x2329, 0x232a), (0x23e9, 0x23ec), (0x23f0, 0x23f0),
  (0x23f3, 0x23f3), (0x25fd, 0x25fe), (0x2614, 0x2615), (0x2630, 0x2637), (0x2648, 0x2653),
  (0x267f, 0x267f), (0x268a, 0x268f), (0x2693, 0x2693), (0x26a1, 0x26a1), (0x26aa, 0x26ab),
  (0x26bd, 0x26be), (0x26c4, 0x26c5), (0x26ce, 0x26ce), (0x26d4, 0x26d4), (0x26ea, 0x26ea),
  (0x26f2, 0x26f3), (0x26f5, 0x26f5), (0x26fa, 0x26fa), (0x26fd, 0x26fd), (0x2705, 0x2705),
  (0x270a, 0x270b), (0x2728, 0x2728), (0x274c, 0x274c), (0x274e, 0x274e), (0x2753, 0x2755),
  (0x2757, 0x2757), (0x2795, 0x2797), (0x27b0, 0x27b0), (0x27bf, 0x27bf), (0x2b1b, 0x2b1c),
  (0x2b50, 0x2b50), (0x2b55, 0x2b55), (0x2e80, 0x2e99), (0x2e9b, 0x2ef3), (0x2f00, 0x2fd5),
  (0x2ff0, 0x3029), (0x3030, 0x303e), (0x3041, 0x3096), (0x309b, 0x30ff), (0x3105, 0x312f),
  (0x3131, 0x3163), (0x3165, 0x318e), (0x3190, 0x31e5), (0x31ef, 0x321e), (0x3220, 0x3247),
  (0x3250, 0xa48c), (0xa490, 0xa4c6), (0xa960, 0xa97c), (0xac00, 0xd7a3), (0xf900, 0xfaff),
  (0xfe10, 0xfe19), (0xfe30, 0xfe52), (0xfe54, 0xfe66), (0xfe68, 0xfe6b), (0xff01, 0xff60),
  (0xffe0, 0xffe6), (0x16fe0, 0x16fe3), (0x16ff2, 0x16ff6), (0x17000, 0x18cd5),
  (0x18cff, 0x18d1e), (0x18d80, 0x18df2), (0x1aff0, 0x1aff3), (0x1aff5, 0x1affb),
  (0x1affd, 0x1affe), (0x1b000, 0x1b122), (0x1b132, 0x1b132), (0x1b150, 0x1b152),
  (0x1b155, 0x1b155), (0x1b164, 0x1b167), (0x1b170, 0x1b2fb), (0x1d300, 0x1d356),
  (0x1d360, 0x1d376), (0x1f004, 0x1f004), (0x1f0cf, 0x1f0cf), (0x1f18e, 0x1f18e),
  (0x1f191, 0x1f19a), (0x1f200, 0x1f202), (0x1f210, 0x1f23b), (0x1f240, 0x1f248),
  (0x1f250, 0x1f251), (0x1f260, 0x1f265), (0x1f300, 0x1f320), (0x1f32d, 0x1f335),
  (0x1f337, 0x1f37c), (0x1f37e, 0x1f393), (0x1f3a0, 0x1f3ca), (0x1f3cf, 0x1f3d3),
  (0x1f3e0, 0x1f3f0), (0x1f3f4, 0x1f3f4), (0x1f3f8, 0x1f43e), (0x1f440, 0x1f440),
  (0x1f442, 0x1f4fc), (0x1f4ff, 0x1f53d), (0x1f54b, 0x1f54e), (0x1f550, 0x1f567),
  (0x1f57a, 0x1f57a), (0x1f595, 0x1f596), (0x1f5a4, 0x1f5a4), (0x1f5fb, 0x1f64f),
  (0x1f680, 0x1f6c5), (0x1f6cc, 0x1f6cc), (0x1f6d0, 0x1f6d2), (0x1f6d5, 0x1f6d8),
  (0x1f6dc, 0x1f6df), (0x1f6eb, 0x1f6ec), (0x1f6f4, 0x1f6fc), (0x1f7e0, 0x1f7eb),
  (0x1f7f0, 0x1f7f0), (0x1f90c, 0x1f93a), (0x1f93c, 0x1f945), (0x1f947, 0x1f9ff),
  (0x1fa70, 0x1fa7c), (0x1fa80, 0x1fa8a), (0x1fa8e, 0x1fac6), (0x1fac8, 0x1fac8),
  (0x1facd, 0x1fadc), (0x1fadf, 0x1faea), (0x1faef, 0x1faf8), (0x20000, 0x2fffd),
  (0x30000, 0x3fffd)]

/-- Hidden code points that do not extend the character before them: default ignorable ones,
vowels and final consonants of decomposed Hangul, and marks written around what follows. -/
def hiddenOthers : Ranges := [
  (0x00ad, 0x00ad), (0x0605, 0x0605), (0x061c, 0x061c), (0x070f, 0x070f), (0x0890, 0x0891),
  (0x08e2, 0x08e2), (0x0d4e, 0x0d4e), (0x1160, 0x11ff), (0x180e, 0x180e), (0x200b, 0x200b),
  (0x200d, 0x200f), (0x202a, 0x202e), (0x2060, 0x206f), (0x3164, 0x3164), (0xa8fa, 0xa8fa),
  (0xd7b0, 0xd7c6), (0xd7cb, 0xd7fb), (0xfeff, 0xfeff), (0xffa0, 0xffa0), (0xfff0, 0xfff8),
  (0x111c2, 0x111c3), (0x113d1, 0x113d1), (0x1193f, 0x1193f), (0x11941, 0x11941),
  (0x11a3a, 0x11a3a), (0x11a84, 0x11a89), (0x11d46, 0x11d46), (0x11f02, 0x11f02),
  (0x1bca0, 0x1bca3), (0x1d173, 0x1d17a), (0xe0000, 0xe001f), (0xe0080, 0xe00ff),
  (0xe01f0, 0xe0fff)]

/-- Code points shown as emoji by default, the regional indicators excepted. -/
def emoji : Ranges := [
  (0x231a, 0x231b), (0x23e9, 0x23ec), (0x23f0, 0x23f0), (0x23f3, 0x23f3), (0x25fd, 0x25fe),
  (0x2614, 0x2615), (0x2648, 0x2653), (0x267f, 0x267f), (0x2693, 0x2693), (0x26a1, 0x26a1),
  (0x26aa, 0x26ab), (0x26bd, 0x26be), (0x26c4, 0x26c5), (0x26ce, 0x26ce), (0x26d4, 0x26d4),
  (0x26ea, 0x26ea), (0x26f2, 0x26f3), (0x26f5, 0x26f5), (0x26fa, 0x26fa), (0x26fd, 0x26fd),
  (0x2705, 0x2705), (0x270a, 0x270b), (0x2728, 0x2728), (0x274c, 0x274c), (0x274e, 0x274e),
  (0x2753, 0x2755), (0x2757, 0x2757), (0x2795, 0x2797), (0x27b0, 0x27b0), (0x27bf, 0x27bf),
  (0x2b1b, 0x2b1c), (0x2b50, 0x2b50), (0x2b55, 0x2b55), (0x1f004, 0x1f004), (0x1f0cf, 0x1f0cf),
  (0x1f18e, 0x1f18e), (0x1f191, 0x1f19a), (0x1f201, 0x1f201), (0x1f21a, 0x1f21a),
  (0x1f22f, 0x1f22f), (0x1f232, 0x1f236), (0x1f238, 0x1f23a), (0x1f250, 0x1f251),
  (0x1f300, 0x1f320), (0x1f32d, 0x1f335), (0x1f337, 0x1f37c), (0x1f37e, 0x1f393),
  (0x1f3a0, 0x1f3ca), (0x1f3cf, 0x1f3d3), (0x1f3e0, 0x1f3f0), (0x1f3f4, 0x1f3f4),
  (0x1f3f8, 0x1f43e), (0x1f440, 0x1f440), (0x1f442, 0x1f4fc), (0x1f4ff, 0x1f53d),
  (0x1f54b, 0x1f54e), (0x1f550, 0x1f567), (0x1f57a, 0x1f57a), (0x1f595, 0x1f596),
  (0x1f5a4, 0x1f5a4), (0x1f5fb, 0x1f64f), (0x1f680, 0x1f6c5), (0x1f6cc, 0x1f6cc),
  (0x1f6d0, 0x1f6d2), (0x1f6d5, 0x1f6d8), (0x1f6dc, 0x1f6df), (0x1f6eb, 0x1f6ec),
  (0x1f6f4, 0x1f6fc), (0x1f7e0, 0x1f7eb), (0x1f7f0, 0x1f7f0), (0x1f90c, 0x1f93a),
  (0x1f93c, 0x1f945), (0x1f947, 0x1f9ff), (0x1fa70, 0x1fa7c), (0x1fa80, 0x1fa8a),
  (0x1fa8e, 0x1fac6), (0x1fac8, 0x1fac8), (0x1facd, 0x1fadc), (0x1fadf, 0x1faea),
  (0x1faef, 0x1faf8)]

/-- Code points that start an emoji variation sequence. -/
def emojiVariants : Ranges := [
  (0x0023, 0x0023), (0x002a, 0x002a), (0x0030, 0x0039), (0x00a9, 0x00a9), (0x00ae, 0x00ae),
  (0x203c, 0x203c), (0x2049, 0x2049), (0x2122, 0x2122), (0x2139, 0x2139), (0x2194, 0x2199),
  (0x21a9, 0x21aa), (0x231a, 0x231b), (0x2328, 0x2328), (0x23cf, 0x23cf), (0x23e9, 0x23f3),
  (0x23f8, 0x23fa), (0x24c2, 0x24c2), (0x25aa, 0x25ab), (0x25b6, 0x25b6), (0x25c0, 0x25c0),
  (0x25fb, 0x25fe), (0x2600, 0x2604), (0x260e, 0x260e), (0x2611, 0x2611), (0x2614, 0x2615),
  (0x2618, 0x2618), (0x261d, 0x261d), (0x2620, 0x2620), (0x2622, 0x2623), (0x2626, 0x2626),
  (0x262a, 0x262a), (0x262e, 0x262f), (0x2638, 0x263a), (0x2640, 0x2640), (0x2642, 0x2642),
  (0x2648, 0x2653), (0x265f, 0x2660), (0x2663, 0x2663), (0x2665, 0x2666), (0x2668, 0x2668),
  (0x267b, 0x267b), (0x267e, 0x267f), (0x2692, 0x2697), (0x2699, 0x2699), (0x269b, 0x269c),
  (0x26a0, 0x26a1), (0x26a7, 0x26a7), (0x26aa, 0x26ab), (0x26b0, 0x26b1), (0x26bd, 0x26be),
  (0x26c4, 0x26c5), (0x26c8, 0x26c8), (0x26ce, 0x26cf), (0x26d1, 0x26d1), (0x26d3, 0x26d4),
  (0x26e9, 0x26ea), (0x26f0, 0x26f5), (0x26f7, 0x26fa), (0x26fd, 0x26fd), (0x2702, 0x2702),
  (0x2705, 0x2705), (0x2708, 0x270d), (0x270f, 0x270f), (0x2712, 0x2712), (0x2714, 0x2714),
  (0x2716, 0x2716), (0x271d, 0x271d), (0x2721, 0x2721), (0x2728, 0x2728), (0x2733, 0x2734),
  (0x2744, 0x2744), (0x2747, 0x2747), (0x274c, 0x274c), (0x274e, 0x274e), (0x2753, 0x2755),
  (0x2757, 0x2757), (0x2763, 0x2764), (0x2795, 0x2797), (0x27a1, 0x27a1), (0x27b0, 0x27b0),
  (0x27bf, 0x27bf), (0x2934, 0x2935), (0x2b05, 0x2b07), (0x2b1b, 0x2b1c), (0x2b50, 0x2b50),
  (0x2b55, 0x2b55), (0x3030, 0x3030), (0x303d, 0x303d), (0x3297, 0x3297), (0x3299, 0x3299),
  (0x1f004, 0x1f004), (0x1f170, 0x1f171), (0x1f17e, 0x1f17f), (0x1f202, 0x1f202),
  (0x1f21a, 0x1f21a), (0x1f22f, 0x1f22f), (0x1f237, 0x1f237), (0x1f30d, 0x1f30f),
  (0x1f315, 0x1f315), (0x1f31c, 0x1f31c), (0x1f321, 0x1f321), (0x1f324, 0x1f32c),
  (0x1f336, 0x1f336), (0x1f378, 0x1f378), (0x1f37d, 0x1f37d), (0x1f393, 0x1f393),
  (0x1f396, 0x1f397), (0x1f399, 0x1f39b), (0x1f39e, 0x1f39f), (0x1f3a7, 0x1f3a7),
  (0x1f3ac, 0x1f3ae), (0x1f3c2, 0x1f3c2), (0x1f3c4, 0x1f3c4), (0x1f3c6, 0x1f3c6),
  (0x1f3ca, 0x1f3ce), (0x1f3d4, 0x1f3e0), (0x1f3ed, 0x1f3ed), (0x1f3f3, 0x1f3f3),
  (0x1f3f5, 0x1f3f5), (0x1f3f7, 0x1f3f7), (0x1f408, 0x1f408), (0x1f415, 0x1f415),
  (0x1f41f, 0x1f41f), (0x1f426, 0x1f426), (0x1f43f, 0x1f43f), (0x1f441, 0x1f442),
  (0x1f446, 0x1f449), (0x1f44d, 0x1f44e), (0x1f453, 0x1f453), (0x1f46a, 0x1f46a),
  (0x1f47d, 0x1f47d), (0x1f4a3, 0x1f4a3), (0x1f4b0, 0x1f4b0), (0x1f4b3, 0x1f4b3),
  (0x1f4bb, 0x1f4bb), (0x1f4bf, 0x1f4bf), (0x1f4cb, 0x1f4cb), (0x1f4da, 0x1f4da),
  (0x1f4df, 0x1f4df), (0x1f4e4, 0x1f4e6), (0x1f4ea, 0x1f4ed), (0x1f4f7, 0x1f4f7),
  (0x1f4f9, 0x1f4fb), (0x1f4fd, 0x1f4fd), (0x1f508, 0x1f508), (0x1f50d, 0x1f50d),
  (0x1f512, 0x1f513), (0x1f549, 0x1f54a), (0x1f550, 0x1f567), (0x1f56f, 0x1f570),
  (0x1f573, 0x1f579), (0x1f587, 0x1f587), (0x1f58a, 0x1f58d), (0x1f590, 0x1f590),
  (0x1f5a5, 0x1f5a5), (0x1f5a8, 0x1f5a8), (0x1f5b1, 0x1f5b2), (0x1f5bc, 0x1f5bc),
  (0x1f5c2, 0x1f5c4), (0x1f5d1, 0x1f5d3), (0x1f5dc, 0x1f5de), (0x1f5e1, 0x1f5e1),
  (0x1f5e3, 0x1f5e3), (0x1f5e8, 0x1f5e8), (0x1f5ef, 0x1f5ef), (0x1f5f3, 0x1f5f3),
  (0x1f5fa, 0x1f5fa), (0x1f610, 0x1f610), (0x1f687, 0x1f687), (0x1f68d, 0x1f68d),
  (0x1f691, 0x1f691), (0x1f694, 0x1f694), (0x1f698, 0x1f698), (0x1f6ad, 0x1f6ad),
  (0x1f6b2, 0x1f6b2), (0x1f6b9, 0x1f6ba), (0x1f6bc, 0x1f6bc), (0x1f6cb, 0x1f6cb),
  (0x1f6cd, 0x1f6cf), (0x1f6e0, 0x1f6e5), (0x1f6e9, 0x1f6e9), (0x1f6f0, 0x1f6f0),
  (0x1f6f3, 0x1f6f3)]

/-- Code points shown as emoji by default that start a text variation sequence and are no enclosed
ideographs. -/
def textVariants : Ranges := [
  (0x231a, 0x231b), (0x23e9, 0x23ec), (0x23f0, 0x23f0), (0x23f3, 0x23f3), (0x25fd, 0x25fe),
  (0x2614, 0x2615), (0x2648, 0x2653), (0x267f, 0x267f), (0x2693, 0x2693), (0x26a1, 0x26a1),
  (0x26aa, 0x26ab), (0x26bd, 0x26be), (0x26c4, 0x26c5), (0x26ce, 0x26ce), (0x26d4, 0x26d4),
  (0x26ea, 0x26ea), (0x26f2, 0x26f3), (0x26f5, 0x26f5), (0x26fa, 0x26fa), (0x26fd, 0x26fd),
  (0x2705, 0x2705), (0x270a, 0x270b), (0x2728, 0x2728), (0x274c, 0x274c), (0x274e, 0x274e),
  (0x2753, 0x2755), (0x2757, 0x2757), (0x2795, 0x2797), (0x27b0, 0x27b0), (0x27bf, 0x27bf),
  (0x2b1b, 0x2b1c), (0x2b50, 0x2b50), (0x2b55, 0x2b55), (0x1f004, 0x1f004), (0x1f30d, 0x1f30f),
  (0x1f315, 0x1f315), (0x1f31c, 0x1f31c), (0x1f378, 0x1f378), (0x1f393, 0x1f393),
  (0x1f3a7, 0x1f3a7), (0x1f3ac, 0x1f3ae), (0x1f3c2, 0x1f3c2), (0x1f3c4, 0x1f3c4),
  (0x1f3c6, 0x1f3c6), (0x1f3ca, 0x1f3ca), (0x1f3e0, 0x1f3e0), (0x1f3ed, 0x1f3ed),
  (0x1f408, 0x1f408), (0x1f415, 0x1f415), (0x1f41f, 0x1f41f), (0x1f426, 0x1f426),
  (0x1f442, 0x1f442), (0x1f446, 0x1f449), (0x1f44d, 0x1f44e), (0x1f453, 0x1f453),
  (0x1f46a, 0x1f46a), (0x1f47d, 0x1f47d), (0x1f4a3, 0x1f4a3), (0x1f4b0, 0x1f4b0),
  (0x1f4b3, 0x1f4b3), (0x1f4bb, 0x1f4bb), (0x1f4bf, 0x1f4bf), (0x1f4cb, 0x1f4cb),
  (0x1f4da, 0x1f4da), (0x1f4df, 0x1f4df), (0x1f4e4, 0x1f4e6), (0x1f4ea, 0x1f4ed),
  (0x1f4f7, 0x1f4f7), (0x1f4f9, 0x1f4fb), (0x1f508, 0x1f508), (0x1f50d, 0x1f50d),
  (0x1f512, 0x1f513), (0x1f550, 0x1f567), (0x1f610, 0x1f610), (0x1f687, 0x1f687),
  (0x1f68d, 0x1f68d), (0x1f691, 0x1f691), (0x1f694, 0x1f694), (0x1f698, 0x1f698),
  (0x1f6ad, 0x1f6ad), (0x1f6b2, 0x1f6b2), (0x1f6b9, 0x1f6ba), (0x1f6bc, 0x1f6bc)]

/-- Code points with the property `Emoji_Modifier_Base`. -/
def modifierBases : Ranges := [
  (0x261d, 0x261d), (0x26f9, 0x26f9), (0x270a, 0x270d), (0x1f385, 0x1f385), (0x1f3c2, 0x1f3c4),
  (0x1f3c7, 0x1f3c7), (0x1f3ca, 0x1f3cc), (0x1f442, 0x1f443), (0x1f446, 0x1f450),
  (0x1f466, 0x1f478), (0x1f47c, 0x1f47c), (0x1f481, 0x1f483), (0x1f485, 0x1f487),
  (0x1f48f, 0x1f48f), (0x1f491, 0x1f491), (0x1f4aa, 0x1f4aa), (0x1f574, 0x1f575),
  (0x1f57a, 0x1f57a), (0x1f590, 0x1f590), (0x1f595, 0x1f596), (0x1f645, 0x1f647),
  (0x1f64b, 0x1f64f), (0x1f6a3, 0x1f6a3), (0x1f6b4, 0x1f6b6), (0x1f6c0, 0x1f6c0),
  (0x1f6cc, 0x1f6cc), (0x1f90c, 0x1f90c), (0x1f90f, 0x1f90f), (0x1f918, 0x1f91f),
  (0x1f926, 0x1f926), (0x1f930, 0x1f939), (0x1f93c, 0x1f93e), (0x1f977, 0x1f977),
  (0x1f9b5, 0x1f9b6), (0x1f9b8, 0x1f9b9), (0x1f9bb, 0x1f9bb), (0x1f9cd, 0x1f9cf),
  (0x1f9d1, 0x1f9dd), (0x1fac3, 0x1fac5), (0x1faf0, 0x1faf8)]

/-- Hidden code points whose joining type is not `Transparent`. -/
def joinOpaque : Ranges := [
  (0x0605, 0x0605), (0x0890, 0x0891), (0x08e2, 0x08e2), (0x09be, 0x09be), (0x09d7, 0x09d7),
  (0x0b3e, 0x0b3e), (0x0b57, 0x0b57), (0x0bbe, 0x0bbe), (0x0bd7, 0x0bd7), (0x0cc0, 0x0cc0),
  (0x0cc2, 0x0cc2), (0x0cc7, 0x0cc8), (0x0cca, 0x0ccb), (0x0cd5, 0x0cd6), (0x0d3e, 0x0d3e),
  (0x0d4e, 0x0d4e), (0x0d57, 0x0d57), (0x0dcf, 0x0dcf), (0x0ddf, 0x0ddf), (0x1160, 0x11ff),
  (0x1715, 0x1715), (0x1734, 0x1734), (0x180e, 0x180e), (0x1b35, 0x1b35), (0x1b3b, 0x1b3b),
  (0x1b3d, 0x1b3d), (0x1b43, 0x1b44), (0x1baa, 0x1baa), (0x1bf2, 0x1bf3), (0x200c, 0x200d),
  (0x2065, 0x2069), (0x302e, 0x302f), (0x3164, 0x3164), (0xa8fa, 0xa8fa), (0xa953, 0xa953),
  (0xa9c0, 0xa9c0), (0xd7b0, 0xd7c6), (0xd7cb, 0xd7fb), (0xff9e, 0xffa0), (0xfff0, 0xfff8),
  (0x111c0, 0x111c0), (0x111c2, 0x111c3), (0x11235, 0x11235), (0x1133e, 0x1133e),
  (0x1134d, 0x1134d), (0x11357, 0x11357), (0x113b8, 0x113b8), (0x113c2, 0x113c2),
  (0x113c5, 0x113c5), (0x113c7, 0x113c9), (0x113cf, 0x113cf), (0x113d1, 0x113d1),
  (0x114b0, 0x114b0), (0x114bd, 0x114bd), (0x115af, 0x115af), (0x116b6, 0x116b6),
  (0x11930, 0x11930), (0x1193d, 0x1193d), (0x1193f, 0x1193f), (0x11941, 0x11941),
  (0x11a3a, 0x11a3a), (0x11a84, 0x11a89), (0x11d46, 0x11d46), (0x11f02, 0x11f02),
  (0x11f41, 0x11f41), (0x16ff0, 0x16ff1), (0x1d165, 0x1d166), (0x1d16d, 0x1d172),
  (0xe0000, 0xe0000), (0xe0002, 0xe001f), (0xe0080, 0xe00ff), (0xe01f0, 0xe0fff)]

/-- Whether the character takes two columns on its own. -/
def isWide (c : Char) : Bool := wide.contains c

/-- Whether the character takes no column on its own. The Tifinagh joiner is shown where it joins
nothing, although it extends the character before it. -/
def isHidden (c : Char) : Bool :=
  (isExtending c && c != '\u2d7f') || hiddenOthers.contains c

/-- Whether the character is shown as an emoji by default. -/
def isEmoji (c : Char) : Bool := emoji.contains c

/-- Whether the emoji variation selector makes an emoji of the character. -/
def hasEmojiForm (c : Char) : Bool := emojiVariants.contains c

/-- Whether the text variation selector narrows the character to one column. -/
def hasTextForm (c : Char) : Bool := textVariants.contains c

/-- Whether the character can carry a skin tone. -/
def isModifierBase (c : Char) : Bool := modifierBases.contains c

/-- Whether the character leaves the joining of the Arabic letters around it as it is. -/
def isJoinTransparent (c : Char) : Bool := isHidden c && !joinOpaque.contains c

/-- Whether the character is a mark that leaves the ligature around it as it is. -/
def isLigatureTransparent (c : Char) : Bool :=
  Ranges.contains [(0x034f, 0x034f), (0x17b4, 0x17b5), (0x180b, 0x180d), (0x180f, 0x180f),
    (0xfe00, 0xfe0f), (0xe0100, 0xe01ef)] c

end RolloutTree.Text.Width
