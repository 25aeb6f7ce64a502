/-
ScriptLexer/Text/Syllable.lean

Characters that make up a syllable together.

A Korean syllable is written as one character or in parts: leading consonants,
then vowels, then trailing consonants.  In Indic scripts a consonant joins the one
before it when a linker (a virama that shows no vowel follows) stands between
them, with marks allowed about the linker.
-/
import ScriptLexer.Text.Joining

namespace ScriptLexer

/-! ### Korean syllables -/

/-- Leading consonants. -/
def leadingParts : CodeSet := [(0x1100, 0x115f), (0xa960, 0xa97c)]

/-- Vowels. -/
def vowelParts : CodeSet :=
  [(0x1160, 0x11a7), (0xd7b0, 0xd7c6), (0x16d63, 0x16d63), (0x16d67, 0x16d6a)]

/-- Trailing consonants. -/
def trailingParts : CodeSet := [(0x11a8, 0x11ff), (0xd7cb, 0xd7fb)]

/-- Whole syllables.  They come in rows of 28, of which the first has no trailing
consonant. -/
def wholeSyllables : CodeSet := [(0xac00, 0xd7a3)]

/-- Whether a character is a syllable without a trailing consonant. -/
def isOpenSyllable (c : Char) : Bool :=
  wholeSyllables.contains c && (c.toNat - 0xac00) % 28 == 0

/-- Whether a character is a syllable with a trailing consonant. -/
def isClosedSyllable (c : Char) : Bool :=
  wholeSyllables.contains c && (c.toNat - 0xac00) % 28 != 0

/-- Whether two characters side by side belong to one Korean syllable. -/
def sharesSyllable (before c : Char) : Bool :=
  (leadingParts.contains before
    && (leadingParts.contains c || vowelParts.contains c || wholeSyllables.contains c))
  || ((vowelParts.contains before || isOpenSyllable before)
    && (vowelParts.contains c || trailingParts.contains c))
  || ((trailingParts.contains before || isClosedSyllable before) && trailingParts.contains c)

/-! ### Indic conjuncts -/

/-- Consonants that a linker joins. -/
def linkedConsonants : CodeSet :=
  [(0x915, 0x939), (0x958, 0x95f), (0x978, 0x97f), (0x995, 0x9a8), (0x9aa, 0x9b0),
   (0x9b2, 0x9b2), (0x9b6, 0x9b9), (0x9dc, 0x9dd), (0x9df, 0x9df), (0x9f0, 0x9f1),
   (0xa95, 0xaa8), (0xaaa, 0xab0), (0xab2, 0xab3), (0xab5, 0xab9), (0xaf9, 0xaf9),
   (0xb15, 0xb28), (0xb2a, 0xb30), (0xb32, 0xb33), (0xb35, 0xb39), (0xb5c, 0xb5d),
   (0xb5f, 0xb5f), (0xb71, 0xb71), (0xc15, 0xc28), (0xc2a, 0xc39), (0xc58, 0xc5a),
   (0xd15, 0xd3a), (0x1000, 0x102a), (0x103f, 0x103f), (0x1050, 0x1055), (0x105a, 0x105d),
   (0x1061, 0x1061), (0x1065, 0x1066), (0x106e, 0x1070), (0x1075, 0x1081), (0x108e, 0x108e),
   (0x1780, 0x17b3), (0x1a20, 0x1a54), (0x1b0b, 0x1b0c), (0x1b13, 0x1b33), (0x1b45, 0x1b4c),
   (0x1b83, 0x1ba0), (0x1bae, 0x1baf), (0x1bbb, 0x1bbd), (0xa989, 0xa98b), (0xa98f, 0xa9b2),
   (0xa9e0, 0xa9e4), (0xa9e7, 0xa9ef), (0xa9fa, 0xa9fe), (0xaa60, 0xaa6f), (0xaa71, 0xaa73),
   (0xaa7a, 0xaa7a), (0xaa7e, 0xaa7f), (0xaae0, 0xaaea), (0xabc0, 0xabda), (0x10a00, 0x10a00),
   (0x10a10, 0x10a13), (0x10a15, 0x10a17), (0x10a19, 0x10a35), (0x11103, 0x11126),
   (0x11144, 0x11144), (0x11147, 0x11147), (0x11380, 0x11389), (0x1138b, 0x1138b),
   (0x1138e, 0x1138e), (0x11390, 0x113b5), (0x11900, 0x11906), (0x11909, 0x11909),
   (0x1190c, 0x11913), (0x11915, 0x11916), (0x11918, 0x1192f), (0x11a00, 0x11a00),
   (0x11a0b, 0x11a32), (0x11a50, 0x11a50), (0x11a5c, 0x11a83), (0x11f04, 0x11f10),
   (0x11f12, 0x11f33)]

/-- Linkers. -/
def linkers : CodeSet :=
  [(0x94d, 0x94d), (0x9cd, 0x9cd), (0xacd, 0xacd), (0xb4d, 0xb4d), (0xc4d, 0xc4d),
   (0xd4d, 0xd4d), (0x1039, 0x1039), (0x17d2, 0x17d2), (0x1a60, 0x1a60), (0x1b44, 0x1b44),
   (0x1bab, 0x1bab), (0xa9c0, 0xa9c0), (0xaaf6, 0xaaf6), (0x10a3f, 0x10a3f), (0x11133, 0x11133),
   (0x113d0, 0x113d0), (0x1193e, 0x1193e), (0x11a47, 0x11a47), (0x11a99, 0x11a99),
   (0x11f42, 0x11f42)]

/-- Whether a character may stand between the consonants of a conjunct. -/
def isInConjunct (c : Char) : Bool :=
  c == zeroWidthJoiner || (c != zeroWidthNonJoiner && extenders.contains c)

/-- Whether a consonant is linked to the text before it, the latest character
first. -/
def isLinked (before : List Char) (c : Char) : Bool :=
  linkedConsonants.contains c
    && (before.takeWhile isInConjunct).any linkers.contains
    && (before.dropWhile isInConjunct).head?.any linkedConsonants.contains

end ScriptLexer
