import RecordRules.Text.Property
import RecordRules.Text.Script

/-!
# Where text may be cut

The values of the properties by which the Unicode standard, edition 16, divides a text
into what a reader takes for characters, words and sentences.
-/

namespace RecordRules

namespace CharSet

/-- The pictures that change the colour of the one before. -/
def emojiModifiers : CharSet :=
  ListedProperty.emojiModifier.set

end CharSet

/-- The part of a character in what a reader takes for one. -/
inductive GraphemeBreak where
  | carriageReturn
  | lineFeed
  | control
  | extend
  | joiner
  | regionalIndicator
  | prepend
  | spacingMark
  | leadingJamo
  | vowelJamo
  | trailingJamo
  | openSyllable
  | closedSyllable
deriving DecidableEq, Repr

namespace GraphemeBreak

/-- The characters with a part. -/
def set : GraphemeBreak → CharSet
  | carriageReturn => .single '\r'
  | lineFeed => .single '\n'
  | control =>
    let reserved := Category.unassigned.set.inter .defaultIgnorable
    let controls := reserved.union
      (Category.setOf [.lineSeparator, .paragraphSeparator, .control, .format])
    let visible := CharSet.graphemeExtend.union ListedProperty.prependedConcatenationMark.set
    (controls.diff visible).withoutCodes
      [(0xa, 0xa), (0xd, 0xd), (0x200d, 0x200d)]
  | extend => CharSet.graphemeExtend.union .emojiModifiers
  | joiner => .single '\u200d'
  | regionalIndicator => ListedProperty.regionalIndicator.set
  | prepend => .ofRanges [
    (0x600, 0x605), (0x6dd, 0x6dd), (0x70f, 0x70f), (0x890, 0x891), (0x8e2, 0x8e2), (0xd4e, 0xd4e),
    (0x110bd, 0x110bd), (0x110cd, 0x110cd), (0x111c2, 0x111c3), (0x113d1, 0x113d1),
    (0x1193f, 0x1193f), (0x11941, 0x11941), (0x11a3a, 0x11a3a), (0x11a84, 0x11a89),
    (0x11d46, 0x11d46), (0x11f02, 0x11f02)]
  | spacingMark =>
    ((Category.spacingMark.set.withCodes [(0xe33, 0xe33), (0xeb3, 0xeb3)]).diff
      .graphemeExtend).withoutCodes [
      (0x102b, 0x102c), (0x1038, 0x1038), (0x1062, 0x1064), (0x1067, 0x106d), (0x1083, 0x1083),
      (0x1087, 0x108c), (0x108f, 0x108f), (0x109a, 0x109c), (0x1a61, 0x1a61), (0x1a63, 0x1a64),
      (0xaa7b, 0xaa7b), (0xaa7d, 0xaa7d), (0x11720, 0x11721)]
  | leadingJamo => .ofRanges [(0x1100, 0x115f), (0xa960, 0xa97c)]
  | vowelJamo =>
    .ofRanges [(0x1160, 0x11a7), (0xd7b0, 0xd7c6), (0x16d63, 0x16d63), (0x16d67, 0x16d6a)]
  | trailingJamo => .ofRanges [(0x11a8, 0x11ff), (0xd7cb, 0xd7fb)]
  | openSyllable => .ofRanges (CodeRows.rowRanges 0xac00 0xd788 28)
  | closedSyllable =>
    (CharSet.range '\uac00' '\ud7a3').withoutCodes (CodeRows.rowRanges 0xac00 0xd788 28)

/-- The part under a name or a short name, without capitals and separators. -/
def named? : String → Option GraphemeBreak
  | "cr" => some carriageReturn
  | "lf" => some lineFeed
  | "cn" | "control" => some control
  | "ex" | "extend" => some extend
  | "zwj" => some joiner
  | "ri" | "regionalindicator" => some regionalIndicator
  | "pp" | "prepend" => some prepend
  | "sm" | "spacingmark" => some spacingMark
  | "l" => some leadingJamo
  | "v" => some vowelJamo
  | "t" => some trailingJamo
  | "lv" => some openSyllable
  | "lvt" => some closedSyllable
  | _ => none

end GraphemeBreak

/-- The part of a character in a word. -/
inductive WordBreak where
  | carriageReturn
  | lineFeed
  | newline
  | extend
  | joiner
  | format
  | regionalIndicator
  | katakana
  | hebrewLetter
  | letter
  | singleQuote
  | doubleQuote
  | midNumLet
  | midLetter
  | midNum
  | numeric
  | connector
  | blank
deriving DecidableEq, Repr

namespace WordBreak

/-- The alphabetic characters of scripts that need a dictionary to find words. -/
def complexLetters : CodeRanges := [
  (0xe01, 0xe30), (0xe32, 0xe33), (0xe40, 0xe46), (0xe81, 0xe82), (0xe84, 0xe84), (0xe86, 0xe8a),
  (0xe8c, 0xea3), (0xea5, 0xea5), (0xea7, 0xeb0), (0xeb2, 0xeb3), (0xebd, 0xebd), (0xec0, 0xec4),
  (0xec6, 0xec6), (0xedc, 0xedf), (0x1000, 0x102a), (0x103f, 0x103f), (0x1050, 0x1055),
  (0x105a, 0x105d), (0x1061, 0x1061), (0x1065, 0x1066), (0x106e, 0x1070), (0x1075, 0x1081),
  (0x108e, 0x108e), (0x1780, 0x17b3), (0x17d7, 0x17d7), (0x17dc, 0x17dc), (0x1950, 0x196d),
  (0x1970, 0x1974), (0x1980, 0x19ab), (0x19b0, 0x19c9), (0x1a20, 0x1a54), (0x1aa7, 0x1aa7),
  (0x3041, 0x3096), (0x309d, 0x309f), (0xa9e0, 0xa9e4), (0xa9e6, 0xa9ef), (0xa9fa, 0xa9fe),
  (0xaa60, 0xaa76), (0xaa7a, 0xaa7a), (0xaa7e, 0xaaaf), (0xaab1, 0xaab1), (0xaab5, 0xaab6),
  (0xaab9, 0xaabd), (0xaac0, 0xaac0), (0xaac2, 0xaac2), (0xaadb, 0xaadd), (0x11700, 0x1171a),
  (0x11740, 0x11746), (0x1b001, 0x1b11f), (0x1b132, 0x1b132), (0x1b150, 0x1b152)]

/-- The symbols and marks that stand among letters. -/
def letterLike : CodeRanges := [
  (0x2c2, 0x2c5), (0x2d2, 0x2d7), (0x2de, 0x2df), (0x2e5, 0x2eb), (0x2ed, 0x2ed), (0x2ef, 0x2ff),
  (0x55a, 0x55c), (0x55e, 0x55e), (0x58a, 0x58a), (0x5f3, 0x5f3), (0x70f, 0x70f), (0xa708, 0xa716),
  (0xa720, 0xa721), (0xa789, 0xa78a), (0xab5b, 0xab5b)]

/-- The marks that continue a word. -/
def extending : CharSet :=
  .unions [.graphemeExtend, Category.spacingMark.set, .emojiModifiers]

/-- The Katakana and the marks used with them. -/
def katakanaSet : CharSet :=
  .ofRanges [
    (0x3031, 0x3035), (0x309b, 0x309c), (0x30a0, 0x30fa), (0x30fc, 0x30ff), (0x31f0, 0x31ff),
    (0x32d0, 0x32fe), (0x3300, 0x3357), (0xff66, 0xff9d), (0x1aff0, 0x1aff3), (0x1aff5, 0x1affb),
    (0x1affd, 0x1affe), (0x1b000, 0x1b000), (0x1b120, 0x1b122), (0x1b155, 0x1b155),
    (0x1b164, 0x1b167)]

/-- The letters of the Hebrew alphabet. -/
def hebrewLetters : CharSet :=
  ((Script.named? "hebr").map Script.set |>.getD .empty).inter Category.otherLetter.set

/-- The digits and the signs within numbers. -/
def numerals : CharSet :=
  CharSet.digits.withCodes [
    (0x600, 0x605), (0x66b, 0x66b), (0x6dd, 0x6dd), (0x890, 0x891), (0x8e2, 0x8e2),
    (0x19da, 0x19da), (0x110bd, 0x110bd), (0x110cd, 0x110cd)]

/-- The characters with a part. -/
def set : WordBreak → CharSet
  | carriageReturn => .single '\r'
  | lineFeed => .single '\n'
  | newline => .ofRanges [(0xb, 0xc), (0x85, 0x85), (0x2028, 0x2029)]
  | extend => extending
  | joiner => .single '\u200d'
  | format => .ofRanges [
    (0xad, 0xad), (0x61c, 0x61c), (0x180e, 0x180e), (0x200e, 0x200f), (0x202a, 0x202e),
    (0x2060, 0x2064), (0x2066, 0x206f), (0xfeff, 0xfeff), (0xfff9, 0xfffb), (0x13430, 0x1343f),
    (0x1bca0, 0x1bca3), (0x1d173, 0x1d17a), (0xe0001, 0xe0001)]
  | regionalIndicator => ListedProperty.regionalIndicator.set
  | katakana => katakanaSet
  | hebrewLetter => hebrewLetters
  | letter =>
    let others := CharSet.unions [extending, ListedProperty.ideographic.set, katakanaSet,
      hebrewLetters]
    ((CharSet.alphabetic.diff others).withoutCodes complexLetters).withCodes letterLike
  | singleQuote => .single '\''
  | doubleQuote => .single '"'
  | midNumLet => .ofRanges [
    (0x2e, 0x2e), (0x2018, 0x2019), (0x2024, 0x2024), (0xfe52, 0xfe52), (0xff07, 0xff07),
    (0xff0e, 0xff0e)]
  | midLetter => .ofRanges [
    (0x3a, 0x3a), (0xb7, 0xb7), (0x387, 0x387), (0x55f, 0x55f), (0x5f4, 0x5f4), (0x2027, 0x2027),
    (0xfe13, 0xfe13), (0xfe55, 0xfe55), (0xff1a, 0xff1a)]
  | midNum => .ofRanges [
    (0x2c, 0x2c), (0x3b, 0x3b), (0x37e, 0x37e), (0x589, 0x589), (0x60c, 0x60d), (0x66c, 0x66c),
    (0x7f8, 0x7f8), (0x2044, 0x2044), (0xfe50, 0xfe50), (0xfe54, 0xfe54), (0xff0c, 0xff0c),
    (0xff1b, 0xff1b)]
  | numeric => numerals
  | connector => .ofRanges [
    (0x5f, 0x5f), (0x202f, 0x202f), (0x203f, 0x2040), (0x2054, 0x2054), (0xfe33, 0xfe34),
    (0xfe4d, 0xfe4f), (0xff3f, 0xff3f)]
  | blank => .ofRanges [
    (0x20, 0x20), (0x1680, 0x1680), (0x2000, 0x2006), (0x2008, 0x200a), (0x205f, 0x205f),
    (0x3000, 0x3000)]

/-- The part under a name or a short name, without capitals and separators. -/
def named? : String → Option WordBreak
  | "cr" => some carriageReturn
  | "lf" => some lineFeed
  | "nl" | "newline" => some newline
  | "extend" => some extend
  | "zwj" => some joiner
  | "fo" | "format" => some format
  | "ri" | "regionalindicator" => some regionalIndicator
  | "ka" | "katakana" => some katakana
  | "hl" | "hebrewletter" => some hebrewLetter
  | "le" | "aletter" => some letter
  | "sq" | "singlequote" => some singleQuote
  | "dq" | "doublequote" => some doubleQuote
  | "mb" | "midnumlet" => some midNumLet
  | "ml" | "midletter" => some midLetter
  | "mn" | "midnum" => some midNum
  | "nu" | "numeric" => some numeric
  | "ex" | "extendnumlet" => some connector
  | "wsegspace" => some blank
  | _ => none

end WordBreak

/-- The part of a character in a sentence. -/
inductive SentenceBreak where
  | carriageReturn
  | lineFeed
  | separator
  | extend
  | format
  | blank
  | lower
  | upper
  | letter
  | numeric
  | fullStop
  | continues
  | terminal
  | closing
deriving DecidableEq, Repr

namespace SentenceBreak

/-- The marks that continue a character, the joiner among them. -/
def extending : CharSet :=
  .unions [.graphemeExtend, Category.spacingMark.set, .single '\u200d']

/-- The small letters of scripts in which sentences start with capitals. -/
def smallLetters : CharSet :=
  (CharSet.lowercase.diff .graphemeExtend).withoutCodes [(0x10d0, 0x10fa), (0x10fd, 0x10ff)]

/-- The capitals of scripts in which sentences start with them. -/
def capitals : CharSet :=
  (CharSet.uppercase.union Category.titlecaseLetter.set).withoutCodes
    [(0x1c90, 0x1cba), (0x1cbd, 0x1cbf)]

/-- The full stops, which need not end a sentence. -/
def fullStops : CharSet :=
  .ofRanges [
    (0x2e, 0x2e), (0x2024, 0x2024), (0xfe52, 0xfe52), (0xff0e, 0xff0e)]

/-- The characters with a part. -/
def set : SentenceBreak → CharSet
  | carriageReturn => .single '\r'
  | lineFeed => .single '\n'
  | separator => .ofRanges [(0x85, 0x85), (0x2028, 0x2029)]
  | extend => extending
  | format => .ofRanges [
    (0xad, 0xad), (0x61c, 0x61c), (0x70f, 0x70f), (0x180e, 0x180e), (0x200b, 0x200b),
    (0x200e, 0x200f), (0x202a, 0x202e), (0x2060, 0x2064), (0x2066, 0x206f), (0xfeff, 0xfeff),
    (0xfff9, 0xfffb), (0x13430, 0x1343f), (0x1bca0, 0x1bca3), (0x1d173, 0x1d17a),
    (0xe0001, 0xe0001)]
  | blank => CharSet.blanks.withoutCodes [(0xa, 0xa), (0xd, 0xd), (0x85, 0x85), (0x2028, 0x2029)]
  | lower => smallLetters
  | upper => capitals
  | letter =>
    (CharSet.alphabetic.diff (.unions [extending, smallLetters, capitals])).withCodes
      [(0x5f3, 0x5f3)]
  | numeric => WordBreak.numerals.withCodes [(0x66c, 0x66c)]
  | fullStop => fullStops
  | continues => .ofRanges [
    (0x2c, 0x2d), (0x3a, 0x3b), (0x37e, 0x37e), (0x55d, 0x55d), (0x60c, 0x60d), (0x7f8, 0x7f8),
    (0x1802, 0x1802), (0x1808, 0x1808), (0x2013, 0x2014), (0x3001, 0x3001), (0xfe10, 0xfe11),
    (0xfe13, 0xfe14), (0xfe31, 0xfe32), (0xfe50, 0xfe51), (0xfe54, 0xfe55), (0xfe58, 0xfe58),
    (0xfe63, 0xfe63), (0xff0c, 0xff0d), (0xff1a, 0xff1b), (0xff64, 0xff64)]
  | terminal => ListedProperty.sentenceTerminal.set.diff fullStops
  | closing =>
    let brackets := Category.setOf
      [.openPunctuation, .closePunctuation, .initialPunctuation, .finalPunctuation]
    let candidates := brackets.union ListedProperty.quotationMark.set
    (candidates.withoutCodes [(0xff02, 0xff02), (0xff07, 0xff07)]).withCodes
      [
      (0x275b, 0x2760), (0x2e00, 0x2e01), (0x2e06, 0x2e08), (0x2e0b, 0x2e0b), (0x1f676, 0x1f678)]

/-- The part under a name or a short name, without capitals and separators. -/
def named? : String → Option SentenceBreak
  | "cr" => some carriageReturn
  | "lf" => some lineFeed
  | "se" | "sep" => some separator
  | "ex" | "extend" => some extend
  | "fo" | "format" => some format
  | "sp" => some blank
  | "lo" | "lower" => some lower
  | "up" | "upper" => some upper
  | "le" | "oletter" => some letter
  | "nu" | "numeric" => some numeric
  | "at" | "aterm" => some fullStop
  | "sc" | "scontinue" => some continues
  | "st" | "sterm" => some terminal
  | "cl" | "close" => some closing
  | _ => none

end SentenceBreak

end RecordRules
