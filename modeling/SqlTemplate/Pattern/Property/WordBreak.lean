import SqlTemplate.Pattern.Property.GraphemeBreak
import SqlTemplate.Pattern.Property.Script

/-!
# Breaks between words

Where a word of a text ends depends on the classes of its characters, and each character is in one
class at most. `WordBreak.all` lists the classes with their names.
-/

namespace SqlTemplate.WordBreak

open Text

/-- Characters that end a line, but for the carriage return and the line feed. -/
def newline : RangeTable := [(0xb, 0xc), (0x85, 0x85), (0x2028, 0x2029)]

/-- Characters that belong to what is before them. -/
def extend : RangeTable := GraphemeBreak.extend ++ Category.spacingMark

/-- Characters that steer the layout and are passed over; two of them part words or join them. -/
def format : RangeTable :=
  Trait.less Category.format
    ([(0x200b, 0x200b)] ++ GraphemeBreak.joiner ++ Trait.graphemeExtend ++ GraphemeBreak.prepend)

/-! ## Letters -/

/-- The letters of Katakana, and the signs that stand beside them in words. -/
def katakana : RangeTable :=
  Script.katakana ++
    [(0x3031, 0x3035), (0x309b, 0x309c), (0x30a0, 0x30a0), (0x30fc, 0x30fc), (0xff70, 0xff70)]

def hebrewLetter : RangeTable :=
  [(0x5d0, 0x5ea), (0x5ef, 0x5f2), (0xfb1d, 0xfb1d), (0xfb1f, 0xfb28), (0xfb2a, 0xfb36),
   (0xfb38, 0xfb3c), (0xfb3e, 0xfb3e), (0xfb40, 0xfb41), (0xfb43, 0xfb44), (0xfb46, 0xfb4f)]

/-- Signs that count as letters inside of words. -/
def letterSign : RangeTable :=
  [(0xb8, 0xb8), (0x2c2, 0x2c5), (0x2d2, 0x2d7), (0x2de, 0x2df), (0x2e5, 0x2eb), (0x2ed, 0x2ed),
   (0x2ef, 0x2ff), (0x55a, 0x55c), (0x55e, 0x55e), (0x58a, 0x58a), (0x5f3, 0x5f3), (0x70f, 0x70f),
   (0xa708, 0xa716), (0xa720, 0xa721), (0xa789, 0xa78a), (0xab5b, 0xab5b)]

/-- Letters of scripts in which words are written without blanks between them. -/
def unspacedLetter : RangeTable :=
  [(0xe01, 0xe30), (0xe32, 0xe33), (0xe40, 0xe46), (0xe81, 0xe82), (0xe84, 0xe84), (0xe86, 0xe8a),
   (0xe8c, 0xea3), (0xea5, 0xea5), (0xea7, 0xeb0), (0xeb2, 0xeb3), (0xebd, 0xebd), (0xec0, 0xec4),
   (0xec6, 0xec6), (0xedc, 0xedf), (0x1000, 0x102a), (0x103f, 0x103f), (0x1050, 0x1055),
   (0x105a, 0x105d), (0x1061, 0x1061), (0x1065, 0x1066), (0x106e, 0x1070), (0x1075, 0x1081),
   (0x108e, 0x108e), (0x1780, 0x17b3), (0x17d7, 0x17d7), (0x17dc, 0x17dc), (0x1950, 0x196d),
   (0x1970, 0x1974), (0x1980, 0x19ab), (0x19b0, 0x19c9), (0x1a20, 0x1a54), (0x1aa7, 0x1aa7),
   (0xa9e0, 0xa9e4), (0xa9e6, 0xa9ef), (0xa9fa, 0xa9fe), (0xaa60, 0xaa76), (0xaa7a, 0xaa7a),
   (0xaa7e, 0xaaaf), (0xaab1, 0xaab1), (0xaab5, 0xaab6), (0xaab9, 0xaabd), (0xaac0, 0xaac0),
   (0xaac2, 0xaac2), (0xaadb, 0xaadd), (0x11700, 0x1171a), (0x11740, 0x11746)]

def letter : RangeTable :=
  letterSign ++
    Trait.less Trait.alphabetic
      (Trait.ideographic ++ katakana ++ Script.hiragana ++ extend ++ hebrewLetter ++
        unspacedLetter)

/-! ## Digits and signs -/

/-- Digits, and the marks that stand before numbers; the decimal point of Arabic is with them. -/
def numeric : RangeTable :=
  Category.decimalNumber ++ [(0x66b, 0x66b), (0x19da, 0x19da)] ++
    Trait.less Trait.prependedConcatenationMark [(0x70f, 0x70f)]

/-- Connecting punctuation, and a narrow blank that connects. -/
def connector : RangeTable := Category.connectorPunctuation ++ [(0x202f, 0x202f)]

/-- Signs that may stand between letters. -/
def midLetter : RangeTable :=
  [(0x3a, 0x3a), (0xb7, 0xb7), (0x387, 0x387), (0x55f, 0x55f), (0x5f4, 0x5f4), (0x2027, 0x2027),
   (0xfe13, 0xfe13), (0xfe55, 0xfe55), (0xff1a, 0xff1a)]

/-- Signs that may stand between digits. -/
def midNumber : RangeTable :=
  [(0x2c, 0x2c), (0x3b, 0x3b), (0x37e, 0x37e), (0x589, 0x589), (0x60c, 0x60d), (0x66c, 0x66c),
   (0x7f8, 0x7f8), (0x2044, 0x2044), (0xfe10, 0xfe10), (0xfe14, 0xfe14), (0xfe50, 0xfe50),
   (0xfe54, 0xfe54), (0xff0c, 0xff0c), (0xff1b, 0xff1b)]

/-- Signs that may stand between letters and between digits. -/
def midNumberOrLetter : RangeTable :=
  [(0x2e, 0x2e), (0x2018, 0x2019), (0x2024, 0x2024), (0xfe52, 0xfe52), (0xff07, 0xff07),
   (0xff0e, 0xff0e)]

/-- Blanks that words may be parted at. -/
def blank : RangeTable :=
  Trait.less Category.spaceSeparator [(0xa0, 0xa0), (0x2007, 0x2007), (0x202f, 0x202f)]

/-! ## Names -/

/-- The classes with their names. -/
def all : List Property :=
  [⟨["cr"], GraphemeBreak.carriageReturn⟩, ⟨["lf"], GraphemeBreak.lineFeed⟩,
   ⟨["nl", "newline"], newline⟩, ⟨["extend"], extend⟩, ⟨["fo", "format"], format⟩,
   ⟨["zwj"], GraphemeBreak.joiner⟩, ⟨["ri", "regionalindicator"], Trait.regionalIndicator⟩,
   ⟨["ka", "katakana"], katakana⟩, ⟨["hl", "hebrewletter"], hebrewLetter⟩,
   ⟨["le", "aletter"], letter⟩, ⟨["nu", "numeric"], numeric⟩,
   ⟨["ex", "extendnumlet"], connector⟩, ⟨["ml", "midletter"], midLetter⟩,
   ⟨["mn", "midnum"], midNumber⟩, ⟨["mb", "midnumlet"], midNumberOrLetter⟩,
   ⟨["sq", "singlequote"], [(0x27, 0x27)]⟩, ⟨["dq", "doublequote"], [(0x22, 0x22)]⟩,
   ⟨["wsegspace"], blank⟩]

end SqlTemplate.WordBreak
