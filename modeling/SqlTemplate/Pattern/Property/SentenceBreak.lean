import SqlTemplate.Pattern.Property.WordBreak

/-!
# Breaks between sentences

Where a sentence of a text ends depends on the classes of its characters, and each character is in
one class at most. `SentenceBreak.all` lists the classes with their names.
-/

namespace SqlTemplate.SentenceBreak

open Text

/-- Characters that end a paragraph, but for the carriage return and the line feed. -/
def separator : RangeTable := [(0x85, 0x85), (0x2028, 0x2029)]

/-- Characters that belong to what is before them. -/
def extend : RangeTable :=
  Trait.graphemeExtend ++ Category.spacingMark ++ GraphemeBreak.joiner

/-- Characters that steer the layout and are passed over. -/
def format : RangeTable :=
  Trait.less Category.format (WordBreak.numeric ++ extend)

def blank : RangeTable :=
  Trait.less Trait.whiteSpace
    (GraphemeBreak.carriageReturn ++ GraphemeBreak.lineFeed ++ separator)

/-! ## Letters and digits -/

/-- Small letters, but for those of Georgian: sentences begin with them, too. -/
def lower : RangeTable :=
  Trait.less Trait.lowercase ([(0x10d0, 0x10fa), (0x10fd, 0x10ff)] ++ Trait.graphemeExtend)

/-- Capital letters, but for those of Georgian: whole words are written in them. -/
def upper : RangeTable :=
  Trait.less (Trait.uppercase ++ Category.titlecaseLetter) [(0x1c90, 0x1cba), (0x1cbd, 0x1cbf)]

/-- Letters that are neither small nor capital, and a sign of numbers in Hebrew. -/
def otherLetter : RangeTable :=
  Trait.less Trait.alphabetic (lower ++ upper ++ extend) ++ [(0x5f3, 0x5f3)]

/-- What is numeric in words, and the sign that groups digits in Arabic. -/
def numeric : RangeTable := WordBreak.numeric ++ [(0x66c, 0x66c)]

/-! ## Signs -/

/-- Full stops, which end an abbreviation or a sentence. -/
def fullStop : RangeTable :=
  [(0x2e, 0x2e), (0x2024, 0x2024), (0xfe52, 0xfe52), (0xff0e, 0xff0e)]

/-- Other signs that end a sentence. -/
def terminal : RangeTable := Trait.less Trait.sentenceTerminal fullStop

/-- Brackets and quotation marks. -/
def close : RangeTable :=
  Category.openPunctuation ++ Category.closePunctuation ++ Category.initialPunctuation ++
    Category.finalPunctuation ++
    [(0x22, 0x22), (0x27, 0x27), (0x275b, 0x2760), (0x2e00, 0x2e01), (0x2e06, 0x2e08),
     (0x2e0b, 0x2e0b), (0x1f676, 0x1f678)]

/-- Signs after which a sentence goes on. -/
def goingOn : RangeTable :=
  [(0x2c, 0x2d), (0x3a, 0x3b), (0x37e, 0x37e), (0x55d, 0x55d), (0x60c, 0x60d), (0x7f8, 0x7f8),
   (0x1802, 0x1802), (0x1808, 0x1808), (0x2013, 0x2014), (0x3001, 0x3001), (0xfe10, 0xfe11),
   (0xfe13, 0xfe14), (0xfe31, 0xfe32), (0xfe50, 0xfe51), (0xfe54, 0xfe55), (0xfe58, 0xfe58),
   (0xfe63, 0xfe63), (0xff0c, 0xff0d), (0xff1a, 0xff1b), (0xff64, 0xff64)]

/-! ## Names -/

/-- The classes with their names. -/
def all : List Property :=
  [⟨["cr"], GraphemeBreak.carriageReturn⟩, ⟨["lf"], GraphemeBreak.lineFeed⟩,
   ⟨["se", "sep"], separator⟩, ⟨["ex", "extend"], extend⟩, ⟨["fo", "format"], format⟩,
   ⟨["sp"], blank⟩, ⟨["lo", "lower"], lower⟩, ⟨["up", "upper"], upper⟩,
   ⟨["le", "oletter"], otherLetter⟩, ⟨["nu", "numeric"], numeric⟩, ⟨["at", "aterm"], fullStop⟩,
   ⟨["st", "sterm"], terminal⟩, ⟨["cl", "close"], close⟩, ⟨["sc", "scontinue"], goingOn⟩]

end SqlTemplate.SentenceBreak
