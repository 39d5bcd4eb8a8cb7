import SqlTemplate.Pattern.Property.Trait

/-!
# Breaks between graphemes

What readers take for one character, a **grapheme**, may be written with several code points. Where
it ends depends on the classes of the code points, and each code point is in one class at most.
`GraphemeBreak.all` lists the classes with their names.
-/

namespace SqlTemplate.GraphemeBreak

open Text

def carriageReturn : RangeTable := [(0xd, 0xd)]

def lineFeed : RangeTable := [(0xa, 0xa)]

/-- The character that joins its neighbours into one grapheme. -/
def joiner : RangeTable := [(0x200d, 0x200d)]

/-- Characters that belong to the grapheme before them. -/
def extend : RangeTable := Trait.graphemeExtend ++ Trait.emojiModifier

/-- Letters that belong to the grapheme after them. -/
def prefixedLetter : RangeTable :=
  [(0xd4e, 0xd4e), (0x111c2, 0x111c3), (0x113d1, 0x113d1), (0x1193f, 0x1193f), (0x11941, 0x11941),
   (0x11a3a, 0x11a3a), (0x11a84, 0x11a89), (0x11d46, 0x11d46), (0x11f02, 0x11f02)]

/-- Characters that belong to the grapheme after them. -/
def prepend : RangeTable := Trait.prependedConcatenationMark ++ prefixedLetter

/-- Characters that steer the layout and are a grapheme by themselves, and code points that are kept
for more of them. -/
def control : RangeTable :=
  Trait.less
    (Category.control ++ Category.format ++ Category.lineSeparator ++ Category.paragraphSeparator ++
      Trait.less Trait.defaultIgnorableCodePoint Category.assigned)
    (carriageReturn ++ lineFeed ++ joiner ++ Trait.graphemeExtend ++
      Trait.prependedConcatenationMark)

/-- Spacing marks that are a grapheme by themselves. -/
def freeSpacingMark : RangeTable :=
  [(0x102b, 0x102c), (0x1038, 0x1038), (0x1062, 0x1064), (0x1067, 0x106d), (0x1083, 0x1083),
   (0x1087, 0x108c), (0x108f, 0x108f), (0x109a, 0x109c), (0x1a61, 0x1a61), (0x1a63, 0x1a64),
   (0xaa7b, 0xaa7b), (0xaa7d, 0xaa7d), (0x11720, 0x11721)]

/-- Marks that take room and belong to the grapheme before them, and two vowel signs that do so. -/
def spacingMark : RangeTable :=
  Trait.less Category.spacingMark (Trait.graphemeExtend ++ freeSpacingMark) ++
    [(0xe33, 0xe33), (0xeb3, 0xeb3)]

/-! ## Letters that make up syllables -/

def leading : RangeTable :=
  [(0x1100, 0x115f), (0xa960, 0xa97c)]

def vowel : RangeTable :=
  [(0x1160, 0x11a7), (0xd7b0, 0xd7c6), (0x16d63, 0x16d63), (0x16d67, 0x16d6a)]

def trailing : RangeTable :=
  [(0x11a8, 0x11ff), (0xd7cb, 0xd7fb)]

/-- The syllables of Hangul; each 28th of them has no trailing letter. -/
def syllable : RangeTable := [(0xac00, 0xd7a3)]

def leadingVowel : RangeTable :=
  (List.range 399).map fun i => (0xac00 + 28 * i, 0xac00 + 28 * i)

def leadingVowelTrailing : RangeTable := Trait.less syllable leadingVowel

/-! ## Names -/

/-- The classes with their names. -/
def all : List Property :=
  [⟨["cr"], carriageReturn⟩, ⟨["lf"], lineFeed⟩, ⟨["cn", "control"], control⟩,
   ⟨["ex", "extend"], extend⟩, ⟨["pp", "prepend"], prepend⟩, ⟨["sm", "spacingmark"], spacingMark⟩,
   ⟨["l"], leading⟩, ⟨["v"], vowel⟩, ⟨["t"], trailing⟩, ⟨["lv"], leadingVowel⟩,
   ⟨["lvt"], leadingVowelTrailing⟩, ⟨["ri", "regionalindicator"], Trait.regionalIndicator⟩,
   ⟨["zwj"], joiner⟩]

end SqlTemplate.GraphemeBreak
