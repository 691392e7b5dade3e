import CppToPython.Unicode.Ranges

/-! # Letters that build syllables

A Hangul syllable is written as one character or as its letters one after the
other: leading consonants, vowels, trailing consonants. A character that is a
syllable may be open, so that vowels can go on with it, or closed.
-/

namespace CppToPython.Unicode

def leadLetters : Ranges :=
  [(0x1100, 0x115F), (0xA960, 0xA97C)]

/-- The vowels. The vowel signs of Kirat Rai behave like those of Hangul. -/
def vowelLetters : Ranges :=
  [(0x1160, 0x11A7), (0xD7B0, 0xD7C6), (0x16D63, 0x16D63), (0x16D67, 0x16D6A)]

def trailLetters : Ranges :=
  [(0x11A8, 0x11FF), (0xD7CB, 0xD7FB)]

def isLeadLetter (c : Char) : Bool := leadLetters.contains c.toNat

def isVowelLetter (c : Char) : Bool := vowelLetters.contains c.toNat

def isTrailLetter (c : Char) : Bool := trailLetters.contains c.toNat

/-- The first of the characters that are a whole syllable. -/
def firstSyllable : Nat := 0xAC00

def lastSyllable : Nat := 0xD7A3

def isSyllable (c : Char) : Bool :=
  firstSyllable ≤ c.toNat && c.toNat ≤ lastSyllable

/-- Whether a character is a syllable without a trailing consonant. Each open
    syllable is followed by its 27 closed ones. -/
def isOpenSyllable (c : Char) : Bool :=
  isSyllable c && (c.toNat - firstSyllable) % 28 == 0

end CppToPython.Unicode
