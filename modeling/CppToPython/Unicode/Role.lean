import CppToPython.Unicode.Conjunct
import CppToPython.Unicode.Control
import CppToPython.Unicode.Emoji
import CppToPython.Unicode.Extending
import CppToPython.Unicode.Hangul
import CppToPython.Unicode.Pictograph
import CppToPython.Unicode.Prepended
import CppToPython.Unicode.Spacing

/-! # The part of a character in a cluster

A cluster is what a reader takes for one character. The role of a character says
with which characters around it it forms one.
-/

namespace CppToPython.Unicode

/-- The part that a character plays in a cluster. -/
inductive Role where
  /-- A character by itself. -/
  | other
  /-- A control character, which stands apart. -/
  | control
  /-- A mark on the character before it. -/
  | extending
  /-- The joiner. -/
  | joiner
  /-- A mark beside the character before it. -/
  | spacing
  /-- A mark of the character after it. -/
  | prepended
  /-- A half of a flag. -/
  | regional
  /-- A leading consonant of a syllable. -/
  | lead
  /-- A vowel of a syllable. -/
  | vowel
  /-- A trailing consonant of a syllable. -/
  | trail
  /-- A syllable that ends in a vowel. -/
  | openSyllable
  /-- A syllable that ends in a consonant. -/
  | closedSyllable
  /-- A picture. -/
  | pictograph
  /-- A consonant of a conjunct. -/
  | consonant
  deriving Repr, DecidableEq

def role (c : Char) : Role :=
  if c = joiner then .joiner
  else if isControl c then .control
  else if isExtending c || isModifier c then .extending
  else if isSpacingMark c then .spacing
  else if isPrepended c then .prepended
  else if isRegional c then .regional
  else if isPictograph c then .pictograph
  else if isConsonant c then .consonant
  else if isLeadLetter c then .lead
  else if isVowelLetter c then .vowel
  else if isTrailLetter c then .trail
  else if isOpenSyllable c then .openSyllable
  else if isSyllable c then .closedSyllable
  else .other

end CppToPython.Unicode
