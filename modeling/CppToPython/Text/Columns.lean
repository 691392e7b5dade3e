import CppToPython.Unicode.Emoji
import CppToPython.Unicode.Width

/-! # Columns of a cluster

A cluster takes as many columns as its characters take by themselves, with these
exceptions. A picture takes two columns, with whatever is joined to it or
modifies it. A character takes two columns where a selector asks for it as a
picture, and one where a selector asks for it as text. A Khmer letter that is
written below another one takes none.

Whether an exception holds depends on what is to the right of a character, so a
cluster is read from right to left.
-/

namespace CppToPython.Text

open Unicode

/-- What stands to the right of a character, as far as it can matter. -/
inductive Follower where
  /-- Nothing that matters. -/
  | plain
  /-- A modifier. -/
  | modifier
  /-- A picture. -/
  | emoji
  /-- A joiner and a picture. -/
  | joinedEmoji
  /-- A keycap, a joiner and a picture. -/
  | keycap
  /-- The end of a tag after some letters and digits, a joiner and a picture. -/
  | tag (letters digits : Nat)
  /-- The selector of pictures, after it perhaps a joiner and a picture. -/
  | emojiSelector (joined : Bool)
  /-- The selector of text. -/
  | textSelector
  /-- A Khmer letter that can be written below another one. -/
  | subscript
  deriving Repr, DecidableEq

/-- The Khmer letters that can be written below another one without more room. -/
def subscripts : Ranges :=
  [(0x1780, 0x1782), (0x1784, 0x1787), (0x1789, 0x178C), (0x178E, 0x1793), (0x1795, 0x1798),
   (0x179B, 0x179D), (0x17A0, 0x17A0), (0x17A2, 0x17A2), (0x17A7, 0x17A7), (0x17AB, 0x17AC),
   (0x17AF, 0x17AF)]

/-- The sign that puts a Khmer letter below the one before it. -/
def subscriptSign : Char := '\u17d2'

/-- The marks that may stand between that sign and the letter. -/
def subscriptMarks : Ranges :=
  [(0x034F, 0x034F), (0x17B4, 0x17B5), (0x180B, 0x180D), (0x180F, 0x180F), (0x200D, 0x200D),
   (0xFE00, 0xFE0F), (0xE0100, 0xE01EF)]

/-- The black flag, which a tag makes the flag of a region. -/
def blackFlag : Nat := 0x1F3F4

def tagEnd : Nat := 0xE007F

def isTagLetter (c : Char) : Bool := 0xE0061 ≤ c.toNat && c.toNat ≤ 0xE007A

def isTagDigit (c : Char) : Bool := 0xE0030 ≤ c.toNat && c.toNat ≤ 0xE0039

/-- What a character is to the one on its left. -/
def Follower.ofChar (c : Char) : Follower :=
  if c = Unicode.textSelector then .textSelector
  else if c = Unicode.emojiSelector then .emojiSelector false
  else if isModifier c then .modifier
  else if isEmoji c then .emoji
  else if subscripts.contains c.toNat then .subscript
  else .plain

/-- Adds a character on the left of what takes a number of columns. -/
def widen (c : Char) (right : Nat × Follower) : Nat × Follower :=
  let (total, follower) := right
  let alone := (total + columns c, Follower.ofChar c)
  match follower with
  | .plain => alone
  | .emojiSelector joined =>
      if isSelectable c then (if joined then total else total + 2, .emoji) else alone
  | .textSelector =>
      if isSelectable c && isEmoji c && !isEnclosedIdeograph c then (total + 1, .plain) else alone
  | .modifier =>
      if c = joiner then (total, .joinedEmoji)
      else if isModifierBase c then (total, .emoji)
      else alone
  | .emoji => if c = joiner then (total, .joinedEmoji) else alone
  | .joinedEmoji =>
      if c = Unicode.emojiSelector then (total, .emojiSelector true)
      else if c = Unicode.keycap then (total, .keycap)
      else if c.toNat = tagEnd then (total, .tag 0 0)
      else if isModifier c then (total, .modifier)
      else if isEmoji c then (total, .emoji)
      else alone
  | .keycap => if c = Unicode.emojiSelector then (total, .emojiSelector true) else alone
  | .tag letters digits =>
      if isTagLetter c && digits = 0 && letters < 6 then (total, .tag (letters + 1) 0)
      else if isTagDigit c && (if digits = 0 then letters < 5 else digits < 3) then
        (total, .tag letters (digits + 1))
      else if c.toNat = blackFlag && (if digits = 0 then 3 ≤ letters else digits = 3) then (total, .emoji)
      else alone
  | .subscript =>
      if c = subscriptSign then (total - 1, .plain)
      else if subscriptMarks.contains c.toNat then (total, .subscript)
      else alone

def columnsOf (cluster : List Char) : Nat :=
  (cluster.foldr widen (0, .plain)).1

theorem columnsOf_singleton (c : Char) : columnsOf [c] = columns c := by
  simp [columnsOf, widen]

end CppToPython.Text
