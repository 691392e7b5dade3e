import CppToPython.Unicode.Extending
import CppToPython.Unicode.Invisible

/-! # Characters in messages

A message shows a character so that it can be told apart from any other: quotes,
the backslash and the usual controls by an escape of two characters, whatever
would be invisible or would join the quote before it by its code point, and
every other character as itself.
-/

namespace CppToPython.Text

/-- A code point in braces, in lower-case hexadecimal digits without padding. -/
def codePoint (c : Char) : String :=
  "\\u\x7b" ++ String.ofList (Nat.toDigits 16 c.toNat) ++ "\x7d"

/-- Whether a character joins the quote before it. The two voicing marks of
    halfwidth Katakana extend a character, but are drawn beside it. -/
def joinsQuote (c : Char) : Bool :=
  Unicode.isExtending c && c ≠ '\uff9e' && c ≠ '\uff9f'

/-- A character as messages show it. -/
def escape : Char → String
  | '\x00' => "\\0"
  | '\t' => "\\t"
  | '\r' => "\\r"
  | '\n' => "\\n"
  | '\'' => "\\'"
  | '"' => "\\\""
  | '\\' => "\\\\"
  | c => if joinsQuote c || Unicode.isInvisible c then codePoint c else c.toString

end CppToPython.Text
