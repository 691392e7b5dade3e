import CppToPython.Unicode.Alphanumeric
import CppToPython.Unicode.WhiteSpace
import CppToPython.Viewer.Style

/-! # Highlighting a line

A line is cut into spans from left to right: a comment to the end of the line, a
text in quotes, a word or number, or a single other character. Each span takes
at least one character (`rest_lt_of_front`), and span and rest make up the line
(`front_append`).

Which characters are letters, numbers or white space is a parameter. The theory
needs nothing of it.
-/

namespace CppToPython.Viewer

/-- A classification of characters. -/
structure CharClasses where
  isAlphanumeric : Char → Bool
  isWhiteSpace : Char → Bool

def CharClasses.unicode : CharClasses := ⟨Unicode.isAlphanumeric, Unicode.isWhiteSpace⟩

/-- What highlighting has to know about a language. -/
structure Language where
  /-- What starts a comment to the end of the line. -/
  comment : List Char
  /-- Whether a line that starts with `#` is a directive. -/
  hasDirectives : Bool
  /-- The style of a word; the flag says whether a parenthesis follows. -/
  wordStyle : String → Bool → Style

namespace Highlight

/-- A span at the front of a line, and the rest of the line. -/
abbrev Cut := List Char × Style × List Char

/-- Splits a text after the next `quote`, which a backslash does not hide: it
    takes the character after it along. Without such a quote the text is not
    split. -/
def splitQuoted (quote : Char) : List Char → List Char × List Char
  | [] => ([], [])
  | [c] => ([c], [])
  | c :: d :: rest =>
      if c = quote then ([c], d :: rest)
      else if c = '\\' then
        let more := splitQuoted quote rest
        (c :: d :: more.1, more.2)
      else
        let more := splitQuoted quote (d :: rest)
        (c :: more.1, more.2)

theorem splitQuoted_append (quote : Char) (text : List Char) :
    (splitQuoted quote text).1 ++ (splitQuoted quote text).2 = text := by
  fun_induction splitQuoted quote text with
  | case1 => rfl
  | case2 => rfl
  | case3 => rfl
  | case4 d rest _ more ih => exact congrArg (fun t => '\\' :: d :: t) ih
  | case5 c d rest _ _ more ih => exact congrArg (c :: ·) ih

/-- Whether a word goes on with a character. Numbers contain points. -/
def isWordPart (classes : CharClasses) (first c : Char) : Bool :=
  classes.isAlphanumeric c || c == '_' || (c == '.' && first.isDigit)

def word (classes : CharClasses) (language : Language) (c : Char) (text : List Char) : Cut :=
  let whole := c :: text.takeWhile (isWordPart classes c)
  let rest := text.dropWhile (isWordPart classes c)
  let style :=
    if c.isDigit then Style.colored Theme.number
    else language.wordStyle (String.ofList whole) (rest.head? == some '(')
  (whole, style, rest)

def symbolStyle (c : Char) : Style :=
  if c ∈ ['(', ')', '[', ']', '\x7b', '\x7d'] then .colored Theme.bracket
  else .colored Theme.text

/-- The span at the front of the line `c :: text`. -/
def front (classes : CharClasses) (language : Language) (c : Char) (text : List Char) : Cut :=
  if language.comment.isPrefixOf (c :: text) then
    (c :: text, .colored Theme.comment, [])
  else if c = '"' ∨ c = '\x27' then
    let quoted := splitQuoted c text
    (c :: quoted.1, .colored Theme.string, quoted.2)
  else if classes.isAlphanumeric c || c == '_' then word classes language c text
  else ([c], symbolStyle c, text)

theorem front_append (classes : CharClasses) (language : Language) (c : Char)
    (text : List Char) :
    (front classes language c text).1 ++ (front classes language c text).2.2 = c :: text := by
  unfold front
  split
  · simp
  · split
    · simpa using splitQuoted_append c text
    · split
      · simp [word]
      · rfl

theorem front_ne_nil (classes : CharClasses) (language : Language) (c : Char)
    (text : List Char) : (front classes language c text).1 ≠ [] := by
  unfold front
  split
  · simp
  · split
    · simp
    · split <;> simp [word]

theorem rest_lt_of_front (classes : CharClasses) (language : Language) (c : Char)
    (text : List Char) :
    (front classes language c text).2.2.length < (c :: text).length := by
  have h := congrArg List.length (front_append classes language c text)
  have hpos := List.length_pos_iff.mpr (front_ne_nil classes language c text)
  rw [List.length_append] at h
  omega

/-- The spans of a line that is no directive. -/
def spans (classes : CharClasses) (language : Language) : List Char → List Span
  | [] => []
  | c :: text =>
      let cut := front classes language c text
      ⟨String.ofList cut.1, cut.2.1⟩ :: spans classes language cut.2.2
termination_by line => line.length
decreasing_by exact rest_lt_of_front classes language c text

end Highlight

/-- The spans of a line. A directive is one span. -/
def highlight (classes : CharClasses) (language : Language) (line : String) : List Span :=
  if language.hasDirectives && (line.toList.dropWhile classes.isWhiteSpace).head? == some '#' then
    [⟨line, .colored Theme.directive⟩]
  else Highlight.spans classes language line.toList

end CppToPython.Viewer
