import CppToPython.Lexeme
import CppToPython.Text.Trim

/-! # The piece at the front of a text

A source text is read piece by piece. A piece is something to skip (blanks or a
comment), a token, or a fault. `Piece.front` finds the piece a non-empty text
starts with. What it takes and what it leaves make up the text
(`front_taken_append_rest`), and what is left after blanks, a comment or a token
is shorter (`rest_lt_of_front_skip`, `rest_lt_of_front_token`), so that reading
comes to an end.
-/

namespace CppToPython

/-- What a text starts with, and the text that is left after it. -/
inductive Piece where
  /-- Blanks or a comment. -/
  | skip (text rest : List Char)
  /-- A token, and the white space that goes with it to the end of its line. -/
  | token (kind : Kind) (text padding rest : List Char)
  /-- Nothing that could be read; `text` is what is given up before reading can go on. -/
  | fault (text rest : List Char)

namespace Piece

def taken : Piece → List Char
  | skip text _ => text
  | token _ text padding _ => text ++ padding
  | fault text _ => text

def rest : Piece → List Char
  | skip _ rest | token _ _ _ rest | fault _ rest => rest

/-- The characters that only separate tokens. -/
def isBlank (c : Char) : Bool :=
  c == ' ' || c == '\t' || c == '\r' || c == '\n'

def isWordStart (c : Char) : Bool :=
  c.isAlpha || c == '_'

def isWordPart (c : Char) : Bool :=
  c.isAlphanum || c == '_'

/-- Whether a character is something else than the end of a line. -/
def isInLine (c : Char) : Bool :=
  c != '\n'

/-! ### Comments -/

/-- Splits a text after the first `*/`. -/
def splitComment : List Char → Option (List Char × List Char)
  | [] => none
  | '*' :: '/' :: rest => some (['*', '/'], rest)
  | c :: rest => (splitComment rest).map fun (body, rest) => (c :: body, rest)

theorem splitComment_append {text body rest : List Char}
    (h : splitComment text = some (body, rest)) : body ++ rest = text := by
  fun_induction splitComment text generalizing body rest with
  | case1 => cases h
  | case2 r => cases h; rfl
  | case3 c r _ ih =>
      obtain ⟨⟨b, s⟩, hs, he⟩ := Option.map_eq_some_iff.mp h
      cases he
      rw [List.cons_append, ih hs]

/-- A comment in `/* */`, after its first two characters. -/
def blockComment (text : List Char) : Piece :=
  match splitComment text with
  | some (body, rest) => skip ('/' :: '*' :: body) rest
  | none => fault ('/' :: '*' :: text) []

/-- A comment to the end of the line, after its first two characters. -/
def lineComment (text : List Char) : Piece :=
  skip ('/' :: '/' :: text.takeWhile isInLine) (text.dropWhile isInLine)

/-! ### String literals -/

/-- The part of a string literal after its opening quote. -/
inductive Quoted where
  /-- The text up to the closing quote, which it includes. -/
  | closed (text rest : List Char)
  /-- The text up to the end of the line or of the source, before any closing quote. -/
  | cut (text rest : List Char)

namespace Quoted

def push (front : List Char) : Quoted → Quoted
  | closed text rest => closed (front ++ text) rest
  | cut text rest => cut (front ++ text) rest

def whole : Quoted → List Char
  | closed text rest | cut text rest => text ++ rest

theorem whole_push (front : List Char) (q : Quoted) : (q.push front).whole = front ++ q.whole := by
  cases q <;> simp only [push, whole, List.append_assoc]

/-- Reads to the closing quote. A backslash takes the character after it along,
    whatever it is, unless the line ends there. -/
def ofText : List Char → Quoted
  | [] => cut [] []
  | '\n' :: rest => cut [] ('\n' :: rest)
  | '"' :: rest => closed ['"'] rest
  | '\\' :: c :: rest =>
      if c = '\n' then cut ['\\'] (c :: rest) else (ofText rest).push ['\\', c]
  | c :: rest => (ofText rest).push [c]

theorem whole_ofText (text : List Char) : (ofText text).whole = text := by
  fun_induction ofText text with
  | case1 => rfl
  | case2 => rfl
  | case3 => rfl
  | case4 => rfl
  | case5 c rest _ ih => rw [whole_push, ih]; rfl
  | case6 c rest _ _ _ ih => rw [whole_push, ih]; rfl

end Quoted

/-- A string literal, after its opening quote. -/
def stringLiteral (text : List Char) : Piece :=
  match Quoted.ofText text with
  | .closed body rest => token .string ('"' :: body) [] rest
  | .cut body rest => fault ('"' :: body) rest

/-! ### Words, numbers and directives -/

def word (c : Char) (text : List Char) : Piece :=
  let name := c :: text.takeWhile isWordPart
  let kind := if String.ofList name ∈ Lexeme.reserved then .keyword else .identifier
  token kind name [] (text.dropWhile isWordPart)

/-- A number that starts with the digit `c`. A point belongs to it only if a
    digit follows. -/
def number (c : Char) (text : List Char) : Piece :=
  let whole := c :: text.takeWhile Char.isDigit
  match text.dropWhile Char.isDigit with
  | '.' :: d :: rest =>
      if d.isDigit then
        token .float (whole ++ '.' :: d :: rest.takeWhile Char.isDigit) []
          (rest.dropWhile Char.isDigit)
      else token .number whole [] ('.' :: d :: rest)
  | rest => token .number whole [] rest

/-- A line that starts with `#`, after that character. Only `#include` lines are
    tokens. -/
def directive (text : List Char) : Piece :=
  let line := '#' :: text.takeWhile isInLine
  if "#include".toList.isPrefixOf line then
    token .directive (Text.trimEnd line) (Text.endPadding line) (text.dropWhile isInLine)
  else fault [] ('#' :: text)

/-! ### Symbols -/

/-- The kind of two characters that are one symbol. -/
def pairKind : Char → Char → Option Kind
  | '<', '<' | '>', '>' => some .shift
  | '=', '=' | '!', '=' | '<', '=' | '>', '=' | '+', '+' | '-', '-' => some .operator
  | _, _ => none

/-- The kind of a character that is a symbol on its own. -/
def singleKind : Char → Option Kind
  | '+' | '-' | '*' | '/' | '%' | '=' | '<' | '>' => some .operator
  | ';' | ',' | '(' | ')' | '\x7b' | '\x7d' => some .delimiter
  | _ => none

/-- The symbol `c`, where no symbol of two characters stands. -/
def single (c : Char) (text : List Char) : Piece :=
  match singleKind c with
  | some kind => token kind [c] [] text
  | none => fault [] (c :: text)

/-- A symbol that starts with `c`: two characters if they are one symbol. -/
def symbol (c : Char) (text : List Char) : Piece :=
  match text with
  | [] => single c []
  | d :: rest =>
      match pairKind c d with
      | some kind => token kind [c, d] [] rest
      | none => single c (d :: rest)

/-! ### All pieces -/

/-- The piece at the front of the text `c :: text`. -/
def front (c : Char) (text : List Char) : Piece :=
  if isBlank c then skip (c :: text.takeWhile isBlank) (text.dropWhile isBlank)
  else if c.isDigit then number c text
  else if isWordStart c then word c text
  else
    match c, text with
    | '/', '/' :: text => lineComment text
    | '/', '*' :: text => blockComment text
    | '"', text => stringLiteral text
    | '#', text => directive text
    | c, text => symbol c text

/-- Whether a piece makes up the text `whole`, and takes some of it unless it is
    a fault. -/
def Splits (whole : List Char) : Piece → Prop
  | skip text rest => text ++ rest = whole ∧ text ≠ []
  | token _ text padding rest => text ++ padding ++ rest = whole ∧ text ≠ []
  | fault text rest => text ++ rest = whole

theorem single_splits (c : Char) (text : List Char) : (single c text).Splits (c :: text) := by
  unfold single
  split <;> simp [Splits]

theorem symbol_splits (c : Char) (text : List Char) : (symbol c text).Splits (c :: text) := by
  unfold symbol
  split
  · exact single_splits c []
  · split
    · simp [Splits]
    · exact single_splits c _

theorem number_splits (c : Char) (text : List Char) : (number c text).Splits (c :: text) := by
  have h := List.takeWhile_append_dropWhile (p := Char.isDigit) (l := text)
  unfold number
  split
  · rename_i d rest hd
    rw [hd] at h
    split
    · simpa [Splits] using h
    · simpa [Splits] using h
  · simp [Splits]

theorem word_splits (c : Char) (text : List Char) : (word c text).Splits (c :: text) := by
  simp [word, Splits]

theorem directive_splits (text : List Char) : (directive text).Splits ('#' :: text) := by
  simp only [directive]
  split
  · refine ⟨?_, ?_⟩
    · rw [Text.trimEnd_append_endPadding, List.cons_append, List.takeWhile_append_dropWhile]
    · rw [Text.trimEnd_cons (by decide)]
      exact List.cons_ne_nil _ _
  · rfl

theorem stringLiteral_splits (text : List Char) : (stringLiteral text).Splits ('"' :: text) := by
  have h := Quoted.whole_ofText text
  unfold stringLiteral
  split <;> rename_i hq <;> rw [hq] at h <;> simpa [Splits, Quoted.whole] using h

theorem blockComment_splits (text : List Char) :
    (blockComment text).Splits ('/' :: '*' :: text) := by
  unfold blockComment
  split
  · rename_i hs
    simpa [Splits] using splitComment_append hs
  · simp [Splits]

theorem lineComment_splits (text : List Char) :
    (lineComment text).Splits ('/' :: '/' :: text) := by
  simp [lineComment, Splits]

theorem front_splits (c : Char) (text : List Char) : (front c text).Splits (c :: text) := by
  unfold front
  split
  · simp [Splits]
  · split
    · exact number_splits c text
    · split
      · exact word_splits c text
      · split
        · exact lineComment_splits _
        · exact blockComment_splits _
        · exact stringLiteral_splits _
        · exact directive_splits _
        · exact symbol_splits _ _

theorem Splits.taken_append_rest {whole : List Char} {p : Piece} (h : p.Splits whole) :
    p.taken ++ p.rest = whole := by
  cases p with
  | skip | token => exact h.1
  | fault => exact h

/-- Nothing is lost between a piece and the rest of the text. -/
theorem front_taken_append_rest (c : Char) (text : List Char) :
    (front c text).taken ++ (front c text).rest = c :: text :=
  (front_splits c text).taken_append_rest

theorem Splits.rest_lt {whole rest : List Char} {p : Piece} (h : p.Splits whole)
    (hp : (∃ text, p = skip text rest) ∨ ∃ kind text padding, p = token kind text padding rest) :
    rest.length < whole.length := by
  rcases hp with ⟨text, rfl⟩ | ⟨kind, text, padding, rfl⟩
  · obtain ⟨rfl, hne⟩ := h
    have := List.length_pos_iff.mpr hne
    simp only [List.length_append]
    omega
  · obtain ⟨rfl, hne⟩ := h
    have := List.length_pos_iff.mpr hne
    simp only [List.length_append]
    omega

theorem rest_lt_of_front_skip {c : Char} {text taken rest : List Char}
    (h : front c text = skip taken rest) : rest.length < (c :: text).length :=
  (h ▸ front_splits c text : (skip taken rest).Splits _).rest_lt (.inl ⟨taken, rfl⟩)

theorem rest_lt_of_front_token {c : Char} {kind : Kind} {text taken padding rest : List Char}
    (h : front c text = token kind taken padding rest) : rest.length < (c :: text).length :=
  (h ▸ front_splits c text : (token kind taken padding rest).Splits _).rest_lt
    (.inr ⟨kind, taken, padding, rfl⟩)

end Piece

end CppToPython
