import CppToPython.Text.Escape
import CppToPython.Token
import CppToPython.Token.Piece

/-! # Reading tokens

`Cursor.scan` reads tokens from a place in a text until the text ends or
nothing can be read. It also says where it stopped, so that reading can be taken
up again from there.
-/

namespace CppToPython

/-- The character at which no token could be read. -/
structure LexError where
  character : Char
  position : Position
  deriving Repr, DecidableEq

namespace LexError

def message (e : LexError) : String :=
  s!"Lexer error at line {e.position.line}, column {e.position.column}: unexpected character '"
    ++ Text.escape e.character ++ "'"

end LexError

/-- A place in a text: what is still to be read, and where it starts. -/
structure Cursor where
  rest : List Char
  position : Position
  deriving Repr, DecidableEq

namespace Cursor

def ofString (source : String) : Cursor := ⟨source.toList, .start⟩

/-- The tokens of `text`, which starts at `position`, and the place where reading
    stopped: the end of the text, or the place after a fault. -/
def scanFrom (position : Position) (text : List Char) : Except LexError (List Token) × Cursor :=
  match text with
  | [] => (.ok [], ⟨[], position⟩)
  | c :: text =>
      match _h : Piece.front c text with
      | .skip taken rest => scanFrom (position.advance taken) rest
      | .token kind lexeme padding rest =>
          let token : Token := ⟨⟨kind, String.ofList lexeme⟩, position⟩
          let (tokens, stop) := scanFrom (position.advance (lexeme ++ padding)) rest
          (tokens.map (token :: ·), stop)
      | .fault taken rest => (.error ⟨c, position⟩, ⟨rest, position.advance taken⟩)
termination_by text.length
decreasing_by
  · exact Piece.rest_lt_of_front_skip _h
  · exact Piece.rest_lt_of_front_token _h

def scan (c : Cursor) : Except LexError (List Token) × Cursor :=
  scanFrom c.position c.rest

end Cursor

namespace Token

def scan (source : String) : Except LexError (List Token) :=
  (Cursor.ofString source).scan.1

end Token

end CppToPython
