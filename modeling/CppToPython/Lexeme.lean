/-! # Lexemes

A lexeme is a piece of source text together with its kind. The grammar looks at
nothing else: two tokens that differ in their positions only are the same to it.
-/

namespace CppToPython

inductive Kind where
  /-- One of the reserved words. -/
  | keyword
  /-- Any other word. -/
  | identifier
  /-- Digits. -/
  | number
  /-- Digits, a point and digits. -/
  | float
  /-- Text between double quotes, the quotes included. -/
  | string
  /-- An arithmetic, comparison, assignment or step operator. -/
  | operator
  /-- A semicolon, comma, parenthesis or brace. -/
  | delimiter
  /-- One of the stream operators `<<` and `>>`. -/
  | shift
  /-- A whole `#include` line. -/
  | directive
  deriving Repr, DecidableEq

namespace Kind

/-- The name of a kind in messages. -/
def name : Kind → String
  | keyword => "keyword"
  | identifier => "identifier"
  | number => "number"
  | float => "float"
  | string => "string literal"
  | operator => "operator"
  | delimiter => "delimiter"
  | shift => "shift operator"
  | directive => "include directive"

end Kind

/-- A piece of source text and its kind. -/
structure Lexeme where
  kind : Kind
  text : String
  deriving Repr, DecidableEq

namespace Lexeme

def reserved : List String :=
  ["int", "float", "double", "char", "if", "else", "for", "while", "return", "void", "using",
   "namespace"]

/-- A lexeme as messages show it. -/
def describe (l : Lexeme) : String :=
  l.kind.name ++ " '" ++ l.text ++ "'"

def word (text : String) : Lexeme := ⟨.keyword, text⟩

def semicolon : Lexeme := ⟨.delimiter, ";"⟩
def comma : Lexeme := ⟨.delimiter, ","⟩
def openParen : Lexeme := ⟨.delimiter, "("⟩
def closeParen : Lexeme := ⟨.delimiter, ")"⟩
def openBrace : Lexeme := ⟨.delimiter, "\x7b"⟩
def closeBrace : Lexeme := ⟨.delimiter, "\x7d"⟩
def equals : Lexeme := ⟨.operator, "="⟩
def minus : Lexeme := ⟨.operator, "-"⟩
def shiftLeft : Lexeme := ⟨.shift, "<<"⟩
def shiftRight : Lexeme := ⟨.shift, ">>"⟩

end Lexeme

end CppToPython
