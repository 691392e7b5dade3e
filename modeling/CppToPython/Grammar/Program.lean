import CppToPython.Grammar.Stmt

/-! # Programs from tokens

What is one level deeper is the same grammar with one level less, so the parser
of the grammar recurses on the number of levels that are left.

`Program.parse` applies the grammar to tokens. A failure is reported at the
token where it was noticed, or at the last token when the tokens had ended.
The tokens that were not read are returned too, so that parsing can be taken up
again from there.
-/

namespace CppToPython

/-- The parser of what is one level deeper, if there is such a level. -/
def Nested.parser {σ : Type} [Symbol σ] :
    (levels : Nat) → {α : Type} → Nested α → Option (Parser σ α)
  | 0, _, _ => none
  | levels + 1, _, n => some (n.rule.parser (Nested.parser levels))

/-- Reads by a rule from the front of a list, with `levels` levels left below it. -/
def Rule.run {σ α : Type} [Symbol σ] (r : Rule α) (levels : Nat) (ls : List σ) :
    Except (Expectation × List σ) (α × List σ) :=
  (r.parser (Nested.parser levels) ls).outcome

/-- What was expected, what was found instead, and where. -/
structure ParseError where
  expected : Expectation
  found : Option Token
  position : Position
  deriving Repr, DecidableEq

namespace ParseError

/-- The error of expecting something where of all `tokens` only `left` are left. -/
def ofRest (expected : Expectation) (tokens left : List Token) : ParseError where
  expected := expected
  found := left.head?
  position := ((left.head? <|> tokens.getLast?).map Token.position).getD .start

def foundWords (e : ParseError) : String :=
  match e.found with
  | some token => token.describe
  | none => "end of input"

def message (e : ParseError) : String :=
  s!"Parse error at line {e.position.line}, column {e.position.column}: expected "
    ++ e.expected.words ++ ", found " ++ e.foundWords

end ParseError

namespace Program

/-- The program of some tokens, and the tokens that were not read: none after a
    success, after a failure those from where it was noticed. -/
def parse (tokens : List Token) : Except ParseError Program × List Token :=
  match Grammar.program.run nestingLimit tokens with
  | .ok (stmts, rest) => (.ok stmts, rest)
  | .error (expected, rest) => (.error (.ofRest expected tokens rest), rest)

end Program

end CppToPython
