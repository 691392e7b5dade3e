import CppToPython.Grammar.Parser
import CppToPython.Stmt
import CppToPython.Token

/-! # Rules

The grammar is written as rules, and a rule is data: it says which tokens to look
at, what to refuse, and where to read on one level deeper. `Rule.parser` takes a
rule as a parser.

A rule gets whole tokens. The rules of the grammar are put together from `first`,
`peek`, `many` and `marked`, which look at lexemes.
-/

namespace CppToPython

/-- What can be read one level deeper. -/
inductive Nested : Type → Type where
  /-- The statements of a block. -/
  | statements : Nested (List Stmt)
  /-- A conditional after an `else`. -/
  | conditional : Nested (Expr × List Stmt × Else)
  /-- An expression in parentheses. -/
  | group : Nested Expr
  /-- The arguments of a call in an expression. -/
  | arguments : Nested (List Expr)
  /-- The operand of a minus sign. -/
  | operand : Nested Expr

/-- How to read a value. -/
inductive Rule : Type → Type 1 where
  | done {α : Type} (a : α) : Rule α
  | andThen {α β : Type} (r : Rule α) (f : α → Rule β) : Rule β
  /-- Refuses the next token. -/
  | refuse {α : Type} (expected : Expectation) : Rule α
  /-- The token `n` places ahead, which stays where it is. -/
  | ahead (n : Nat) : Rule (Option Token)
  /-- Passes over the next token. -/
  | skip : Rule Unit
  | nested {α : Type} (n : Nested α) : Rule α
  /-- Chooses an item by the next token, again and again until there is none or one for
      which `stop` holds. The token is passed over if there is a choice for it. -/
  | loop {α γ : Type} (stop : Token → Bool) (expected : Expectation)
      (choose : Token → Option γ) (item : γ → Rule α) : Rule (List α)

instance : Monad Rule where
  pure := .done
  bind := .andThen

namespace Rule

variable {α β : Type}

/-! ### Rules that look at lexemes -/

def peek (n : Nat) : Rule (Option Lexeme) := do
  return (← ahead n).map Token.toLexeme

/-- Chooses how to go on by the next lexeme, which is passed over if there is a
    choice for it. -/
def first (expected : Expectation) (choose : Lexeme → Option (Rule α)) : Rule α := do
  match (← peek 0).bind choose with
  | none => refuse expected
  | some r =>
      skip
      r

def lexeme (l : Lexeme) (expected : Expectation) : Rule Unit :=
  first expected fun next => if next = l then some (pure ()) else none

def identifier (expected : Expectation) : Rule String :=
  first expected fun next => if next.kind = .identifier then some (pure next.text) else none

/-- Chooses how to go on by the next lexeme, again and again until there is none or
    one for which `stop` holds. -/
def many (stop : Lexeme → Bool) (expected : Expectation) (choose : Lexeme → Option (Rule α)) :
    Rule (List α) :=
  loop (fun token => stop token.toLexeme) expected
    (fun token => (choose token.toLexeme).map fun _ => token.toLexeme)
    fun l => (choose l).getD (refuse expected)

/-- Reads items for as long as the next lexeme is a mark, which stands before each
    item. Nothing is ever refused, since whatever is no mark ends the repetition. -/
def marked (mark : Lexeme → Option β) (item : Rule α) : Rule (List (β × α)) :=
  loop (fun token => (mark token.toLexeme).isNone) .statement (fun token => mark token.toLexeme)
    fun b => do return (b, ← item)

/-- Reads items for as long as the next lexeme is `l`, which stands before each
    item. -/
def after (l : Lexeme) (item : Rule α) : Rule (List α) := do
  let items ← marked (fun next => if next = l then some () else none) item
  return items.map Prod.snd

def commaSeparated (item : Rule α) : Rule (List α) := do
  let head ← item
  let tail ← after .comma item
  return head :: tail

end Rule

/-! ### Rules as parsers -/

/-- What a parser can read for tokens. -/
class Symbol (σ : Type) where
  token : σ → Token

instance : Symbol Token := ⟨id⟩

/-- The parser of a rule, with the parsers of what is one level deeper, if there is
    such a level. -/
def Rule.parser {σ : Type} [Symbol σ]
    (deeper : {β : Type} → Nested β → Option (Parser σ β)) : {α : Type} → Rule α → Parser σ α
  | _, done a => .done a
  | _, andThen r f => .andThen (r.parser deeper) fun a => (f a).parser deeper
  | _, refuse expected => .refuse expected
  | _, ahead n => .andThen (.ahead n) fun next => .done (next.map Symbol.token)
  | _, skip => .skip
  | _, nested n => (deeper n).getD (.refuse .nesting)
  | _, loop stop expected choose item =>
      .loop (fun s => stop (Symbol.token s)) expected fun s =>
        (choose (Symbol.token s)).map fun c => (item c).parser deeper

end CppToPython
