/-! # What a place in the grammar expects

Every rule that can refuse a token says what it expects there. The wording is
`Expectation.words`.
-/

namespace CppToPython

/-- The number of levels to which a program may be nested. -/
def nestingLimit : Nat := 128

/-- The parts of a program that something has to follow. -/
inductive Phrase where
  | functionName | parameters | arguments | functionCall
  | usingDirective | declaration | assignment | increment
  | ifWord | ifCondition | whileWord | whileCondition
  | forWord | forInitializer | forCondition | forHeader
  | returnWord | outputStatement | inputStatement
  deriving Repr, DecidableEq

namespace Phrase

def words : Phrase → String
  | functionName => "function name"
  | parameters => "parameters"
  | arguments => "arguments"
  | functionCall => "function call"
  | usingDirective => "using directive"
  | declaration => "declaration"
  | assignment => "assignment"
  | increment => "increment"
  | ifWord => "'if'"
  | ifCondition => "if condition"
  | whileWord => "'while'"
  | whileCondition => "while condition"
  | forWord => "'for'"
  | forInitializer => "for-loop initializer"
  | forCondition => "for-loop condition"
  | forHeader => "for-loop header"
  | returnWord => "return"
  | outputStatement => "output statement"
  | inputStatement => "input statement"

end Phrase

/-- What an identifier stands for. -/
inductive Role where
  | namespaceName | functionName | parameterName | variableName
  deriving Repr, DecidableEq

namespace Role

def words : Role → String
  | namespaceName => "namespace name"
  | functionName => "function name"
  | parameterName => "parameter name"
  | variableName => "variable name"

end Role

/-- What a block in braces is the body of. -/
inductive Body where
  | functionBody | ifBody | elseBody | forBody | whileBody
  deriving Repr, DecidableEq

namespace Body

def words : Body → String
  | functionBody => "function body"
  | ifBody => "if body"
  | elseBody => "else body"
  | forBody => "for-loop body"
  | whileBody => "while body"

end Body

/-- What the grammar expects at a place. -/
inductive Expectation where
  | statement
  | expression
  | typeName
  /-- A place that is not nested deeper than `nestingLimit` levels. -/
  | nesting
  | identifier (role : Role)
  | identifierAfterStep
  | identifierAfterShift
  | namespaceAfterUsing
  | equalsInAssignment
  | semicolonAfter (phrase : Phrase)
  | openParenAfter (phrase : Phrase)
  | closeParenAfter (phrase : Phrase)
  | closeGroup
  | openBody (body : Body)
  | closeBody (body : Body)
  deriving Repr, DecidableEq

namespace Expectation

def words : Expectation → String
  | statement => "a statement"
  | expression => "an expression"
  | typeName => "a type name"
  | nesting => s!"at most {nestingLimit} levels of nesting"
  | identifier role => "identifier as " ++ role.words
  | identifierAfterStep => "identifier after '++' or '--'"
  | identifierAfterShift => "identifier after '>>'"
  | namespaceAfterUsing => "'namespace' after 'using'"
  | equalsInAssignment => "'=' in assignment"
  | semicolonAfter phrase => "';' after " ++ phrase.words
  | openParenAfter phrase => "'(' after " ++ phrase.words
  | closeParenAfter phrase => "')' after " ++ phrase.words
  | closeGroup => "')' to close parenthesized expression"
  | openBody body => "'\x7b' to open " ++ body.words
  | closeBody body => "'\x7d' to close " ++ body.words

end Expectation

end CppToPython
