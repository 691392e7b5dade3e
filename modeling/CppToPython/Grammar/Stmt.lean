import CppToPython.Grammar.Expr

/-! # The grammar of statements

A statement is recognised by its first lexeme, at times with one or two more. The
rule of a statement reads what comes after that lexeme. The statements of a block
and each `else if` go one level deeper.
-/

namespace CppToPython

namespace Grammar

open CppToPython.Rule

/-! ### Declarations -/

def valueType : Rule ValueType :=
  first .typeName fun l => (ValueType.ofLexeme? l).map pure

def parameter : Rule Parameter := do
  let type ← valueType
  let name ← identifier (.identifier .parameterName)
  return ⟨type, name⟩

/-- The parameters of a function, without the parentheses. A lone `void` stands for
    none. -/
def parameters : Rule (List Parameter) := do
  let next ← peek 0
  let second ← peek 1
  if next = some .closeParen then return []
  else if next = some (.word "void") ∧ second = some .closeParen then
    skip
    return []
  else commaSeparated parameter

def block (body : Body) : Rule (List Stmt) := do
  lexeme .openBrace (.openBody body)
  let stmts ← nested .statements
  lexeme .closeBrace (.closeBody body)
  return stmts

/-- A function, after its type. -/
def function (type : ReturnType) : Rule Stmt := do
  let name ← identifier (.identifier .functionName)
  lexeme .openParen (.openParenAfter .functionName)
  let params ← parameters
  lexeme .closeParen (.closeParenAfter .parameters)
  let body ← block .functionBody
  return .function type name params body

/-- A variable declaration, after its type and without its end. -/
def declaration (type : ValueType) : Rule Declaration := do
  let name ← identifier (.identifier .variableName)
  if (← peek 0) = some .equals then
    skip
    return ⟨type, name, some (← expr)⟩
  else return ⟨type, name, none⟩

/-- A function or a variable declaration, after its type. Only a function has a
    parenthesis after its name. -/
def typed : ReturnType → Rule Stmt
  | .void => function .void
  | .value type => do
      if (← peek 1) = some .openParen then function (.value type)
      else
        let decl ← declaration type
        lexeme .semicolon (.semicolonAfter .declaration)
        return .declare decl

/-! ### Conditionals and loops -/

def alternative : Rule Else := do
  if (← peek 0) = some (.word "else") then
    skip
    if (← peek 0) = some (.word "if") then
      let (condition, body, otherwise) ← nested .conditional
      return .elseIf condition body otherwise
    else return .block (← block .elseBody)
  else return .nothing

/-- A conditional, after its `if`. -/
def conditional : Rule (Expr × List Stmt × Else) := do
  lexeme .openParen (.openParenAfter .ifWord)
  let condition ← expr
  lexeme .closeParen (.closeParenAfter .ifCondition)
  let body ← block .ifBody
  let otherwise ← alternative
  return (condition, body, otherwise)

/-- An assignment, after the name of its variable and without its end. -/
def assignment (name : String) : Rule Assignment := do
  lexeme .equals .equalsInAssignment
  return ⟨name, ← expr⟩

/-- The first part of the head of a `for` loop. -/
def loopInit : Rule (Option LoopInit) := do
  match ← peek 0 with
  | some ⟨.keyword, _⟩ =>
      let type ← valueType
      return some (.declare (← declaration type))
  | some ⟨.identifier, name⟩ =>
      skip
      return some (.assign (← assignment name))
  | _ => return none

def loopCondition : Rule (Option Expr) := do
  if (← peek 0) = some .semicolon then return none else return some (← expr)

/-- The last part of the head of a `for` loop where it starts with an identifier. -/
def namedUpdate (name : String) : Rule LoopUpdate := do
  let second ← peek 1
  match second.bind StepOp.ofLexeme? with
  | some op =>
      skip
      skip
      return .step op name
  | none =>
      if second = some .equals then
        skip
        return .assign (← assignment name)
      else return .evaluate (← expr)

/-- The last part of the head of a `for` loop. -/
def loopUpdate : Rule (Option LoopUpdate) := do
  let next ← peek 0
  if next = some .closeParen then return none
  else
    match next.bind StepOp.ofLexeme? with
    | some op =>
        skip
        return some (.step op (← identifier .identifierAfterStep))
    | none =>
        match next with
        | some ⟨.identifier, name⟩ => some <$> namedUpdate name
        | _ => return some (.evaluate (← expr))

def forLoop : Rule Stmt := do
  lexeme .openParen (.openParenAfter .forWord)
  let init ← loopInit
  lexeme .semicolon (.semicolonAfter .forInitializer)
  let condition ← loopCondition
  lexeme .semicolon (.semicolonAfter .forCondition)
  let update ← loopUpdate
  lexeme .closeParen (.closeParenAfter .forHeader)
  let body ← block .forBody
  return .forLoop ⟨init, condition, update⟩ body

def whileLoop : Rule Stmt := do
  lexeme .openParen (.openParenAfter .whileWord)
  let condition ← expr
  lexeme .closeParen (.closeParenAfter .whileCondition)
  let body ← block .whileBody
  return .whileLoop condition body

/-! ### Simple statements -/

def result : Rule Stmt := do
  let value ← if (← peek 0) = some .semicolon then pure none else some <$> expr
  lexeme .semicolon (.semicolonAfter .returnWord)
  return .result value

def usingDirective : Rule Unit := do
  lexeme (.word "namespace") .namespaceAfterUsing
  let _ ← identifier (.identifier .namespaceName)
  lexeme .semicolon (.semicolonAfter .usingDirective)

def output : Rule Stmt := do
  let values ← after .shiftLeft expr
  lexeme .semicolon (.semicolonAfter .outputStatement)
  return .output values

def input : Rule Stmt := do
  let targets ← after .shiftRight (identifier .identifierAfterShift)
  lexeme .semicolon (.semicolonAfter .inputStatement)
  return .input targets

/-- A call on its own, after the name of the function. Its arguments are on the
    level of the statement. -/
def call (name : String) : Rule Stmt := do
  let args ← arguments
  lexeme .semicolon (.semicolonAfter .functionCall)
  return .call name args

def stepBefore (op : StepOp) : Rule Stmt := do
  let name ← identifier .identifierAfterStep
  lexeme .semicolon (.semicolonAfter .increment)
  return .step op name

/-- A statement that starts with an identifier which names no stream, after it. -/
def namedStmt (name : String) : Rule Stmt := do
  let next ← peek 0
  if next = some .openParen then call name
  else
    match next.bind StepOp.ofLexeme? with
    | some op =>
        skip
        lexeme .semicolon (.semicolonAfter .increment)
        return .step op name
    | none =>
        let assign ← assignment name
        lexeme .semicolon (.semicolonAfter .assignment)
        return .assign assign

/-! ### All statements -/

/-- The statement that starts with a reserved word, after it. -/
def keywordStmt (l : Lexeme) : Option (Rule (Option Stmt)) :=
  match ReturnType.ofLexeme? l with
  | some type => some (some <$> typed type)
  | none =>
      match l.text with
      | "using" => some do
          usingDirective
          return none
      | "if" => some do
          let (condition, body, otherwise) ← conditional
          return some (.conditional condition body otherwise)
      | "for" => some (some <$> forLoop)
      | "while" => some (some <$> whileLoop)
      | "return" => some (some <$> result)
      | _ => none

/-- The statement that starts with a lexeme, after it. Directives are read and
    leave nothing. -/
def stmtAfter (l : Lexeme) : Option (Rule (Option Stmt)) :=
  match l.kind with
  | .directive => some (return none)
  | .keyword => keywordStmt l
  | .identifier =>
      match l.text with
      | "cout" => some (some <$> output)
      | "cin" => some (some <$> input)
      | name => some (some <$> namedStmt name)
  | .operator => (StepOp.ofLexeme? l).map fun op => some <$> stepBefore op
  | .number | .float | .string | .delimiter | .shift => none

/-- Statements up to a lexeme for which `stop` holds, or to the end. -/
def statements (stop : Lexeme → Bool) : Rule (List Stmt) := do
  let stmts ← many stop .statement stmtAfter
  return stmts.filterMap id

def program : Rule Program :=
  statements fun _ => false

end Grammar

open Rule Grammar in
/-- The rule one level deeper. -/
def Nested.rule {α : Type} : Nested α → Rule α
  | statements => Grammar.statements (· = .closeBrace)
  | conditional => do
      skip
      Grammar.conditional
  | group => expr
  | arguments => Grammar.arguments
  | operand => factor

end CppToPython
