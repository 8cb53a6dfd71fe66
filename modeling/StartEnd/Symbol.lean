/-!
This module contains the symbols of the Start/end grammar: the terminals that a scanner produces,
the nonterminals that productions define, and the whitespace symbol, which is neither. Each symbol
has a stable id, its position in `Symbol.all`, by which symbols are ordered and stored.
-/

namespace StartEnd

/--
What a symbol may be used for: terminals are read from the input, nonterminals are defined by
productions, and noise is recognised and dropped.
-/
inductive SymbolKind where
  | terminal
  | nonterminal
  | noise
deriving DecidableEq

/--
The symbols of the grammar. Keywords of the language end in `Kw`; the constructors stand in the
order of their ids.
-/
inductive Symbol where
  -- Terminals, and the noise symbol among them
  | eof
  | error
  | whitespace
  | andKw
  | assign
  | beginKw
  | boolKw
  | colon
  | comma
  | divide
  | doKw
  | elseKw
  | endKw
  | eq
  | falseKw
  | floatKw
  | functionKw
  | gt
  | identifier
  | ifKw
  | intKw
  | lParen
  | lt
  | minus
  | neq
  | notKw
  | number
  | orKw
  | plus
  | returnKw
  | rParen
  | semi
  | startKw
  | stringKw
  | stringLiteral
  | thenKw
  | times
  | trueKw
  | varKw
  | whileKw
  -- Nonterminals
  | additiveExpr
  | argList
  | argTail
  | assignment
  | condition
  | declaration
  | empty
  | equalityExpr
  | expression
  | factor
  | logicalAndExpr
  | logicalOrExpr
  | loop
  | methodCall
  | methodDeclaration
  | multiplicativeExpr
  | optionalArgs
  | optionalElse
  | optionalParams
  | param
  | paramList
  | paramTail
  | program
  | relationalExpr
  | returnStatement
  | statement
  | statementList
  | type
deriving DecidableEq

namespace Symbol

def all : List Symbol := [
  .eof, .error, .whitespace, .andKw, .assign, .beginKw, .boolKw, .colon, .comma, .divide, .doKw,
  .elseKw, .endKw, .eq, .falseKw, .floatKw, .functionKw, .gt, .identifier, .ifKw, .intKw,
  .lParen, .lt, .minus, .neq, .notKw, .number, .orKw, .plus, .returnKw, .rParen, .semi, .startKw,
  .stringKw, .stringLiteral, .thenKw, .times, .trueKw, .varKw, .whileKw, .additiveExpr, .argList,
  .argTail, .assignment, .condition, .declaration, .empty, .equalityExpr, .expression, .factor,
  .logicalAndExpr, .logicalOrExpr, .loop, .methodCall, .methodDeclaration, .multiplicativeExpr,
  .optionalArgs, .optionalElse, .optionalParams, .param, .paramList, .paramTail, .program,
  .relationalExpr, .returnStatement, .statement, .statementList, .type
]

def id (s : Symbol) : Nat := s.ctorIdx

def ofId? (n : Nat) : Option Symbol := all[n]?

/--
The name used in messages and in the text of productions: keywords stand for themselves and
nonterminals are written in angle brackets.
-/
def name : Symbol → String
  | .eof => "EOF"
  | .error => "Error"
  | .whitespace => "Whitespace"
  | .andKw => "And"
  | .assign => "Assign"
  | .beginKw => "begin"
  | .boolKw => "bool"
  | .colon => "Colon"
  | .comma => "Comma"
  | .divide => "Divide"
  | .doKw => "do"
  | .elseKw => "else"
  | .endKw => "end"
  | .eq => "Eq"
  | .falseKw => "false"
  | .floatKw => "float"
  | .functionKw => "function"
  | .gt => "Gt"
  | .identifier => "Identifier"
  | .ifKw => "if"
  | .intKw => "int"
  | .lParen => "LParen"
  | .lt => "Lt"
  | .minus => "Minus"
  | .neq => "Neq"
  | .notKw => "Not"
  | .number => "Number"
  | .orKw => "Or"
  | .plus => "Plus"
  | .returnKw => "return"
  | .rParen => "RParen"
  | .semi => "Semi"
  | .startKw => "Start"
  | .stringKw => "string"
  | .stringLiteral => "StringLiteral"
  | .thenKw => "then"
  | .times => "Times"
  | .trueKw => "true"
  | .varKw => "var"
  | .whileKw => "while"
  | .additiveExpr => "<AdditiveExpr>"
  | .argList => "<ArgList>"
  | .argTail => "<ArgTail>"
  | .assignment => "<Assignment>"
  | .condition => "<Condition>"
  | .declaration => "<Declaration>"
  | .empty => "<Empty>"
  | .equalityExpr => "<EqualityExpr>"
  | .expression => "<Expression>"
  | .factor => "<Factor>"
  | .logicalAndExpr => "<LogicalAndExpr>"
  | .logicalOrExpr => "<LogicalOrExpr>"
  | .loop => "<Loop>"
  | .methodCall => "<MethodCall>"
  | .methodDeclaration => "<MethodDeclaration>"
  | .multiplicativeExpr => "<MultiplicativeExpr>"
  | .optionalArgs => "<OptionalArgs>"
  | .optionalElse => "<OptionalElse>"
  | .optionalParams => "<OptionalParams>"
  | .param => "<Param>"
  | .paramList => "<ParamList>"
  | .paramTail => "<ParamTail>"
  | .program => "<Program>"
  | .relationalExpr => "<RelationalExpr>"
  | .returnStatement => "<ReturnStatement>"
  | .statement => "<Statement>"
  | .statementList => "<StatementList>"
  | .type => "<Type>"

def tag : Symbol → String
  | .eof => "Eof"
  | .error => "Error"
  | .whitespace => "Whitespace"
  | .andKw => "And"
  | .assign => "Assign"
  | .beginKw => "Begin"
  | .boolKw => "Bool"
  | .colon => "Colon"
  | .comma => "Comma"
  | .divide => "Divide"
  | .doKw => "Do"
  | .elseKw => "Else"
  | .endKw => "End"
  | .eq => "Eq"
  | .falseKw => "False"
  | .floatKw => "Float"
  | .functionKw => "Function"
  | .gt => "Gt"
  | .identifier => "Identifier"
  | .ifKw => "If"
  | .intKw => "Int"
  | .lParen => "LParen"
  | .lt => "Lt"
  | .minus => "Minus"
  | .neq => "Neq"
  | .notKw => "Not"
  | .number => "Number"
  | .orKw => "Or"
  | .plus => "Plus"
  | .returnKw => "Return"
  | .rParen => "RParen"
  | .semi => "Semi"
  | .startKw => "Start"
  | .stringKw => "String"
  | .stringLiteral => "StringLiteral"
  | .thenKw => "Then"
  | .times => "Times"
  | .trueKw => "True"
  | .varKw => "Var"
  | .whileKw => "While"
  | .additiveExpr => "AdditiveExpr"
  | .argList => "ArgList"
  | .argTail => "ArgTail"
  | .assignment => "Assignment"
  | .condition => "Condition"
  | .declaration => "Declaration"
  | .empty => "Empty"
  | .equalityExpr => "EqualityExpr"
  | .expression => "Expression"
  | .factor => "Factor"
  | .logicalAndExpr => "LogicalAndExpr"
  | .logicalOrExpr => "LogicalOrExpr"
  | .loop => "Loop"
  | .methodCall => "MethodCall"
  | .methodDeclaration => "MethodDeclaration"
  | .multiplicativeExpr => "MultiplicativeExpr"
  | .optionalArgs => "OptionalArgs"
  | .optionalElse => "OptionalElse"
  | .optionalParams => "OptionalParams"
  | .param => "Param"
  | .paramList => "ParamList"
  | .paramTail => "ParamTail"
  | .program => "Program"
  | .relationalExpr => "RelationalExpr"
  | .returnStatement => "ReturnStatement"
  | .statement => "Statement"
  | .statementList => "StatementList"
  | .type => "Type"

def kind (s : Symbol) : SymbolKind :=
  match s with
  | .whitespace => .noise
  | _ => if s.id < 40 then .terminal else .nonterminal

def isTerminal (s : Symbol) : Bool := s.kind = .terminal

def isNonterminal (s : Symbol) : Bool := s.kind = .nonterminal

def sorted (symbols : List Symbol) : List Symbol := all.filter fun s => s ∈ symbols

end Symbol

end StartEnd
