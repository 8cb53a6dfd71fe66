import StartEnd.Symbol

/-!
This module contains the productions of the Start/end grammar. Precedence lives in the shape of the
rules: each binary level is left-recursive and its right operand is the next tighter level.
-/

namespace StartEnd

/--
The productions of the grammar, in the order of their ids.
-/
inductive Rule where
  | program
  | statementList
  | statementDeclaration
  | statementAssignment
  | statementCondition
  | statementLoop
  | statementMethodDeclaration
  | statementMethodCall
  | statementReturn
  | statementEmpty
  | declaration
  | typeInt
  | typeFloat
  | typeString
  | typeBool
  | assignment
  | condition
  | optionalElseElse
  | optionalElseEmpty
  | loop
  | methodDeclaration
  | optionalParamsList
  | optionalParamsEmpty
  | paramList
  | paramTailComma
  | paramTailEmpty
  | param
  | methodCall
  | optionalArgsList
  | optionalArgsEmpty
  | argList
  | argTailComma
  | argTailEmpty
  | returnStatement
  | expression
  | logicalOrOr
  | logicalOrFromAnd
  | logicalAndAnd
  | logicalAndFromEquality
  | equalityEq
  | equalityNeq
  | equalityFromRelational
  | relationalLt
  | relationalGt
  | relationalFromAdditive
  | additivePlus
  | additiveMinus
  | additiveFromMultiplicative
  | multiplicativeTimes
  | multiplicativeDivide
  | multiplicativeFromFactor
  | factorIdentifier
  | factorNumber
  | factorStringLiteral
  | factorTrue
  | factorFalse
  | factorParens
  | factorMethodCall
  | factorNot
  | factorPlus
  | factorMinus
  | empty
deriving DecidableEq

namespace Rule

def all : List Rule := [
  .program, .statementList, .statementDeclaration, .statementAssignment, .statementCondition,
  .statementLoop, .statementMethodDeclaration, .statementMethodCall, .statementReturn,
  .statementEmpty, .declaration, .typeInt, .typeFloat, .typeString, .typeBool, .assignment,
  .condition, .optionalElseElse, .optionalElseEmpty, .loop, .methodDeclaration,
  .optionalParamsList, .optionalParamsEmpty, .paramList, .paramTailComma, .paramTailEmpty,
  .param, .methodCall, .optionalArgsList, .optionalArgsEmpty, .argList, .argTailComma,
  .argTailEmpty, .returnStatement, .expression, .logicalOrOr, .logicalOrFromAnd, .logicalAndAnd,
  .logicalAndFromEquality, .equalityEq, .equalityNeq, .equalityFromRelational, .relationalLt,
  .relationalGt, .relationalFromAdditive, .additivePlus, .additiveMinus,
  .additiveFromMultiplicative, .multiplicativeTimes, .multiplicativeDivide,
  .multiplicativeFromFactor, .factorIdentifier, .factorNumber, .factorStringLiteral, .factorTrue,
  .factorFalse, .factorParens, .factorMethodCall, .factorNot, .factorPlus, .factorMinus, .empty
]

def id (r : Rule) : Nat := r.ctorIdx

def ofId? (n : Nat) : Option Rule := all[n]?

def lhs : Rule → Symbol
  | .program => .program
  | .statementList => .statementList
  | .statementDeclaration => .statement
  | .statementAssignment => .statement
  | .statementCondition => .statement
  | .statementLoop => .statement
  | .statementMethodDeclaration => .statement
  | .statementMethodCall => .statement
  | .statementReturn => .statement
  | .statementEmpty => .statement
  | .declaration => .declaration
  | .typeInt => .type
  | .typeFloat => .type
  | .typeString => .type
  | .typeBool => .type
  | .assignment => .assignment
  | .condition => .condition
  | .optionalElseElse => .optionalElse
  | .optionalElseEmpty => .optionalElse
  | .loop => .loop
  | .methodDeclaration => .methodDeclaration
  | .optionalParamsList => .optionalParams
  | .optionalParamsEmpty => .optionalParams
  | .paramList => .paramList
  | .paramTailComma => .paramTail
  | .paramTailEmpty => .paramTail
  | .param => .param
  | .methodCall => .methodCall
  | .optionalArgsList => .optionalArgs
  | .optionalArgsEmpty => .optionalArgs
  | .argList => .argList
  | .argTailComma => .argTail
  | .argTailEmpty => .argTail
  | .returnStatement => .returnStatement
  | .expression => .expression
  | .logicalOrOr => .logicalOrExpr
  | .logicalOrFromAnd => .logicalOrExpr
  | .logicalAndAnd => .logicalAndExpr
  | .logicalAndFromEquality => .logicalAndExpr
  | .equalityEq => .equalityExpr
  | .equalityNeq => .equalityExpr
  | .equalityFromRelational => .equalityExpr
  | .relationalLt => .relationalExpr
  | .relationalGt => .relationalExpr
  | .relationalFromAdditive => .relationalExpr
  | .additivePlus => .additiveExpr
  | .additiveMinus => .additiveExpr
  | .additiveFromMultiplicative => .additiveExpr
  | .multiplicativeTimes => .multiplicativeExpr
  | .multiplicativeDivide => .multiplicativeExpr
  | .multiplicativeFromFactor => .multiplicativeExpr
  | .factorIdentifier => .factor
  | .factorNumber => .factor
  | .factorStringLiteral => .factor
  | .factorTrue => .factor
  | .factorFalse => .factor
  | .factorParens => .factor
  | .factorMethodCall => .factor
  | .factorNot => .factor
  | .factorPlus => .factor
  | .factorMinus => .factor
  | .empty => .empty

def rhs : Rule → List Symbol
  | .program => [.startKw, .statementList, .endKw]
  | .statementList => [.statement, .statementList]
  | .statementDeclaration => [.declaration]
  | .statementAssignment => [.assignment]
  | .statementCondition => [.condition]
  | .statementLoop => [.loop]
  | .statementMethodDeclaration => [.methodDeclaration]
  | .statementMethodCall => [.methodCall]
  | .statementReturn => [.returnStatement]
  | .statementEmpty => [.empty]
  | .declaration => [.varKw, .identifier, .colon, .type, .semi]
  | .typeInt => [.intKw]
  | .typeFloat => [.floatKw]
  | .typeString => [.stringKw]
  | .typeBool => [.boolKw]
  | .assignment => [.identifier, .assign, .expression, .semi]
  | .condition => [.ifKw, .expression, .thenKw, .statementList, .optionalElse, .endKw]
  | .optionalElseElse => [.elseKw, .statementList]
  | .optionalElseEmpty => [.empty]
  | .loop => [.whileKw, .expression, .doKw, .statementList, .endKw]
  | .methodDeclaration =>
    [.functionKw, .identifier, .lParen, .optionalParams, .rParen, .colon, .type, .beginKw,
    .statementList, .endKw]
  | .optionalParamsList => [.paramList]
  | .optionalParamsEmpty => [.empty]
  | .paramList => [.param, .paramTail]
  | .paramTailComma => [.comma, .param, .paramTail]
  | .paramTailEmpty => [.empty]
  | .param => [.identifier, .colon, .type]
  | .methodCall => [.identifier, .lParen, .optionalArgs, .rParen, .semi]
  | .optionalArgsList => [.argList]
  | .optionalArgsEmpty => [.empty]
  | .argList => [.expression, .argTail]
  | .argTailComma => [.comma, .expression, .argTail]
  | .argTailEmpty => [.empty]
  | .returnStatement => [.returnKw, .expression, .semi]
  | .expression => [.logicalOrExpr]
  | .logicalOrOr => [.logicalOrExpr, .orKw, .logicalAndExpr]
  | .logicalOrFromAnd => [.logicalAndExpr]
  | .logicalAndAnd => [.logicalAndExpr, .andKw, .equalityExpr]
  | .logicalAndFromEquality => [.equalityExpr]
  | .equalityEq => [.equalityExpr, .eq, .relationalExpr]
  | .equalityNeq => [.equalityExpr, .neq, .relationalExpr]
  | .equalityFromRelational => [.relationalExpr]
  | .relationalLt => [.relationalExpr, .lt, .additiveExpr]
  | .relationalGt => [.relationalExpr, .gt, .additiveExpr]
  | .relationalFromAdditive => [.additiveExpr]
  | .additivePlus => [.additiveExpr, .plus, .multiplicativeExpr]
  | .additiveMinus => [.additiveExpr, .minus, .multiplicativeExpr]
  | .additiveFromMultiplicative => [.multiplicativeExpr]
  | .multiplicativeTimes => [.multiplicativeExpr, .times, .factor]
  | .multiplicativeDivide => [.multiplicativeExpr, .divide, .factor]
  | .multiplicativeFromFactor => [.factor]
  | .factorIdentifier => [.identifier]
  | .factorNumber => [.number]
  | .factorStringLiteral => [.stringLiteral]
  | .factorTrue => [.trueKw]
  | .factorFalse => [.falseKw]
  | .factorParens => [.lParen, .expression, .rParen]
  | .factorMethodCall => [.methodCall]
  | .factorNot => [.notKw, .factor]
  | .factorPlus => [.plus, .factor]
  | .factorMinus => [.minus, .factor]
  | .empty => []

def arity (r : Rule) : Nat := r.rhs.length

def tag : Rule → String
  | .program => "Program"
  | .statementList => "StatementList"
  | .statementDeclaration => "StatementDeclaration"
  | .statementAssignment => "StatementAssignment"
  | .statementCondition => "StatementCondition"
  | .statementLoop => "StatementLoop"
  | .statementMethodDeclaration => "StatementMethodDeclaration"
  | .statementMethodCall => "StatementMethodCall"
  | .statementReturn => "StatementReturn"
  | .statementEmpty => "StatementEmpty"
  | .declaration => "Declaration"
  | .typeInt => "TypeInt"
  | .typeFloat => "TypeFloat"
  | .typeString => "TypeString"
  | .typeBool => "TypeBool"
  | .assignment => "Assignment"
  | .condition => "Condition"
  | .optionalElseElse => "OptionalElseElse"
  | .optionalElseEmpty => "OptionalElseEmpty"
  | .loop => "Loop"
  | .methodDeclaration => "MethodDeclaration"
  | .optionalParamsList => "OptionalParamsList"
  | .optionalParamsEmpty => "OptionalParamsEmpty"
  | .paramList => "ParamList"
  | .paramTailComma => "ParamTailComma"
  | .paramTailEmpty => "ParamTailEmpty"
  | .param => "Param"
  | .methodCall => "MethodCall"
  | .optionalArgsList => "OptionalArgsList"
  | .optionalArgsEmpty => "OptionalArgsEmpty"
  | .argList => "ArgList"
  | .argTailComma => "ArgTailComma"
  | .argTailEmpty => "ArgTailEmpty"
  | .returnStatement => "ReturnStatement"
  | .expression => "Expression"
  | .logicalOrOr => "LogicalOrOr"
  | .logicalOrFromAnd => "LogicalOrFromAnd"
  | .logicalAndAnd => "LogicalAndAnd"
  | .logicalAndFromEquality => "LogicalAndFromEquality"
  | .equalityEq => "EqualityEq"
  | .equalityNeq => "EqualityNeq"
  | .equalityFromRelational => "EqualityFromRelational"
  | .relationalLt => "RelationalLt"
  | .relationalGt => "RelationalGt"
  | .relationalFromAdditive => "RelationalFromAdditive"
  | .additivePlus => "AdditivePlus"
  | .additiveMinus => "AdditiveMinus"
  | .additiveFromMultiplicative => "AdditiveFromMultiplicative"
  | .multiplicativeTimes => "MultiplicativeTimes"
  | .multiplicativeDivide => "MultiplicativeDivide"
  | .multiplicativeFromFactor => "MultiplicativeFromFactor"
  | .factorIdentifier => "FactorIdentifier"
  | .factorNumber => "FactorNumber"
  | .factorStringLiteral => "FactorStringLiteral"
  | .factorTrue => "FactorTrue"
  | .factorFalse => "FactorFalse"
  | .factorParens => "FactorParens"
  | .factorMethodCall => "FactorMethodCall"
  | .factorNot => "FactorNot"
  | .factorPlus => "FactorPlus"
  | .factorMinus => "FactorMinus"
  | .empty => "Empty"

end Rule

/--
The text of a production: its left-hand side, `::=`, and the symbols of its right-hand side.
-/
def productionText (lhs : Symbol) (rhs : List Symbol) : String :=
  rhs.foldl (fun text s => text ++ " " ++ s.name) (lhs.name ++ " ::=")

def Rule.text (r : Rule) : String := productionText r.lhs r.rhs

end StartEnd
