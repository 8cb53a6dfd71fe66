import StartEnd.Program.Basic
import StartEnd.Proofs.Derivation.Tree

/-!
This module contains what a derivation tree says: the program that is read off the tree of a
program. Lists are read in source order, and parentheses and empty statements leave nothing behind.
Names and literals are those of the tokens. A construct is located at its first token, and an
operator at the operator token.
-/

namespace StartEnd

/--
The operator that a terminal stands for between two operands.
-/
def Symbol.binOp? : Symbol → Option BinOp
  | .orKw => some .or
  | .andKw => some .and
  | .eq => some .eq
  | .neq => some .neq
  | .lt => some .lt
  | .gt => some .gt
  | .plus => some .add
  | .minus => some .sub
  | .times => some .mul
  | .divide => some .div
  | _ => none

/--
The operator that a terminal stands for in front of an operand.
-/
def Symbol.unOp? : Symbol → Option UnOp
  | .notKw => some .not
  | .plus => some .pos
  | .minus => some .neg
  | _ => none

def Symbol.typeName? : Symbol → Option TypeName
  | .intKw => some .int
  | .floatKw => some .float
  | .stringKw => some .string
  | .boolKw => some .bool
  | _ => none

/--
The name that an identifier carries.
-/
def Token.name? (t : Token) : Option String :=
  match t.value with
  | some (.name n) => some n
  | _ => none

/--
The literal that a token stands for.
-/
def Token.literal? (t : Token) : Option Literal :=
  match t.symbol, t.value with
  | .number, some (.integer n) => some (.integer n)
  | .number, some (.float x) => some (.float x)
  | .stringLiteral, some (.text s) => some (.string s)
  | .trueKw, _ => some (.bool true)
  | .falseKw, _ => some (.bool false)
  | _, _ => none

namespace Tree

mutual

/--
The expression that is derived from the symbol of expressions, of a level of binary operators or of
factors.
-/
def expr? : Tree → Option Expr
  | .node .factorIdentifier [.leaf t] => do return .var (← t.name?) t.location
  | .node .factorParens [_, e, _] => expr? e
  | .node .factorMethodCall [c] => do return (← call? c).toExpr
  | .node _ [.leaf t] => do return .literal (← t.literal?) t.location
  | .node _ [e] => expr? e
  | .node _ [.leaf op, e] => do return .unary (← op.symbol.unOp?) (← expr? e) op.location
  | .node _ [l, .leaf op, r] => do
    return .binary (← op.symbol.binOp?) (← expr? l) (← expr? r) op.location
  | _ => none

def call? : Tree → Option Call
  | .node .methodCall [.leaf name, _, args, _, _] => do
    return ⟨← name.name?, ← args? args, name.location⟩
  | _ => none

/--
The arguments of a call, or those that follow the first one.
-/
def args? : Tree → Option (List Expr)
  | .node .optionalArgsList [list] => args? list
  | .node .argList [e, tail] => do return (← expr? e) :: (← args? tail)
  | .node .argTailComma [_, e, tail] => do return (← expr? e) :: (← args? tail)
  | .node .optionalArgsEmpty _ => some []
  | .node .argTailEmpty _ => some []
  | _ => none

end

def type? : Tree → Option TypeName
  | .node _ [.leaf t] => t.symbol.typeName?
  | _ => none

def param? : Tree → Option Param
  | .node .param [.leaf name, _, type] => do return ⟨← name.name?, ← type? type, name.location⟩
  | _ => none

/--
The parameters of a function, or those that follow the first one.
-/
def params? : Tree → Option (List Param)
  | .node .optionalParamsList [list] => params? list
  | .node .paramList [p, tail] => do return (← param? p) :: (← params? tail)
  | .node .paramTailComma [_, p, tail] => do return (← param? p) :: (← params? tail)
  | .node .optionalParamsEmpty _ => some []
  | .node .paramTailEmpty _ => some []
  | _ => none

mutual

/--
The statement that is derived from the symbol of statements or of one kind of statement.
-/
def stmt? : Tree → Option Stmt
  | .node .declaration [.leaf word, .leaf name, _, type, _] => do
    return .varDecl (← name.name?) (← type? type) word.location
  | .node .assignment [.leaf target, _, value, _] => do
    return .assign (← target.name?) (← expr? value) target.location
  | .node .condition [.leaf word, test, _, thenBranch, elseBranch, _] => do
    return .cond (← expr? test) (← stmts? thenBranch) (← else? elseBranch) word.location
  | .node .loop [.leaf word, test, _, body, _] => do
    return .loop (← expr? test) (← stmts? body) word.location
  | .node .methodDeclaration [.leaf word, .leaf name, _, params, _, _, type, _, body, _] => do
    return .funcDecl (← name.name?) (← params? params) (← type? type) (← stmts? body) word.location
  | .node .returnStatement [.leaf word, value, _] => do return .ret (← expr? value) word.location
  | .node .statementMethodCall [c] => do return .call (← call? c)
  | .node _ [s] => stmt? s
  | _ => none

def stmts? : Tree → Option (List Stmt)
  | .node .statementList [s, tail] => do return (← stmt? s) :: (← stmts? tail)
  | .node .statementEmpty _ => some []
  | _ => none

/--
The second branch of a conditional, if there is one.
-/
def else? : Tree → Option (Option (List Stmt))
  | .node .optionalElseElse [_, list] => do return some (← stmts? list)
  | .node .optionalElseEmpty _ => some none
  | _ => none

end

def program? : Tree → Option Program
  | .node .program [.leaf word, list, _] => do return ⟨← stmts? list, word.location⟩
  | _ => none

end Tree

end StartEnd
