import StartEnd.Location

/-!
This module contains the abstract syntax of Start/end programs. Parentheses and empty statements
have left no trace in it; every node remembers the place of its first token, and an operator node
the place of its operator.
-/

namespace StartEnd

inductive TypeName where
  | int
  | float
  | string
  | bool
deriving DecidableEq

inductive BinOp where
  | or
  | and
  | eq
  | neq
  | lt
  | gt
  | add
  | sub
  | mul
  | div
deriving DecidableEq

inductive UnOp where
  | not
  | pos
  | neg
deriving DecidableEq

inductive Literal where
  | integer (value : Int)
  | float (value : Float)
  | string (content : String)
  | bool (value : Bool)
deriving BEq

/--
A parameter of a function.
-/
structure Param where
  name : String
  type : TypeName
  location : Location
deriving DecidableEq

inductive Expr where
  | literal (value : Literal) (location : Location)
  | var (name : String) (location : Location)
  | binary (op : BinOp) (left right : Expr) (location : Location)
  | unary (op : UnOp) (operand : Expr) (location : Location)
  | call (name : String) (args : List Expr) (location : Location)

/--
A call of a function, which may stand as a statement or inside an expression.
-/
structure Call where
  name : String
  args : List Expr
  location : Location

def Call.toExpr (c : Call) : Expr := .call c.name c.args c.location

/--
The statements of the language. A conditional tells a missing `else` from an empty one.
-/
inductive Stmt where
  | varDecl (name : String) (type : TypeName) (location : Location)
  | assign (target : String) (value : Expr) (location : Location)
  | cond (condition : Expr) (thenBranch : List Stmt) (elseBranch : Option (List Stmt))
      (location : Location)
  | loop (condition : Expr) (body : List Stmt) (location : Location)
  | funcDecl (name : String) (params : List Param) (returnType : TypeName) (body : List Stmt)
      (location : Location)
  | call (call : Call)
  | ret (value : Expr) (location : Location)

structure Program where
  statements : List Stmt
  location : Location

namespace Expr

def location : Expr → Location
  | .literal _ l => l
  | .var _ l => l
  | .binary _ _ _ l => l
  | .unary _ _ l => l
  | .call _ _ l => l

end Expr

namespace Stmt

def location : Stmt → Location
  | .varDecl _ _ l => l
  | .assign _ _ l => l
  | .cond _ _ _ l => l
  | .loop _ _ l => l
  | .funcDecl _ _ _ _ l => l
  | .call c => c.location
  | .ret _ l => l

/--
The expression that a statement evaluates itself: the value that it assigns or returns, or its
condition.
-/
def expr? : Stmt → Option Expr
  | .assign _ value _ => some value
  | .ret value _ => some value
  | .cond condition _ _ _ => some condition
  | .loop condition _ _ => some condition
  | _ => none

end Stmt

end StartEnd
