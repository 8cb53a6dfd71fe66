import Mathlib.Algebra.BigOperators.Group.List.Basic
import Mathlib.Algebra.Order.Group.Multiset
import Mathlib.Data.Multiset.Replicate
import Mathlib.Tactic.Abel
import StartEnd.Program.Basic
import StartEnd.Rule

/-!
This module contains the constructs of a program, wherever they are nested, and the rules that make
them. The rules for parentheses and for levels of operators leave no trace in a program.
-/

namespace StartEnd

namespace Expr

mutual

/--
An expression and all expressions inside it.
-/
def all : Expr → List Expr
  | .literal value l => [.literal value l]
  | .var name l => [.var name l]
  | .binary op left right l => .binary op left right l :: (left.all ++ right.all)
  | .unary op operand l => .unary op operand l :: operand.all
  | .call name args l => .call name args l :: allOf args

def allOf : List Expr → List Expr
  | [] => []
  | e :: es => e.all ++ allOf es

end

end Expr

namespace Stmt

/--
The expressions of a statement and all expressions inside them, those of statements inside it apart.
-/
def exprs : Stmt → List Expr
  | .varDecl _ _ _ => []
  | .assign _ value _ => value.all
  | .cond condition _ _ _ => condition.all
  | .loop condition _ _ => condition.all
  | .funcDecl _ _ _ _ _ => []
  | .call c => Expr.allOf c.args
  | .ret value _ => value.all

def params : Stmt → List Param
  | .funcDecl _ params _ _ _ => params
  | _ => []

mutual

/--
All statements inside a statement.
-/
def inner : Stmt → List Stmt
  | .cond _ thenBranch elseBranch _ => allOf thenBranch ++ allOfElse elseBranch
  | .loop _ body _ => allOf body
  | .funcDecl _ _ _ body _ => allOf body
  | _ => []

/--
The statements of a list and all statements inside them.
-/
def allOf : List Stmt → List Stmt
  | [] => []
  | s :: ss => s :: (inner s ++ allOf ss)

def allOfElse : Option (List Stmt) → List Stmt
  | none => []
  | some body => allOf body

end

end Stmt

namespace Program

/--
All statements of a program.
-/
def stmts (p : Program) : List Stmt := Stmt.allOf p.statements

/--
All expressions of a program.
-/
def exprs (p : Program) : List Expr := p.stmts.flatMap Stmt.exprs

def params (p : Program) : List Param := p.stmts.flatMap Stmt.params

end Program

namespace Rule

/--
The statements that a rule makes, be it as a whole or one branch of a conditional.
-/
def makesStmt : Rule → Stmt → Bool
  | .declaration => (· matches .varDecl _ _ _)
  | .assignment => (· matches .assign _ _ _)
  | .condition => (· matches .cond _ _ _ _)
  | .optionalElseElse => (· matches .cond _ _ (some _) _)
  | .optionalElseEmpty => (· matches .cond _ _ none _)
  | .loop => (· matches .loop _ _ _)
  | .methodDeclaration => (· matches .funcDecl _ _ _ _ _)
  | .methodCall => (· matches .call _)
  | .statementMethodCall => (· matches .call _)
  | .returnStatement => (· matches .ret _ _)
  | _ => fun _ => false

/--
The expressions that a rule makes.
-/
def makesExpr : Rule → Expr → Bool
  | .methodCall => (· matches .call _ _ _)
  | .factorMethodCall => (· matches .call _ _ _)
  | .logicalOrOr => (· matches .binary .or _ _ _)
  | .logicalAndAnd => (· matches .binary .and _ _ _)
  | .equalityEq => (· matches .binary .eq _ _ _)
  | .equalityNeq => (· matches .binary .neq _ _ _)
  | .relationalLt => (· matches .binary .lt _ _ _)
  | .relationalGt => (· matches .binary .gt _ _ _)
  | .additivePlus => (· matches .binary .add _ _ _)
  | .additiveMinus => (· matches .binary .sub _ _ _)
  | .multiplicativeTimes => (· matches .binary .mul _ _ _)
  | .multiplicativeDivide => (· matches .binary .div _ _ _)
  | .factorIdentifier => (· matches .var _ _)
  | .factorNumber => (· matches .literal (.integer _) _ | .literal (.float _) _)
  | .factorStringLiteral => (· matches .literal (.string _) _)
  | .factorTrue => (· matches .literal (.bool true) _)
  | .factorFalse => (· matches .literal (.bool false) _)
  | .factorNot => (· matches .unary .not _ _)
  | .factorPlus => (· matches .unary .pos _ _)
  | .factorMinus => (· matches .unary .neg _ _)
  | _ => fun _ => false

/--
The rules that make statements and expressions.
-/
def makers : List Rule := [
  .statementMethodCall, .declaration, .assignment, .condition, .optionalElseElse,
  .optionalElseEmpty, .loop, .methodDeclaration, .methodCall, .returnStatement, .logicalOrOr,
  .logicalAndAnd, .equalityEq, .equalityNeq, .relationalLt, .relationalGt, .additivePlus,
  .additiveMinus, .multiplicativeTimes, .multiplicativeDivide, .factorIdentifier, .factorNumber,
  .factorStringLiteral, .factorTrue, .factorFalse, .factorMethodCall, .factorNot, .factorPlus,
  .factorMinus
]

end Rule

section Rules

def Literal.rule : Literal → Rule
  | .integer _ => .factorNumber
  | .float _ => .factorNumber
  | .string _ => .factorStringLiteral
  | .bool true => .factorTrue
  | .bool false => .factorFalse

def BinOp.rule : BinOp → Rule
  | .or => .logicalOrOr
  | .and => .logicalAndAnd
  | .eq => .equalityEq
  | .neq => .equalityNeq
  | .lt => .relationalLt
  | .gt => .relationalGt
  | .add => .additivePlus
  | .sub => .additiveMinus
  | .mul => .multiplicativeTimes
  | .div => .multiplicativeDivide

def UnOp.rule : UnOp → Rule
  | .not => .factorNot
  | .pos => .factorPlus
  | .neg => .factorMinus

/--
The rules that make an expression of the expressions inside it.
-/
def Expr.rules : Expr → Multiset Rule
  | .literal value _ => {value.rule}
  | .var _ _ => {.factorIdentifier}
  | .binary op _ _ _ => {op.rule}
  | .unary op _ _ => {op.rule}
  | .call _ _ _ => {.factorMethodCall} + {.methodCall}

/--
The rules that make a statement of the expressions and statements inside it. Each list of statements
in it is closed once.
-/
def Stmt.rules : Stmt → Multiset Rule
  | .varDecl _ _ _ => {.declaration}
  | .assign _ _ _ => {.assignment}
  | .cond _ _ none _ => {.condition} + {.statementEmpty} + {.optionalElseEmpty}
  | .cond _ _ (some _) _ =>
    {.condition} + {.statementEmpty} + ({.optionalElseElse} + {.statementEmpty})
  | .loop _ _ _ => {.loop} + {.statementEmpty}
  | .funcDecl _ params _ _ _ =>
    {.methodDeclaration} + Multiset.replicate params.length .param + {.statementEmpty}
  | .call _ => {.statementMethodCall} + {.methodCall}
  | .ret _ _ => {.returnStatement}

/--
The rules that make an expression and all expressions inside it.
-/
def Expr.allRules (e : Expr) : Multiset Rule := (e.all.map rules).sum

def Expr.allRulesOf (list : List Expr) : Multiset Rule := ((allOf list).map rules).sum

def Call.allRules (c : Call) : Multiset Rule := {.methodCall} + Expr.allRulesOf c.args

/--
The rules that make a statement of a list and the expressions in it, but not the statements inside
it. The rule of the list joins the statement to those behind it.
-/
def Stmt.listedRules (s : Stmt) : Multiset Rule :=
  {.statementList} + (s.rules + (s.exprs.map Expr.rules).sum)

/--
The rules that make a statement with all that is inside it.
-/
def Stmt.allRules (s : Stmt) : Multiset Rule :=
  s.rules + (s.exprs.map Expr.rules).sum + (s.inner.map listedRules).sum

/--
The rules that make a list of statements with all that is inside them.
-/
def Stmt.allRulesOf (list : List Stmt) : Multiset Rule :=
  {.statementEmpty} + ((allOf list).map listedRules).sum

def Program.allRules (p : Program) : Multiset Rule := Stmt.allRulesOf p.statements

end Rules

namespace Expr

variable {l : Location}

@[simp]
theorem allRules_literal (value : Literal) : (literal value l).allRules = {value.rule} := by
  simp [allRules, all, rules]

@[simp]
theorem allRules_var (name : String) : (var name l).allRules = {.factorIdentifier} := by
  simp [allRules, all, rules]

@[simp]
theorem allRules_binary (op : BinOp) (left right : Expr) :
    (binary op left right l).allRules = {op.rule} + left.allRules + right.allRules := by
  simp only [allRules, all, rules, List.map_cons, List.map_append, List.sum_cons, List.sum_append,
    add_assoc]

@[simp]
theorem allRules_unary (op : UnOp) (operand : Expr) :
    (unary op operand l).allRules = {op.rule} + operand.allRules := by
  simp only [allRules, all, rules, List.map_cons, List.sum_cons]

@[simp]
theorem allRulesOf_nil : allRulesOf [] = 0 := by
  simp [allRulesOf, allOf]

@[simp]
theorem allRulesOf_cons (e : Expr) (es : List Expr) :
    allRulesOf (e :: es) = e.allRules + allRulesOf es := by
  simp only [allRulesOf, allRules, allOf, List.map_append, List.sum_append]

end Expr

@[simp]
theorem Call.allRules_toExpr (c : Call) : c.toExpr.allRules = {.factorMethodCall} + c.allRules := by
  simp only [Call.toExpr, Expr.allRules, Expr.all, Expr.rules, Call.allRules, Expr.allRulesOf,
    List.map_cons, List.sum_cons, ← add_assoc]

namespace Stmt

variable {l : Location}

@[simp]
theorem allRulesOf_nil : allRulesOf [] = {.statementEmpty} := by
  simp [allRulesOf, allOf]

@[simp]
theorem allRulesOf_cons (s : Stmt) (ss : List Stmt) :
    allRulesOf (s :: ss) = {.statementList} + s.allRules + allRulesOf ss := by
  simp only [allRulesOf, allRules, allOf, listedRules, List.map_cons, List.map_append,
    List.sum_cons, List.sum_append]
  abel

@[simp]
theorem allRules_varDecl (name : String) (type : TypeName) :
    (varDecl name type l).allRules = {.declaration} := by
  simp [allRules, rules, exprs, inner]

@[simp]
theorem allRules_assign (target : String) (value : Expr) :
    (assign target value l).allRules = {.assignment} + value.allRules := by
  simp [allRules, rules, exprs, inner, Expr.allRules]

@[simp]
theorem allRules_cond_none (condition : Expr) (thenBranch : List Stmt) :
    (cond condition thenBranch none l).allRules
      =
    {.condition} + condition.allRules + allRulesOf thenBranch + {.optionalElseEmpty} := by
  simp only [allRules, allRulesOf, rules, exprs, inner, allOfElse, Expr.allRules, List.append_nil]
  abel

@[simp]
theorem allRules_cond_some (condition : Expr) (thenBranch elseBranch : List Stmt) :
    (cond condition thenBranch (some elseBranch) l).allRules
      =
    {.condition} + condition.allRules + allRulesOf thenBranch
      + ({.optionalElseElse} + allRulesOf elseBranch) := by
  simp only [allRules, allRulesOf, rules, exprs, inner, allOfElse, Expr.allRules, List.map_append,
    List.sum_append]
  abel

@[simp]
theorem allRules_loop (condition : Expr) (body : List Stmt) :
    (loop condition body l).allRules = {.loop} + condition.allRules + allRulesOf body := by
  simp only [allRules, allRulesOf, rules, exprs, inner, Expr.allRules]
  abel

@[simp]
theorem allRules_funcDecl (name : String) (params : List Param) (type : TypeName)
    (body : List Stmt) :
    (funcDecl name params type body l).allRules
      =
    {.methodDeclaration} + Multiset.replicate params.length .param + allRulesOf body := by
  simp only [allRules, allRulesOf, rules, exprs, inner, List.map_nil, List.sum_nil]
  abel

@[simp]
theorem allRules_call (c : Call) : (call c).allRules = {.statementMethodCall} + c.allRules := by
  simp only [allRules, rules, exprs, inner, Call.allRules, Expr.allRulesOf, List.map_nil,
    List.sum_nil]
  abel

@[simp]
theorem allRules_ret (value : Expr) :
    (ret value l).allRules = {.returnStatement} + value.allRules := by
  simp [allRules, rules, exprs, inner, Expr.allRules]

end Stmt

end StartEnd
