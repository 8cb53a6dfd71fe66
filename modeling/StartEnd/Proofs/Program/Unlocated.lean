import StartEnd.Session

/-!
This module contains programs, tokens and diagnostics without their places in a source text. Two of
them are equal up to their places if they are equal once all places are forgotten.
-/

namespace StartEnd

def Token.unlocated (t : Token) : Token := { t with location := .start }

def Param.unlocated (p : Param) : Param := { p with location := .start }

mutual

def Expr.unlocated : Expr → Expr
  | .literal value _ => .literal value .start
  | .var name _ => .var name .start
  | .binary op left right _ => .binary op left.unlocated right.unlocated .start
  | .unary op operand _ => .unary op operand.unlocated .start
  | .call name args _ => .call name (Expr.unlocatedList args) .start

def Expr.unlocatedList : List Expr → List Expr
  | [] => []
  | e :: es => e.unlocated :: Expr.unlocatedList es

end

def Call.unlocated (c : Call) : Call := ⟨c.name, Expr.unlocatedList c.args, .start⟩

mutual

def Stmt.unlocated : Stmt → Stmt
  | .varDecl name type _ => .varDecl name type .start
  | .assign target value _ => .assign target value.unlocated .start
  | .cond condition thenBranch elseBranch _ =>
    .cond condition.unlocated (Stmt.unlocatedBlock thenBranch) (Stmt.unlocatedElse elseBranch) .start
  | .loop condition body _ => .loop condition.unlocated (Stmt.unlocatedBlock body) .start
  | .funcDecl name params returnType body _ =>
    .funcDecl name (params.map Param.unlocated) returnType (Stmt.unlocatedBlock body) .start
  | .call c => .call c.unlocated
  | .ret value _ => .ret value.unlocated .start

def Stmt.unlocatedBlock : List Stmt → List Stmt
  | [] => []
  | s :: ss => s.unlocated :: Stmt.unlocatedBlock ss

def Stmt.unlocatedElse : Option (List Stmt) → Option (List Stmt)
  | none => none
  | some body => some (Stmt.unlocatedBlock body)

end

def Program.unlocated (p : Program) : Program := ⟨Stmt.unlocatedBlock p.statements, .start⟩

def Diagnostic.unlocated (d : Diagnostic) : Diagnostic :=
  { d with token := d.token.map Token.unlocated, location := .start }

def Outcome.unlocated (o : Outcome) : Outcome :=
  (o.map Program.unlocated).mapError (List.map Diagnostic.unlocated)

def SyntaxError.unlocated : SyntaxError → SyntaxError
  | .diagnostics list => .diagnostics (list.map Diagnostic.unlocated)

end StartEnd
