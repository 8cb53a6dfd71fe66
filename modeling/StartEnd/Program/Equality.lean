import StartEnd.Program.Basic

/-!
This module contains the comparison of programs. Numbers with a fraction are compared as numbers,
so a program that contains a NaN differs from itself.
-/

namespace StartEnd

mutual

def Expr.beq : Expr → Expr → Bool
  | .literal v l, .literal v' l' => v == v' && l == l'
  | .var n l, .var n' l' => n == n' && l == l'
  | .binary op a b l, .binary op' a' b' l' => op == op' && a.beq a' && b.beq b' && l == l'
  | .unary op a l, .unary op' a' l' => op == op' && a.beq a' && l == l'
  | .call n as l, .call n' as' l' => n == n' && Expr.beqList as as' && l == l'
  | _, _ => false

def Expr.beqList : List Expr → List Expr → Bool
  | [], [] => true
  | a :: as, b :: bs => a.beq b && Expr.beqList as bs
  | _, _ => false

end

instance : BEq Expr := ⟨Expr.beq⟩

deriving instance BEq for Call

mutual

def Stmt.beq : Stmt → Stmt → Bool
  | .varDecl n t l, .varDecl n' t' l' => n == n' && t == t' && l == l'
  | .assign n e l, .assign n' e' l' => n == n' && e == e' && l == l'
  | .cond e t f l, .cond e' t' f' l' =>
    e == e' && Stmt.beqBlock t t' && Stmt.beqElse f f' && l == l'
  | .loop e b l, .loop e' b' l' => e == e' && Stmt.beqBlock b b' && l == l'
  | .funcDecl n ps t b l, .funcDecl n' ps' t' b' l' =>
    n == n' && ps == ps' && t == t' && Stmt.beqBlock b b' && l == l'
  | .call c, .call c' => c == c'
  | .ret e l, .ret e' l' => e == e' && l == l'
  | _, _ => false

def Stmt.beqBlock : List Stmt → List Stmt → Bool
  | [], [] => true
  | a :: as, b :: bs => a.beq b && Stmt.beqBlock as bs
  | _, _ => false

def Stmt.beqElse : Option (List Stmt) → Option (List Stmt) → Bool
  | none, none => true
  | some as, some bs => Stmt.beqBlock as bs
  | _, _ => false

end

instance : BEq Stmt := ⟨Stmt.beq⟩

deriving instance BEq for Program

end StartEnd
