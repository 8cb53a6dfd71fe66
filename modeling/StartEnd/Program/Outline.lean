import StartEnd.Program.Basic
import StartEnd.Decimal.Layout
import StartEnd.Text.Quoted

/-!
This module contains the texts that show a program: expressions in functional notation, such as
`Add(1, Mul(2, 3))`, and the indented outline of a program with one line per node.
-/

namespace StartEnd

namespace TypeName

def keyword : TypeName → String
  | .int => "int"
  | .float => "float"
  | .string => "string"
  | .bool => "bool"

end TypeName

namespace BinOp

def name : BinOp → String
  | .or => "Or"
  | .and => "And"
  | .eq => "Eq"
  | .neq => "Neq"
  | .lt => "Lt"
  | .gt => "Gt"
  | .add => "Add"
  | .sub => "Sub"
  | .mul => "Mul"
  | .div => "Div"

end BinOp

namespace UnOp

def name : UnOp → String
  | .not => "Not"
  | .pos => "Pos"
  | .neg => "Neg"

end UnOp

/--
The text of a literal: strings are quoted, and numbers with a fraction show their shortest digits.
-/
def Literal.text : Literal → String
  | .integer n => toString n
  | .float x => Decimal.displayedText x
  | .string s => Text.quoted s
  | .bool b => toString b

def application (name : String) (args : List String) : String :=
  name ++ "(" ++ ", ".intercalate args ++ ")"

mutual

def Expr.text : Expr → String
  | .literal value _ => value.text
  | .var name _ => name
  | .binary op left right _ => application op.name [left.text, right.text]
  | .unary op operand _ => application op.name [operand.text]
  | .call name args _ => application name (Expr.texts args)

def Expr.texts : List Expr → List String
  | [] => []
  | e :: es => e.text :: Expr.texts es

end

def Call.text (c : Call) : String := c.toExpr.text

def Param.text (p : Param) : String := p.name ++ ": " ++ p.type.keyword

def outlineLine (depth : Nat) (text : String) : String :=
  String.ofList (List.replicate (2 * depth) ' ') ++ text

mutual

def Stmt.outline (depth : Nat) : Stmt → List String
  | .varDecl name type _ => [outlineLine depth ("VarDecl " ++ name ++ ": " ++ type.keyword)]
  | .assign target value _ => [outlineLine depth ("Assign " ++ target ++ " := " ++ value.text)]
  | .cond condition thenBranch elseBranch _ =>
    outlineLine depth ("If " ++ condition.text) :: outlineLine (depth + 1) "then"
      :: Stmt.outlineBlock (depth + 2) thenBranch ++ Stmt.outlineElse depth elseBranch
  | .loop condition body _ =>
    outlineLine depth ("While " ++ condition.text) :: Stmt.outlineBlock (depth + 1) body
  | .funcDecl name params returnType body _ =>
    outlineLine depth
        ("FuncDecl " ++ application name (params.map Param.text) ++ ": " ++ returnType.keyword)
      :: Stmt.outlineBlock (depth + 1) body
  | .call c => [outlineLine depth ("Call " ++ c.text)]
  | .ret value _ => [outlineLine depth ("Return " ++ value.text)]

def Stmt.outlineBlock (depth : Nat) : List Stmt → List String
  | [] => []
  | s :: ss => s.outline depth ++ Stmt.outlineBlock depth ss

/--
The lines of the second branch of a conditional that stands at the given depth.
-/
def Stmt.outlineElse (depth : Nat) : Option (List Stmt) → List String
  | none => []
  | some body => outlineLine (depth + 1) "else" :: Stmt.outlineBlock (depth + 2) body

end

def Program.outline (p : Program) : List String :=
  ("Program (" ++ toString p.statements.length ++ " statements)")
    :: Stmt.outlineBlock 1 p.statements

end StartEnd
