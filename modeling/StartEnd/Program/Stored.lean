import StartEnd.Program.Outline
import StartEnd.Token.Stored

/-!
This module contains the JSON form of programs.
-/

namespace StartEnd

namespace TypeName

def tag : TypeName → String
  | .int => "Int"
  | .float => "Float"
  | .string => "String"
  | .bool => "Bool"

def toJson (t : TypeName) : Json := .ofString t.tag

end TypeName

def Literal.toJson : Literal → Json
  | .integer n => .tagged "Integer" (.integer n)
  | .float x => .tagged "Float" (.ofFloat x)
  | .string content => .tagged "Str" (.ofString content)
  | .bool b => .tagged "Bool" (.bool b)

def Param.toJson (p : Param) : Json :=
  .record [("name", .ofString p.name), ("param_type", p.type.toJson),
    ("location", p.location.toJson)]

def callToJson (name : String) (args : List Json) (location : Location) : Json :=
  .record [("name", .ofString name), ("args", .array args), ("location", location.toJson)]

mutual

def Expr.toJson : Expr → Json
  | .literal value location => .tagged "Literal" (.array [value.toJson, location.toJson])
  | .var name location => .tagged "Variable" (.array [.ofString name, location.toJson])
  | .binary op left right location =>
    .tagged "Binary" (.record [("op", .ofString op.name), ("left", left.toJson),
      ("right", right.toJson), ("location", location.toJson)])
  | .unary op operand location =>
    .tagged "Unary" (.record [("op", .ofString op.name), ("operand", operand.toJson),
      ("location", location.toJson)])
  | .call name args location => .tagged "Call" (callToJson name (Expr.listToJson args) location)

def Expr.listToJson : List Expr → List Json
  | [] => []
  | e :: es => e.toJson :: Expr.listToJson es

end

def Call.toJson (c : Call) : Json := callToJson c.name (Expr.listToJson c.args) c.location

mutual

def Stmt.toJson : Stmt → Json
  | .varDecl name type location =>
    .tagged "VarDecl" (.record [("name", .ofString name), ("declared_type", type.toJson),
      ("location", location.toJson)])
  | .assign target value location =>
    .tagged "Assign" (.record [("target", .ofString target), ("value", value.toJson),
      ("location", location.toJson)])
  | .cond condition thenBranch elseBranch location =>
    .tagged "If" (.record [("condition", condition.toJson),
      ("then_branch", .array (Stmt.blockToJson thenBranch)),
      ("else_branch", Stmt.elseToJson elseBranch), ("location", location.toJson)])
  | .loop condition body location =>
    .tagged "While" (.record [("condition", condition.toJson),
      ("body", .array (Stmt.blockToJson body)), ("location", location.toJson)])
  | .funcDecl name params returnType body location =>
    .tagged "FuncDecl" (.record [("name", .ofString name),
      ("params", .array (params.map Param.toJson)), ("return_type", returnType.toJson),
      ("body", .array (Stmt.blockToJson body)), ("location", location.toJson)])
  | .call c => .tagged "Call" c.toJson
  | .ret value location =>
    .tagged "Return" (.record [("value", value.toJson), ("location", location.toJson)])

def Stmt.blockToJson : List Stmt → List Json
  | [] => []
  | s :: ss => s.toJson :: Stmt.blockToJson ss

def Stmt.elseToJson : Option (List Stmt) → Json
  | none => .null
  | some body => .array (Stmt.blockToJson body)

end

def Program.toJson (p : Program) : Json :=
  .record [("statements", .array (Stmt.blockToJson p.statements)),
    ("location", p.location.toJson)]

end StartEnd
