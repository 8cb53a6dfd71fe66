import StartEnd.Program.Stored
import StartEnd.Reduction.Node

/-!
This module contains the JSON form of parse nodes.
-/

namespace StartEnd.Node

def toJson : Node → Json
  | .token t => t.toJson
  | .absent => .null
  | .program p => p.toJson
  | .statements list => .array (Stmt.blockToJson list)
  | .stmt s => s.toJson
  | .call c => c.toJson
  | .type t location => .array [t.toJson, .ofString location.text]
  | .params list => .array (list.map Param.toJson)
  | .param p => p.toJson
  | .args list => .array (Expr.listToJson list)
  | .expr e => e.toJson

end StartEnd.Node
