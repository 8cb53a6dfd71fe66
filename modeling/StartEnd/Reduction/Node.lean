import StartEnd.Program.Basic
import StartEnd.Token.Basic

/-!
This module contains the values that grammar symbols carry on a parse stack, and the shapes that a
production may demand of them.
-/

namespace StartEnd

/--
The value of a grammar symbol: a token, a piece of syntax, or nothing for an empty production.
-/
inductive Node where
  | token (t : Token)
  | absent
  | program (p : Program)
  | statements (list : List Stmt)
  | stmt (s : Stmt)
  | call (c : Call)
  | type (t : TypeName) (location : Location)
  | params (list : List Param)
  | param (p : Param)
  | args (list : List Expr)
  | expr (e : Expr)

namespace Node

def kindName : Node → String
  | .token _ => "token"
  | .absent => "empty"
  | .program _ => "program"
  | .statements _ => "statement list"
  | .stmt _ => "statement"
  | .call _ => "call"
  | .type _ _ => "type"
  | .params _ => "parameter list"
  | .param _ => "parameter"
  | .args _ => "argument list"
  | .expr _ => "expression"

def isAbsent : Node → Bool
  | .absent => true
  | _ => false

end Node

/--
What a production demands of a child. Lists may be given by an absent node, which stands for the
empty list.
-/
inductive Shape where
  | token
  | name
  | number
  | text
  | expr
  | stmt
  | stmtOrAbsent
  | statements
  | elseBranch
  | type
  | call
  | param
  | params
  | args
  | absent
deriving DecidableEq

namespace Shape

@[reducible]
def Content : Shape → Type
  | .token => Token
  | .name => String × Location
  | .number => Literal × Location
  | .text => Literal × Location
  | .expr => Expr
  | .stmt => Stmt
  | .stmtOrAbsent => Option Stmt
  | .statements => List Stmt
  | .elseBranch => Option (List Stmt)
  | .type => TypeName
  | .call => Call
  | .param => Param
  | .params => List Param
  | .args => List Expr
  | .absent => Unit

def read? : (s : Shape) → Node → Option s.Content
  | .token, .token t => some t
  | .name, .token t =>
    match t.value with
    | some (.name n) => some (n, t.location)
    | _ => none
  | .number, .token t =>
    match t.value with
    | some (.integer n) => some (.integer n, t.location)
    | some (.float x) => some (.float x, t.location)
    | _ => none
  | .text, .token t =>
    match t.value with
    | some (.text s) => some (.string s, t.location)
    | _ => none
  | .expr, .expr e => some e
  | .stmt, .stmt s => some s
  | .stmtOrAbsent, .stmt s => some (some s)
  | .stmtOrAbsent, .absent => some none
  | .statements, .statements list => some list
  | .statements, .absent => some []
  | .elseBranch, .statements list => some (some list)
  | .elseBranch, .absent => some none
  | .type, .type t _ => some t
  | .call, .call c => some c
  | .param, .param p => some p
  | .params, .params list => some list
  | .params, .absent => some []
  | .args, .args list => some list
  | .args, .absent => some []
  | .absent, .absent => some ()
  | _, _ => none

/--
What is missing in a node that does not have the shape. A literal is missed only in a token.
-/
def missing : Shape → Node → String
  | .token, _ => "token"
  | .name, _ => "identifier"
  | .number, .token _ => "number"
  | .number, _ => "token"
  | .text, .token _ => "string"
  | .text, _ => "token"
  | .expr, _ => "expression"
  | .stmt, _ => "statement"
  | .stmtOrAbsent, _ => "statement"
  | .statements, _ => "statement list"
  | .elseBranch, _ => "else branch"
  | .type, _ => "type"
  | .call, _ => "call"
  | .param, _ => "parameter"
  | .params, _ => "parameter list"
  | .args, _ => "argument list"
  | .absent, _ => "empty"

@[reducible]
def Contents : List Shape → Type
  | [] => Unit
  | s :: shapes => s.Content × Contents shapes

end Shape

end StartEnd
