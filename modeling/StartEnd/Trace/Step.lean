import StartEnd.Diagnostic.Render
import StartEnd.Rule
import StartEnd.Text.Padding

/-!
This module contains the steps by which a parse is shown: what was done, the symbols on the stack
afterwards, and the place where it happened.
-/

namespace StartEnd

inductive TraceAction where
  | shift (symbol : Symbol) (lexeme : String)
  | reduce (r : Rule)
  | accept
  | halt (kind : DiagnosticKind)
deriving DecidableEq

/--
A step of a parse. The stack is given with its earliest symbol first.
-/
structure TraceStep where
  action : TraceAction
  stack : List Symbol
  location : Location
deriving DecidableEq

namespace TraceAction

def text : TraceAction → String
  | .shift symbol lexeme => "shift " ++ symbol.name ++ " '" ++ lexeme ++ "'"
  | .reduce r => "reduce " ++ Text.padLeft 2 (toString r.id) ++ ": " ++ r.text
  | .accept => "accept"
  | .halt kind => "halt (" ++ kind.title ++ ")"

end TraceAction

def TraceStep.stackText (s : TraceStep) : String := " ".intercalate (s.stack.map Symbol.name)

end StartEnd
