import StartEnd.Decimal.Layout
import StartEnd.Json.Basic
import StartEnd.Token.Basic

/-!
This module contains the JSON form of tokens. Alternatives are told apart by tags, and numbers that
are not finite have no JSON form.
-/

namespace StartEnd

def Location.toJson (l : Location) : Json :=
  .record [("line", .ofNat l.line), ("column", .ofNat l.column)]

def Symbol.toJson (s : Symbol) : Json := .ofString s.tag

def Json.ofFloat (x : Float) : Json :=
  if x.isFinite then .decimal (Decimal.Layout.stored.text x) else .null

def TokenValue.toJson : TokenValue → Json
  | .name n => .tagged "Name" (.ofString n)
  | .integer n => .tagged "Integer" (.integer n)
  | .float x => .tagged "Float" (.ofFloat x)
  | .text content => .tagged "Text" (.ofString content)
  | .boolean b => .tagged "Boolean" (.bool b)
  | .invalid reason => .tagged "Invalid" (.ofString reason)

def Token.toJson (t : Token) : Json :=
  .record [("symbol", t.symbol.toJson), ("value", (t.value.map TokenValue.toJson).getD .null),
    ("lexeme", .ofString t.lexeme), ("location", t.location.toJson)]

end StartEnd
