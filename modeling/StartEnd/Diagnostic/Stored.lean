import StartEnd.Diagnostic.Render
import StartEnd.Token.Stored

/-!
This module contains the JSON form of diagnostics.
-/

namespace StartEnd.Diagnostic

def fields (d : Diagnostic) : List (String × Json) :=
  [("kind", .ofString d.kind.tag), ("message", .ofString d.message),
    ("token", (d.token.map Token.toJson).getD .null), ("location", d.location.toJson),
    ("expected", .array (d.expected.map Symbol.toJson))]

def toJson (d : Diagnostic) : Json := .record d.fields

end StartEnd.Diagnostic
