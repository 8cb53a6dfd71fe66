import StartEnd.Diagnostic.Basic
import StartEnd.Text.Lines
import StartEnd.Text.Padding

/-!
This module contains the texts of diagnostics: a single line, and a snippet that points at the
place in the source.
-/

namespace StartEnd

namespace DiagnosticKind

def title : DiagnosticKind → String
  | .tokenError => "Token error"
  | .parseError => "Parse error"
  | .nestingLimit => "Nesting limit"
  | .internal => "Internal error"

def code : DiagnosticKind → String
  | .tokenError => "token"
  | .parseError => "syntax"
  | .nestingLimit => "nesting"
  | .internal => "internal"

def tag : DiagnosticKind → String
  | .tokenError => "TokenError"
  | .parseError => "ParseError"
  | .nestingLimit => "NestingLimit"
  | .internal => "Internal"

end DiagnosticKind

namespace Diagnostic

def expectedClause (d : Diagnostic) : String :=
  "expected one of: " ++ ", ".intercalate (d.expected.map Symbol.name)

def text (d : Diagnostic) : String :=
  d.kind.title ++ " at line " ++ toString d.location.line ++ ", column "
    ++ toString d.location.column ++ ": " ++ d.message
    ++ if d.expected.isEmpty then "" else "; " ++ d.expectedClause

/--
The line of a source text with the given number, or an empty line if there is none.
-/
def sourceLine (source : String) (number : Nat) : String :=
  ((Text.lines source)[number - 1]?).getD ""

/--
What stands under a line in front of the given column. Tabs are kept, so that it is as wide as the
text above it, and it ends where the line does.
-/
def caretIndent (line : String) (column : Nat) : String :=
  String.ofList ((line.toList.take (column - 1)).map fun c => if c = '\t' then '\t' else ' ')

def gutter (d : Diagnostic) : Nat := max (toString d.location.line).length 2

/--
The rows of a snippet of the source with a caret under the place of a diagnostic.
-/
def rows (d : Diagnostic) (source file : String) : List String :=
  let blank := Text.spaces d.gutter
  let number := Text.padLeft d.gutter (toString d.location.line)
  let line := sourceLine source d.location.line
  ["error[" ++ d.kind.code ++ "]: " ++ d.message,
    blank ++ "--> " ++ file ++ ":" ++ d.location.text,
    blank ++ " |",
    number ++ " | " ++ line,
    blank ++ " | " ++ caretIndent line d.location.column ++ "^"]
    ++ if d.expected.isEmpty then [] else [blank ++ " = " ++ d.expectedClause]

def render (d : Diagnostic) (source file : String) : String := "\n".intercalate (d.rows source file)

end Diagnostic

end StartEnd
