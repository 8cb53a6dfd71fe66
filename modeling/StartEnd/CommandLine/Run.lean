import StartEnd.CommandLine.Options
import StartEnd.Diagnostic.Render
import StartEnd.Grammar.LoadError
import StartEnd.Grammar.Stored
import StartEnd.Program.Stored
import StartEnd.Parser

/-!
This module contains the runs of the program from the command line: what is printed, and with which
code a run ends.
-/

namespace StartEnd.CommandLine

/--
Why a file cannot be read: the system refuses it, or its bytes are no text.
-/
inductive FileError where
  | system (code : Nat) (kind message : String)
  | notText
deriving DecidableEq

namespace FileError

def missing : FileError := .system 2 "NotFound" "No such file or directory"

def denied : FileError := .system 13 "PermissionDenied" "Permission denied"

def notDirectory : FileError := .system 20 "NotADirectory" "Not a directory"

def directory : FileError := .system 21 "IsADirectory" "Is a directory"

def nameTooLong : FileError := .system 36 "InvalidFilename" "File name too long"

def report : FileError → String
  | .system code kind message =>
    "Os \x7b code: " ++ toString code ++ ", kind: " ++ kind ++ ", message: " ++ Text.quoted message
      ++ " \x7d"
  | .notText =>
    "Error \x7b kind: InvalidData, message: "
      ++ Text.quoted "stream did not contain valid UTF-8" ++ " \x7d"

end FileError

abbrev FileContent := Except FileError ByteArray

def FileContent.text (content : FileContent) : Except FileError String :=
  match content with
  | .error e => .error e
  | .ok bytes =>
    match String.fromUTF8? bytes with
    | none => .error .notText
    | some text => .ok text

/--
What a run prints, and the code with which it ends.
-/
structure Result where
  code : Nat
  output : String
  errors : String
deriving DecidableEq

namespace Result

def printed (lines : List String) : Result := ⟨0, String.join (lines.map (· ++ "\n")), ""⟩

def failed (report : String) : Result := ⟨1, "", "Error: " ++ report ++ "\n"⟩

def usageError : Result := ⟨2, "", ""⟩

def version : Result := printed ["startlang 0.1.0"]

end Result

def stepLimit : Nat := 100000

def tokenLine (t : Token) : String :=
  Text.padLeft 4 (toString t.location.line) ++ ":"
    ++ Text.padRight 4 (toString t.location.column) ++ " " ++ Text.padRight 16 t.symbol.name ++ " "
    ++ t.describe

def stepLine (index : Nat) (s : TraceStep) : String :=
  Text.padLeft 5 (toString index) ++ "  " ++ s.action.text ++ " [" ++ s.stackText ++ "]"

def stepLines (log : StepLog) : List String :=
  log.steps.toList.mapIdx stepLine
    ++ if log.truncated then ["  ...  trace stopped at " ++ toString log.limit ++ " steps"] else []

def programLines (emit : Emit) (log : Option StepLog) (p : Program) : List String :=
  match emit with
  | .json => [p.toJson.text .indented]
  | .trace => (log.map stepLines).getD []
  | _ => p.outline

def failureLines (emit : Emit) (log : Option StepLog) : List String :=
  match emit with
  | .trace => (log.map stepLines).getD []
  | _ => []

def runParse (o : Options) (g : Grammar) (source : String) : Result :=
  let parser := (Parser.ofSource g source).withMaxDepth o.maxDepth
  let parser := if o.emit = .trace then parser.withLog { limit := stepLimit } else parser
  match parser.parse with
  | (.ok p, parser) => .printed (programLines o.emit parser.log p)
  | (.error ds, parser) =>
    let reports := ds.map (·.render source (o.file.getD "<stdin>"))
    { Result.printed (failureLines o.emit parser.log) with
      code := 1
      errors := (Result.printed reports).output }

def loadGrammar (table : Option FileContent) : Except String Grammar :=
  match table with
  | none => .ok .standard
  | some content =>
    match content.text with
    | .error e => .error e.report
    | .ok text => (Grammar.ofText text).mapError LoadError.report

/--
A run on the content of the source and of the production table. The source is read first.
-/
def run (o : Options) (source : FileContent) (table : Option FileContent) : Result :=
  match source.text with
  | .error e => .failed e.report
  | .ok source =>
    match loadGrammar table with
    | .error report => .failed report
    | .ok g =>
      match o.emit with
      | .grammar => .printed [(Record.tableToJson g.toRecords).text .indented]
      | .tokens => .printed ((Token.scan source).map tokenLine)
      | _ => runParse o g source

end StartEnd.CommandLine
