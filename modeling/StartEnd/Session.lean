import StartEnd.Parse.Basic
import StartEnd.Token.Scan
import StartEnd.Trace.Log

/-!
This module contains parse sessions: a grammar, the tokens to be parsed, the nesting limit, and
possibly a log of the latest parse. Parsing may be repeated with the same result.
-/

namespace StartEnd

def defaultDepth : Nat := 200

/--
What a parse needs. The tokens end with an end-of-input token.
-/
structure Session where
  grammar : Grammar
  tokens : List Token
  maxDepth : Nat := defaultDepth
  log : Option StepLog := none

namespace Session

/--
The tokens of a parse: an end-of-input token is added at the place of the last token if there is
none.
-/
def completed (tokens : List Token) : List Token :=
  match tokens.getLast? with
  | none => [.eof .start]
  | some last => if last.symbol = .eof then tokens else tokens ++ [.eof last.location]

def ofTokens (grammar : Grammar) (tokens : List Token) : Session :=
  { grammar, tokens := completed tokens }

def ofSource (grammar : Grammar) (source : String) : Session :=
  ofTokens grammar (Token.scan source)

def withMaxDepth (s : Session) (maxDepth : Nat) : Session := { s with maxDepth }

def withLog (s : Session) (log : StepLog) : Session := { s with log }

def takeLog (s : Session) : Option StepLog × Session := (s.log, { s with log := none })

/--
Parses the tokens. A log forgets what it held and receives the steps of this parse.
-/
def parse (s : Session) : Outcome × Session :=
  let p := Parse.ofTokens s.grammar s.maxDepth s.tokens
  (p.outcome, { s with log := s.log.map fun log => log.clear.pushAll p.steps })

end Session

/--
Why a source text is no program.
-/
inductive SyntaxError where
  | diagnostics (list : List Diagnostic)

def SyntaxError.message : SyntaxError → String
  | .diagnostics list => "parsing failed with " ++ toString list.length ++ " diagnostic(s)"

def Program.ofSource (source : String) : Except SyntaxError Program :=
  (Session.ofSource .standard source).parse.1.mapError .diagnostics

end StartEnd
