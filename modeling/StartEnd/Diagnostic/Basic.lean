import StartEnd.Token.Basic

/-!
This module contains the diagnostics by which a parse reports why it stopped, and the collection of
diagnostics until they are taken.
-/

namespace StartEnd

/--
The kinds of diagnostics: a token that is no token of the language or has the wrong payload, a
token that does not fit the grammar, nesting beyond the limit, and a reduction that was refused.
-/
inductive DiagnosticKind where
  | tokenError
  | parseError
  | nestingLimit
  | internal
deriving DecidableEq

/--
A report about a place in the source, with the offending token if there is one, and the terminals
that would have been accepted instead, in the order of their ids.
-/
structure Diagnostic where
  kind : DiagnosticKind
  message : String
  token : Option Token
  location : Location
  expected : List Symbol
deriving BEq

namespace Diagnostic

def expecting (d : Diagnostic) (symbols : List Symbol) : Diagnostic :=
  { d with expected := Symbol.sorted symbols }

def badToken (t : Token) (complaint : String) : Diagnostic :=
  ⟨.tokenError, complaint, some t, t.location, []⟩

def unexpected (t : Token) (expected : List Symbol) : Diagnostic :=
  (Diagnostic.mk .parseError ("unexpected " ++ t.describe) (some t) t.location []).expecting expected

def tooDeep (limit : Nat) (t : Token) : Diagnostic :=
  ⟨.nestingLimit, "nesting deeper than " ++ toString limit ++ " levels", some t, t.location, []⟩

/--
A parse stack that does not allow a move, which no parse of a well-formed engine meets.
-/
def fault (message : String) (location : Location) : Diagnostic :=
  ⟨.internal, message, none, location, []⟩

end Diagnostic

/--
The diagnostics that have been reported and not yet been taken, the earliest one first.
-/
structure Reporter where
  pending : List Diagnostic := []
deriving BEq

namespace Reporter

def record (r : Reporter) (d : Diagnostic) : Reporter := ⟨r.pending ++ [d]⟩

def drain (r : Reporter) : List Diagnostic × Reporter := (r.pending, {})

end Reporter

end StartEnd
