import StartEnd.Location
import StartEnd.Symbol

/-!
This module contains tokens: classified pieces of a source text together with the payload that
literals and names carry.
-/

namespace StartEnd

/--
What a token says beyond its symbol. `invalid` holds the reason why a piece of text is no token.
-/
inductive TokenValue where
  | name (text : String)
  | integer (value : Int)
  | float (value : Float)
  | text (content : String)
  | boolean (value : Bool)
  | invalid (reason : String)
deriving BEq

/--
A piece of source text and its classification. The lexeme is the text as it was written.
-/
structure Token where
  symbol : Symbol
  value : Option TokenValue
  lexeme : String
  location : Location
deriving BEq

namespace Token

def eof (location : Location) : Token := ⟨.eof, none, "", location⟩

/--
Whether a token stands for a terminal and has the payload that its symbol requires.
-/
def wellFormed (t : Token) : Bool :=
  t.symbol.isTerminal &&
    match t.symbol, t.value with
    | .identifier, some (.name _) => true
    | .identifier, _ => false
    | .number, some (.integer _) => true
    | .number, some (.float _) => true
    | .number, _ => false
    | .stringLiteral, some (.text _) => true
    | .stringLiteral, _ => false
    | _, _ => true

def invalidReason? (t : Token) : Option String :=
  match t.value with
  | some (.invalid reason) => some reason
  | _ => none

def describe (t : Token) : String :=
  match t.symbol with
  | .eof => "end of input"
  | .error => "invalid input '" ++ t.lexeme ++ "'"
  | .identifier => "identifier '" ++ t.lexeme ++ "'"
  | .number => "number " ++ t.lexeme
  | .stringLiteral => "string " ++ t.lexeme
  | _ => "'" ++ t.lexeme ++ "'"

/--
The complaint about a token that must not reach the grammar: one that could not be classified, or
one whose payload does not fit its symbol.
-/
def fault? (t : Token) : Option String :=
  if t.symbol = .error then
    match t.invalidReason? with
    | some reason => some (t.describe ++ ": " ++ reason)
    | none => some t.describe
  else if t.wellFormed then
    none
  else
    some ("malformed token " ++ t.describe ++ " (" ++ t.symbol.name ++ ")")

end Token

end StartEnd
