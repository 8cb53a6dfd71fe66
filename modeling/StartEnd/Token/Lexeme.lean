import StartEnd.Token.Basic
import StartEnd.Decimal.Binary64
import StartEnd.Decimal.Numeral

/-!
This module contains the lexical classes of the language. `Lexeme.extent` says how far the longest
lexeme at the head of a text reaches, and `Lexeme.classify` gives the symbol and the payload of a
lexeme, which depend on the lexeme alone.
-/

namespace StartEnd.Lexeme

def isBlank (c : Char) : Bool := c = ' ' || c = '\t' || c = '\r' || c = '\n'

/--
The characters that begin a name or a keyword. Names are written in ASCII.
-/
def isLetter (c : Char) : Bool := c.isAlpha || c = '_'

def isWordChar (c : Char) : Bool := c.isAlphanum || c = '_'

/--
How many characters of the text behind an opening quote belong to the string literal: all up to
and including the closing quote, or all before the end of the line. A backslash takes the next
character of the line with it.
-/
def quotedExtent : List Char → Nat
  | [] => 0
  | c :: rest =>
    if c = '"' then 1
    else if c = '\n' then 0
    else if c = '\\' then
      match rest with
      | [] => 1
      | d :: rest => if d = '\n' then 1 else quotedExtent rest + 2
    else quotedExtent rest + 1

/--
How many characters belong to a number that has begun with a digit. A point belongs to it only if
a digit follows.
-/
def numberExtent (rest : List Char) : Nat :=
  let whole := (rest.takeWhile Char.isDigit).length
  match rest.dropWhile Char.isDigit with
  | '.' :: fraction =>
    match (fraction.takeWhile Char.isDigit).length with
    | 0 => whole
    | places => whole + 1 + places
  | _ => whole

/--
How many characters behind `c` belong to the longest lexeme that begins with it. Two characters
form an operator only as `:=` and `<>`, and a character of no class stands alone.
-/
def extent (c : Char) (rest : List Char) : Nat :=
  if c = '"' then quotedExtent rest
  else if c.isDigit then numberExtent rest
  else if isLetter c then (rest.takeWhile isWordChar).length
  else if c = ':' && rest.head? = some '=' then 1
  else if c = '<' && rest.head? = some '>' then 1
  else 0

/--
The symbols of the reserved words. They are case-sensitive.
-/
def keyword? : String → Option Symbol
  | "Start" => some .startKw
  | "end" => some .endKw
  | "var" => some .varKw
  | "if" => some .ifKw
  | "then" => some .thenKw
  | "else" => some .elseKw
  | "while" => some .whileKw
  | "do" => some .doKw
  | "function" => some .functionKw
  | "begin" => some .beginKw
  | "return" => some .returnKw
  | "int" => some .intKw
  | "float" => some .floatKw
  | "string" => some .stringKw
  | "bool" => some .boolKw
  | "and" => some .andKw
  | "or" => some .orKw
  | "not" => some .notKw
  | "true" => some .trueKw
  | "false" => some .falseKw
  | _ => none

def operator? : List Char → Option Symbol
  | [':', '='] => some .assign
  | [':'] => some .colon
  | ['<', '>'] => some .neq
  | ['<'] => some .lt
  | ['>'] => some .gt
  | ['='] => some .eq
  | ['+'] => some .plus
  | ['-'] => some .minus
  | ['*'] => some .times
  | ['/'] => some .divide
  | ['('] => some .lParen
  | [')'] => some .rParen
  | [','] => some .comma
  | [';'] => some .semi
  | _ => none

def escape? (c : Char) : Option Char :=
  match c with
  | '"' => some '"'
  | '\\' => some '\\'
  | 'n' => some '\n'
  | 't' => some '\t'
  | _ => none

/--
What the characters behind an opening quote amount to.
-/
inductive Quoted where
  | closed (content : List Char)
  | unknownEscape (c : Char)
  | unterminated
deriving DecidableEq

namespace Quoted

def cons (c : Char) : Quoted → Quoted
  | .closed content => .closed (c :: content)
  | q => q

/--
The reading of a literal that has a backslash and `c` in front. The first unknown escape counts,
but only in a literal that is closed.
-/
def escaped (c : Char) (q : Quoted) : Quoted :=
  match escape? c, q with
  | some d, q => q.cons d
  | none, .unterminated => .unterminated
  | none, _ => .unknownEscape c

end Quoted

def unquote : List Char → Quoted
  | [] => .unterminated
  | c :: rest =>
    if c = '"' then .closed []
    else if c = '\\' then
      match rest with
      | [] => .unterminated
      | d :: rest => (unquote rest).escaped d
    else (unquote rest).cons c

def maxInteger : Nat := Nat.pow 2 63 - 1

def invalid (reason : String) : Symbol × Option TokenValue := (.error, some (.invalid reason))

/--
The symbol and payload of a lexeme that begins with a quote, which `rest` follows.
-/
def classifyQuoted (rest : List Char) : Symbol × Option TokenValue :=
  match unquote rest with
  | .closed content => (.stringLiteral, some (.text (String.ofList content)))
  | .unknownEscape c => invalid ("unknown escape sequence '\\" ++ c.toString ++ "'")
  | .unterminated => invalid "unterminated string literal"

/--
The symbol and payload of a lexeme of digits, or of digits around a point.
-/
def classifyNumber (cs : List Char) : Symbol × Option TokenValue :=
  match cs.dropWhile Char.isDigit with
  | _ :: fraction =>
    let digits := Decimal.value (cs.takeWhile Char.isDigit ++ fraction)
    (.number, some (.float (Decimal.toFloat digits fraction.length)))
  | [] =>
    if Decimal.value cs ≤ maxInteger then (.number, some (.integer (Decimal.value cs)))
    else invalid ("number literal out of range: " ++ String.ofList cs)

def classifyWord (word : String) : Symbol × Option TokenValue :=
  match keyword? word with
  | some .trueKw => (.trueKw, some (.boolean true))
  | some .falseKw => (.falseKw, some (.boolean false))
  | some s => (s, none)
  | none => (.identifier, some (.name word))

/--
The symbol and payload of a lexeme. The empty lexeme is the end of the input.
-/
def classify : List Char → Symbol × Option TokenValue
  | [] => (.eof, none)
  | c :: rest =>
    if c = '"' then classifyQuoted rest
    else if c.isDigit then classifyNumber (c :: rest)
    else if isLetter c then classifyWord (String.ofList (c :: rest))
    else
      match operator? (c :: rest) with
      | some s => (s, none)
      | none => invalid ("unexpected character '" ++ c.toString ++ "'")

def token (cs : List Char) (location : Location) : Token :=
  ⟨(classify cs).1, (classify cs).2, String.ofList cs, location⟩

end StartEnd.Lexeme
