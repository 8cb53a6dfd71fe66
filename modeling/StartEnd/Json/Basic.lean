/-!
This module contains JSON values and the texts that write them, on one line or with an indented line
for each item.
-/

namespace StartEnd

/--
A JSON value. Numbers with a fraction or an exponent are kept as they are written. The content of a
string is missing if an escape in it denotes half of a character; the names of fields are strings
in the same sense.
-/
inductive Json where
  | null
  | bool (value : Bool)
  | integer (value : Int)
  | decimal (text : String)
  | string (content : Option String)
  | array (items : List Json)
  | object (fields : List (Option String × Json))

namespace Json

def ofString (s : String) : Json := .string (some s)

def ofNat (n : Nat) : Json := .integer n

def record (fields : List (String × Json)) : Json :=
  .object (fields.map fun field => (some field.1, field.2))

def tagged (name : String) (value : Json) : Json := record [(name, value)]

/--
How JSON is laid out.
-/
inductive Style where
  | compact
  | indented
deriving DecidableEq

namespace Style

def lineBreak (style : Style) (depth : Nat) : String :=
  match style with
  | .compact => ""
  | .indented => "\n" ++ String.ofList (List.replicate (2 * depth) ' ')

def colon : Style → String
  | .compact => ":"
  | .indented => ": "

end Style

def hexDigit (n : Nat) : Char := n.digitChar

/--
A character inside of quotes. Control characters and the two characters with a meaning are escaped.
-/
def escape (c : Char) : List Char :=
  if c = '"' then ['\\', '"']
  else if c = '\\' then ['\\', '\\']
  else if c = '\n' then ['\\', 'n']
  else if c = '\r' then ['\\', 'r']
  else if c = '\t' then ['\\', 't']
  else if c = '\x08' then ['\\', 'b']
  else if c = '\x0c' then ['\\', 'f']
  else if c.toNat < 0x20 then
    ['\\', 'u', '0', '0', hexDigit (c.toNat / 16), hexDigit (c.toNat % 16)]
  else [c]

/--
The text of a string. One without content is written as if it were empty.
-/
def quoted (content : Option String) : String :=
  "\"" ++ String.ofList ((content.getD "").toList.flatMap escape) ++ "\""

mutual

def write (style : Style) (depth : Nat) : Json → String
  | .null => "null"
  | .bool true => "true"
  | .bool false => "false"
  | .integer n => toString n
  | .decimal text => text
  | .string content => quoted content
  | .array [] => "[]"
  | .array (item :: items) =>
    "[" ++ style.lineBreak (depth + 1) ++ item.write style (depth + 1)
      ++ writeItems style (depth + 1) items ++ style.lineBreak depth ++ "]"
  | .object [] => "\x7b\x7d"
  | .object ((name, value) :: fields) =>
    "\x7b" ++ style.lineBreak (depth + 1) ++ quoted name ++ style.colon
      ++ value.write style (depth + 1) ++ writeFields style (depth + 1) fields
      ++ style.lineBreak depth ++ "\x7d"

def writeItems (style : Style) (depth : Nat) : List Json → String
  | [] => ""
  | item :: items =>
    "," ++ style.lineBreak depth ++ item.write style depth ++ writeItems style depth items

def writeFields (style : Style) (depth : Nat) : List (Option String × Json) → String
  | [] => ""
  | (name, value) :: fields =>
    "," ++ style.lineBreak depth ++ quoted name ++ style.colon ++ value.write style depth
      ++ writeFields style depth fields

end

def text (style : Style) (j : Json) : String := j.write style 0

end Json

end StartEnd
