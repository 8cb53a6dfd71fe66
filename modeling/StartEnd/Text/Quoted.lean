import StartEnd.Text.Printable
import StartEnd.Text.GraphemeExtend

/-!
This module contains the quoted form of texts in messages. Characters that would not show are
written as escapes.
-/

namespace StartEnd.Text

/--
The halfwidth sound marks of katakana, which have a form of their own although they extend what is
in front of them.
-/
def isSoundMark (c : Char) : Bool := c = '\uff9e' || c = '\uff9f'

def escaped (c : Char) : List Char :=
  match c with
  | '\x00' => ['\\', '0']
  | '\t' => ['\\', 't']
  | '\r' => ['\\', 'r']
  | '\n' => ['\\', 'n']
  | '"' => ['\\', '"']
  | '\\' => ['\\', '\\']
  | c =>
    if extendsGrapheme c && !isSoundMark c || !isPrintable c then
      ['\\', 'u', '\x7b'] ++ Nat.toDigits 16 c.toNat ++ ['\x7d']
    else [c]

def quoted (text : String) : String :=
  String.ofList ('"' :: text.toList.flatMap escaped ++ ['"'])

end StartEnd.Text
