import StartEnd.Text.Alphanumeric
import StartEnd.Viewer.Picture

/-!
This module contains the highlighting of source lines. A line is split into quoted strings, words
and single other characters, each with a style of its own.
-/

namespace StartEnd.Highlight

def isWordPart (c : Char) : Bool := Text.isAlphanumeric c || c = '_' || c = '.'

/--
How many characters behind an opening quote belong to the string: all up to and including the next
quote that no backslash precedes, or all that there are.
-/
def stringLength : List Char → Nat
  | [] => 0
  | c :: rest =>
    if c = '"' then 1
    else if c = '\\' then
      match rest with
      | [] => 1
      | _ :: rest => stringLength rest + 2
    else stringLength rest + 1

def typeNames : List String := ["int", "float", "string", "bool"]

def keywords : List String :=
  ["Start", "end", "var", "if", "then", "else", "while", "do", "function", "begin", "return",
    "and", "or", "not"]

/--
The style of a word, which may be the name in front of an opening parenthesis.
-/
def wordStyle (word : String) (called : Bool) : Style :=
  if word ∈ typeNames then .ofColor Theme.typeName
  else if word ∈ keywords then (Style.ofColor Theme.keyword).inBold
  else if word = "true" ∨ word = "false" then .ofColor Theme.number
  else if word.toList.head?.any Char.isDigit then .ofColor Theme.number
  else if called then .ofColor Theme.nonterminal
  else .ofColor Theme.foreground

def delimiterStyle (c : Char) : Style :=
  if c = '(' || c = ')' then .ofColor Theme.primary else .ofColor Theme.foreground

def spans (cs : List Char) : List Span :=
  match cs with
  | [] => []
  | c :: rest =>
    if c = '"' then
      ⟨String.ofList (c :: rest.take (stringLength rest)), .ofColor Theme.string⟩
        :: spans (rest.drop (stringLength rest))
    else if isWordPart c then
      let word := String.ofList (c :: rest.takeWhile isWordPart)
      let behind := rest.dropWhile isWordPart
      ⟨word, wordStyle word (behind.head? = some '(')⟩ :: spans behind
    else ⟨c.toString, delimiterStyle c⟩ :: spans rest
termination_by cs.length
decreasing_by
  · simp only [List.length_cons, List.length_drop]
    omega
  · have := (List.dropWhile_sublist isWordPart (l := rest)).length_le
    simp only [List.length_cons]
    omega
  · simp

end StartEnd.Highlight
