/-!
This module contains the places of a source text that tokens, syntax and diagnostics refer to.
-/

namespace StartEnd

/--
A place in a source text. Lines and columns are counted from one, columns in characters.
-/
structure Location where
  line : Nat
  column : Nat
deriving DecidableEq

namespace Location

def start : Location := ⟨1, 1⟩

def next (l : Location) (c : Char) : Location :=
  if c = '\n' then ⟨l.line + 1, 1⟩ else ⟨l.line, l.column + 1⟩

def after (l : Location) (cs : List Char) : Location := cs.foldl next l

def text (l : Location) : String := toString l.line ++ ":" ++ toString l.column

theorem after_nil (l : Location) : l.after [] = l := rfl

theorem after_cons (l : Location) (c : Char) (cs : List Char) :
    l.after (c :: cs) = (l.next c).after cs := rfl

theorem after_append (l : Location) (cs ds : List Char) :
    l.after (cs ++ ds) = (l.after cs).after ds := List.foldl_append

end Location

end StartEnd
