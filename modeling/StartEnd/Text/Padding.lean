/-!
This module contains the filling of texts with spaces to a width.
-/

namespace StartEnd.Text

def spaces (n : Nat) : String := String.ofList (List.replicate n ' ')

def padLeft (width : Nat) (text : String) : String := spaces (width - text.length) ++ text

def padRight (width : Nat) (text : String) : String := text ++ spaces (width - text.length)

end StartEnd.Text
