/-!
This module contains the lines of a text. A line ends with a line feed, which a carriage return in
front of it belongs to; what follows the last line feed is a line if it is not empty.
-/

namespace StartEnd.Text

/--
Splits characters at line feeds, which are dropped. There is always a last piece.
-/
def pieces : List Char → List (List Char)
  | [] => [[]]
  | c :: cs =>
    if c = '\n' then [] :: pieces cs
    else
      match pieces cs with
      | [] => [[c]]
      | piece :: rest => (c :: piece) :: rest

def withoutReturn (line : List Char) : List Char :=
  match line.getLast? with
  | some '\r' => line.dropLast
  | _ => line

/--
The lines of a text. A carriage return counts to the end of a line only in front of a line feed.
-/
def linesOf (cs : List Char) : List (List Char) :=
  let all := pieces cs
  let ended := all.dropLast.map withoutReturn
  match all.getLast? with
  | none => ended
  | some [] => ended
  | some last => ended ++ [last]

def lines (text : String) : List String := (linesOf text.toList).map String.ofList

end StartEnd.Text
