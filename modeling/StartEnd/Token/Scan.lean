import StartEnd.Token.Lexeme

/-!
This module contains the reading of a source text as tokens. Scanning never fails: a piece of text
of no lexical class becomes an error token with the reason, and scanning goes on behind it. The
result ends with an end-of-input token.
-/

namespace StartEnd.Token

open Lexeme

def scanFrom (location : Location) (cs : List Char) : List Token :=
  let here := location.after (cs.takeWhile isBlank)
  match _h : cs.dropWhile isBlank with
  | [] => [eof here]
  | c :: rest =>
    let lexeme := c :: rest.take (extent c rest)
    Lexeme.token lexeme here :: scanFrom (here.after lexeme) (rest.drop (extent c rest))
termination_by cs.length
decreasing_by
  have hle := (List.dropWhile_sublist isBlank (l := cs)).length_le
  rw [_h] at hle
  simp only [List.length_cons, List.length_drop] at hle ⊢
  omega

def scan (source : String) : List Token := scanFrom .start source.toList

end StartEnd.Token
