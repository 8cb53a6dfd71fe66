/-!
This module contains classes of characters that are given by ranges of code points.
-/

namespace StartEnd.Text

/--
A class of characters: the first and the last code point of each of its ranges, in ascending order.
-/
abbrev CharRanges := List (Nat × Nat)

def CharRanges.contains : CharRanges → Char → Bool
  | [], _ => false
  | range :: ranges, c =>
    if c.toNat < range.1 then false else c.toNat ≤ range.2 || CharRanges.contains ranges c

end StartEnd.Text
