/-!
This module contains the values of decimal numerals.
-/

namespace StartEnd.Decimal

def value (cs : List Char) : Nat := cs.foldl (fun n c => 10 * n + (c.toNat - '0'.toNat)) 0

end StartEnd.Decimal
