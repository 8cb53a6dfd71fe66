import StartEnd.Decimal.Shortest

/-!
This module contains the written forms of floating point numbers. A layout fixes which decimals are
written positionally and how the others are; the digits are always the shortest ones.
-/

namespace StartEnd.Decimal

/--
The choices that a format of floating point numbers makes.
-/
structure Layout where
  -- The least exponent of the first digit that is written positionally.
  least : Int
  -- The greatest exponent of the first digit that is written positionally.
  greatest : Int
  -- What precedes the digits of an exponent that is not negative.
  plus : String
  tie : Tie

namespace Layout

/--
The format of stored data: positional from `0.00001` up to sixteen digits before the point, else
with a signed exponent, and of two equally near decimals the even one.
-/
def stored : Layout := ⟨-5, 15, "+", .even⟩

/--
The format of expressions in messages: positional from `0.0001` up to sixteen digits before the
point, else with an exponent whose plus sign is left out, and the upper of two equally near
decimals.
-/
def displayed : Layout := ⟨-4, 15, "", .up⟩

def digitsText (l : Layout) (d : Digits) : String :=
  let digits := Nat.toDigits 10 d.digits
  let leading := d.exponent + digits.length - 1
  if l.least ≤ leading ∧ leading ≤ l.greatest then
    if 0 ≤ d.exponent then
      String.ofList (digits ++ List.replicate d.exponent.toNat '0') ++ ".0"
    else if 0 ≤ leading then
      String.ofList (digits.take (leading.toNat + 1)) ++ "."
        ++ String.ofList (digits.drop (leading.toNat + 1))
    else
      "0." ++ String.ofList (List.replicate (-leading - 1).toNat '0' ++ digits)
  else
    let fraction := if digits.length ≤ 1 then "" else "." ++ String.ofList (digits.drop 1)
    let exponent := if leading < 0 then toString leading else l.plus ++ toString leading
    String.ofList (digits.take 1) ++ fraction ++ "e" ++ exponent

def text (l : Layout) (x : Float) : String :=
  let sign := if x.toBits.toNat < Nat.pow 2 63 then "" else "-"
  let b := Binary64.ofFloat x
  if b.significand = 0 then sign ++ "0.0" else sign ++ l.digitsText (shortest l.tie b)

end Layout

/--
The text of a number in messages, where the numbers that are not finite have names.
-/
def displayedText (x : Float) : String :=
  if x.isNaN then "NaN"
  else if x.isInf then (if x < 0 then "-inf" else "inf")
  else Layout.displayed.text x

end StartEnd.Decimal
