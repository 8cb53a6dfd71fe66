import StartEnd.Decimal.Binary64

/-!
This module contains the shortest decimal form of a binary floating point number: the fewest digits
that read back to the same number and, among those, the digits nearest to it.
-/

namespace StartEnd.Decimal

/--
The value `digits * 10 ^ exponent`.
-/
structure Digits where
  digits : Nat
  exponent : Int
deriving DecidableEq

/--
Which of two equally near decimals is taken.
-/
inductive Tie where
  | even
  | up
deriving DecidableEq

/--
The numbers between `low / den` and `high / den` around `mid / den`, with or without the ends.
-/
structure Interval where
  low : Nat
  mid : Nat
  high : Nat
  den : Nat
  closed : Bool

namespace Interval

/--
The reals that are rounded to a given number. The gap below a power of two is half as wide as the
one above, except at the lowest exponent, and the ends belong to an even significand.
-/
def around (b : Binary64) : Interval :=
  let below := if b.significand = Nat.pow 2 52 ∧ Binary64.minExponent < b.exponent then 1 else 2
  let scale := Nat.pow 2 (b.exponent - 2).toNat
  { low := (4 * b.significand - below) * scale
    mid := 4 * b.significand * scale
    high := (4 * b.significand + 2) * scale
    den := Nat.pow 2 (2 - b.exponent).toNat
    closed := b.significand % 2 = 0 }

def contains (i : Interval) (num den : Nat) : Bool :=
  if i.closed then i.low * den ≤ num * i.den && num * i.den ≤ i.high * den
  else i.low * den < num * i.den && num * i.den < i.high * den

end Interval

def digitCount (n : Nat) : Nat := (Nat.toDigits 10 n).length

/--
The exponent of the power of ten that the first digit of `num / den` counts.
-/
def leadingExponent (num den : Nat) : Int :=
  if den ≤ num then (digitCount (num / den) : Int) - 1
  else -(digitCount ((den - 1) / num) : Int)

/--
The multiple of `10 ^ exponent` that lies in the interval and is nearest to its middle, if there is
one.
-/
def Interval.nearestOn? (i : Interval) (tie : Tie) (exponent : Int) : Option Nat :=
  let scale := Nat.pow 10 (-exponent).toNat
  let unit := Nat.pow 10 exponent.toNat
  let below := i.mid * scale / (i.den * unit)
  let above := below + 1
  match i.contains (below * unit) scale, i.contains (above * unit) scale with
  | false, false => none
  | true, false => some below
  | false, true => some above
  | true, true =>
    let toBelow := i.mid * scale - below * unit * i.den
    let toAbove := above * unit * i.den - i.mid * scale
    if toBelow < toAbove then some below
    else if toAbove < toBelow then some above
    else
      match tie with
      | .up => some above
      | .even => some (if below % 2 = 0 then below else above)

/--
The same value with as few digits as possible, where at most `fuel` zeros are dropped.
-/
def Digits.trim (d : Digits) : Nat → Digits
  | 0 => d
  | fuel + 1 =>
    if d.digits % 10 = 0 then trim ⟨d.digits / 10, d.exponent + 1⟩ fuel else d

/--
The shortest decimal that reads back to a positive number. Seventeen digits always suffice.
-/
def shortest (tie : Tie) (b : Binary64) : Digits :=
  let i := Interval.around b
  let leading := leadingExponent i.mid i.den
  go i leading 17 1
where
  /--
  Tries the grids with `count` digits and more, `fuel` of them.
  -/
  go (i : Interval) (leading : Int) : Nat → Nat → Digits
    | 0, count => ⟨i.mid / i.den, count⟩
    | fuel + 1, count =>
      let exponent := leading - count + 1
      match i.nearestOn? tie exponent with
      | some digits => Digits.trim ⟨digits, exponent⟩ 2
      | none => go i leading fuel (count + 1)

end StartEnd.Decimal
