/-!
This module contains the exact values of floating point numbers with 64 bits: a finite number is
a significand times a power of two, and a ratio of natural numbers has a nearest such number.
-/

namespace StartEnd.Decimal

/--
The value `significand * 2 ^ exponent`.
-/
structure Binary64 where
  significand : Nat
  exponent : Int
deriving DecidableEq

namespace Binary64

def minExponent : Int := -1074

def infinityBits : Nat := 2047 * Nat.pow 2 52

/--
The absolute value of a finite number, read off its bits. Numbers with the lowest exponent have no
implicit leading bit.
-/
def ofFloat (x : Float) : Binary64 :=
  let bits := x.toBits.toNat % Nat.pow 2 63
  let biased := bits / Nat.pow 2 52
  let fraction := bits % Nat.pow 2 52
  if biased = 0 then ⟨fraction, minExponent⟩
  else ⟨Nat.pow 2 52 + fraction, minExponent + (biased - 1 : Nat)⟩

/--
The number with a given value, where the significand has at most 53 bits, or is `2 ^ 53`, and only
numbers with the lowest exponent have fewer. What lies above the largest number is infinity.
-/
def toFloat (b : Binary64) : Float :=
  let bits :=
    if b.significand < Nat.pow 2 52 then b.significand
    else (b.exponent - minExponent + 1).toNat * Nat.pow 2 52 + (b.significand - Nat.pow 2 52)
  Float.ofBits (UInt64.ofNat (min bits infinityBits))

/--
The integer nearest to a ratio. Of two equally near ones the even one is taken.
-/
def roundDiv (num den : Nat) : Nat :=
  let quotient := num / den
  let twice := 2 * (num % den)
  if twice < den then quotient
  else if den < twice then quotient + 1
  else quotient + quotient % 2

/--
The number nearest to a ratio. The exponent is the least one for which the significand does not
exceed 53 bits.
-/
def nearest (num den : Nat) : Binary64 :=
  let magnitude : Int := (num.log2 : Int) - (den.log2 : Int)
  let low := max (magnitude - 53) minExponent
  let exponent := if scaled low / scale low < Nat.pow 2 53 then low else low + 1
  ⟨roundDiv (scaled exponent) (scale exponent), exponent⟩
where
  scaled (exponent : Int) : Nat := num * Nat.pow 2 (-exponent).toNat
  scale (exponent : Int) : Nat := den * Nat.pow 2 exponent.toNat

end Binary64

def toFloat (digits places : Nat) : Float :=
  if digits = 0 then 0.0 else (Binary64.nearest digits (Nat.pow 10 places)).toFloat

end StartEnd.Decimal
