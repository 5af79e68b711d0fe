/-!
Floating-point numbers of 64 bits, as exact fractions: sign · significand · 2 ^ exponent.
-/

namespace AssetTranspiler

structure Binary64 where
  bits : UInt64
  deriving DecidableEq, Repr, Inhabited

namespace Binary64

def isNegative (x : Binary64) : Bool :=
  x.bits.toNat ≥ Nat.pow 2 63

def exponentField (x : Binary64) : Nat :=
  x.bits.toNat / Nat.pow 2 52 % Nat.pow 2 11

def fractionField (x : Binary64) : Nat :=
  x.bits.toNat % Nat.pow 2 52

def isFinite (x : Binary64) : Bool :=
  x.exponentField != Nat.pow 2 11 - 1

def isNaN (x : Binary64) : Bool :=
  !x.isFinite && x.fractionField != 0

def isZero (x : Binary64) : Bool :=
  x.exponentField == 0 && x.fractionField == 0

/-- The significand of a finite number, with the leading bit that is not stored. -/
def significand (x : Binary64) : Nat :=
  if x.exponentField = 0 then x.fractionField else x.fractionField + Nat.pow 2 52

def exponent (x : Binary64) : Int :=
  if x.exponentField = 0 then -1074 else (x.exponentField : Int) - 1075

def wholeAbs? (x : Binary64) : Option Nat :=
  if 0 ≤ x.exponent then some (x.significand * Nat.pow 2 x.exponent.toNat)
  else
    let d := Nat.pow 2 (-x.exponent).toNat
    if x.significand % d = 0 then some (x.significand / d) else none

def whole? (x : Binary64) : Option Int :=
  x.wholeAbs?.map fun n => if x.isNegative then -(n : Int) else n

end Binary64
end AssetTranspiler
