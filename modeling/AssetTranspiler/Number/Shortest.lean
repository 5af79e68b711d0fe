import AssetTranspiler.Number.Binary64

/-!
The shortest decimal that reads back as a given number: of the decimals with the fewest digits
inside the interval that rounds to the number, the one nearest to it.
-/

namespace AssetTranspiler.Shortest

/-- A fraction `num / den` that stands for a positive real. -/
structure Ratio where
  num : Nat
  den : Nat

namespace Ratio

def ofBinary (m : Nat) (q : Int) : Ratio :=
  if 0 ≤ q then ⟨m * Nat.pow 2 q.toNat, 1⟩ else ⟨m, Nat.pow 2 (-q).toNat⟩

def ofDecimal (m : Nat) (k : Int) : Ratio :=
  if 0 ≤ k then ⟨m * Nat.pow 10 k.toNat, 1⟩ else ⟨m, Nat.pow 10 (-k).toNat⟩

def lt (x y : Ratio) : Bool :=
  x.num * y.den < y.num * x.den

def le (x y : Ratio) : Bool :=
  x.num * y.den ≤ y.num * x.den

def dist (x y : Ratio) : Ratio :=
  ⟨(x.num * y.den - y.num * x.den) + (y.num * x.den - x.num * y.den), x.den * y.den⟩

def floorAt (x : Ratio) (k : Int) : Nat :=
  if 0 ≤ k then x.num / (x.den * Nat.pow 10 k.toNat) else x.num * Nat.pow 10 (-k).toNat / x.den

end Ratio

/-- The reals that round to a positive number. The gap below a power of two is half as wide, and
the ends belong to the interval when the significand is even. -/
structure Interval where
  value : Ratio
  low : Ratio
  high : Ratio
  closed : Bool

def Interval.of (x : Binary64) : Interval :=
  let m := x.significand
  let q := x.exponent - 2
  let below := if x.fractionField = 0 ∧ 1 < x.exponentField then 1 else 2
  { value := .ofBinary (4 * m) q
    low := .ofBinary (4 * m - below) q
    high := .ofBinary (4 * m + 2) q
    closed := m % 2 == 0 }

def Interval.contains (i : Interval) (y : Ratio) : Bool :=
  if i.closed then i.low.le y && y.le i.high else i.low.lt y && y.lt i.high

/-- The power of ten just above the number: `10 ^ (p - 1) ≤ v < 10 ^ p`. -/
def decimalPoint (v : Ratio) : Int :=
  (((List.range 660).map fun (i : Nat) => (i : Int) - 340).find? fun p => v.lt (.ofDecimal 1 p)).getD 320

/-- The nearest point of the grid `10 ^ k · ℕ` inside the interval, if it holds one. -/
def onGrid? (i : Interval) (k : Int) : Option Nat :=
  let a := i.value.floorAt k
  let lower := Ratio.ofDecimal a k
  let upper := Ratio.ofDecimal (a + 1) k
  match i.contains lower, i.contains upper with
  | true, true =>
      let da := lower.dist i.value
      let db := upper.dist i.value
      some (if da.lt db then a else if db.lt da then a + 1 else if a % 2 = 0 then a else a + 1)
  | true, false => some a
  | false, true => some (a + 1)
  | false, false => none

/-- A decimal: digits without trailing zeros, the point standing `point` places after their
beginning. -/
structure Decimal where
  digits : List Char
  point : Int
  deriving DecidableEq, Repr

/-- The shortest decimal of a positive finite number: the coarsest of seventeen grids wins. -/
def ofPositive (x : Binary64) : Decimal :=
  let i := Interval.of x
  let p := decimalPoint i.value
  let found := (List.range 17).findSome? fun (n : Nat) =>
    let k := p - ((n : Int) + 1)
    (onGrid? i k).map fun a => (a, k)
  let (a, k) := found.getD (i.value.floorAt (p - 17), p - 17)
  let ds := Nat.toDigits 10 a
  { digits := (ds.reverse.dropWhile (· == '0')).reverse
    point := ds.length + k }

structure Style where
  lowest : Int
  highest : Int
  exponentDigits : Nat

def style : Style := ⟨-3, 16, 2⟩

def zeros (n : Nat) : List Char :=
  List.replicate n '0'

def Decimal.text (d : Decimal) (style : Style) : List Char :=
  if style.lowest ≤ d.point ∧ d.point ≤ style.highest then
    if d.point ≤ 0 then '0' :: '.' :: zeros (-d.point).toNat ++ d.digits
    else
      let n := d.point.toNat
      if d.digits.length ≤ n then d.digits ++ zeros (n - d.digits.length) ++ ['.', '0']
      else d.digits.take n ++ '.' :: d.digits.drop n
  else
    let e := d.point - 1
    let shown := Nat.toDigits 10 e.natAbs
    let fraction := match d.digits.drop 1 with
      | [] => []
      | ds => '.' :: ds
    d.digits.take 1 ++ fraction ++
      ['e', if e < 0 then '-' else '+'] ++ zeros (style.exponentDigits - shown.length) ++ shown

def textOfFinite (x : Binary64) : List Char :=
  let magnitude :=
    if x.isZero then ['0', '.', '0'] else (ofPositive x).text style
  if x.isNegative then '-' :: magnitude else magnitude

end AssetTranspiler.Shortest
