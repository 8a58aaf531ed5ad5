/-
# Real numbers in JSON text

The program has no use for numbers with a fraction, but a text may hold them,
and when one stands where something else is expected the error names it. So
they are kept as written, and have a value: the first digits that fit into 64
bits, scaled by powers of ten. A value beyond the largest finite one makes the
text malformed.

Key definitions: `RealText`, `RealText.value?`, `realText`.
-/
import Tabletop.Decimal

namespace Tabletop
namespace Json

/-- A number as written: digits before and after the point, and the exponent,
if there is one, with whether it is negative. -/
structure RealText where
  negative : Bool
  whole : List Char
  fraction : List Char
  exponent : Option (Bool × List Char)
  deriving DecidableEq, Repr

/-- Appends digits to a number as long as it stays below 2^64; gives the
number, and how many digits went in. -/
def gather (n : Nat) : List Char → Nat × Nat
  | [] => (n, 0)
  | d :: ds =>
    let m := n * 10 + (d.toNat - '0'.toNat)
    if m < UInt64.size then
      let (m, k) := gather m ds
      (m, k + 1)
    else (n, 0)

/-- The power of ten with exponent `e` as a floating-point number. -/
def tenTo (e : Nat) : Float :=
  Float.ofScientific 1 false e

/-- Divides by 10^`e`, at most 308 powers at a time. -/
def scaleDown (x : Float) (e : Nat) : Nat → Float
  | 0 => 0.0
  | n + 1 =>
    if e ≤ 308 then x / tenTo e
    else if x == 0.0 then x
    else scaleDown (x / tenTo 308) (e - 308) n

/-- The magnitude `m` · 10^`e`, if it is finite. -/
def magnitude? (m : Nat) (e : Int) : Option Float :=
  let x := (UInt64.ofNat m).toFloat
  if 0 ≤ e then
    if 308 < e then if m = 0 then some 0.0 else none
    else
      let y := x * tenTo e.toNat
      if y.isInf then none else some y
  else some (scaleDown x (-e).toNat 8)

/-- The largest exponent that is taken at its value. -/
def maxExponent : Nat := Int32.maxValue.toNatClampNeg

/-- The value of a number as written, if it is finite. -/
def RealText.value? (r : RealText) : Option Float :=
  let (n, taken) := gather 0 r.whole
  let (m, places) := gather n r.fraction
  let shift : Int := ((r.whole.length - taken : Nat) : Int) - places
  let size :=
    match r.exponent with
    | none => magnitude? m shift
    | some (negative, ds) =>
      let e := Decimal.value ds
      if maxExponent < e then
        if m = 0 || negative then some 0.0 else none
      else magnitude? m (if negative then shift - e else shift + e)
  size.map fun x => if r.negative then -x else x

/-- The text of a decimal `c` · 10^`e`: with a point while that point is at
most sixteen digits from the left and four zeros from the right, with an
exponent otherwise. -/
def decimalText (c : Nat) (e : Int) : List Char :=
  let ds := Decimal.digits c
  let point := (ds.length : Int) + e
  if 0 ≤ e && point ≤ 16 then ds ++ List.replicate e.toNat '0' ++ ['.', '0']
  else if 0 < point && point ≤ 16 then ds.take point.toNat ++ '.' :: ds.drop point.toNat
  else if -5 < point && point ≤ 0 then '0' :: '.' :: List.replicate (-point).toNat '0' ++ ds
  else
    let tail := ds.drop 1
    ds.take 1 ++ (if tail.isEmpty then [] else '.' :: tail) ++ 'e' :: Decimal.signed (point - 1)

/-- A finite floating-point number in the fewest digits that name it. -/
def realText (x : Float) : String :=
  let b := Decimal.Binary.ofFloat x
  let size :=
    if b.mantissa = 0 then ['0', '.', '0']
    else
      let (c, e) := b.shortest
      decimalText c e
  String.ofList (if x.toBits.toNat.testBit 63 then '-' :: size else size)

end Json
end Tabletop
