/-
# Decimal numbers

Whole numbers in decimal digits, with a minus sign where they are negative or
with a sign in any case, and the value of a run of digits. Reading the digits
of a number gives the number back (`value_digits`).

A positive binary number m · 2^q stands for every real that rounds to it. Of
the decimals among these reals the shortest ones are those on the coarsest
grid of powers of ten, and of them the nearest one names the number; a tie
goes to the even one. A grid has a point in the interval only if one of the
number's two neighbours on it is there.

Key definitions: `digits`, `value`, `integer`, `signed`, `Binary`,
`Binary.ofFloat`, `Binary.shortest`.
Key theorems: `value_digits`, `isDigit_of_mem_digits`.
-/

namespace Tabletop
namespace Decimal

/-- The digits of a number, without leading zeros. -/
def digits (n : Nat) : List Char :=
  Nat.toDigits 10 n

/-- The number that a run of digits stands for. -/
def value (ds : List Char) : Nat :=
  Nat.ofDigitChars 10 ds 0

/-- A whole number, a minus sign before it where it is negative. -/
def integer (n : Int) : List Char :=
  if n < 0 then '-' :: digits n.natAbs else digits n.natAbs

/-- A whole number with its sign. -/
def signed (n : Int) : List Char :=
  if n < 0 then '-' :: digits n.natAbs else '+' :: digits n.natAbs

/-- Reading the digits of a number gives it back. -/
@[simp] theorem value_digits (n : Nat) : value (digits n) = n :=
  Nat.ofDigitChars_toDigits (by decide) (by decide)

/-- The digits of a number are digits. -/
theorem isDigit_of_mem_digits {n : Nat} {c : Char} (h : c ∈ digits n) : c.isDigit = true :=
  Nat.isDigit_of_mem_toDigits (by decide) (by decide) h

/-- Every number has a digit. -/
theorem digits_ne_nil (n : Nat) : digits n ≠ [] := by
  intro h
  have : 0 < (digits n).length := Nat.length_toDigits_pos
  simp [h] at this

/-! ### Shortest decimals -/

/-- The number `mantissa` · 2^`exponent`; `narrow` if the next smaller number
is only half as far away as the next greater one. -/
structure Binary where
  mantissa : Nat
  exponent : Int
  narrow : Bool
  deriving DecidableEq, Repr

/-- The magnitude of a finite floating-point number. -/
def Binary.ofFloat (x : Float) : Binary :=
  let bits := x.toBits.toNat
  let field : Nat := bits / Nat.pow 2 52 % Nat.pow 2 11
  let fraction : Nat := bits % Nat.pow 2 52
  if field = 0 then ⟨fraction, -1074, false⟩
  else ⟨Nat.pow 2 52 + fraction, (field : Int) - 1075, fraction == 0 && 1 < field⟩

/-- The numerator and the denominator of a power. -/
def powerRatio (base : Nat) (e : Int) : Nat × Nat :=
  (base.pow e.toNat, base.pow (-e).toNat)

/-- The point nearest to the number on the grid of the multiples of 10^`place`,
if it stands for the number. -/
def Binary.onGrid (b : Binary) (place : Int) : Option Nat :=
  let (up, down) := powerRatio 2 (b.exponent - 2)
  let (tens, tenths) := powerRatio 10 place
  let scale (n : Nat) := n * up * tenths
  let unit := tens * down
  let value := scale (4 * b.mantissa)
  let low := scale (4 * b.mantissa - (if b.narrow then 1 else 2))
  let high := scale (4 * b.mantissa + 2)
  let stands (c : Nat) : Bool :=
    if b.mantissa % 2 = 0 then low ≤ c * unit && c * unit ≤ high
    else low < c * unit && c * unit < high
  let below := value / unit
  let above := below + 1
  match 0 < below && stands below, stands above with
  | true, true =>
    let left := value - below * unit
    let right := above * unit - value
    if left < right || (left = right && below % 2 = 0) then some below else some above
  | true, false => some below
  | false, true => some above
  | false, false => none

/-- The first grid from 10^`place` on, of the next `n` ones, with a point that
stands for the number. -/
def Binary.firstGrid (b : Binary) (place : Int) : Nat → Nat × Int
  | 0 => (0, place)
  | n + 1 =>
    match b.onGrid place with
    | some c => (c, place)
    | none => b.firstGrid (place - 1) n

/-- The shortest decimal `c` · 10^`e` that stands for a number other than
zero, as `(c, e)`. -/
def Binary.shortest (b : Binary) : Nat × Int :=
  b.firstGrid 309 660

end Decimal
end Tabletop
