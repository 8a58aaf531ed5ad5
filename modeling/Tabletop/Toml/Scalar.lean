/-
# TOML scalars

Numbers, dates and times without quotes. Digits may be grouped by single
underscores. Integers have up to 128 bits; a float has to be finite unless it
is written as infinite. A date may be followed by a time of day, and that by
an offset; the seconds of a time may be left out.

Key definition: `scalar`.
-/
import Tabletop.Decimal
import Tabletop.Toml.Scan
import Tabletop.Toml.Table

namespace Tabletop
namespace Toml

/-! ### Numbers -/

/-- The digits of a group, with the underscores between them removed. -/
def ungroup (isDigit : Char → Bool) : List Char → Option (List Char)
  | [] => none
  | [c] => if isDigit c then some [c] else none
  | c :: '_' :: rest => if isDigit c then (ungroup isDigit rest).map (c :: ·) else none
  | c :: rest => if isDigit c then (ungroup isDigit rest).map (c :: ·) else none

/-- The value of a digit up to base sixteen. -/
def digitValue (c : Char) : Nat :=
  if c.isDigit then c.toNat - '0'.toNat
  else if 'a' ≤ c then c.toNat - 'a'.toNat + 10
  else c.toNat - 'A'.toNat + 10

/-- Whether a character is a digit of a base up to sixteen. -/
def isDigitOf (base : Nat) (c : Char) : Bool :=
  (c.isDigit || ('a' ≤ c && c ≤ 'f') || ('A' ≤ c && c ≤ 'F')) && digitValue c < base

/-- The value of digits in a base. -/
def valueIn (base : Nat) (ds : List Char) : Nat :=
  ds.foldl (fun n d => n * base + digitValue d) 0

/-- The digits of a decimal number that does not begin with a needless zero. -/
def decimalDigits (cs : List Char) : Option (List Char) :=
  match ungroup Char.isDigit cs with
  | some ('0' :: _ :: _) => none
  | ds => ds

/-- A number without its sign, and the sign. -/
def unsigned : List Char → Bool × List Char
  | '-' :: cs => (true, cs)
  | '+' :: cs => (false, cs)
  | cs => (false, cs)

/-- An integer that fits into 128 bits. -/
def fitting (n : Int) : Option Node :=
  if -(Nat.pow 2 127) ≤ n ∧ n < Nat.pow 2 128 then some (.integer n) else none

/-- An integer in the base sixteen, eight or two. -/
def basedInteger : List Char → Option Node
  | '0' :: 'x' :: ds => (ungroup (isDigitOf 16) ds).bind fun ds => fitting (valueIn 16 ds)
  | '0' :: 'o' :: ds => (ungroup (isDigitOf 8) ds).bind fun ds => fitting (valueIn 8 ds)
  | '0' :: 'b' :: ds => (ungroup (isDigitOf 2) ds).bind fun ds => fitting (valueIn 2 ds)
  | _ => none

/-- An integer in the base ten. -/
def decimalInteger (cs : List Char) : Option Node :=
  let (negative, ds) := unsigned cs
  (decimalDigits ds).bind fun ds =>
    fitting (if negative then -(Decimal.value ds : Int) else Decimal.value ds)

/-- The least magnitude that no double is near: half a unit in the last place
above the largest one. -/
def doubleLimit : Nat := Nat.pow 2 1024 - Nat.pow 2 970

/-- Whether a decimal stays below the limit of doubles. -/
def isFinite (ds : List Char) (exponent : Int) : Bool :=
  let n := Decimal.value ds
  let size := (Decimal.digits n).length + exponent
  if n = 0 || size < 300 then true
  else if 310 < size then false
  else if 0 ≤ exponent then n * Nat.pow 10 exponent.toNat < doubleLimit
  else n < doubleLimit * Nat.pow 10 (-exponent).toNat

/-- A text cut at the first character of a class, which is dropped. -/
def cut (p : Char → Bool) (cs : List Char) : List Char × Option (List Char) :=
  match cs.dropWhile fun c => !p c with
  | [] => (cs, none)
  | _ :: rest => (cs.takeWhile fun c => !p c, some rest)

/-- The value of an exponent with its sign. -/
def exponentValue (cs : List Char) : Option Int :=
  let (negative, ds) := unsigned cs
  (ungroup Char.isDigit ds).map fun ds =>
    if negative then -(Decimal.value ds : Int) else Decimal.value ds

/-- A float: a fraction, an exponent or both after the whole digits, or one of
the names of what is not finite. -/
def float (cs : List Char) : Option Node := do
  let size := (unsigned cs).2
  if size = ['i', 'n', 'f'] ∨ size = ['n', 'a', 'n'] then return .other
  let (mantissa, exponent) := cut (fun c => c == 'e' || c == 'E') size
  let (whole, fraction) := cut (· == '.') mantissa
  if exponent.isNone && fraction.isNone then failure
  let whole ← decimalDigits whole
  let fraction ← match fraction with
    | some ds => ungroup Char.isDigit ds
    | none => some []
  let e ← match exponent with
    | some e => exponentValue e
    | none => some 0
  if isFinite (whole ++ fraction) (e - fraction.length) then return .other else failure

/-! ### Dates and times -/

/-- A number of exactly `n` digits, within bounds. -/
def fixedNumber (n low high : Nat) : Scan Nat := do
  let ds ← Scan.take n
  let value := Decimal.value ds
  if ds.all Char.isDigit && low ≤ value && value ≤ high then return value else failure

/-- How many days a month has. -/
def daysIn (year month : Nat) : Nat :=
  if month = 2 then
    if year % 4 = 0 ∧ (year % 100 ≠ 0 ∨ year % 400 = 0) then 29 else 28
  else if [4, 6, 9, 11].contains month then 30
  else 31

/-- A date such as `1979-05-27`. -/
def date : Scan Unit := do
  let year ← fixedNumber 4 0 9999
  Scan.expect '-'
  let month ← fixedNumber 2 1 12
  Scan.expect '-'
  let _ ← fixedNumber 2 1 (daysIn year month)

/-- A time of day such as `07:32` or `07:32:00.5`. -/
def time : Scan Unit := do
  let _ ← fixedNumber 2 0 23
  Scan.expect ':'
  let _ ← fixedNumber 2 0 59
  if ← Scan.accept [':'] then
    let _ ← fixedNumber 2 0 60
    if ← Scan.accept ['.'] then
      if (← Scan.takeAll Char.isDigit).isEmpty then failure

/-- An offset such as `Z` or `-07:00`, or none. -/
def offset : Scan Unit := do
  match ← Scan.peek with
  | none => return
  | some c =>
    let _ ← Scan.next
    if c == 'Z' || c == 'z' then return
    else if c == '+' || c == '-' then
      let _ ← fixedNumber 2 0 23
      Scan.expect ':'
      let _ ← fixedNumber 2 0 59
    else failure

/-- What may follow a date: a time of day with its offset, or nothing. -/
def timeAfterDate : Scan Unit := do
  match ← Scan.peek with
  | none => return
  | some c =>
    let _ ← Scan.next
    if c == 'T' || c == 't' || c == ' ' then
      time
      offset
    else failure

/-- A date, a time, or both. -/
def moment (cs : List Char) : Option Node :=
  if ((date *> timeAfterDate).whole cs).isSome || (time.whole cs).isSome then some .other else none

/-! ### Scalars -/

/-- The value that a text without quotes stands for. -/
def scalar (cs : List Char) : Option Node :=
  if cs = ['t', 'r', 'u', 'e'] ∨ cs = ['f', 'a', 'l', 's', 'e'] then some .other
  else (basedInteger cs).or ((decimalInteger cs).or ((float cs).or (moment cs)))

/-- Whether a character can be part of a value without quotes. -/
def isScalarChar (c : Char) : Bool :=
  c.isAlphanum || c == '_' || c == '+' || c == '-' || c == '.' || c == ':'

/-- Whether a text is cut as a date is: digits, and two dashes at their
places. -/
def looksLikeDate (cs : List Char) : Bool :=
  cs.length == 10 && cs[4]? == some '-' && cs[7]? == some '-'

/-- Takes a value without quotes. One blank between a date and a time belongs
to it. -/
def takeScalar : Scan (List Char) := fun cs =>
  let word := cs.takeWhile isScalarChar
  match cs.dropWhile isScalarChar with
  | ' ' :: c :: rest =>
    if looksLikeDate word && c.isDigit then
      some (word ++ ' ' :: (c :: rest).takeWhile isScalarChar, (c :: rest).dropWhile isScalarChar)
    else some (word, ' ' :: c :: rest)
  | rest => some (word, rest)

end Toml
end Tabletop
