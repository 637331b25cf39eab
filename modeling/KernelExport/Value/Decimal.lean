/-
This file writes floating-point numbers as the shortest decimals that read back.

A finite number is `significand * 2 ^ exponent`. The reals nearer to it than to its neighbours form
an interval around it, with its ends if the significand is even. Of the grids of decimals with one,
two, three digits and so on, the first that has a point in the interval is taken, and on it the
point nearest to the number; of two that are equally near, the even one. It is enough to look at
the two points of a grid around the number, since a point in the interval that lies further away
has one of those between it and the number.

All of this is arithmetic of natural numbers. Decimals are read as the nearest floating-point
number.
-/

namespace KernelExport.Decimal

/-- A positive binary number, `significand * 2 ^ exponent`. -/
structure Binary where
  significand : Nat
  exponent : Int
  /-- Whether the neighbour below is at half the distance of the one above. -/
  narrowBelow : Bool
  deriving DecidableEq, Repr

/-- A positive decimal number, `digits * 10 ^ exponent`. -/
structure Digits where
  digits : Nat
  exponent : Int
  deriving DecidableEq, Repr

/-- `factor * base ^ exponent` for an exponent that is not negative, and `factor` otherwise. -/
def scaleUp (factor base : Nat) (exponent : Int) : Nat :=
  factor * Nat.pow base exponent.toNat

/-- Compares `number * 2 ^ binary` with `digits * 10 ^ decimal`. -/
def compareScaled (number : Nat) (binary : Int) (digits : Nat) (decimal : Int) : Ordering :=
  compare (scaleUp (scaleUp number 2 binary) 10 (-decimal))
    (scaleUp (scaleUp digits 10 decimal) 2 (-binary))

/-- Whether a decimal lies in the interval of reals that are read as the number. Bounds are
counted in quarters of the last place of the significand. -/
def reads (number : Binary) (decimal : Digits) : Bool :=
  let low := 4 * number.significand - if number.narrowBelow then 1 else 2
  let high := 4 * number.significand + 2
  let below := compareScaled low (number.exponent - 2) decimal.digits decimal.exponent
  let above := compareScaled high (number.exponent - 2) decimal.digits decimal.exponent
  let ends := number.significand % 2 == 0
  (below == .lt || (ends && below == .eq)) && (above == .gt || (ends && above == .eq))

/-- The greatest point of the grid of multiples of `10 ^ exponent` that is not above the number. -/
def floorOn (number : Binary) (exponent : Int) : Nat :=
  scaleUp (scaleUp number.significand 2 number.exponent) 10 (-exponent) /
    scaleUp (scaleUp 1 10 exponent) 2 (-number.exponent)

/-- The point of a grid that is read as the number, the nearest one if there are two. -/
def onGrid (number : Binary) (exponent : Int) : Option Digits :=
  let low := floorOn number exponent
  let lower : Digits := ⟨low, exponent⟩
  let upper : Digits := ⟨low + 1, exponent⟩
  match decide (0 < low) && reads number lower, reads number upper with
  | false, false => none
  | true, false => some lower
  | false, true => some upper
  | true, true =>
    match compareScaled (2 * number.significand) number.exponent (2 * low + 1) exponent with
    | .lt => some lower
    | .gt => some upper
    | .eq => some (if low % 2 == 0 then lower else upper)

/-- The shortest decimal on the grids from `exponent` down, of which so many are left. -/
def shortestFrom (number : Binary) (exponent : Int) : (grids : Nat) → Digits
  | 0 => ⟨floorOn number exponent, exponent⟩
  | grids + 1 =>
    match onGrid number exponent with
    | some digits => digits
    | none => shortestFrom number (exponent - 1) grids

/-- The exponent of the first decimal digit of a number, or one more. -/
def leadingExponent (number : Binary) : Int :=
  let bits := Int.ofNat (Nat.log2 number.significand) + number.exponent
  -- 1233 / 4096 is a little less than the decimal logarithm of two.
  (bits + 1) * 1233 / 4096 + 1

/-- The shortest decimal that is read as the number. Eighteen digits and the place for a leading
one always suffice. -/
def shortest (number : Binary) : Digits :=
  shortestFrom number (leadingExponent number) 20

/-! ### Numbers of sixty-four bits -/

/-- Sign and value of a finite number from its bits; zero has no value. -/
def decode (bits : UInt64) : Bool × Option Binary :=
  let number := bits.toNat
  let negative := number >>> 63 == 1
  let biased := (number >>> 52) % (1 <<< 11)
  let fraction := number % (1 <<< 52)
  if biased == 0 then
    (negative, if fraction == 0 then none else some ⟨fraction, -1074, false⟩)
  else
    (negative, some ⟨(1 <<< 52) + fraction, Int.ofNat biased - 1075, fraction == 0 && biased > 1⟩)

/-- The digits without zeros at the end, and how many zeros there were. At most `limit` are taken
off. -/
def stripZeros : (limit : Nat) → Nat → Nat × Nat
  | 0, digits => (digits, 0)
  | limit + 1, digits =>
    if digits % 10 == 0 && digits != 0 then
      let (rest, zeros) := stripZeros limit (digits / 10)
      (rest, zeros + 1)
    else (digits, 0)

/-- Digits and a decimal exponent written out. Positional notation is used while the point stands
at most sixteen places behind the first digit or at most five before it, and always shows a
fraction; beyond that one digit stands before the point and an exponent follows. -/
def write (decimal : Digits) : String :=
  let (number, zeros) := stripZeros 20 decimal.digits
  let exponent := decimal.exponent + Int.ofNat zeros
  let digits := (toString number).toList
  let point := Int.ofNat digits.length + exponent
  if 0 ≤ exponent ∧ point ≤ 16 then
    String.ofList (digits ++ List.replicate exponent.toNat '0') ++ ".0"
  else if 0 < point ∧ point ≤ 16 then
    String.ofList (digits.take point.toNat ++ '.' :: digits.drop point.toNat)
  else if -5 < point ∧ point ≤ 0 then
    "0." ++ String.ofList (List.replicate (-point).toNat '0' ++ digits)
  else
    let fraction := match digits with
      | [] => []
      | first :: [] => [first]
      | first :: rest => first :: '.' :: rest
    String.ofList fraction ++ "e" ++ toString (point - 1)

def text (number : Float) : String :=
  let (negative, value) := decode number.toBits
  (if negative then "-" else "") ++
    match value with
    | none => "0.0"
    | some binary => write (shortest binary)

/-! ### Reading -/

/-- The floating-point number nearest to `significand * 10 ^ exponent`. Sizes far beyond the
greatest and the smallest number are decided by the number of digits. -/
def toFloat (significand : Nat) (exponent : Int) : Float :=
  let size := Int.ofNat (toString significand).length + exponent
  if significand = 0 ∨ size < -400 then 0.0
  else if 400 < size then 1.0 / 0.0
  else if exponent < 0 then Float.ofScientific significand true (-exponent).toNat
  else Float.ofScientific significand false exponent.toNat

end KernelExport.Decimal
