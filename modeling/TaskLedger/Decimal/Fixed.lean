/-
**Six decimal places.** A double written with six places, and the double nearest to a decimal text.

* `roundDiv` — a quotient to the nearest whole number, halves to the even neighbour.
* `sixPlaces` — the exact value of a double, rounded once, with six places after the point.
* `nearest?` — the double that a decimal text stands for.
-/
import TaskLedger.Decimal.Digits

namespace TaskLedger.Decimal

/-- The whole number nearest to a quotient; a half goes to the even neighbour. -/
def roundDiv (numerator denominator : Nat) : Nat :=
  let quotient := numerator / denominator
  let rest := numerator % denominator
  if 2 * rest < denominator ∨ 2 * rest = denominator ∧ quotient % 2 = 0 then quotient
  else quotient + 1

/-- Millionths of a finite double given as `mantissa` times a power of two. -/
def millionths (mantissa : Nat) (exponent : Int) : Nat :=
  if 0 ≤ exponent then (mantissa <<< exponent.toNat) * 1000000
  else roundDiv (mantissa * 1000000) (1 <<< exponent.natAbs)

/-- A double with six places after the point; one that is no number is `NaN` whatever its sign. -/
def sixPlaces (x : Float) : String :=
  let bits := x.toBits.toNat
  let negative := bits >>> 63 == 1
  let exponent : Nat := bits >>> 52 % 2048
  let fraction := bits % (1 <<< 52)
  let sign := if negative then ['-'] else []
  if exponent = 2047 then
    if fraction = 0 then String.ofList (sign ++ ['i', 'n', 'f']) else "NaN"
  else
    let scaled :=
      if exponent = 0 then millionths fraction (-1074)
      else millionths (fraction + 1 <<< 52) ((exponent : Int) - 1075)
    String.ofList
      (sign ++ Nat.toDigits 10 (scaled / 1000000) ++ '.' :: padded 6 (scaled % 1000000))

/-- The double nearest to `digits` times a power of ten. -/
def nearest (digits : Nat) (power : Int) : Float :=
  let magnitude := (Nat.toDigits 10 digits).length + power
  if digits = 0 ∨ magnitude < -400 then 0.0
  else if 400 < magnitude then 1.0 / 0.0
  else Float.ofScientific digits (power < 0) power.natAbs

/-- The exponent after the digits of a decimal text, if anything stands there. -/
def exponent? : List Char → Option Int
  | [] => some 0
  | mark :: rest =>
    if mark = 'e' ∨ mark = 'E' then
      let (negative, digits) : Bool × List Char :=
        match rest with
        | '-' :: digits => (true, digits)
        | '+' :: digits => (false, digits)
        | digits => (false, digits)
      if digits.isEmpty || !digits.all Char.isDigit then none
      else some (if negative then -(number digits : Int) else number digits)
    else none

/-- The double nearest to an unsigned decimal text. -/
def unsigned? (text : List Char) : Option Float :=
  let lower := text.map Char.toLower
  if lower = ['i', 'n', 'f'] ∨ lower = ['i', 'n', 'f', 'i', 'n', 'i', 't', 'y'] then some (1.0 / 0.0)
  else if lower = ['n', 'a', 'n'] then some (0.0 / 0.0)
  else
    let whole := text.takeWhile Char.isDigit
    let (places, rest) : List Char × List Char :=
      match text.dropWhile Char.isDigit with
      | '.' :: rest => (rest.takeWhile Char.isDigit, rest.dropWhile Char.isDigit)
      | rest => ([], rest)
    if whole.isEmpty && places.isEmpty then none
    else (exponent? rest).map fun power => nearest (number (whole ++ places)) (power - places.length)

/-- The double nearest to a decimal text. -/
def nearest? (text : String) : Option Float :=
  match text.toList with
  | '-' :: rest => (unsigned? rest).map fun x => -x
  | '+' :: rest => unsigned? rest
  | rest => unsigned? rest

end TaskLedger.Decimal
