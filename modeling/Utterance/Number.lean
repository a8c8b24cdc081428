/-!
# Numbers

A number is a binary floating point number of 64 bits, kept as what it denotes: a sign, a mantissa
and a power of two, or an infinity, or no number at all. Decimals are rounded to the nearest number,
a tie to the even mantissa (`Number.ofDecimal`). `Number.ofText?` reads the decimal notations that
programs commonly write.
-/
namespace Utterance

/-- A binary floating point number. A finite one denotes `mantissa * 2 ^ exponent`; the mantissa is
less than `2 ^ 53`, and it is at least `2 ^ 52` unless the exponent is the least one. -/
inductive Number where
  | nan
  | infinite (negative : Bool)
  | finite (negative : Bool) (mantissa : Nat) (exponent : Int)
deriving Repr, DecidableEq, Inhabited

namespace Number

/-- Binary digits of a mantissa. -/
def precision : Nat := 53

/-- The least exponent. -/
def minExponent : Int := -1074

/-- The greatest exponent. -/
def maxExponent : Int := 971

/-- Whether two numbers are equal in value: zeros of both signs are, and what is no number equals
nothing. -/
def same : Number → Number → Bool
  | .infinite left, .infinite right => left == right
  | .finite _ 0 _, .finite _ 0 _ => true
  | .finite left mantissa exponent, .finite right mantissa' exponent' =>
    left == right && mantissa == mantissa' && exponent == exponent'
  | _, _ => false

/-- A quotient rounded to the nearest integer, a tie to the even one. -/
def roundQuotient (numerator denominator : Nat) : Nat :=
  let quotient := numerator / denominator
  let rest := 2 * (numerator % denominator)
  if rest < denominator then quotient
  else if denominator < rest then quotient + 1
  else quotient + quotient % 2

/-- The terms of a quotient that is divided by a power of two. -/
def scale (numerator denominator : Nat) (exponent : Int) : Nat × Nat :=
  (numerator * Nat.pow 2 (-exponent).toNat, denominator * Nat.pow 2 exponent.toNat)

/-- The number nearest to a positive quotient. -/
def ofQuotient (negative : Bool) (numerator denominator : Nat) : Number :=
  let guess : Int := (numerator.log2 : Int) - denominator.log2 - (precision - 1 : Nat)
  let (above, below) := scale numerator denominator guess
  let exact := if above / below < Nat.pow 2 (precision - 1) then guess - 1 else guess
  let exponent := max exact minExponent
  let (above, below) := scale numerator denominator exponent
  let mantissa := roundQuotient above below
  let (mantissa, exponent) :=
    if mantissa < Nat.pow 2 precision then (mantissa, exponent) else (mantissa / 2, exponent + 1)
  if maxExponent < exponent then .infinite negative else .finite negative mantissa exponent

/-- The number nearest to `digits * 10 ^ power`. -/
def ofDecimal (negative : Bool) (digits : Nat) (power : Int) : Number :=
  if digits = 0 then .finite negative 0 minExponent
  else
    let magnitude : Int := (Nat.toDigits 10 digits).length + power
    if magnitude < -400 then .finite negative 0 minExponent
    else if 400 < magnitude then .infinite negative
    else if power < 0 then ofQuotient negative digits (Nat.pow 10 (-power).toNat)
    else ofQuotient negative (digits * Nat.pow 10 power.toNat) 1

/-- Value of decimal digits. -/
def decimalValue (digits : List Char) : Nat :=
  digits.foldl (fun total char => 10 * total + (char.toNat - '0'.toNat)) 0

/-- A sign, if there is one: whether it is a minus, and the characters after it. -/
def readSign : List Char → Bool × List Char
  | '+' :: rest => (false, rest)
  | '-' :: rest => (true, rest)
  | chars => (false, chars)

/-- The power of ten after an exponent mark, or zero where there is no mark. -/
def readPower? : List Char → Option Int
  | [] => some 0
  | mark :: rest =>
    if mark = 'e' || mark = 'E' then
      let (negative, digits) := readSign rest
      if digits.isEmpty || !digits.all Char.isDigit then none
      else some (if negative then -(decimalValue digits : Int) else decimalValue digits)
    else none

/-- The number that a text denotes: a decimal with an optional sign, fraction and power of ten, or
the name of an infinity or of what is no number, in any case. -/
def ofText? (text : String) : Option Number :=
  let (negative, body) := readSign text.toList
  match String.ofList (body.map Char.toLower) with
  | "inf" => some (.infinite negative)
  | "infinity" => some (.infinite negative)
  | "nan" => some .nan
  | _ =>
    let (whole, rest) := body.span Char.isDigit
    let (fraction, rest) := match rest with
      | '.' :: rest => rest.span Char.isDigit
      | _ => ([], rest)
    if whole.isEmpty && fraction.isEmpty then none
    else
      (readPower? rest).map fun power =>
        ofDecimal negative (decimalValue (whole ++ fraction)) (power - fraction.length)

end Number

end Utterance
