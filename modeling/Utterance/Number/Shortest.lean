import Utterance.Number

/-!
# Numbers as decimals

Each finite number other than zero is written by the fewest digits that read back as the number; of
two such decimals the nearer one is taken, and of two equally near ones the greater. `Decimal` holds
the digits and a power of ten, and the layouts below place the point.
-/
namespace Utterance.Number

/-- A positive decimal: `digits * 10 ^ power`. -/
structure Decimal where
  /-- The digits as a number that does not end in zero. -/
  digits : Nat
  /-- The power of ten. -/
  power : Int
deriving Repr, DecidableEq, Inhabited

/-- The interval of reals that round to a number, in units of `2 ^ (exponent - 2)`: its lower and
upper end. Below a power of two the spacing of numbers is halved. -/
def roundingInterval (mantissa : Nat) (exponent : Int) : Nat × Nat :=
  let low := if mantissa = Nat.pow 2 (precision - 1) ∧ minExponent < exponent then 4 * mantissa - 1
    else 4 * mantissa - 2
  (low, 4 * mantissa + 2)

/-- A decimal on the grid of a power of ten that rounds to the number, if one of the number's two
neighbours there does. -/
def onGrid? (mantissa : Nat) (exponent power : Int) : Option Nat :=
  let (low, high) := roundingInterval mantissa exponent
  let unit := exponent - 2
  -- The value and the interval's ends over the grid's step, with one denominator.
  let numeratorScale := Nat.pow 2 unit.toNat * Nat.pow 10 (-power).toNat
  let denominator := Nat.pow 2 (-unit).toNat * Nat.pow 10 power.toNat
  let value := 4 * mantissa * numeratorScale
  let lowEnd := low * numeratorScale
  let highEnd := high * numeratorScale
  let inside (count : Nat) : Bool :=
    let scaled := count * denominator
    if mantissa % 2 = 0 then lowEnd ≤ scaled && scaled ≤ highEnd
    else lowEnd < scaled && scaled < highEnd
  let below := value / denominator
  let above := below + 1
  let distanceBelow := value - below * denominator
  let distanceAbove := above * denominator - value
  match inside below && 0 < below, inside above with
  | true, true => some (if distanceBelow < distanceAbove then below else above)
  | true, false => some below
  | false, true => some above
  | false, false => none

/-- Drop the zeros at the end of a number's digits, at most `fuel` of them. -/
def dropZeros : (fuel : Nat) → Nat → Int → Decimal
  | 0, digits, power => ⟨digits, power⟩
  | fuel + 1, digits, power =>
    if digits % 10 = 0 then dropZeros fuel (digits / 10) (power + 1) else ⟨digits, power⟩

/-- The first grid, from coarse to fine, that has a decimal which rounds to the number. -/
def firstGrid (mantissa : Nat) (exponent : Int) : (fuel : Nat) → (power : Int) → Decimal
  | 0, power => ⟨mantissa, power⟩
  | fuel + 1, power =>
    match onGrid? mantissa exponent power with
    | some digits => dropZeros 20 digits power
    | none => firstGrid mantissa exponent fuel (power - 1)

/-- The shortest decimal of a positive number. -/
def shortest (mantissa : Nat) (exponent : Int) : Decimal :=
  -- A power of ten above the number: three tenths of its binary digits, rounded up.
  let top : Int := ((mantissa.log2 : Int) + 1 + exponent) * 30103 / 100000 + 2
  firstGrid mantissa exponent 25 top

/-- The decimal digits of a number as characters. -/
def digitChars (value : Nat) : List Char := Nat.toDigits 10 value

/-- A decimal with a point among its digits and no power of ten; a whole one ends in `tail`. -/
def Decimal.positional (decimal : Decimal) (tail : String) : String :=
  let digits := digitChars decimal.digits
  let point : Int := digits.length + decimal.power
  if 0 ≤ decimal.power then
    String.ofList (digits ++ List.replicate decimal.power.toNat '0') ++ tail
  else if 0 < point then
    String.ofList (digits.take point.toNat) ++ "." ++ String.ofList (digits.drop point.toNat)
  else "0." ++ String.ofList (List.replicate (-point).toNat '0' ++ digits)

/-- A decimal with one digit before the point and a power of ten. -/
def Decimal.scientific (decimal : Decimal) : String :=
  let digits := digitChars decimal.digits
  let power := (digits.length : Int) + decimal.power - 1
  let fraction := String.ofList (digits.drop 1)
  String.ofList (digits.take 1) ++ (if fraction.isEmpty then "" else "." ++ fraction) ++ "e" ++
    toString power

/-- The text of a number in running text: always with a point among its digits, never with a power
of ten, and whole numbers without a point. -/
def text : Number → String
  | .nan => "NaN"
  | .infinite negative => if negative then "-inf" else "inf"
  | .finite negative 0 _ => if negative then "-0" else "0"
  | .finite negative mantissa exponent =>
    (if negative then "-" else "") ++ (shortest mantissa exponent).positional ""

/-- The text of a number in a document: whole numbers end in `.0`, and a power of ten is written
when the point would stand far from the digits. -/
def documentText (negative : Bool) (mantissa : Nat) (exponent : Int) : String :=
  let sign := if negative then "-" else ""
  if mantissa = 0 then sign ++ "0.0"
  else
    let decimal := shortest mantissa exponent
    let point : Int := (digitChars decimal.digits).length + decimal.power
    sign ++ (if -5 < point ∧ point ≤ 16 then decimal.positional ".0" else decimal.scientific)

end Utterance.Number
