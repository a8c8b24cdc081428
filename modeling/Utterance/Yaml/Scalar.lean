import Utterance.Number
import Utterance.Options
import Utterance.Text.Split

/-!
# Plain scalars

A plain scalar of a YAML document is read by its form: nothing, a truth value, an integer in one of
four bases, a floating point number, or text. The same rules decide which texts have to be quoted
when they are written.
-/
namespace Utterance.Yaml

/-- What a plain scalar stands for. -/
inductive Scalar where
  | null
  | bool (value : Bool)
  | integer (value : Int)
  | float (value : Number)
  | text (value : String)
deriving Repr, Inhabited

/-- Whether some characters are a zero before further digits, which is no number. -/
def isPaddedDigits (chars : List Char) : Bool :=
  let body := match chars with
    | '-' :: rest => rest
    | '+' :: rest => rest
    | _ => chars
  match body with
  | '0' :: next :: rest => (next :: rest).all Char.isDigit
  | _ => false

/-- Value of a digit in a base up to sixteen. -/
def digitIn? (base : Nat) (char : Char) : Option Nat := (Text.hexDigit? char).filter (· < base)

/-- Value of one or more digits in a base. -/
def numberIn? (base : Nat) (digits : List Char) : Option Nat :=
  if digits.isEmpty then none
  else digits.foldlM (fun total char => (digitIn? base char).map (base * total + ·)) 0

/-- Value of digits that may have a mark for their base in front. -/
def basedNumber? : List Char → Option Nat
  | '0' :: 'x' :: rest => numberIn? 16 rest
  | '0' :: 'o' :: rest => numberIn? 8 rest
  | '0' :: 'b' :: rest => numberIn? 2 rest
  | digits => numberIn? 10 digits

/-- The integer that some characters write, if it fits in 128 bits. -/
def integer? (chars : List Char) : Option Int :=
  if isPaddedDigits chars then none
  else
    match chars with
    | '-' :: rest =>
      ((basedNumber? rest).filter (· ≤ Nat.pow 2 127)).map fun value => -(value : Int)
    | '+' :: rest => ((basedNumber? rest).filter (· < Nat.pow 2 128)).map (Int.ofNat ·)
    | _ => ((basedNumber? chars).filter (· < Nat.pow 2 128)).map (Int.ofNat ·)

/-- The integer from zero up to the greatest count that some characters write. -/
def count? (text : String) : Option Nat :=
  match text.toList with
  | '-' :: _ => none
  | chars => (integer? chars).bind fun value => if value ≤ maxCount then some value.toNat else none

/-- Whether a text is one of the names of nothing. -/
def isNullName (text : String) : Bool := ["null", "Null", "NULL", "~"].contains text

/-- The truth value with a name. -/
def bool? (text : String) : Option Bool :=
  if ["true", "True", "TRUE"].contains text then some true
  else if ["false", "False", "FALSE"].contains text then some false
  else none

/-- The floating point number that a text writes; names of infinity and of what is no number begin
with a dot. -/
def float? (text : String) : Option Number :=
  let chars := text.toList
  let unsigned := match chars with
    | '+' :: rest => rest
    | _ => chars
  let doubled := match chars with
    | '+' :: '+' :: _ => true
    | '+' :: '-' :: _ => true
    | _ => false
  if doubled then none
  else if [".inf", ".Inf", ".INF"].contains (String.ofList unsigned) then some (.infinite false)
  else if ["-.inf", "-.Inf", "-.INF"].contains text then some (.infinite true)
  else if [".nan", ".NaN", ".NAN"].contains text then some .nan
  else
    (Number.ofText? (String.ofList unsigned)).filter fun
      | .finite _ _ _ => true
      | _ => false

/-- What a plain scalar stands for. -/
def Scalar.ofPlain (text : String) : Scalar :=
  if text.isEmpty || isNullName text then .null
  else
    match bool? text with
    | some value => .bool value
    | none =>
      match integer? text.toList with
      | some value => .integer value
      | none =>
        match if isPaddedDigits text.toList then none else float? text with
        | some value => .float value
        | none => .text text

end Utterance.Yaml
