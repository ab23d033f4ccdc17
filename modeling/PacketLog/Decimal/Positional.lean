import PacketLog.Decimal.Binary

/-! # Positional notation

A floating-point number is written with as few digits as lead back to it, all digits in their
places, and always with a decimal point.
-/

namespace PacketLog

/-- A floating-point number as a document writes it: a decimal number with its sign, or one of the
names for what is no number. -/
inductive FloatValue
  | finite (negative : Bool) (digits : Nat) (exponent : Int)
  | infinity (negative : Bool)
  | notNumber
  deriving DecidableEq, Repr

/-- The number n · 10^e with all digits in their places. -/
def positional (n : Nat) (e : Int) : List Char :=
  let digits := Nat.toDigits 10 n
  if 0 ≤ e then digits ++ List.replicate e.toNat '0' ++ ['.', '0']
  else
    let places := e.natAbs
    let padded := List.replicate (places + 1 - digits.length) '0' ++ digits
    padded.take (padded.length - places) ++ ['.'] ++ padded.drop (padded.length - places)

namespace FloatValue

/-- The sign of a number, if it is to be shown. -/
def sign (negative : Bool) : List Char := if negative then ['-'] else []

/-- Whether a number is greater than all numbers of 64 bits. -/
def isTooGreat : FloatValue → Bool
  | finite negative digits exponent => !negative && (Binary.round digits exponent).isNone
  | _ => false

/-- The text of a number, after it was rounded to 64 bits. -/
def text : FloatValue → List Char
  | finite negative digits exponent =>
      sign negative ++ match Binary.round digits exponent with
        | none => "inf".toList
        | some b =>
            if b.mantissa = 0 then "0.0".toList
            else
              let (n, e) := b.shortest
              positional n e
  | infinity negative => sign negative ++ "inf".toList
  | notNumber => "NaN".toList

end FloatValue

end PacketLog
