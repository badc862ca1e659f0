import DessMonitor.Foundation.PythonValue

/-!
# Formatted numbers

The format specifications the sources use: zero-padded decimal and hexadecimal
integers, and floating-point numbers with a fixed number of decimals.
-/

namespace DessMonitor
namespace PyFormat

open DecimalRounding

def padZeros (width : ℕ) (digits : List Char) : String :=
  .ofList (List.replicate (width - digits.length) '0' ++ digits)

/-- A sign counts towards the width. -/
def signed (width : ℕ) (negative : Bool) (digits : List Char) : String :=
  if negative then "-" ++ padZeros (width - 1) digits
  else padZeros width digits

/-- The specification `0<width>d`. -/
def decimal (width : ℕ) (value : ℤ) : String :=
  signed width (decide (value < 0)) (Nat.toDigits 10 value.natAbs)

/-- The specification `0<width>X`. -/
def hex (width : ℕ) (value : ℤ) : String :=
  signed width (decide (value < 0))
    ((Nat.toDigits 16 value.natAbs).map Char.toUpper)

/-- The specification `.<places>f`, with the exact value rounded half to
even. -/
def fixed (places : ℕ) : PyFloat → String
  | .nan => "nan"
  | .infinity negative => if negative then "-inf" else "inf"
  | .finite value =>
      let scaled := (roundHalfEven (|value| * 10 ^ places)).toNat
      let digits := padZeros places (Nat.toDigits 10 (scaled % 10 ^ places))
      (if value < 0 then "-" else "") ++
        .ofList (Nat.toDigits 10 (scaled / 10 ^ places)) ++ "." ++ digits

/-- The specification `0<width>.<places>f`. -/
def fixedPadded (width places : ℕ) (value : PyFloat) : String :=
  match (fixed places value).toList with
  | '-' :: digits => signed width true digits
  | digits => signed width false digits

/-- `int(value)`; `none` is the error on an infinity or NaN. -/
def truncate : PyFloat → Option ℤ
  | .finite value => some (if value < 0 then ⌈value⌉ else ⌊value⌋)
  | .infinity _ => none
  | .nan => none

example : hex 8 48879 = "0000BEEF" := by decide +kernel

example : fixedPadded 4 1 (.ofRat 5) = "05.0" := by decide +kernel

example : fixed 1 (.ofRat (2375 / 10)) = "237.5" := by decide +kernel

end PyFormat
end DessMonitor
