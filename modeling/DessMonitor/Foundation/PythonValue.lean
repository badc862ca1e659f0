import DessMonitor.Foundation.DecimalRounding
import DessMonitor.Foundation.InsertionDict
import Mathlib.Data.Int.Log

/-!
# Dynamic values

The values a decoded reply carries, with Python's truth test and the
conversion `float(value)`.  Floating-point numbers are the rationals they
denote, together with the infinities and NaN; a decimal literal or an integer
is rounded to the nearest binary64 number.
-/

namespace DessMonitor

open DecimalRounding

inductive PyFloat where
  | finite (value : ℚ)
  | infinity (negative : Bool)
  | nan
  deriving DecidableEq

inductive PyValue where
  | none
  | bool (value : Bool)
  | int (value : ℤ)
  | float (value : PyFloat)
  | str (value : String)
  | list (items : List PyValue)
  | dict (items : List (String × PyValue))

namespace PyFloat

/-- `lo <= x <= hi` for finite bounds; false on NaN. -/
def between (lo hi : ℚ) : PyFloat → Bool
  | .finite value => decide (lo ≤ value ∧ value ≤ hi)
  | .infinity _ => false
  | .nan => false

/-- The number itself, where `lo <= x <= hi`. -/
def within (lo hi : ℚ) : PyFloat → Option ℚ
  | .finite value => if lo ≤ value ∧ value ≤ hi then some value else none
  | .infinity _ => none
  | .nan => none

theorem mem_of_within {lo hi value : ℚ} {x : PyFloat}
    (hwithin : x.within lo hi = some value) : lo ≤ value ∧ value ≤ hi := by
  cases x with
  | finite number =>
      obtain ⟨hmem, rfl⟩ := by simpa [within] using hwithin
      exact hmem
  | infinity negative => cases hwithin
  | nan => cases hwithin

/-- `bound < x`; false on NaN. -/
def exceeds (bound : ℚ) : PyFloat → Bool
  | .finite value => decide (bound < value)
  | .infinity negative => !negative
  | .nan => false

/-- `x < bound`; false on NaN. -/
def below (bound : ℚ) : PyFloat → Bool
  | .finite value => decide (value < bound)
  | .infinity negative => negative
  | .nan => false

/-- `-x`. -/
def neg : PyFloat → PyFloat
  | .finite value => .finite (-value)
  | .infinity negative => .infinity (!negative)
  | .nan => .nan

/-- `max(0.0, x)`, which keeps the zero unless `x` is greater. -/
def positivePart (x : PyFloat) : PyFloat :=
  if x.exceeds 0 then x else .finite 0

def isNegative : PyFloat → Bool
  | .finite value => decide (value < 0)
  | .infinity negative => negative
  | .nan => false

/-- `x * y`, exact on finite numbers. -/
def mul : PyFloat → PyFloat → PyFloat
  | .nan, _ => .nan
  | _, .nan => .nan
  | .finite x, .finite y => .finite (x * y)
  | x, y =>
      if x = .finite 0 ∨ y = .finite 0 then .nan
      else .infinity (x.isNegative != y.isNegative)

/-- The binary64 number nearest to a rational. -/
def ofRat (value : ℚ) : PyFloat :=
  if value = 0 then .finite 0
  else
    let exponent := max (Int.log 2 |value|) (-1022) - 52
    let rounded := roundHalfEven (value / 2 ^ exponent) * (2 : ℚ) ^ exponent
    if 1024 ≤ Int.log 2 |rounded| then .infinity (decide (rounded < 0))
    else .finite rounded

/-! ## Decimal literals -/

/-- Code points of the zeros of Unicode's decimal digit sequences. -/
def decimalZeros : List ℕ :=
  [0x30, 0x660, 0x6f0, 0x7c0, 0x966, 0x9e6, 0xa66, 0xae6, 0xb66, 0xbe6, 0xc66,
    0xce6, 0xd66, 0xde6, 0xe50, 0xed0, 0xf20, 0x1040, 0x1090, 0x17e0, 0x1810,
    0x1946, 0x19d0, 0x1a80, 0x1a90, 0x1b50, 0x1bb0, 0x1c40, 0x1c50, 0xa620,
    0xa8d0, 0xa900, 0xa9d0, 0xa9f0, 0xaa50, 0xabf0, 0xff10, 0x104a0, 0x10d30,
    0x11066, 0x110f0, 0x11136, 0x111d0, 0x112f0, 0x11450, 0x114d0, 0x11650,
    0x116c0, 0x11730, 0x118e0, 0x11950, 0x11c50, 0x11d50, 0x11da0, 0x11f50,
    0x16a60, 0x16ac0, 0x16b50, 0x1d7ce, 0x1d7d8, 0x1d7e2, 0x1d7ec, 0x1d7f6,
    0x1e140, 0x1e2f0, 0x1e4f0, 0x1e950, 0x1fbf0]

def isWideSpace (c : Char) : Bool :=
  let n := c.toNat
  n == 0x85 || n == 0xa0 || n == 0x1680 || (0x2000 ≤ n && n ≤ 0x200a) ||
    n == 0x2028 || n == 0x2029 || n == 0x202f || n == 0x205f || n == 0x3000

/-- Non-ASCII spaces and digits become ASCII ones, anything else a `?`. -/
def toAscii (c : Char) : Char :=
  if c.toNat < 127 then c
  else if isWideSpace c then ' '
  else
    match decimalZeros.find? fun first => first ≤ c.toNat && c.toNat < first + 10 with
    | some first => Char.ofNat ('0'.toNat + (c.toNat - first))
    | none => '?'

def isSpace (c : Char) : Bool :=
  (9 ≤ c.toNat && c.toNat ≤ 13) || c == ' '

def strip (text : List Char) : List Char :=
  ((text.dropWhile isSpace).reverse.dropWhile isSpace).reverse

/-- Every underscore stands between two digits. -/
def underscoresBetweenDigits : Bool → List Char → Bool
  | _, [] => true
  | afterDigit, c :: rest =>
      if c = '_' then
        afterDigit && (rest.head?.any Char.isDigit) &&
          underscoresBetweenDigits false rest
      else underscoresBetweenDigits c.isDigit rest

def digitsValue (digits : List Char) : ℕ :=
  digits.foldl (fun value c => value * 10 + (c.toNat - '0'.toNat)) 0

def splitSign : List Char → Bool × List Char
  | '-' :: rest => (true, rest)
  | '+' :: rest => (false, rest)
  | text => (false, text)

/-- `e` or `E`, an optional sign and digits, or nothing at all. -/
def exponentPart : List Char → Option ℤ
  | [] => some 0
  | marker :: rest =>
      let (negative, digits) := splitSign rest
      if (marker = 'e' ∨ marker = 'E') ∧ digits ≠ [] ∧ digits.all Char.isDigit
      then some (if negative then -digitsValue digits else digitsValue digits)
      else none

def decimalPart (text : List Char) : Option ℚ :=
  let whole := text.takeWhile Char.isDigit
  let afterWhole := text.dropWhile Char.isDigit
  let (fraction, rest) :=
    match afterWhole with
    | '.' :: more => (more.takeWhile Char.isDigit, more.dropWhile Char.isDigit)
    | _ => ([], afterWhole)
  if whole = [] ∧ fraction = [] then none
  else
    (exponentPart rest).map fun (exponent : ℤ) =>
      digitsValue (whole ++ fraction) *
        (10 : ℚ) ^ (exponent - (fraction.length : ℤ))

/-- `float(text)`; `none` is `ValueError`. -/
def ofText? (text : String) : Option PyFloat :=
  let stripped := strip (text.toList.map toAscii)
  let (negative, body) := splitSign stripped
  let word := body.map Char.toLower
  if word = "inf".toList ∨ word = "infinity".toList then
    some (.infinity negative)
  else if word = "nan".toList then some .nan
  else if underscoresBetweenDigits false body then
    (decimalPart (body.filter (· ≠ '_'))).map fun magnitude =>
      ofRat (if negative then -magnitude else magnitude)
  else none

example : ofText? " -26.50 " = some (.finite (-53 / 2)) := by decide +kernel

end PyFloat

namespace PyValue

inductive FloatError where
  | typeOrValue
  | overflow
  deriving DecidableEq

/-- `float(value)`. -/
def toFloat : PyValue → Except FloatError PyFloat
  | .none => .error .typeOrValue
  | .bool value => .ok (.finite (if value then 1 else 0))
  | .int value =>
      match PyFloat.ofRat value with
      | .finite rounded => .ok (.finite rounded)
      | _ => .error .overflow
  | .float value => .ok value
  | .str text =>
      match PyFloat.ofText? text with
      | some value => .ok value
      | Option.none => .error .typeOrValue
  | .list _ => .error .typeOrValue
  | .dict _ => .error .typeOrValue

/-- `bool(value)`. -/
def truthy : PyValue → Bool
  | .none => false
  | .bool value => value
  | .int value => decide (value ≠ 0)
  | .float value => decide (value ≠ .finite 0)
  | .str text => decide (text ≠ "")
  | .list items => !items.isEmpty
  | .dict items => !items.isEmpty

/-- `value == text` for a string `text`. -/
def eqText (text : String) : PyValue → Bool
  | .str value => decide (value = text)
  | _ => false

end PyValue

end DessMonitor
