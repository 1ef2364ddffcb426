import ChangeTracking.Decimal.Shortest

/-! The text of floating-point numbers. A finite number is written with its shortest
digits, with a decimal point if its size is moderate and with a power of ten otherwise;
each text written is read back as the number it came from. -/
namespace ChangeTracking

/-- How numbers are laid out: which leading places are written with a plain decimal point,
and the words for what is no finite number. -/
structure FloatNotation where
  lowestPlace : Int
  highestPlace : Int
  wholeEnding : String
  mark : String
  infinity : String
  notANumber : String

namespace FloatNotation

/-- Numbers from 0.0001 up to below 10^16 have a plain point and whole ones among them end
in a zero; an exponent has no plus sign and no padding. -/
def standard : FloatNotation := ⟨-4, 15, ".0", "e", "inf", "NaN"⟩

def digitsOf (number : Nat) : List Char := Nat.toDigits 10 number

def positional (format : FloatNotation) (decimal : Decimal) : String :=
  let digits := digitsOf decimal.digits
  if 0 ≤ decimal.exponent then
    String.ofList (digits ++ List.replicate decimal.exponent.toNat '0') ++ format.wholeEnding
  else
    let places := (-decimal.exponent).toNat
    let padded := List.replicate (places + 1 - digits.length) '0' ++ digits
    let whole := padded.length - places
    String.ofList (padded.take whole ++ '.' :: padded.drop whole)

/-- A decimal as one leading digit, the others behind a point, and a power of ten. -/
def scientific (format : FloatNotation) (decimal : Decimal) (place : Int) : String :=
  let digits := digitsOf decimal.digits
  let fraction := if digits.tail.isEmpty then [] else '.' :: digits.tail
  String.ofList (digits.take 1 ++ fraction) ++ format.mark ++ toString place

def magnitude (format : FloatNotation) (decimal : Decimal) : String :=
  let place := ((digitsOf decimal.digits).length : Int) + decimal.exponent - 1
  if decimal.digits = 0 || (format.lowestPlace ≤ place && place ≤ format.highestPlace) then
    format.positional decimal
  else format.scientific decimal place

def write (format : FloatNotation) (value : Float) : String :=
  if value.isNaN then format.notANumber
  else
    let sign := if value.toBits >>> 63 = 1 then "-" else ""
    if value.isInf then sign ++ format.infinity
    else sign ++ format.magnitude (Binary.ofFloat value).shortest

/-- The leading decimal digits and what follows them. -/
def spanDigits (chars : List Char) : List Char × List Char :=
  chars.span fun char => '0' ≤ char && char ≤ '9'

def valueOf (digits : List Char) : Nat :=
  digits.foldl (fun number char => number * 10 + (char.toNat - '0'.toNat)) 0

/-- A sign, if there is one, and whether it is a minus. -/
def readSign : List Char → Bool × List Char
  | '-' :: rest => (true, rest)
  | '+' :: rest => (false, rest)
  | chars => (false, chars)

def readExponent? : List Char → Option Int
  | [] => some 0
  | mark :: rest =>
    if mark = 'e' || mark = 'E' then
      let (negative, rest) := readSign rest
      let (digits, rest) := spanDigits rest
      if digits.isEmpty || !rest.isEmpty then none
      else some (if negative then -(valueOf digits : Int) else valueOf digits)
    else none

/-- Digits with a point and a power of ten; one digit at least is required. -/
def readDecimal? (chars : List Char) : Option Decimal :=
  let (whole, rest) := spanDigits chars
  let (fraction, rest) := match rest with
    | '.' :: rest => spanDigits rest
    | rest => ([], rest)
  if whole.isEmpty && fraction.isEmpty then none
  else (readExponent? rest).map fun exponent =>
    ⟨valueOf (whole ++ fraction), exponent - fraction.length⟩

/-- The float nearest to a decimal. A decimal whose leading digit lies far outside the range
of floats is not multiplied out. -/
def nearest (decimal : Decimal) : Float :=
  let place := ((digitsOf decimal.digits).length : Int) + decimal.exponent
  if decimal.digits = 0 || place < -400 then 0.0
  else if 400 < place then 1.0 / 0.0
  else if 0 ≤ decimal.exponent then Float.ofScientific decimal.digits false decimal.exponent.toNat
  else Float.ofScientific decimal.digits true (-decimal.exponent).toNat

/-- Reads a number, with or without a sign; the words are read in any case of letters. -/
def read? (text : String) : Option Float :=
  let (negative, chars) := readSign text.toList
  let signed (value : Float) : Float := if negative then -value else value
  let word := String.ofList (chars.map Char.toLower)
  if word = "inf" || word = "infinity" then some (signed (1.0 / 0.0))
  else if word = "nan" then some (signed (0.0 / 0.0))
  else (readDecimal? chars).map fun decimal => signed (nearest decimal)

end FloatNotation
end ChangeTracking
