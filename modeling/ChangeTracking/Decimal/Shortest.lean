/-! The shortest decimals that read back. Among all decimals that lie nearer to a binary
number than to any other, the one with the fewest digits is chosen, of those the nearest,
and of two equally near ones the larger. All arithmetic is exact. -/
namespace ChangeTracking

/-- A finite magnitude of binary64, `mantissa * 2 ^ exponent`. Just above a power of two the
gap below is half as wide as the gap above. -/
structure Binary where
  mantissa : Nat
  exponent : Int
  narrowBelow : Bool
deriving DecidableEq

/-- The number `digits * 10 ^ exponent`. -/
structure Decimal where
  digits : Nat
  exponent : Int
deriving DecidableEq

namespace Binary

/-- The magnitude of a float that is finite. -/
def ofFloat (value : Float) : Binary :=
  let bits := value.toBits
  let field := ((bits >>> 52) &&& 0x7FF).toNat
  let fraction := (bits &&& 0xFFFFFFFFFFFFF).toNat
  if field = 0 then ⟨fraction, -1074, false⟩
  else ⟨0x10000000000000 + fraction, (field : Int) - 1075, fraction = 0 && 1 < field⟩

/-- Compares `digits * 10 ^ tens` with `units * 2 ^ twos`. -/
def compareScaled (digits : Nat) (tens : Int) (units : Nat) (twos : Int) : Ordering :=
  compare (digits * Nat.pow 10 tens.toNat * Nat.pow 2 (-twos).toNat)
    (units * Nat.pow 2 twos.toNat * Nat.pow 10 (-tens).toNat)

/-- Whether a decimal rounds to this number: it lies between the middles of the two gaps, and
the middles themselves count if the mantissa is even. -/
def readsBack (value : Binary) (decimal : Decimal) : Bool :=
  let low := if value.narrowBelow then 4 * value.mantissa - 1 else 4 * value.mantissa - 2
  let fromLow := compareScaled decimal.digits decimal.exponent low (value.exponent - 2)
  let fromHigh :=
    compareScaled decimal.digits decimal.exponent (4 * value.mantissa + 2) (value.exponent - 2)
  let middles := value.mantissa % 2 = 0
  (fromLow = .gt || (middles && fromLow = .eq)) && (fromHigh = .lt || (middles && fromHigh = .eq))

/-- The whole number of units `10 ^ tens` in this number, rounded down. -/
def floorUnits (value : Binary) (tens : Int) : Nat :=
  value.mantissa * Nat.pow 2 value.exponent.toNat * Nat.pow 10 (-tens).toNat /
    (Nat.pow 2 (-value.exponent).toNat * Nat.pow 10 tens.toNat)

/-- The nearer of two neighbours on a grid, the upper one if both are equally near. -/
def nearer (value : Binary) (below : Nat) (tens : Int) : Nat :=
  if compareScaled (2 * below + 1) tens (2 * value.mantissa) value.exponent = .gt then below
  else below + 1

/-- The decimal on the grid of `10 ^ tens` that reads back, if there is one. -/
def onGrid? (value : Binary) (tens : Int) : Option Decimal :=
  let below := value.floorUnits tens
  match value.readsBack ⟨below, tens⟩, value.readsBack ⟨below + 1, tens⟩ with
  | true, true => some ⟨value.nearer below tens, tens⟩
  | true, false => some ⟨below, tens⟩
  | false, true => some ⟨below + 1, tens⟩
  | false, false => none

/-- The first grid with a decimal that reads back, going from coarse to fine. -/
def search (value : Binary) : (finer : Nat) → (tens : Int) → Option Decimal
  | 0, _ => none
  | finer + 1, tens => (value.onGrid? tens).or (value.search finer (tens - 1))

/-- The number without its last decimal zeros. -/
def strip : (limit : Nat) → Decimal → Decimal
  | 0, decimal => decimal
  | limit + 1, decimal =>
    if decimal.digits ≠ 0 && decimal.digits % 10 = 0 then
      strip limit ⟨decimal.digits / 10, decimal.exponent + 1⟩
    else decimal

def exact (value : Binary) : Decimal :=
  ⟨value.mantissa * Nat.pow 2 value.exponent.toNat * Nat.pow 5 (-value.exponent).toNat,
    if value.exponent < 0 then value.exponent else 0⟩

/-- The shortest decimal that reads back. The grids tried reach from above the largest number
down to the place of the last exact digit. -/
def shortest (value : Binary) : Decimal :=
  if value.mantissa = 0 then ⟨0, 0⟩
  else
    let bits := (value.mantissa.log2 : Int) + value.exponent
    let start := Int.fdiv (bits * 30103) 100000 + 2
    strip 400 ((value.search 24 start).getD value.exact)

end Binary
end ChangeTracking
