import LispHost.Json

/-!
Binary floating-point numbers as exact values, read from decimals and written back.

A finite number is a mantissa times a power of two. Reading rounds to the nearest number of the
format, an exact tie to the even mantissa; writing takes the fewest digits that read back, the
nearest of those, of two equally near ones the greater, and never uses an exponent.
-/

set_option autoImplicit false

namespace LispHost

/-- A binary format: the bits of a mantissa, and the least and the greatest power of two. -/
structure BinaryFormat where
  precision : Nat
  minExponent : Int
  maxExponent : Int

namespace BinaryFormat

def double : BinaryFormat := ⟨53, -1074, 971⟩

def single : BinaryFormat := ⟨24, -149, 104⟩

end BinaryFormat

inductive Binary where
  | finite (negative : Bool) (mantissa : Nat) (exponent : Int)
  | infinite (negative : Bool)
  | nan
  deriving DecidableEq, Repr

namespace Binary

/-- The quotient rounded to the nearest natural number, an exact tie to the even one. -/
def roundDiv (num den : Nat) : Nat :=
  let q := num / den
  let r := num % den
  if 2 * r < den then q
  else if 2 * r = den then (if q % 2 = 0 then q else q + 1)
  else q + 1

def powRatio (base : Nat) (e : Int) : Nat × Nat :=
  if 0 ≤ e then (base.pow e.toNat, 1) else (1, base.pow (-e).toNat)

/-- The greatest `k` with `2 ^ k ≤ num / den`, for positive arguments. -/
def floorLog2 (num den : Nat) : Int :=
  let k : Int := (num.log2 : Int) - den.log2
  let (up, down) := powRatio 2 k
  if up * den ≤ num * down then k else k - 1

def ofRatio (format : BinaryFormat) (negative : Bool) (num den : Nat) : Binary :=
  let exponent := max (floorLog2 num den - format.precision + 1) format.minExponent
  let (up, down) := powRatio 2 exponent
  let mantissa := roundDiv (num * down) (den * up)
  let (mantissa, exponent) :=
    if mantissa = Nat.pow 2 format.precision then (mantissa / 2, exponent + 1) else (mantissa, exponent)
  if format.maxExponent < exponent then .infinite negative
  else .finite negative mantissa exponent

def digitCount (n : Nat) : Nat :=
  (Nat.toDigits 10 n).length

def ofDecimal (format : BinaryFormat) (d : Decimal) : Binary :=
  if d.digits = 0 then .finite d.negative 0 format.minExponent
  else
    let top := d.exponent + digitCount d.digits
    if 400 < top then .infinite d.negative
    else if top < -400 then .finite d.negative 0 format.minExponent
    else
      let (up, down) := powRatio 10 d.exponent
      ofRatio format d.negative (d.digits * up) down

def ofInt (n : Int) : Binary :=
  ofDecimal .double (.ofInt n)

def singleBits : Binary → Nat
  | .finite negative mantissa exponent =>
    (if negative then 0x80000000 else 0) +
      (if mantissa < 0x800000 then mantissa
       else (exponent + 150).toNat * 0x800000 + (mantissa - 0x800000))
  | .infinite negative => (if negative then 0x80000000 else 0) + 0x7F800000
  | .nan => 0x7FC00000

def isNonzero : Binary → Bool
  | .finite _ mantissa _ => mantissa ≠ 0
  | _ => true

/-- The nearest integer, a tie away from zero; none for what is not finite. -/
def round? : Binary → Option Int
  | .finite negative mantissa exponent =>
    let (up, down) := powRatio 2 exponent
    let size : Int := (2 * mantissa * up + down) / (2 * down) |> Int.ofNat
    some (if negative then -size else size)
  | _ => none

/-- The nearest natural number below `bound`, ties away from zero; what is not a number is zero. -/
def saturate (bound : Nat) (b : Binary) : Nat :=
  match b.round?, b with
  | some n, _ => min n.toNat (bound - 1)
  | none, .infinite false => bound - 1
  | none, _ => 0

/-! ### Shortest text -/

/-- The numbers that read back as a positive finite number, on the scale of a quarter of its last
place: lower bound, the number itself, upper bound, and whether the bounds belong to them. -/
def readBack (format : BinaryFormat) (mantissa : Nat) (exponent : Int) : Nat × Nat × Nat × Bool :=
  let gap := if mantissa = Nat.pow 2 (format.precision - 1) ∧ format.minExponent < exponent then 1 else 2
  (4 * mantissa - gap, 4 * mantissa, 4 * mantissa + 2, mantissa % 2 = 0)

/-- The point of the grid `10 ^ k` that reads back and is nearest to the number, of two equally near
ones the greater. Only the two points next to the number can be. -/
def gridPoint? (format : BinaryFormat) (mantissa : Nat) (exponent k : Int) : Option Nat :=
  let (low, value, high, closed) := readBack format mantissa exponent
  let (twoUp, twoDown) := powRatio 2 (exponent - 2)
  let (tenUp, tenDown) := powRatio 10 k
  -- On this scale a grid point `n` is `n * step` and the number is `value * unit`.
  let unit := twoUp * tenDown
  let step := twoDown * tenUp
  let inside (n : Nat) : Bool :=
    if closed then decide (low * unit ≤ n * step ∧ n * step ≤ high * unit)
    else decide (low * unit < n * step ∧ n * step < high * unit)
  let below := value * unit / step
  let above := below + 1
  match inside below && decide (0 < below), inside above with
  | true, true =>
    if value * unit - below * step < above * step - value * unit then some below else some above
  | true, false => some below
  | false, true => some above
  | false, false => none

/-- The first grid, from the coarsest on, with a point that reads back. -/
def shortestFrom (format : BinaryFormat) (mantissa : Nat) (exponent : Int) :
    Nat → Int → Nat × Int
  | 0, k => (mantissa, k)
  | fuel + 1, k =>
    match gridPoint? format mantissa exponent k with
    | some n => (n, k)
    | none => shortestFrom format mantissa exponent fuel (k - 1)

/-- The shortest decimal that reads back as a positive finite number. -/
def shortest (format : BinaryFormat) (mantissa : Nat) (exponent : Int) : Nat × Int :=
  let (up, down) := powRatio 2 exponent
  let top : Int := (digitCount (mantissa * up / down) : Int) - (if down = 1 then 0 else digitCount down)
  shortestFrom format mantissa exponent 400 (top + 1)

/-- The digits of a decimal written out without an exponent. -/
def positional (digits : Nat) (exponent : Int) : String :=
  let text := Nat.toDigits 10 digits
  if 0 ≤ exponent then String.ofList (text ++ List.replicate exponent.toNat '0')
  else
    let places := (-exponent).toNat
    let padded := List.replicate (places + 1 - text.length) '0' ++ text
    let whole := padded.take (padded.length - places)
    let part := padded.drop (padded.length - places)
    String.ofList (whole ++ '.' :: part)

/-- A digit string and its power of ten without trailing zeros, for a positive number. -/
def trimZeros : Nat → Nat → Int → Nat × Int
  | 0, digits, exponent => (digits, exponent)
  | fuel + 1, digits, exponent =>
    if digits % 10 = 0 then trimZeros fuel (digits / 10) (exponent + 1) else (digits, exponent)

/-- The number with the fewest digits that read back, never with an exponent. -/
def text : Binary → String
  | .finite negative mantissa exponent =>
    let sign := if negative then "-" else ""
    if mantissa = 0 then sign ++ "0"
    else
      let (digits, power) := shortest .double mantissa exponent
      let (digits, power) := trimZeros 400 digits power
      sign ++ positional digits power
  | .infinite negative => if negative then "-inf" else "inf"
  | .nan => "NaN"

/-- The number with at least one decimal place. -/
def pointedText (b : Binary) : String :=
  match b with
  | .finite .. => if b.text.toList.contains '.' then b.text else b.text ++ ".0"
  | _ => b.text

end Binary

end LispHost
