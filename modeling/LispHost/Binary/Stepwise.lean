import LispHost.Binary

/-!
Reading decimals with a rounding at every step.

The digits are cut to a number of 64 bits, that is rounded, and the result is multiplied with, or
divided by, a rounded power of ten. This is fast, and it may miss the number nearest to the decimal by a
few places.
-/

set_option autoImplicit false

namespace LispHost

namespace Binary

def product : Binary → Binary → Binary
  | .finite _ m e, .finite _ m' e' =>
    if m * m' = 0 then .finite false 0 BinaryFormat.double.minExponent
    else
      let (up, down) := powRatio 2 (e + e')
      ofRatio .double false (m * m' * up) down
  | _, _ => .infinite false

/-- The quotient of two sizes as a 64-bit number; the divisor is finite and not zero. -/
def quotient : Binary → Binary → Binary
  | .finite _ m e, .finite _ m' e' =>
    if m * m' = 0 then .finite false 0 BinaryFormat.double.minExponent
    else
      let (up, down) := powRatio 2 (e - e')
      ofRatio .double false (m * up) (m' * down)
  | _, _ => .infinite false

def negated : Binary → Binary
  | .finite negative m e => .finite (!negative) m e
  | .infinite negative => .infinite (!negative)
  | .nan => .nan

def greatestPower : Nat := 308

/-- A size times a power of ten; none beyond all finite numbers. A power too small to be one of the
64-bit numbers is taken in steps. -/
def scaled? (b : Binary) (exponent : Int) : Nat → Option Binary
  | 0 => some b
  | fuel + 1 =>
    let tenTo (n : Nat) : Binary := ofDecimal .double ⟨false, 1, 0, n, false⟩
    if exponent.natAbs ≤ greatestPower then
      if 0 ≤ exponent then
        match b.product (tenTo exponent.natAbs) with
        | .infinite _ => none
        | scaled => some scaled
      else some (b.quotient (tenTo exponent.natAbs))
    else if !b.isNonzero then some b
    else if 0 ≤ exponent then none
    else scaled? (b.quotient (tenTo greatestPower)) (exponent + greatestPower) fuel

end Binary

structure CutDigits where
  size : Nat
  exponent : Int
  isFull : Bool

namespace CutDigits

def fits (cut : CutDigits) (digit : Nat) : Bool :=
  !cut.isFull && decide (cut.size * 10 + digit < UInt64.size)

def addWhole (cut : CutDigits) (digit : Nat) : CutDigits :=
  if cut.fits digit then { cut with size := cut.size * 10 + digit }
  else { cut with exponent := cut.exponent + 1, isFull := true }

def addPlace (cut : CutDigits) (digit : Nat) : CutDigits :=
  if cut.fits digit then { cut with size := cut.size * 10 + digit, exponent := cut.exponent - 1 }
  else { cut with isFull := true }

end CutDigits

/-- The digits of a decimal cut to a number of 64 bits, and the power of ten that belongs to it. What
was left out in front of the point does not keep digits behind it out. -/
def Decimal.cut (d : Decimal) : Nat × Int :=
  let digits := (Nat.toDigits 10 d.digits).map fun c => c.toNat - '0'.toNat
  let zeros := d.places - digits.length
  let whole := digits.take (digits.length - d.places)
  let part := digits.drop (digits.length - d.places)
  let front := whole.foldl CutDigits.addWhole ⟨0, 0, false⟩
  let all := part.foldl CutDigits.addPlace { front with isFull := false }
  (all.size, all.exponent - zeros + d.power)

/-- The 64-bit number that a decimal is read as with a rounding at every step; none beyond all finite
numbers. -/
def Binary.ofDecimalStepwise? (d : Decimal) : Option Binary :=
  let (size, exponent) := d.cut
  (scaled? (.ofDecimal .double (.ofNat size)) exponent 4).map fun b =>
    if d.negative then b.negated else b

end LispHost
