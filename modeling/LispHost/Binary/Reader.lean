import LispHost.Binary
import LispHost.Text.Digits
import LispHost.Text.Scan

/-!
Reading numbers with a point or an exponent.

A sign may stand in front; there are digits before or after the point, or on both sides; an exponent
may follow, with a sign of its own.
-/

set_option autoImplicit false

namespace LispHost

open LispHost.Text

namespace Decimal

/-- A sign, if one stands in front; true for minus. -/
def signScan : Scan Bool := do
  match ← Scan.peek? with
  | some '-' => Scan.skip 1; return true
  | some '+' => Scan.skip 1; return false
  | _ => return false

def exponentScan : Scan (Option Int) := do
  match ← Scan.peek? with
  | some c =>
    if c = 'e' ∨ c = 'E' then do
      Scan.skip 1
      let negative ← signScan
      let size : Int := decimalNumber (← Scan.takeWhile1 Char.isDigit)
      return some (if negative then -size else size)
    else return none
  | none => return none

def scan : Scan Decimal := do
  let negative ← signScan
  let whole ← Scan.takeWhile Char.isDigit
  let pointed ← Scan.charIf '.'
  let part ← if pointed then Scan.takeWhile Char.isDigit else pure []
  guard (!(whole ++ part).isEmpty)
  let power ← exponentScan
  let digits := decimalNumber (whole ++ part)
  return ⟨negative, digits, part.length, power.getD 0, !pointed && power.isNone⟩

def ofText? (text : List Char) : Option Decimal :=
  match scan text with
  | some (d, []) => some d
  | _ => none

def int? (d : Decimal) : Option Int :=
  if d.integral then some (if d.negative then -d.digits else d.digits) else none

end Decimal

end LispHost
