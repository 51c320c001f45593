/-!
Numbers written by digits.
-/

set_option autoImplicit false

namespace LispHost.Text

/-- The value of a digit in a radix; letters of either case continue the decimal digits. -/
def digitValue? (radix : Nat) (c : Char) : Option Nat :=
  let value? :=
    if '0' ≤ c ∧ c ≤ '9' then some (c.toNat - 48)
    else if 'a' ≤ c ∧ c ≤ 'z' then some (c.toNat - 87)
    else if 'A' ≤ c ∧ c ≤ 'Z' then some (c.toNat - 55)
    else none
  value?.filter (· < radix)

/-- The number written by digits of a radix, if there are any and all belong to it. -/
def radixNumber? (radix : Nat) (digits : List Char) : Option Nat :=
  if digits.isEmpty then none
  else digits.foldlM (fun acc c => (digitValue? radix c).map (acc * radix + ·)) 0

def decimalNumber (digits : List Char) : Nat :=
  digits.foldl (fun acc c => acc * 10 + (c.toNat - 48)) 0

example : radixNumber? 16 ['f', 'F'] = some 255 ∧ decimalNumber ['0', '7'] = 7 := by decide +kernel

end LispHost.Text
