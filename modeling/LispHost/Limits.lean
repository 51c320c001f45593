import LispHost.Memory

/-!
Limits on what a guest may take: memory, table elements and fuel.
-/

set_option autoImplicit false

namespace LispHost

structure Limits where
  maxMemoryPages : Nat
  maxTableElements : Nat
  /-- The fuel of a bridge; without it nothing is metered. -/
  maxFuel : Option Nat
  deriving DecidableEq, Repr

namespace Limits

def default : Limits :=
  ⟨256, 10000, none⟩

def maxMemoryBytes (limits : Limits) : Nat :=
  limits.maxMemoryPages * Memory.pageSize

/-- Whether a size is within a limit and within the guest's own maximum, if it declares one. -/
def allows (limit desired : Nat) (maximum : Option Nat) : Bool :=
  decide (desired ≤ maximum.getD limit) && decide (desired ≤ limit)

def allowsMemory (limits : Limits) (desired : Nat) (maximum : Option Nat) : Bool :=
  allows limits.maxMemoryBytes desired maximum

def allowsTable (limits : Limits) (desired : Nat) (maximum : Option Nat) : Bool :=
  allows limits.maxTableElements desired maximum

end Limits

end LispHost
