import LispHost.Error

/-!
How a run of guest code ends.

Besides an answer and a trap there are two endings that only a system call can cause: the guest asked
to exit, or it called before the host was ready.
-/

set_option autoImplicit false

namespace LispHost

inductive Ending (α : Type) where
  | value (answer : α)
  | trap (cause : Trap)
  | exit (code : Int32)
  | unbound
  deriving DecidableEq, Repr

namespace Ending

variable {α β : Type}

def map (f : α → β) : Ending α → Ending β
  | value answer => value (f answer)
  | trap cause => trap cause
  | exit code => exit code
  | unbound => unbound

def toExcept : Ending α → Except Error α
  | value answer => .ok answer
  | trap cause => .error (.execution (.trap cause))
  | exit code => .error (.guestExit code)
  | unbound => .error .unbound

end Ending

end LispHost
