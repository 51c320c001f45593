import LispHost.Guest.Instance

/-!
Fuel of single calls.

With metering on, a call from the host is paid for before anything of it runs, and a call that cannot be
paid for fails at once and changes nothing. Without metering every call is free.
-/

set_option autoImplicit false

namespace LispHost.Instance

variable {σ α : Type} {inst : Instance σ} {fuel : Option Nat}

/-- The fuel after a call from the host, if there is any to pay for it. -/
def spend? : Option Nat → Option (Option Nat)
  | none => some none
  | some 0 => none
  | some (fuel + 1) => some (some fuel)

theorem spend?_eq_none_iff : spend? fuel = none ↔ fuel = some 0 := by
  rcases fuel with _ | _ | fuel <;> simp [spend?]

theorem unmetered_iff_of_spend {rest : Option Nat} (spent : spend? fuel = some rest) :
    fuel = none ↔ rest = none := by
  rcases fuel with _ | _ | fuel
  · cases spent
    exact Iff.rfl
  · cases spent
  · cases spent
    simp

def withFuel (inst : Instance σ) (fuel : Option Nat) : Instance σ :=
  { inst with fuel }

theorem enter_of_spend (spent : spend? inst.fuel = some fuel) (code : Code σ α) :
    inst.enter code = run code (inst.withFuel fuel) := by
  obtain ⟨guest, limits, memory, table, globals, host, own⟩ := inst
  rcases own with _ | _ | own <;> cases spent <;> rfl

theorem enter_of_empty (empty : spend? inst.fuel = none) (code : Code σ α) :
    inst.enter code = (.trap .outOfFuel, inst) := by
  obtain ⟨guest, limits, memory, table, globals, host, own⟩ := inst
  rcases own with _ | _ | own <;> first | rfl | cases empty

theorem callFunc_of_empty (empty : spend? inst.fuel = none) (f : Func σ) (args : List Word) :
    inst.callFunc f args = (.error (.execution (.trap .outOfFuel)), inst) := by
  rw [callFunc, enter_of_empty empty]
  rfl

theorem callWord_of_empty (empty : spend? inst.fuel = none) (f : Func σ) (args : List Word) :
    inst.callWord f args = (.error (.execution (.trap .outOfFuel)), inst) := by
  rw [callWord, callFunc_of_empty empty]

end LispHost.Instance
