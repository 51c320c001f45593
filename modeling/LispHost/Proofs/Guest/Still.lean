import LispHost.Proofs.Guest.Calls

/-!
Code that only looks.

Some guest code asks for nothing but the globals and the bytes of the memory, whatever it is answered. Running
it ends in the instance in which it began, also when it traps, so without metering the host can call such a
function at any time and nothing has changed.
-/

set_option autoImplicit false

namespace LispHost

variable {σ α β : Type}

/-- Code that only looks at the globals and the memory. -/
inductive Code.Still : Code σ α → Prop
  | done (answer : α) : Still (.done answer)
  | trap (cause : Trap) : Still (.trap cause)
  | getGlobals {next : σ → Code σ α} (still : ∀ globals, Still (next globals)) :
      Still (.getGlobals next)
  | load {address : Word} {width : Nat} {next : List UInt8 → Code σ α}
      (still : ∀ data, Still (next data)) : Still (.load address width next)

theorem Code.Still.bind {code : Code σ α} {f : α → Code σ β} (first : code.Still)
    (second : ∀ answer, (f answer).Still) : (code.bind f).Still := by
  induction first with
  | done answer => exact second answer
  | trap cause => exact .trap cause
  | getGlobals still ih => exact .getGlobals ih
  | load still ih => exact .load ih

def Func.Still (f : Func σ) : Prop :=
  ∀ args, (f.body args).Still

namespace Instance

variable {inst : Instance σ}

theorem run_of_still {code : Code σ α} (still : code.Still) (inst : Instance σ) :
    (run code inst).2 = inst := by
  induction still with
  | done answer | trap cause => rfl
  | getGlobals still ih => exact ih inst.globals
  | load still ih =>
    rw [run]
    split
    · rfl
    · rename_i data _
      exact ih data

theorem callFunc_of_still {f : Func σ} (still : f.Still) (unmetered : inst.fuel = none)
    (args : List Word) : (inst.callFunc f args).2 = inst := by
  have looks : (f.run args).Still := (still args).bind fun bits => .done _
  change (inst.enter (f.run args)).2 = inst
  rw [enter, unmetered]
  exact run_of_still looks inst

theorem callWord_of_still {f : Func σ} (still : f.Still) (unmetered : inst.fuel = none)
    (args : List Word) : (inst.callWord f args).2 = inst := by
  have called := callFunc_of_still still unmetered args
  rw [callWord]
  split <;> rename_i answered <;> rwa [answered] at called

end Instance

end LispHost
