import LispHost.Guest.Instance

/-!
Calls of guest functions.

A call from the host either answers values of the function's own result types, or it fails with what
stopped the guest: a trap, an exit or a system call before the binding. So a function that answers one
word can fail in no other way when the host calls it for its word.
-/

set_option autoImplicit false

namespace LispHost

variable {σ α β : Type}

/-- What a call of a guest function can fail with. -/
inductive Error.Carried : Error → Prop
  | trap (cause : Trap) : Carried (.execution (.trap cause))
  | exit (code : Int32) : Carried (.guestExit code)
  | unbound : Carried .unbound

namespace Instance

theorem run_bind (f : α → Code σ β) (code : Code σ α) (inst : Instance σ) :
    run (code.bind f) inst =
      match run code inst with
      | (.value answer, inst) => run (f answer) inst
      | (.trap cause, inst) => (.trap cause, inst)
      | (.exit status, inst) => (.exit status, inst)
      | (.unbound, inst) => (.unbound, inst) := by
  induction code generalizing inst with
  | done answer | trap cause | spin => rfl
  | getGlobals next ih => exact ih inst.globals inst
  | setGlobals globals next ih => exact ih () { inst with globals }
  | load address width next ih =>
    simp only [Code.bind, run]
    cases inst.memory.read? address.toNat width with
    | none => rfl
    | some data => exact ih data inst
  | store address data next ih =>
    simp only [Code.bind, run]
    split
    · exact ih () _
    · rfl
  | grow pages next ih =>
    simp only [Code.bind, run]
    cases inst.grow pages.toNat with
    | none => exact ih denied inst
    | some grown => exact ih _ grown.2
  | growTable elements next ih =>
    simp only [Code.bind, run]
    cases inst.growTable elements.toNat with
    | none => exact ih denied inst
    | some grown => exact ih _ grown.2
  | syscall call next ih =>
    simp only [Code.bind, run]
    cases answered : inst.syscall call with
    | mk ending after =>
    cases ending with
    | value status => exact ih status after
    | trap cause | exit status | unbound => rfl

theorem run_func {f : Func σ} {args : List Word} {inst next : Instance σ} {values : List Value}
    (ran : run (f.run args) inst = (.value values, next)) :
    ∃ bits, values = valuesOfBits f.results bits := by
  rw [Func.run, run_bind] at ran
  cases body : run (f.body args) inst with
  | mk ending after =>
  rw [body] at ran
  cases ending with
  | value bits => exact ⟨bits, (Ending.value.inj (congrArg Prod.fst ran)).symm⟩
  | trap cause | exit status | unbound => cases congrArg Prod.fst ran

theorem callFunc_ok {f : Func σ} {args : List Word} {inst next : Instance σ} {values : List Value}
    (ok : inst.callFunc f args = (.ok values, next)) :
    ∃ bits, values = valuesOfBits f.results bits := by
  rw [callFunc] at ok
  cases entered : inst.enter (f.run args) with
  | mk ending after =>
  rw [entered] at ok
  cases ending with
  | trap cause | exit status | unbound => cases congrArg Prod.fst ok
  | value answer =>
    obtain rfl : answer = values := Except.ok.inj (congrArg Prod.fst ok)
    rw [enter] at entered
    split at entered
    · exact run_func entered
    · cases congrArg Prod.fst entered
    · exact run_func entered

theorem callFunc_error {f : Func σ} {args : List Word} {inst next : Instance σ} {e : Error}
    (failed : inst.callFunc f args = (.error e, next)) : e.Carried := by
  rw [callFunc] at failed
  cases entered : inst.enter (f.run args) with
  | mk ending after =>
  rw [entered] at failed
  cases ending with
  | value answer => cases congrArg Prod.fst failed
  | trap cause =>
    cases congrArg Prod.fst failed
    exact .trap cause
  | exit status =>
    cases congrArg Prod.fst failed
    exact .exit status
  | unbound =>
    cases congrArg Prod.fst failed
    exact .unbound

/-- A function with one word as its result never fails the host for want of one. -/
theorem callWord_error {f : Func σ} (results : f.results = [.i32]) {args : List Word}
    {inst next : Instance σ} {e : Error} (failed : inst.callWord f args = (.error e, next)) :
    e.Carried := by
  rw [callWord] at failed
  cases called : inst.callFunc f args with
  | mk answer after =>
  rw [called] at failed
  cases answer with
  | error e' =>
    cases failed
    exact callFunc_error called
  | ok values =>
    obtain ⟨bits, rfl⟩ := callFunc_ok called
    rw [results] at failed
    cases bits <;> cases failed

end Instance

namespace Guest

variable {guest : Guest σ} {name : String} {arity : Nat} {f : Func σ}

/-- The host finds a function from words to a word if and only if one is exported under the name. -/
theorem wordFunc_eq_ok_iff :
    guest.wordFunc name arity = .ok f ↔ guest.export? name = some (.func f) ∧
      f.params = List.replicate arity .i32 ∧ f.results = [.i32] := by
  rw [wordFunc, typedFunc, func]
  constructor
  · intro found
    cases exported : guest.export? name with
    | none => simp [exported] at found
    | some item =>
      cases item with
      | global value | memory | table => simp [exported] at found
      | func g =>
        simp only [exported] at found
        split at found
        · rename_i signature
          cases found
          exact ⟨rfl, signature⟩
        · cases found
  · rintro ⟨exported, signature⟩
    simp only [exported, signature, and_self, if_true]

/-- A function that the host looks up as one from words to a word answers one word. -/
theorem results_of_wordFunc (found : guest.wordFunc name arity = .ok f) : f.results = [.i32] :=
  (wordFunc_eq_ok_iff.mp found).2.2

end Guest

end LispHost
