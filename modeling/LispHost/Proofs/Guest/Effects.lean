import LispHost.Proofs.Guest.Calls

/-!
Effects of guest code, and the system calls it makes.

A run of guest code is a chain of steps. Some are system calls; every other step changes only the guest's
own globals, memory, table or fuel. So whatever the host keeps is changed by the system calls of the run
and by nothing else, and what each kind of step keeps is kept by the run. Before the binding the first
system call is also the last step: it ends the run and leaves the instance as it was.
-/

set_option autoImplicit false

namespace LispHost

variable {σ α : Type}

/-- A system call, and the instance in which the guest makes it. -/
structure Made (σ : Type) where
  call : Syscall
  before : Instance σ

namespace Made

def ending (made : Made σ) : Ending Word :=
  (made.before.syscall made.call).1

def after (made : Made σ) : Instance σ :=
  (made.before.syscall made.call).2

end Made

namespace Instance

def calls : Code σ α → Instance σ → List (Made σ)
  | .done _, _ => []
  | .trap _, _ => []
  | .spin, _ => []
  | .getGlobals next, inst => calls (next inst.globals) inst
  | .setGlobals globals next, inst => calls (next ()) { inst with globals }
  | .load address width next, inst =>
    match inst.memory.read? address.toNat width with
    | none => []
    | some data => calls (next data) inst
  | .store address data next, inst =>
    if address.toNat + data.length ≤ inst.memory.size then
      calls (next ()) { inst with memory := inst.memory.setBytes address.toNat data }
    else []
  | .grow pages next, inst =>
    match inst.grow pages.toNat with
    | none => calls (next denied) inst
    | some (old, inst) => calls (next (UInt32.ofNat old)) inst
  | .growTable elements next, inst =>
    match inst.growTable elements.toNat with
    | none => calls (next denied) inst
    | some (old, inst) => calls (next (UInt32.ofNat old)) inst
  | .syscall call next, inst =>
    ⟨call, inst⟩ ::
      match inst.syscall call with
      | (.value status, inst) => calls (next status) inst
      | (.trap _, _) => []
      | (.exit _, _) => []
      | (.unbound, _) => []

def callsEntered (inst : Instance σ) (code : Code σ α) : List (Made σ) :=
  match inst.fuel with
  | none => calls code inst
  | some 0 => []
  | some (fuel + 1) => calls code { inst with fuel := some fuel }

def callsOf (inst : Instance σ) (f : Func σ) (args : List Word) : List (Made σ) :=
  inst.callsEntered (f.run args)

/-- The system calls that an exported function makes when the host calls it by its name. -/
def callsNamed (inst : Instance σ) (name : String) (args : List Word) : List (Made σ) :=
  match inst.guest.func name with
  | .error _ => []
  | .ok f =>
    if f.params.length ≠ args.length then []
    else
      match foreignParam? f with
      | some _ => []
      | none => inst.callsOf f args

inductive Quiet : Instance σ → Instance σ → Prop
  | fuel (inst : Instance σ) {fuel : Option Nat} (unmetered : inst.fuel = none → fuel = none) :
      Quiet inst { inst with fuel }
  | globals (inst : Instance σ) (globals : σ) : Quiet inst { inst with globals }
  | store (inst : Instance σ) {address : Nat} {data : List UInt8}
      (inside : address + data.length ≤ inst.memory.size) :
      Quiet inst { inst with memory := inst.memory.setBytes address data }
  | extend (inst : Instance σ) {pages : Nat}
      (granted : inst.mayHavePages (inst.memory.pages + pages) = true) :
      Quiet inst { inst with memory := inst.memory.extend pages }
  | extendTable (inst : Instance σ) {elements : Nat}
      (granted : inst.mayHaveElements (inst.table + elements) = true) :
      Quiet inst { inst with table := inst.table + elements }

/-- A chain of steps that makes these system calls in this order. -/
inductive Ran : Instance σ → List (Made σ) → Instance σ → Prop
  | stay (inst : Instance σ) : Ran inst [] inst
  | step {inst next last : Instance σ} {made : List (Made σ)} (quiet : Quiet inst next)
      (rest : Ran next made last) : Ran inst made last
  | call {inst last : Instance σ} {made : List (Made σ)} (call : Syscall)
      (rest : Ran (inst.syscall call).2 made last) : Ran inst (⟨call, inst⟩ :: made) last

/-- A run and how it ends: on its own, or with a system call that the host does not answer. -/
inductive Ends : Instance σ → List (Made σ) → Ending Unit → Instance σ → Prop
  | value (inst : Instance σ) : Ends inst [] (.value ()) inst
  | trap (inst : Instance σ) (cause : Trap) : Ends inst [] (.trap cause) inst
  | step {inst next last : Instance σ} {made : List (Made σ)} {ending : Ending Unit}
      (quiet : Quiet inst next) (rest : Ends next made ending last) : Ends inst made ending last
  | call {inst next last : Instance σ} {made : List (Made σ)} {ending : Ending Unit}
      {call : Syscall} {status : Word} (answered : inst.syscall call = (.value status, next))
      (rest : Ends next made ending last) : Ends inst (⟨call, inst⟩ :: made) ending last
  | stopped {inst next : Instance σ} {call : Syscall} {ending : Ending Word}
      (answered : inst.syscall call = (ending, next)) (refused : ∀ status, ending ≠ .value status) :
      Ends inst [⟨call, inst⟩] (ending.map fun _ => ()) next

namespace Ran

variable {inst next last : Instance σ} {made later : List (Made σ)}

theorem trans (first : Ran inst made next) (second : Ran next later last) :
    Ran inst (made ++ later) last := by
  induction first with
  | stay inst => exact second
  | step quiet rest ih => exact .step quiet (ih second)
  | call call rest ih => exact .call call (ih second)

/-- What every step keeps holds at the end of a chain and before each of its system calls. -/
theorem keeps {Kept : Instance σ → Prop}
    (quietly : ∀ inst next, Quiet inst next → Kept inst → Kept next)
    (calling : ∀ inst call, Kept inst → Kept (inst.syscall call).2)
    (ran : Ran inst made last) (kept : Kept inst) :
    Kept last ∧ ∀ m ∈ made, Kept m.before := by
  induction ran with
  | stay inst => exact ⟨kept, by simp⟩
  | step quiet rest ih => exact ih (quietly _ _ quiet kept)
  | call call rest ih =>
    obtain ⟨last_kept, made_kept⟩ := ih (calling _ call kept)
    exact ⟨last_kept, List.forall_mem_cons.mpr ⟨kept, made_kept⟩⟩

end Ran

theorem Ends.ran {inst last : Instance σ} {made : List (Made σ)} {ending : Ending Unit}
    (ends : Ends inst made ending last) : Ran inst made last := by
  induction ends with
  | value inst | trap inst cause => exact .stay inst
  | step quiet rest ih => exact .step quiet ih
  | call answered rest ih =>
    refine .call _ ?_
    rw [answered]
    exact ih
  | stopped answered refused =>
    refine .call _ ?_
    rw [answered]
    exact .stay _

theorem eq_of_grow {inst next : Instance σ} {pages old : Nat}
    (grown : inst.grow pages = some (old, next)) :
    old = inst.memory.pages ∧ (next = inst ∨
      inst.mayHavePages (inst.memory.pages + pages) = true ∧
        next = { inst with memory := inst.memory.extend pages }) := by
  rw [grow] at grown
  split at grown
  · cases grown
    exact ⟨rfl, .inl rfl⟩
  · split at grown
    · rename_i granted
      cases grown
      exact ⟨rfl, .inr ⟨granted, rfl⟩⟩
    · cases grown

/-- Growth of the table that is granted adds the elements, unless there are none to add. -/
theorem eq_of_growTable {inst next : Instance σ} {elements old : Nat}
    (grown : inst.growTable elements = some (old, next)) :
    old = inst.table ∧ (next = inst ∨
      inst.mayHaveElements (inst.table + elements) = true ∧
        next = { inst with table := inst.table + elements }) := by
  rw [growTable] at grown
  split at grown
  · cases grown
    exact ⟨rfl, .inl rfl⟩
  · split at grown
    · rename_i granted
      cases grown
      exact ⟨rfl, .inr ⟨granted, rfl⟩⟩
    · cases grown

private theorem ends_of_grow {inst next last : Instance σ} {pages old : Nat}
    {made : List (Made σ)} {ending : Ending Unit} (grown : inst.grow pages = some (old, next))
    (rest : Ends next made ending last) : Ends inst made ending last := by
  obtain ⟨-, rfl | ⟨granted, rfl⟩⟩ := eq_of_grow grown
  · exact rest
  · exact .step (.extend inst granted) rest

private theorem ends_of_growTable {inst next last : Instance σ} {elements old : Nat}
    {made : List (Made σ)} {ending : Ending Unit}
    (grown : inst.growTable elements = some (old, next)) (rest : Ends next made ending last) :
    Ends inst made ending last := by
  obtain ⟨-, rfl | ⟨granted, rfl⟩⟩ := eq_of_growTable grown
  · exact rest
  · exact .step (.extendTable inst granted) rest

theorem ends_run (code : Code σ α) (inst : Instance σ) :
    Ends inst (calls code inst) ((run code inst).1.map fun _ => ()) (run code inst).2 := by
  induction code generalizing inst with
  | done answer => exact .value inst
  | trap cause => exact .trap inst cause
  | spin =>
    have unmetered : inst.fuel = none → (inst.fuel.map fun _ => 0) = none := by
      rintro metering
      rw [metering]
      rfl
    exact .step (.fuel inst unmetered) (.trap _ .outOfFuel)
  | getGlobals next ih => exact ih inst.globals inst
  | setGlobals globals next ih => exact .step (.globals inst globals) (ih () _)
  | load address width next ih =>
    rw [calls, run]
    cases inst.memory.read? address.toNat width with
    | none => exact .trap inst .outOfBounds
    | some data => exact ih data inst
  | store address data next ih =>
    rw [calls, run]
    split
    · rename_i inside
      exact .step (.store inst inside) (ih () _)
    · exact .trap inst .outOfBounds
  | grow pages next ih =>
    rw [calls, run]
    cases grown : inst.grow pages.toNat with
    | none => exact ih denied inst
    | some result => exact ends_of_grow grown (ih _ result.2)
  | growTable elements next ih =>
    rw [calls, run]
    cases grown : inst.growTable elements.toNat with
    | none => exact ih denied inst
    | some result => exact ends_of_growTable grown (ih _ result.2)
  | syscall call next ih =>
    rw [calls, run]
    -- Only a call that is answered with a value is followed by the rest of the code.
    cases answered : inst.syscall call with
    | mk ending after =>
    cases ending with
    | value status => exact .call answered (ih status after)
    | trap cause | exit code | unbound => exact .stopped answered (by simp)

theorem ends_enter (inst : Instance σ) (code : Code σ α) :
    Ends inst (inst.callsEntered code) ((inst.enter code).1.map fun _ => ())
      (inst.enter code).2 := by
  rw [callsEntered, enter]
  cases metering : inst.fuel with
  | none => exact ends_run code inst
  | some fuel =>
    cases fuel with
    | zero => exact .trap inst .outOfFuel
    | succ fuel => exact .step (.fuel inst (by simp [metering])) (ends_run code _)

theorem ran_callFunc (inst : Instance σ) (f : Func σ) (args : List Word) :
    Ran inst (inst.callsOf f args) (inst.callFunc f args).2 :=
  (inst.ends_enter (f.run args)).ran

theorem ran_callWord (inst : Instance σ) (f : Func σ) (args : List Word) :
    Ran inst (inst.callsOf f args) (inst.callWord f args).2 := by
  have ran := inst.ran_callFunc f args
  rw [callWord]
  split <;> rename_i called <;> rwa [called] at ran

theorem ran_call (inst : Instance σ) (name : String) (args : List Word) :
    Ran inst (inst.callsNamed name args) (inst.call name args).2 := by
  rw [callsNamed, call]
  cases inst.guest.func name with
  | error e => exact .stay inst
  | ok f =>
    by_cases count : f.params.length = args.length
    · simp only [count, ne_eq, not_true_eq_false, if_false]
      cases foreignParam? f with
      | some type => exact .stay inst
      | none =>
        have ran := inst.ran_callFunc f args
        cases called : inst.callFunc f args with
        | mk answer next =>
        rw [called] at ran
        cases answer <;> exact ran
    · simp only [ne_eq, count, not_false_eq_true, if_true]
      exact .stay inst

/-! ### The host's side -/

theorem Quiet.host_eq {inst next : Instance σ} (quiet : Quiet inst next) :
    next.host = inst.host := by
  cases quiet <;> rfl

theorem Quiet.guest_eq {inst next : Instance σ} (quiet : Quiet inst next) :
    next.guest = inst.guest := by
  cases quiet <;> rfl

private theorem fdWrite_keeps (host : SyscallHost) (exported : Option Memory)
    (fd table count nwritten : Word) :
    (host.fdWrite exported fd table count nwritten).2.1.config = host.config ∧
      (host.fdWrite exported fd table count nwritten).2.1.binding = host.binding := by
  rw [SyscallHost.fdWrite]
  split
  · exact ⟨rfl, rfl⟩
  · split
    · exact ⟨rfl, rfl⟩
    · split <;> exact ⟨rfl, rfl⟩

theorem syscall_keeps (inst : Instance σ) (call : Syscall) :
    (inst.syscall call).2.guest = inst.guest ∧
      (inst.syscall call).2.host.config = inst.host.config ∧
      (inst.syscall call).2.host.binding = inst.host.binding := by
  rw [syscall]
  split
  · exact ⟨rfl, rfl, rfl⟩
  · cases call with
    | fdWrite fd table count nwritten => exact ⟨rfl, fdWrite_keeps inst.host _ fd table count _⟩
    | procExit code | stub call args => exact ⟨rfl, rfl, rfl⟩

theorem syscall_ne_unbound {inst : Instance σ} {name : String}
    (bound : inst.host.binding = some name) (call : Syscall) :
    (inst.syscall call).1 ≠ .unbound := by
  rw [syscall, bound]
  cases call <;> simp

theorem syscall_of_unbound {inst : Instance σ} (unbound : inst.host.binding = none)
    (call : Syscall) : inst.syscall call = (.unbound, inst) := by
  rw [syscall, unbound]

theorem Ran.same_host {inst last : Instance σ} {made : List (Made σ)} (ran : Ran inst made last) :
    (last.guest = inst.guest ∧ last.host.config = inst.host.config ∧
      last.host.binding = inst.host.binding) ∧
    ∀ m ∈ made, m.before.guest = inst.guest ∧ m.before.host.config = inst.host.config ∧
      m.before.host.binding = inst.host.binding := by
  let Same : Instance σ → Prop := fun state => state.guest = inst.guest ∧
    state.host.config = inst.host.config ∧ state.host.binding = inst.host.binding
  have quietly : ∀ state next, Quiet state next → Same state → Same next := by
    intro state next quiet kept
    simp only [Same, quiet.host_eq, quiet.guest_eq]
    exact kept
  have calling : ∀ state call, Same state → Same (state.syscall call).2 := by
    intro state call kept
    obtain ⟨guest, config, binding⟩ := state.syscall_keeps call
    simp only [Same, guest, config, binding]
    exact kept
  exact ran.keeps quietly calling ⟨rfl, rfl, rfl⟩

theorem fuel_syscall (inst : Instance σ) (call : Syscall) :
    (inst.syscall call).2.fuel = inst.fuel := by
  rw [syscall]
  split
  · rfl
  · cases call <;> rfl

theorem Ran.unmetered {inst last : Instance σ} {made : List (Made σ)} (ran : Ran inst made last)
    (unmetered : inst.fuel = none) : last.fuel = none := by
  have quietly : ∀ inst next : Instance σ, Quiet inst next → inst.fuel = none → next.fuel = none := by
    intro inst next quiet kept
    cases quiet with
    | fuel metering => exact metering kept
    | globals | store | extend | extendTable => exact kept
  have calling : ∀ (inst : Instance σ) call, inst.fuel = none → (inst.syscall call).2.fuel = none :=
    fun inst call kept => (inst.fuel_syscall call).trans kept
  exact (ran.keeps quietly calling unmetered).1

theorem Ran.ending_ne_unbound {inst last : Instance σ} {made : List (Made σ)} {name : String}
    (ran : Ran inst made last) (bound : inst.host.binding = some name) :
    ∀ m ∈ made, m.ending ≠ .unbound := by
  intro m member
  have kept := (ran.same_host.2 m member).2.2
  exact syscall_ne_unbound (kept.trans bound) m.call

private theorem map_eq_unbound {ending : Ending α} (early : (ending.map fun _ => ()) = .unbound) :
    ending = .unbound := by
  cases ending with
  | unbound => rfl
  | value answer | trap cause | exit code => cases early

private theorem Ends.early {inst last : Instance σ} {made : List (Made σ)} {ending : Ending Unit}
    (ends : Ends inst made ending last) (early : ending = .unbound) :
    ∃ m ∈ made, m.ending = .unbound := by
  induction ends with
  | value inst | trap inst cause => cases early
  | step quiet rest ih => exact ih early
  | call answered rest ih =>
    obtain ⟨m, member, unbound⟩ := ih early
    exact ⟨m, List.mem_cons_of_mem _ member, unbound⟩
  | stopped answered refused =>
    refine ⟨_, List.mem_cons_self .., ?_⟩
    rw [Made.ending, answered]
    exact map_eq_unbound early

theorem enter_ne_unbound (code : Code σ α) {inst : Instance σ} {name : String}
    (bound : inst.host.binding = some name) : (inst.enter code).1 ≠ .unbound := by
  intro early
  have ends := inst.ends_enter code
  obtain ⟨m, member, unbound⟩ := ends.early (by rw [early]; rfl)
  exact ends.ran.ending_ne_unbound bound m member unbound

private theorem Ends.of_unbound {inst last : Instance σ} {made : List (Made σ)}
    {ending : Ending Unit} (ends : Ends inst made ending last)
    (unbound : inst.host.binding = none) :
    (made = [] ∧ ending ≠ .unbound ∧ last.host = inst.host) ∨
    ∃ m, made = [m] ∧ ending = .unbound ∧ last = m.before ∧ m.before.host = inst.host := by
  induction ends with
  | value inst | trap inst cause => exact .inl ⟨rfl, by simp, rfl⟩
  | step quiet rest ih =>
    rw [← quiet.host_eq] at unbound ⊢
    exact ih unbound
  | call answered rest ih =>
    rw [syscall_of_unbound unbound] at answered
    cases answered
  | stopped answered refused =>
    rw [syscall_of_unbound unbound] at answered
    cases answered
    exact .inr ⟨_, rfl, rfl, rfl, rfl⟩

/-- Before the binding code either makes no system call and leaves the host alone, or its first system
call ends the run in the very instance in which it was made. -/
theorem enter_of_unbound (code : Code σ α) {inst : Instance σ}
    (unbound : inst.host.binding = none) :
    (inst.callsEntered code = [] ∧ (inst.enter code).1 ≠ .unbound ∧
      (inst.enter code).2.host = inst.host) ∨
    ∃ m, inst.callsEntered code = [m] ∧ inst.enter code = (.unbound, m.before) ∧
      m.before.host = inst.host := by
  rcases (inst.ends_enter code).of_unbound unbound with ⟨none, own, host⟩ | ⟨m, only, early, last, host⟩
  · refine .inl ⟨none, ?_, host⟩
    intro early
    exact own (by rw [early]; rfl)
  · exact .inr ⟨m, only, Prod.ext (map_eq_unbound early) last, host⟩

end Instance

end LispHost
