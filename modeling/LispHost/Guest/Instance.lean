import LispHost.Guest
import LispHost.Limits

/-!
Guest instances: a guest with its memory, table, globals and fuel, and the host's side of its calls.

Running code changes the instance step by step, and what changed before a trap or an exit stays
changed. Growth is granted within the module's own maximum and, where limits are set, within them.
With metering on, each call from the host costs one unit of fuel, and without fuel left it traps.
-/

set_option autoImplicit false

namespace LispHost

structure Instance (σ : Type) where
  guest : Guest σ
  limits : Option Limits
  memory : Memory
  table : Nat
  globals : σ
  host : SyscallHost
  fuel : Option Nat

namespace Instance

variable {σ α : Type}

def denied : Word := 0xffffffff

def mayHavePages (inst : Instance σ) (pages : Nat) : Bool :=
  decide (pages ≤ inst.guest.maxPages.getD Memory.pageCeiling) &&
  decide (pages ≤ Memory.pageCeiling) &&
  match inst.limits with
  | none => true
  | some limits =>
    limits.allowsMemory (pages * Memory.pageSize) (inst.guest.maxPages.map (· * Memory.pageSize))

def mayHaveElements (inst : Instance σ) (elements : Nat) : Bool :=
  decide (elements ≤ inst.guest.maxTable.getD (wordCount - 1)) &&
  decide (elements < wordCount) &&
  match inst.limits with
  | none => true
  | some limits => limits.allowsTable elements inst.guest.maxTable

/-- Add pages to the memory, if they are granted; answers the old number of pages. -/
def grow (inst : Instance σ) (pages : Nat) : Option (Nat × Instance σ) :=
  let old := inst.memory.pages
  if pages = 0 then some (old, inst)
  else if inst.mayHavePages (old + pages) then
    some (old, { inst with memory := inst.memory.extend pages })
  else none

/-- Add elements to the table, if they are granted; answers the old number. -/
def growTable (inst : Instance σ) (elements : Nat) : Option (Nat × Instance σ) :=
  if elements = 0 then some (inst.table, inst)
  else if inst.mayHaveElements (inst.table + elements) then
    some (inst.table, { inst with table := inst.table + elements })
  else none

def exportedMemory (inst : Instance σ) (name : String) : Option Memory :=
  if inst.guest.exportsMemory name then some inst.memory else none

def memoryOf (inst : Instance σ) (name : String) : Except Error Memory :=
  match inst.exportedMemory name with
  | some memory => .ok memory
  | none => .error (.exportNotFound name)

def syscall (inst : Instance σ) (call : Syscall) : Ending Word × Instance σ :=
  match inst.host.binding with
  | none => (.unbound, inst)
  | some name =>
    match call with
    | .fdWrite fd table count nwritten =>
      let (status, host, memory) :=
        inst.host.fdWrite (inst.exportedMemory name) fd table count nwritten
      (.value status.raw, { inst with host, memory := memory.getD inst.memory })
    | .procExit code =>
      let code := code.toInt32
      (.exit code, { inst with host := { inst.host with exitCode := some code } })
    | .stub _ _ =>
      let (status, host) := inst.host.stub
      (.value status.raw, { inst with host })

def run : Code σ α → Instance σ → Ending α × Instance σ
  | .done answer, inst => (.value answer, inst)
  | .trap cause, inst => (.trap cause, inst)
  | .spin, inst => (.trap .outOfFuel, { inst with fuel := inst.fuel.map fun _ => 0 })
  | .getGlobals next, inst => run (next inst.globals) inst
  | .setGlobals globals next, inst => run (next ()) { inst with globals }
  | .load address width next, inst =>
    match inst.memory.read? address.toNat width with
    | none => (.trap .outOfBounds, inst)
    | some data => run (next data) inst
  | .store address data next, inst =>
    if address.toNat + data.length ≤ inst.memory.size then
      run (next ()) { inst with memory := inst.memory.setBytes address.toNat data }
    else (.trap .outOfBounds, inst)
  | .grow pages next, inst =>
    match inst.grow pages.toNat with
    | none => run (next denied) inst
    | some (old, inst) => run (next (UInt32.ofNat old)) inst
  | .growTable elements next, inst =>
    match inst.growTable elements.toNat with
    | none => run (next denied) inst
    | some (old, inst) => run (next (UInt32.ofNat old)) inst
  | .syscall call next, inst =>
    match inst.syscall call with
    | (.value status, inst) => run (next status) inst
    | (.trap cause, inst) => (.trap cause, inst)
    | (.exit code, inst) => (.exit code, inst)
    | (.unbound, inst) => (.unbound, inst)

/-- Enter the guest from the host, paying for the call. -/
def enter (inst : Instance σ) (code : Code σ α) : Ending α × Instance σ :=
  match inst.fuel with
  | none => run code inst
  | some 0 => (.trap .outOfFuel, inst)
  | some (fuel + 1) => run code { inst with fuel := some fuel }

def callFunc (inst : Instance σ) (f : Func σ) (args : List Word) :
    Except Error (List Value) × Instance σ :=
  let (ending, inst) := inst.enter (f.run args)
  (ending.toExcept, inst)

def callWord (inst : Instance σ) (f : Func σ) (args : List Word) : Except Error Word × Instance σ :=
  match inst.callFunc f args with
  | (.ok (.i32 word :: _), inst) => (.ok word, inst)
  | (.ok _, inst) => (.error (.signature "function"), inst)
  | (.error e, inst) => (.error e, inst)

/-- The words among the results of a function, which must all be words. -/
def wordsOf (name : String) : List Value → Except Error (List Word)
  | [] => .ok []
  | .i32 word :: rest =>
    match wordsOf name rest with
    | .ok words => .ok (word :: words)
    | .error e => .error e
  | value :: _ => .error (.typeMismatch ("i32 results from \x60" ++ name ++ "\x60") value.text)

def foreignParam? (f : Func σ) : Option ValueType :=
  f.params.find? (· ≠ .i32)

def call (inst : Instance σ) (name : String) (args : List Word) :
    Except Error (List Word) × Instance σ :=
  match inst.guest.func name with
  | .error e => (.error e, inst)
  | .ok f =>
    if f.params.length ≠ args.length then
      (.error (.execution (.argumentCount f.params.length args.length)), inst)
    else
      match foreignParam? f with
      | some type => (.error (.execution (.argumentType type .i32)), inst)
      | none =>
        match inst.callFunc f args with
        | (.error e, inst) => (.error e, inst)
        | (.ok values, inst) => (wordsOf name values, inst)

def writeSegments (memory : Memory) : List (Nat × List UInt8) → Option Memory
  | [] => some memory
  | (offset, data) :: rest =>
    match memory.write? offset data with
    | none => none
    | some memory => writeSegments memory rest

/-- Give a guest its resources and run its start code, if it has one.

A failure that is neither an exit nor a system call before the binding is an instantiation error. -/
def create (guest : Guest σ) (limits : Option Limits) (fuel : Option Nat) (host : SyscallHost) :
    Except Error (Instance σ) :=
  let inst : Instance σ :=
    ⟨guest, limits, .zeroed (guest.pages * Memory.pageSize), guest.table, guest.globals, host, fuel⟩
  if !guest.linkable then .error (.instantiation "an import is not provided")
  else if !(inst.mayHavePages guest.pages && inst.mayHaveElements guest.table) then
    .error (.instantiation "the initial sizes exceed the limits")
  else
    match writeSegments inst.memory guest.data with
    | none => .error (.instantiation "a data segment lies outside the memory")
    | some memory =>
      let inst := { inst with memory }
      match guest.start with
      | none => .ok inst
      | some start =>
        match inst.enter start with
        | (.value _, inst) => .ok inst
        | (.trap cause, _) => .error (.instantiation (ExecutionFault.trap cause).text)
        | (.exit code, _) => .error (.guestExit code)
        | (.unbound, _) => .error .unbound

end Instance

end LispHost
