import LispHost.Proofs.Bridge.Disguise
import LispHost.Session

/-!
Records that were there before.

A guest cannot see its console: it only adds records to it. So a run on an instance with more records in
front answers the same, and ends in the same instance with those records in front. The same holds of
every operation of a bridge that runs the guest or reads its memory, and so of whole turns.
-/

set_option autoImplicit false

namespace LispHost

variable {σ α : Type}

def SyscallHost.withEarlier (host : SyscallHost) (records : List Record) : SyscallHost :=
  { host with console := ⟨records ++ host.console.records⟩ }

def Instance.withEarlier (inst : Instance σ) (records : List Record) : Instance σ :=
  { inst with host := inst.host.withEarlier records }

def Bridge.withEarlier (bridge : Bridge σ) (records : List Record) : Bridge σ :=
  { bridge with inst := bridge.inst.withEarlier records }

namespace SyscallHost

theorem finishWrite_withEarlier (host : SyscallHost) (records : List Record) (stream : Stream)
    (data : List UInt8) (total : Word) :
    (host.withEarlier records).finishWrite stream data total =
      (host.finishWrite stream data total).withEarlier records := by
  unfold finishWrite withEarlier Console.emit
  cases data with
  | nil => rfl
  | cons b rest => simp

theorem fdWrite_withEarlier (host : SyscallHost) (records : List Record)
    (exported : Option Memory) (fd table count nwritten : Word) :
    (host.withEarlier records).fdWrite exported fd table count nwritten =
      ((host.fdWrite exported fd table count nwritten).1,
        (host.fdWrite exported fd table count nwritten).2.1.withEarlier records,
        (host.fdWrite exported fd table count nwritten).2.2) := by
  unfold fdWrite
  cases Stream.ofDescriptor? fd with
  | none => rfl
  | some stream =>
    cases exported with
    | none => rfl
    | some memory =>
      cases prepared : prepareWrite memory table count nwritten with
      | error e => simp only [prepared]; rfl
      | ok written => simp only [prepared, finishWrite_withEarlier]

end SyscallHost

namespace Instance

theorem syscall_withEarlier (inst : Instance σ) (records : List Record) (call : Syscall) :
    (inst.withEarlier records).syscall call =
      ((inst.syscall call).1, (inst.syscall call).2.withEarlier records) := by
  unfold syscall
  have binding : (inst.withEarlier records).host.binding = inst.host.binding := rfl
  rw [binding]
  cases inst.host.binding with
  | none => rfl
  | some name =>
    cases call with
    | fdWrite fd table count nwritten =>
      have exported : (inst.withEarlier records).exportedMemory name =
        inst.exportedMemory name := rfl
      have host : (inst.withEarlier records).host = inst.host.withEarlier records := rfl
      simp only [exported, host, SyscallHost.fdWrite_withEarlier]
      rfl
    | procExit code => rfl
    | stub call args => rfl

theorem grow_withEarlier (inst : Instance σ) (records : List Record) (pages : Nat) :
    (inst.withEarlier records).grow pages =
      (inst.grow pages).map fun granted => (granted.1, granted.2.withEarlier records) := by
  have memory : (inst.withEarlier records).memory = inst.memory := rfl
  have allowed : (inst.withEarlier records).mayHavePages (inst.memory.pages + pages) =
    inst.mayHavePages (inst.memory.pages + pages) := rfl
  simp only [grow, memory, allowed]
  by_cases nothing : pages = 0
  · simp only [if_pos nothing]
    rfl
  · simp only [if_neg nothing]
    cases inst.mayHavePages (inst.memory.pages + pages) <;> rfl

theorem growTable_withEarlier (inst : Instance σ) (records : List Record) (elements : Nat) :
    (inst.withEarlier records).growTable elements =
      (inst.growTable elements).map fun granted => (granted.1, granted.2.withEarlier records) := by
  have table : (inst.withEarlier records).table = inst.table := rfl
  have allowed : (inst.withEarlier records).mayHaveElements (inst.table + elements) =
    inst.mayHaveElements (inst.table + elements) := rfl
  simp only [growTable, table, allowed]
  by_cases nothing : elements = 0
  · simp only [if_pos nothing]
    rfl
  · simp only [if_neg nothing]
    cases inst.mayHaveElements (inst.table + elements) <;> rfl

theorem run_withEarlier (records : List Record) (code : Code σ α) (inst : Instance σ) :
    run code (inst.withEarlier records) =
      ((run code inst).1, (run code inst).2.withEarlier records) := by
  induction code generalizing inst with
  | done answer => rfl
  | trap cause => rfl
  | spin => rfl
  | getGlobals next ih => exact ih inst.globals inst
  | setGlobals globals next ih => exact ih () { inst with globals }
  | load address width next ih =>
    have memory : (inst.withEarlier records).memory = inst.memory := rfl
    simp only [run, memory]
    cases inst.memory.read? address.toNat width with
    | none => rfl
    | some data => exact ih data inst
  | store address data next ih =>
    have memory : (inst.withEarlier records).memory = inst.memory := rfl
    simp only [run, memory]
    by_cases inside : address.toNat + data.length ≤ inst.memory.size
    · simp only [if_pos inside]
      exact ih () { inst with memory := inst.memory.setBytes address.toNat data }
    · simp only [if_neg inside]
  | grow pages next ih =>
    simp only [run, grow_withEarlier]
    cases inst.grow pages.toNat with
    | none => exact ih denied inst
    | some granted => exact ih _ granted.2
  | growTable elements next ih =>
    simp only [run, growTable_withEarlier]
    cases inst.growTable elements.toNat with
    | none => exact ih denied inst
    | some granted => exact ih _ granted.2
  | syscall call next ih =>
    simp only [run, syscall_withEarlier]
    cases inst.syscall call with
    | mk ending after =>
    cases ending with
    | value status => exact ih status after
    | trap | exit | unbound => rfl

theorem enter_withEarlier (inst : Instance σ) (records : List Record) (code : Code σ α) :
    (inst.withEarlier records).enter code =
      ((inst.enter code).1, (inst.enter code).2.withEarlier records) := by
  have fuel : (inst.withEarlier records).fuel = inst.fuel := rfl
  unfold enter
  rw [fuel]
  cases inst.fuel with
  | none => exact run_withEarlier records code inst
  | some fuel =>
    cases fuel with
    | zero => rfl
    | succ fuel => exact run_withEarlier records code { inst with fuel := some fuel }

theorem callWord_withEarlier (inst : Instance σ) (records : List Record) (f : Func σ)
    (args : List Word) :
    (inst.withEarlier records).callWord f args =
      ((inst.callWord f args).1, (inst.callWord f args).2.withEarlier records) := by
  simp only [callWord, callFunc, enter_withEarlier]
  cases inst.enter (f.run args) with
  | mk ending after =>
  cases ending.toExcept with
  | error e => rfl
  | ok values =>
    rcases values with _ | ⟨value, rest⟩
    · rfl
    · cases value <;> rfl

theorem disguise_withEarlier (records : List Record) :
    Disguise fun inst : Instance σ => inst.withEarlier records where
  guest _ := rfl
  memory _ := rfl
  refill _ _ := rfl
  callWord inst f args := inst.callWord_withEarlier records f args

end Instance

namespace Bridge

theorem disguise_withEarlier (records : List Record) :
    Disguise (fun bridge : Bridge σ => bridge.withEarlier records)
      fun inst : Instance σ => inst.withEarlier records where
  toDisguise := Instance.disguise_withEarlier records
  inst _ := rfl
  context _ := rfl
  options _ := rfl
  alloc _ := rfl
  parser _ := rfl
  exchange _ _ := rfl

theorem eval_withEarlier (bridge : Bridge σ) (records : List Record) (value : Word) :
    (bridge.withEarlier records).eval value =
      ((bridge.eval value).1, (bridge.eval value).2.withEarlier records) := by
  have inst : (bridge.withEarlier records).inst = bridge.inst.withEarlier records := rfl
  have guest : (bridge.inst.withEarlier records).guest = bridge.inst.guest := rfl
  have name : (bridge.withEarlier records).abi.eval = bridge.abi.eval := rfl
  unfold eval
  rw [inst, guest, name]
  cases bridge.inst.guest.wordFunc bridge.abi.eval 1 with
  | error e => rfl
  | ok f =>
    simp only [Instance.callWord_withEarlier]
    rfl

/-- A turn goes the same way with earlier records on the console, and leaves them there. -/
theorem turn_withEarlier (bridge : Bridge σ) (records : List Record) (source : String) :
    (bridge.withEarlier records).turn source =
      ((bridge.turn source).1, (bridge.turn source).2.withEarlier records) := by
  have disguise := @disguise_withEarlier σ records
  unfold turn
  rw [disguise.read]
  cases bridge.read source with
  | mk answer afterRead =>
  cases answer with
  | error e => rfl
  | ok exp =>
    simp only [disguise.project]
    cases afterRead.project exp with
    | mk answer afterShown =>
    cases answer with
    | error e => rfl
    | ok expression =>
      simp only [eval_withEarlier]
      cases afterShown.eval exp with
      | mk answer afterEval =>
      cases answer with
      | error e => rfl
      | ok raw =>
        simp only [disguise.project]
        cases afterEval.project raw with
        | mk answer afterDecoded => cases answer <;> rfl

/-- A bridge is what is left after its console was taken, with the records that were taken. -/
theorem takeConsole_withEarlier (bridge : Bridge σ) :
    bridge.takeConsole.2.withEarlier bridge.takeConsole.1 = bridge := by
  simp only [takeConsole, Console.take, Console.empty, withEarlier, Instance.withEarlier,
    SyscallHost.withEarlier, List.append_nil]

end Bridge

end LispHost
