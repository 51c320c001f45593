import LispHost.Proofs.Guest.Effects
import LispHost.Proofs.Syscall.VectoredWrite

/-!
Accounts of system calls.

Each write of a bound guest moves exactly one of three counters, and a write that succeeded adds one
record to the console, unless it wrote nothing. A stub call answers the status of the policy and moves its
own counter, and an exit moves none. So after any chain of steps the console has grown by the records of
the writes that were made, in their order, and the counters by their numbers.
-/

set_option autoImplicit false

namespace LispHost

variable {σ : Type}

namespace Made

def isWrite (made : Made σ) : Bool :=
  match made.call with
  | .fdWrite .. => true
  | _ => false

def isStub (made : Made σ) : Bool :=
  match made.call with
  | .stub .. => true
  | _ => false

/-- The record of a write that was answered with success, unless it wrote nothing: the listed bytes as
they were before the call. -/
def record? (made : Made σ) : Option Record :=
  match made.call, made.ending with
  | .fdWrite fd table count _, .value status =>
    if status = 0 then
      match Stream.ofDescriptor? fd, SyscallHost.listedData made.before.memory table count.toNat with
      | some stream, b :: data => some ⟨stream, b :: data⟩
      | _, _ => none
    else none
  | _, _ => none

/-- The call moves one of the three counters of writes by one, and no other counter but that of the
bytes. -/
def MovesOne (made : Made σ) : Prop :=
  let before := made.before.host.metrics
  let after := made.after.host.metrics
  after = { before with writes := before.writes + 1, bytesWritten := after.bytesWritten } ∨
    after = { before with faults := before.faults + 1 } ∨
    after = { before with badDescriptors := before.badDescriptors + 1 }

theorem bytes_ne_nil_of_record? {made : Made σ} {record : Record}
    (written : made.record? = some record) : record.bytes ≠ [] := by
  rw [record?] at written
  split at written
  · split at written
    · split at written
      · cases written
        exact List.cons_ne_nil _ _
      · cases written
    · cases written
  · cases written

end Made

def Metrics.attempts (metrics : Metrics) : Nat :=
  metrics.writes + metrics.faults + metrics.badDescriptors

theorem Errno.raw_eq_zero_iff (status : Errno) : status.raw = 0 ↔ status = .success := by
  cases status <;> decide

namespace SyscallHost

/-- What a write does: its descriptor is refused, or it happens, or its fault is counted. -/
theorem fdWrite_cases (host : SyscallHost) (exported : Option Memory)
    (fd table count nwritten : Word) :
    (Stream.ofDescriptor? fd = none ∧ host.fdWrite exported fd table count nwritten =
      (.badFileDescriptor, { host with metrics := { host.metrics with
        badDescriptors := host.metrics.badDescriptors + 1 } }, exported)) ∨
    (∃ stream memory next sum, Stream.ofDescriptor? fd = some stream ∧ exported = some memory ∧
      sum.toNat = (listedData memory table count.toNat).length ∧
      host.fdWrite exported fd table count nwritten =
        (.success, host.finishWrite stream (listedData memory table count.toNat) sum, some next)) ∨
    ∃ e, e ≠ .success ∧
      host.fdWrite exported fd table count nwritten = (e, host.countFault, exported) := by
  rw [fdWrite]
  cases Stream.ofDescriptor? fd with
  | none => exact .inl ⟨rfl, rfl⟩
  | some stream =>
    cases exported with
    | none => exact .inr (.inr ⟨.fault, by decide, rfl⟩)
    | some memory =>
      cases prepared : prepareWrite memory table count nwritten with
      | error e =>
        refine .inr (.inr ⟨e, ne_success_of_prepareWrite prepared, ?_⟩)
        simp only [prepared]
      | ok result =>
        obtain ⟨data, sum, next⟩ := result
        obtain ⟨rfl, sum_eq⟩ := eq_of_prepareWrite prepared
        refine .inr (.inl ⟨stream, memory, next, sum, rfl, rfl, sum_eq, ?_⟩)
        simp only [prepared]

end SyscallHost

namespace Instance

/-- What the host has kept of these system calls. -/
structure Accounts (inst : Instance σ) (made : List (Made σ)) (last : Instance σ) : Prop where
  records : last.host.console.records =
    inst.host.console.records ++ made.filterMap Made.record?
  bytes : last.host.metrics.bytesWritten = inst.host.metrics.bytesWritten +
    ((made.filterMap Made.record?).map fun record => record.bytes.length).sum
  attempts : last.host.metrics.attempts = inst.host.metrics.attempts + made.countP Made.isWrite
  stubs : last.host.metrics.stubCalls = inst.host.metrics.stubCalls + made.countP Made.isStub

namespace Accounts

variable {inst next last : Instance σ} {made later : List (Made σ)}

theorem of_same_host (same : next.host = inst.host) : Accounts inst [] next := by
  constructor <;> simp [same]

theorem trans (first : Accounts inst made next) (second : Accounts next later last) :
    Accounts inst (made ++ later) last where
  records := by rw [second.records, first.records, List.filterMap_append, List.append_assoc]
  bytes := by
    rw [second.bytes, first.bytes, List.filterMap_append, List.map_append, List.sum_append,
      Nat.add_assoc]
  attempts := by rw [second.attempts, first.attempts, List.countP_append, Nat.add_assoc]
  stubs := by rw [second.stubs, first.stubs, List.countP_append, Nat.add_assoc]

end Accounts

variable {inst : Instance σ} {name : String}

private theorem syscall_of_fdWrite (bound : inst.host.binding = some name)
    {fd table count nwritten : Word} {status : Errno} {host : SyscallHost} {memory : Option Memory}
    (written : inst.host.fdWrite (inst.exportedMemory name) fd table count nwritten =
      (status, host, memory)) :
    inst.syscall (.fdWrite fd table count nwritten) =
      (.value status.raw, { inst with host, memory := memory.getD inst.memory }) := by
  rw [syscall, bound]
  simp only [written]

private theorem record?_of_failed {fd table count nwritten : Word} {status : Errno}
    {next : Instance σ} (failed : status ≠ .success)
    (answered : inst.syscall (.fdWrite fd table count nwritten) = (.value status.raw, next)) :
    Made.record? ⟨.fdWrite fd table count nwritten, inst⟩ = none := by
  have nonzero : status.raw ≠ 0 := mt status.raw_eq_zero_iff.mp failed
  simp only [Made.record?, Made.ending, answered, if_neg nonzero]

private theorem accounts_of_failed {fd table count nwritten : Word} {status : Errno}
    {host : SyscallHost} {memory : Memory} (failed : status ≠ .success)
    (answered : inst.syscall (.fdWrite fd table count nwritten) =
      (.value status.raw, { inst with host, memory }))
    (console : host.console = inst.host.console)
    (counted : host.metrics =
        { inst.host.metrics with faults := inst.host.metrics.faults + 1 } ∨
      host.metrics =
        { inst.host.metrics with badDescriptors := inst.host.metrics.badDescriptors + 1 }) :
    Accounts inst [⟨.fdWrite fd table count nwritten, inst⟩]
        (inst.syscall (.fdWrite fd table count nwritten)).2 ∧
      Made.MovesOne ⟨.fdWrite fd table count nwritten, inst⟩ := by
  have silent := record?_of_failed failed answered
  have write : Made.isWrite ⟨.fdWrite fd table count nwritten, inst⟩ = true := rfl
  have stub : Made.isStub ⟨.fdWrite fd table count nwritten, inst⟩ = false := rfl
  constructor
  · constructor <;> rcases counted with counted | counted <;>
      simp [answered, silent, write, stub, console, counted, Metrics.attempts] <;> omega
  · simp only [Made.MovesOne, Made.after, answered]
    exact .inr counted

private theorem accounts_fdWrite (bound : inst.host.binding = some name)
    (fd table count nwritten : Word) :
    Accounts inst [⟨.fdWrite fd table count nwritten, inst⟩]
        (inst.syscall (.fdWrite fd table count nwritten)).2 ∧
      Made.MovesOne ⟨.fdWrite fd table count nwritten, inst⟩ := by
  rcases inst.host.fdWrite_cases (inst.exportedMemory name) fd table count nwritten with
    ⟨-, written⟩ | ⟨stream, memory, next, sum, descriptor, exported, sum_eq, written⟩ |
    ⟨e, failed, written⟩
  · exact accounts_of_failed (by decide) (syscall_of_fdWrite bound written) rfl (.inr rfl)
  · obtain ⟨-, rfl⟩ := mem_exportedMemory.mp exported
    have answered := syscall_of_fdWrite bound written
    have write : Made.isWrite ⟨.fdWrite fd table count nwritten, inst⟩ = true := rfl
    have stub : Made.isStub ⟨.fdWrite fd table count nwritten, inst⟩ = false := rfl
    constructor
    · cases data : SyscallHost.listedData inst.memory table count.toNat with
      | nil =>
        have silent : Made.record? ⟨.fdWrite fd table count nwritten, inst⟩ = none := by
          simp only [Made.record?, Made.ending, answered, Errno.raw, if_true, descriptor, data]
        constructor <;> simp [answered, silent, write, stub, SyscallHost.finishWrite, data,
          Metrics.attempts, sum_eq]
        omega
      | cons b rest =>
        have emitted : Made.record? ⟨.fdWrite fd table count nwritten, inst⟩ =
            some ⟨stream, b :: rest⟩ := by
          simp only [Made.record?, Made.ending, answered, Errno.raw, if_true, descriptor, data]
        constructor <;> simp [answered, emitted, write, stub, SyscallHost.finishWrite, data,
          Metrics.attempts, sum_eq, Console.emit]
        omega
    · refine .inl ?_
      simp only [Made.after, answered, SyscallHost.finishWrite]
  · exact accounts_of_failed failed (syscall_of_fdWrite bound written) rfl (.inl rfl)

/-- A stub call answers the status of the policy and moves its own counter, and does nothing else. -/
theorem syscall_stub (bound : inst.host.binding = some name) (call : StubCall) (args : List UInt64) :
    inst.syscall (.stub call args) = (.value inst.host.config.stubPolicy.errno.raw, { inst with
      host := { inst.host with metrics := { inst.host.metrics with
        stubCalls := inst.host.metrics.stubCalls + 1 } } }) := by
  rw [syscall, bound]
  rfl

theorem accounts_syscall (bound : inst.host.binding = some name) (call : Syscall) :
    Accounts inst [⟨call, inst⟩] (inst.syscall call).2 := by
  cases call with
  | fdWrite fd table count nwritten => exact (accounts_fdWrite bound fd table count nwritten).1
  | procExit code =>
    have answered : inst.syscall (.procExit code) = (.exit code.toInt32, { inst with
        host := { inst.host with exitCode := some code.toInt32 } }) := by
      rw [syscall, bound]
    have silent : Made.record? ⟨.procExit code, inst⟩ = none := rfl
    constructor <;> simp [answered, silent, Made.isWrite, Made.isStub]
  | stub call args =>
    have answered := syscall_stub bound call args
    have silent : Made.record? ⟨.stub call args, inst⟩ = none := rfl
    constructor <;> simp [answered, silent, Made.isWrite, Made.isStub, Metrics.attempts]

theorem movesOne_of_isWrite {made : Made σ} (bound : made.before.host.binding = some name)
    (write : made.isWrite = true) : made.MovesOne := by
  obtain ⟨call, before⟩ := made
  cases call with
  | fdWrite fd table count nwritten => exact (accounts_fdWrite bound fd table count nwritten).2
  | procExit | stub => cases write

theorem Ran.accounts {last : Instance σ} {made : List (Made σ)} (ran : Ran inst made last)
    (bound : inst.host.binding = some name) : Accounts inst made last := by
  induction ran with
  | stay inst => exact .of_same_host rfl
  | step quiet rest ih =>
    rw [← quiet.host_eq] at bound
    exact (Accounts.of_same_host quiet.host_eq).trans (ih bound)
  | @call inst last made call rest ih =>
    have kept := (inst.syscall_keeps call).2.2
    exact (accounts_syscall bound call).trans (ih (kept.trans bound))

end Instance

end LispHost
