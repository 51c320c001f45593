import LispHost.Proofs.Bridge.Effects
import LispHost.Proofs.Memory.Bytes
import LispHost.Proofs.Syscall.VectoredWrite

/-!
Memories of whole pages.

A guest starts with whole pages of memory, growth adds whole pages within the ceiling, and nothing else
changes the size: no store, no system call and no write of the host. So after any run of a bridge its memory
consists of at most as many whole pages as the address space has.
-/

set_option autoImplicit false

namespace LispHost

variable {σ : Type}

/-- A memory of whole pages, within the ceiling. -/
def Memory.Paged (memory : Memory) : Prop :=
  ∃ pages ≤ pageCeiling, memory.size = pages * pageSize

theorem Memory.Paged.of_size {memory later : Memory} (paged : memory.Paged)
    (same : later.size = memory.size) : later.Paged := by
  obtain ⟨pages, within, size⟩ := paged
  exact ⟨pages, within, same.trans size⟩

theorem Memory.Paged.size_eq {memory : Memory} (paged : memory.Paged) :
    memory.size = memory.pages * pageSize := by
  obtain ⟨pages, -, size⟩ := paged
  rw [Memory.pages, size, Nat.mul_div_cancel _ (by decide)]

theorem Memory.Paged.size_le {memory : Memory} (paged : memory.Paged) :
    memory.size ≤ wordCount := by
  obtain ⟨pages, within, size⟩ := paged
  rw [size]
  exact Nat.mul_le_mul_right pageSize within

namespace Instance

theorem le_pageCeiling_of_mayHavePages {inst : Instance σ} {pages : Nat}
    (granted : inst.mayHavePages pages = true) : pages ≤ Memory.pageCeiling := by
  simp only [mayHavePages, Bool.and_eq_true, decide_eq_true_eq] at granted
  exact granted.1.2

theorem Quiet.paged {inst next : Instance σ} (quiet : Quiet inst next) (paged : inst.memory.Paged) :
    next.memory.Paged := by
  cases quiet with
  | fuel | globals | extendTable => exact paged
  | store inside => exact paged.of_size (Memory.size_setBytes ..)
  | @extend pages granted =>
    refine ⟨inst.memory.pages + pages, le_pageCeiling_of_mayHavePages granted, ?_⟩
    change inst.memory.size + pages * Memory.pageSize = _
    rw [Nat.add_mul, ← paged.size_eq]

private theorem size_of_prepareWrite {memory next : Memory} {table count nwritten sum : Word}
    {data : List UInt8}
    (prepared : SyscallHost.prepareWrite memory table count nwritten = .ok (data, sum, next)) :
    next.size = memory.size := by
  rw [SyscallHost.prepareWrite] at prepared
  split at prepared
  · cases prepared
  · split at prepared
    · cases prepared
    · rename_i written
      cases prepared
      obtain ⟨-, rfl⟩ := Memory.write?_eq_some_iff.mp written
      exact Memory.size_setBytes ..

private theorem size_of_fdWrite {host : SyscallHost} {exported : Option Memory}
    {fd table count nwritten : Word} {memory : Memory}
    (left : memory ∈ (host.fdWrite exported fd table count nwritten).2.2) :
    ∃ before ∈ exported, memory.size = before.size := by
  rw [SyscallHost.fdWrite] at left
  split at left
  · exact ⟨memory, left, rfl⟩
  · split at left
    · cases left
    · split at left
      · cases left
        exact ⟨_, rfl, rfl⟩
      · rename_i prepared
        cases left
        exact ⟨_, rfl, size_of_prepareWrite prepared⟩

theorem size_syscall (inst : Instance σ) (call : Syscall) :
    (inst.syscall call).2.memory.size = inst.memory.size := by
  rw [syscall]
  split
  · rfl
  · rename_i name _
    cases call with
    | procExit code | stub call args => rfl
    | fdWrite fd table count nwritten =>
      change ((inst.host.fdWrite (inst.exportedMemory name) fd table count nwritten).2.2.getD
        inst.memory).size = _
      cases left : (inst.host.fdWrite (inst.exportedMemory name) fd table count nwritten).2.2 with
      | none => rfl
      | some memory =>
        obtain ⟨before, exported, same⟩ := size_of_fdWrite left
        cases (Option.ite_none_right_eq_some.mp exported).2
        exact same

theorem size_of_writeSegments {segments : List (Nat × List UInt8)} {memory filled : Memory}
    (written : writeSegments memory segments = some filled) : filled.size = memory.size := by
  induction segments generalizing memory with
  | nil =>
    cases written
    rfl
  | cons segment rest ih =>
    rw [writeSegments] at written
    split at written
    · cases written
    · rename_i first
      obtain ⟨-, rfl⟩ := Memory.write?_eq_some_iff.mp first
      exact (ih written).trans (Memory.size_setBytes ..)

theorem Ran.paged {inst last : Instance σ} {made : List (Made σ)} (ran : Ran inst made last)
    (paged : inst.memory.Paged) : last.memory.Paged :=
  (ran.keeps (fun _ _ quiet paged => quiet.paged paged)
    (fun inst call paged => paged.of_size (inst.size_syscall call)) paged).1

theorem paged_of_prepare {guest : Guest σ} {limits : Option Limits} {fuel : Option Nat}
    {host : SyscallHost} {inst : Instance σ}
    (prepared : prepare guest limits fuel host = some inst) : inst.memory.Paged := by
  simp only [prepare, Option.ite_none_right_eq_some, Bool.and_eq_true, Option.map_eq_some_iff]
    at prepared
  obtain ⟨⟨-, granted, -⟩, memory, written, rfl⟩ := prepared
  exact ⟨guest.pages, le_pageCeiling_of_mayHavePages granted, size_of_writeSegments written⟩

theorem paged_of_create {guest : Guest σ} {limits : Option Limits} {fuel : Option Nat}
    {host : SyscallHost} {inst : Instance σ} (created : create guest limits fuel host = .ok inst) :
    inst.memory.Paged := by
  obtain ⟨before, prepared, rfl | ⟨start, entered⟩⟩ := started_of_create created
  · exact paged_of_prepare prepared
  · have ran := (before.ends_enter start).ran
    rw [entered] at ran
    exact ran.paged (paged_of_prepare prepared)

end Instance

namespace Bridge

private theorem context_read (bridge : Bridge σ) (source : String) :
    (bridge.read source).2.context = bridge.context := by
  simp only [read]
  split
  · rfl
  · split
    · rfl
    · rfl
    · split
      · rfl
      · split
        · rfl
        · rename_i delivered
          obtain ⟨-, rfl⟩ := eq_of_deliver delivered
          rfl

theorem context_perform (bridge : Bridge σ) (operation : Operation) :
    (bridge.perform operation).2.context = bridge.context := by
  cases operation with
  | read source => exact bridge.context_read source
  | eval value =>
    simp only [perform, eval]
    split <;> rfl
  | call | project | decode | tagOf | row | string | memorySize | word | bytes | setOptions
  | takeConsole => rfl

/-- What is known of a bridge after any run: whose guest it is, what it decodes with, and that its memory
consists of whole pages. -/
structure Standing (config : Config) (guest : Guest σ) (bridge : Bridge σ) : Prop where
  same_guest : bridge.inst.guest = guest
  resolved : DecodingContext.resolve guest config.abi = .ok bridge.context
  paged : bridge.inst.memory.Paged

variable {config : Config} {guest : Guest σ} {bridge : Bridge σ}

theorem standing_of_start (started : start config guest = .ok bridge) :
    Standing config guest bridge := by
  obtain ⟨inst, ok, resolved, -, ran⟩ := exists_of_start started
  obtain ⟨-, before, created, rfl⟩ := created_of_createBound ok
  have paged : before.memory.Paged := Instance.paged_of_create created
  exact {
    same_guest := ran.same_host.1.1.trans (Instance.eq_of_create created rfl).1
    resolved
    paged := ran.paged paged }

theorem Standing.perform (standing : Standing config guest bridge) (operation : Operation) :
    Standing config guest (bridge.perform operation).2 := by
  let Kept : Instance σ → Prop := fun inst => inst.guest = guest ∧ inst.memory.Paged
  have quietly : ∀ inst next, Instance.Quiet inst next → Kept inst → Kept next :=
    fun _ _ quiet kept => ⟨quiet.guest_eq.trans kept.1, quiet.paged kept.2⟩
  have calling : ∀ inst call, Kept inst → Kept (inst.syscall call).2 := fun inst call kept =>
    ⟨(inst.syscall_keeps call).1.trans kept.1, kept.2.of_size (inst.size_syscall call)⟩
  obtain ⟨same_guest, paged⟩ := bridge.perform_keeps quietly calling (fun _ _ kept => kept)
    operation ⟨standing.same_guest, standing.paged⟩
  exact {
    same_guest
    resolved := standing.resolved.trans (congrArg Except.ok (bridge.context_perform operation).symm)
    paged }

theorem Standing.performAll (standing : Standing config guest bridge) (operations : List Operation) :
    Standing config guest (bridge.performAll operations).2 := by
  induction operations generalizing bridge with
  | nil => exact standing
  | cons operation rest ih => exact ih (standing.perform operation)

end Bridge

end LispHost
