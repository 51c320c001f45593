import LispHost.Proofs.Bridge.Pages

/-!
Growth of a guest.

A guest asks for more memory or for a longer table in the middle of its code, and the code goes on with the
answer whether it was granted or not. Each request is settled on the instance in which it is made: the size that
is asked for is held against the limit of the settings, against the maximum of the module and against what can
be addressed at all. So an instance within its bounds stays within them, whatever code runs in it, and every
request made on the way is granted exactly when it keeps them.
-/

set_option autoImplicit false

namespace LispHost

variable {σ α : Type}

inductive Resource where
  | memory
  | table
  deriving DecidableEq, Repr

def Resource.unit : Resource → Nat
  | .memory => Memory.pageSize
  | .table => 1

def Resource.space : Resource → Nat
  | .memory => wordCount
  | .table => wordCount - 1

def Limits.most (limits : Limits) : Resource → Nat
  | .memory => limits.maxMemoryPages * Memory.pageSize
  | .table => limits.maxTableElements

namespace Guest

def initial (guest : Guest σ) : Resource → Nat
  | .memory => guest.pages * Memory.pageSize
  | .table => guest.table

/-- The maximum that a module declares for a resource, in bytes or elements. -/
def maximum (guest : Guest σ) : Resource → Option Nat
  | .memory => guest.maxPages.map (· * Memory.pageSize)
  | .table => guest.maxTable

end Guest

/-- Whether so many bytes or elements keep the limit, the maximum of the module if it declares one, and what
can be addressed. -/
structure Fits (limits : Limits) (guest : Guest σ) (resource : Resource) (size : Nat) : Prop where
  limit : size ≤ limits.most resource
  maximum : ∀ most ∈ guest.maximum resource, size ≤ most
  space : size ≤ resource.space

theorem Limits.allows_iff {limit desired : Nat} {maximum : Option Nat} :
    Limits.allows limit desired maximum = true ↔
      desired ≤ limit ∧ ∀ most ∈ maximum, desired ≤ most := by
  cases maximum with
  | none => simp [allows]
  | some most => simp [allows, and_comm]

/-- The size that is asked for is allowed if and only if it is at most the limit and, where there is one, at
most the maximum. -/
theorem Limits.allowsMemory_iff {limits : Limits} {desired : Nat} {maximum : Option Nat} :
    limits.allowsMemory desired maximum = true ↔
      desired ≤ limits.most .memory ∧ ∀ most ∈ maximum, desired ≤ most :=
  allows_iff

theorem Limits.allowsTable_iff {limits : Limits} {desired : Nat} {maximum : Option Nat} :
    limits.allowsTable desired maximum = true ↔
      desired ≤ limits.most .table ∧ ∀ most ∈ maximum, desired ≤ most :=
  allows_iff

namespace Instance

def amount (inst : Instance σ) : Resource → Nat
  | .memory => inst.memory.size
  | .table => inst.table

@[simp] theorem amount_memory (inst : Instance σ) : inst.amount .memory = inst.memory.size := rfl

@[simp] theorem amount_table (inst : Instance σ) : inst.amount .table = inst.table := rfl

variable {inst next : Instance σ} {limits : Limits}

theorem mayHavePages_iff (limited : inst.limits = some limits) {pages : Nat} :
    inst.mayHavePages pages = true ↔
      Fits limits inst.guest .memory (pages * Memory.pageSize) := by
  have space : pages * Memory.pageSize ≤ wordCount ↔ pages ≤ Memory.pageCeiling := by
    rw [Memory.pageSize, wordCount, Memory.pageCeiling]
    omega
  simp only [mayHavePages, limited, Bool.and_eq_true, decide_eq_true_eq, Limits.allowsMemory_iff]
  constructor
  · rintro ⟨⟨own, ceiling⟩, limit, maximum⟩
    exact ⟨limit, maximum, space.mpr ceiling⟩
  · rintro ⟨limit, maximum, addressed⟩
    refine ⟨⟨?_, space.mp addressed⟩, limit, maximum⟩
    cases declared : inst.guest.maxPages with
    | none => exact space.mp addressed
    | some most =>
      have within := maximum (most * Memory.pageSize) (by simp [Guest.maximum, declared])
      exact Nat.le_of_mul_le_mul_right within (by decide)

theorem mayHaveElements_iff (limited : inst.limits = some limits) {elements : Nat} :
    inst.mayHaveElements elements = true ↔ Fits limits inst.guest .table elements := by
  have space : elements ≤ wordCount - 1 ↔ elements < wordCount := by
    rw [wordCount]
    omega
  simp only [mayHaveElements, limited, Bool.and_eq_true, decide_eq_true_eq, Limits.allowsTable_iff]
  constructor
  · rintro ⟨⟨own, addressed⟩, limit, maximum⟩
    exact ⟨limit, maximum, space.mpr addressed⟩
  · rintro ⟨limit, maximum, addressed⟩
    refine ⟨⟨?_, space.mp addressed⟩, limit, maximum⟩
    cases declared : inst.guest.maxTable with
    | none => exact addressed
    | some most => exact maximum most declared

theorem extend_of_grow {pages old : Nat} (grown : inst.grow pages = some (old, next)) :
    next = { inst with memory := inst.memory.extend pages } := by
  rw [grow] at grown
  split at grown
  · rename_i none
    subst none
    cases grown
    rfl
  · split at grown <;> cases grown
    rfl

theorem extendTable_of_growTable {elements old : Nat}
    (grown : inst.growTable elements = some (old, next)) :
    next = { inst with table := inst.table + elements } := by
  rw [growTable] at grown
  split at grown
  · rename_i none
    subst none
    cases grown
    rfl
  · split at grown <;> cases grown
    rfl

end Instance

/-- A request for more, and the instance in which the guest makes it. -/
structure GrowthRequest (σ : Type) where
  resource : Resource
  more : Word
  before : Instance σ

namespace GrowthRequest

/-- What comes of a request: the old size in its units and the instance that goes on, if it is granted. -/
def outcome (request : GrowthRequest σ) : Option (Nat × Instance σ) :=
  match request.resource with
  | .memory => request.before.grow request.more.toNat
  | .table => request.before.growTable request.more.toNat

def granted (request : GrowthRequest σ) : Bool :=
  request.outcome.isSome

def answer (request : GrowthRequest σ) : Word :=
  match request.outcome with
  | none => Instance.denied
  | some (old, _) => UInt32.ofNat old

def after (request : GrowthRequest σ) : Instance σ :=
  match request.outcome with
  | none => request.before
  | some (_, inst) => inst

def desired (request : GrowthRequest σ) : Nat :=
  request.before.amount request.resource + request.more.toNat * request.resource.unit

def code (request : GrowthRequest σ) (next : Word → Code σ α) : Code σ α :=
  match request.resource with
  | .memory => .grow request.more next
  | .table => .growTable request.more next

theorem run_code (request : GrowthRequest σ) (next : Word → Code σ α) :
    Instance.run (request.code next) request.before =
      Instance.run (next request.answer) request.after := by
  obtain ⟨resource, more, before⟩ := request
  cases resource with
  | memory =>
    simp only [code, answer, after, outcome, Instance.run]
    cases before.grow more.toNat <;> rfl
  | table =>
    simp only [code, answer, after, outcome, Instance.run]
    cases before.growTable more.toNat <;> rfl

end GrowthRequest

namespace Instance

def requests : Code σ α → Instance σ → List (GrowthRequest σ)
  | .done _, _ => []
  | .trap _, _ => []
  | .spin, _ => []
  | .getGlobals next, inst => requests (next inst.globals) inst
  | .setGlobals globals next, inst => requests (next ()) { inst with globals }
  | .load address width next, inst =>
    match inst.memory.read? address.toNat width with
    | none => []
    | some data => requests (next data) inst
  | .store address data next, inst =>
    if address.toNat + data.length ≤ inst.memory.size then
      requests (next ()) { inst with memory := inst.memory.setBytes address.toNat data }
    else []
  | .grow pages next, inst =>
    let request : GrowthRequest σ := ⟨.memory, pages, inst⟩
    request :: requests (next request.answer) request.after
  | .growTable elements next, inst =>
    let request : GrowthRequest σ := ⟨.table, elements, inst⟩
    request :: requests (next request.answer) request.after
  | .syscall call next, inst =>
    match inst.syscall call with
    | (.value status, inst) => requests (next status) inst
    | (.trap _, _) => []
    | (.exit _, _) => []
    | (.unbound, _) => []

def requestsEntered (inst : Instance σ) (code : Code σ α) : List (GrowthRequest σ) :=
  match inst.fuel with
  | none => requests code inst
  | some 0 => []
  | some (fuel + 1) => requests code { inst with fuel := some fuel }

end Instance

/-- The instance is that of a guest under these limits, and it keeps its bounds. -/
structure Bounded (limits : Limits) (guest : Guest σ) (inst : Instance σ) : Prop where
  same_guest : inst.guest = guest
  limited : inst.limits = some limits
  paged : inst.memory.Paged
  fits (resource : Resource) : Fits limits guest resource (inst.amount resource)

namespace Bounded

variable {limits : Limits} {guest : Guest σ} {inst next : Instance σ}

theorem isSome_grow_iff (bounded : Bounded limits guest inst) (pages : Nat) :
    (inst.grow pages).isSome = true ↔
      Fits limits guest .memory (inst.memory.size + pages * Memory.pageSize) := by
  have counted : (inst.memory.pages + pages) * Memory.pageSize =
      inst.memory.size + pages * Memory.pageSize := by
    rw [Nat.add_mul, ← bounded.paged.size_eq]
  rw [Instance.grow]
  by_cases none : pages = 0
  · subst none
    simpa using bounded.fits .memory
  · have asked : inst.mayHavePages (inst.memory.pages + pages) = true ↔ _ :=
      Instance.mayHavePages_iff bounded.limited
    rw [counted, bounded.same_guest] at asked
    rw [if_neg none, ← asked]
    split <;> simp_all

theorem isSome_growTable_iff (bounded : Bounded limits guest inst) (elements : Nat) :
    (inst.growTable elements).isSome = true ↔ Fits limits guest .table (inst.table + elements) := by
  rw [Instance.growTable]
  by_cases none : elements = 0
  · subst none
    simpa using bounded.fits .table
  · have asked : inst.mayHaveElements (inst.table + elements) = true ↔ _ :=
      Instance.mayHaveElements_iff bounded.limited
    rw [bounded.same_guest] at asked
    rw [if_neg none, ← asked]
    split <;> simp_all

theorem of_same (bounded : Bounded limits guest inst) (same_guest : next.guest = inst.guest)
    (limited : next.limits = inst.limits) (size : next.memory.size = inst.memory.size)
    (table : next.table = inst.table) : Bounded limits guest next where
  same_guest := same_guest.trans bounded.same_guest
  limited := limited.trans bounded.limited
  paged := bounded.paged.of_size size
  fits resource := by
    cases resource with
    | memory => simpa [size] using bounded.fits .memory
    | table => simpa [table] using bounded.fits .table

theorem quiet (bounded : Bounded limits guest inst) (quiet : Instance.Quiet inst next) :
    Bounded limits guest next := by
  have paged := quiet.paged bounded.paged
  cases quiet with
  | fuel | globals => exact bounded.of_same rfl rfl rfl rfl
  | store inside => exact bounded.of_same rfl rfl (Memory.size_setBytes ..) rfl
  | @extend pages granted =>
    rw [Instance.mayHavePages_iff bounded.limited, Nat.add_mul, ← bounded.paged.size_eq,
      bounded.same_guest] at granted
    refine ⟨bounded.same_guest, bounded.limited, paged, fun resource => ?_⟩
    cases resource with
    | memory => exact granted
    | table => exact bounded.fits .table
  | extendTable granted =>
    rw [Instance.mayHaveElements_iff bounded.limited, bounded.same_guest] at granted
    refine ⟨bounded.same_guest, bounded.limited, paged, fun resource => ?_⟩
    cases resource with
    | memory => exact bounded.fits .memory
    | table => exact granted

end Bounded

theorem Instance.syscall_resources (inst : Instance σ) (call : Syscall) :
    (inst.syscall call).2.limits = inst.limits ∧ (inst.syscall call).2.table = inst.table := by
  rw [syscall]
  split
  · exact ⟨rfl, rfl⟩
  · cases call <;> exact ⟨rfl, rfl⟩

theorem Bounded.syscall {limits : Limits} {guest : Guest σ} {inst : Instance σ}
    (bounded : Bounded limits guest inst) (call : Syscall) :
    Bounded limits guest (inst.syscall call).2 :=
  bounded.of_same (inst.syscall_keeps call).1 (inst.syscall_resources call).1
    (inst.size_syscall call) (inst.syscall_resources call).2

/-- How a request of a guest under these limits is decided: it is granted if and only if what is asked for keeps
the bounds, and the code goes on with the answer. If it is denied the code goes on in the same instance, and
otherwise in one that has what was asked for, with all its bytes as they were. -/
structure GrowthRequest.Decided (limits : Limits) (guest : Guest σ) (request : GrowthRequest σ) :
    Prop where
  bounded : Bounded limits guest request.before
  granted_iff : request.granted = true ↔ Fits limits guest request.resource request.desired
  goes_on {α : Type} (next : Word → Code σ α) :
    Instance.run (request.code next) request.before =
      Instance.run (next request.answer) request.after
  denied : request.granted = false →
    request.answer = Instance.denied ∧ request.after = request.before
  served : request.granted = true →
    request.after.amount request.resource = request.desired ∧
      ∀ address, request.after.memory.byte address = request.before.memory.byte address

namespace GrowthRequest

variable {limits : Limits} {guest : Guest σ} {inst : Instance σ}

theorem granted_iff (request : GrowthRequest σ) (bounded : Bounded limits guest request.before) :
    request.granted = true ↔ Fits limits guest request.resource request.desired := by
  obtain ⟨resource, more, before⟩ := request
  cases resource with
  | memory => exact bounded.isSome_grow_iff more.toNat
  | table =>
    rw [desired, Resource.unit, Nat.mul_one]
    exact bounded.isSome_growTable_iff more.toNat

theorem served_of_outcome {request : GrowthRequest σ} {old : Nat} {next : Instance σ}
    (outcome : request.outcome = some (old, next)) :
    next.amount request.resource = request.desired ∧
      (∀ resource, request.before.amount resource ≤ next.amount resource) ∧
      ∀ address, next.memory.byte address = request.before.memory.byte address := by
  obtain ⟨resource, more, before⟩ := request
  cases resource with
  | memory =>
    obtain rfl := Instance.extend_of_grow outcome
    refine ⟨rfl, fun resource => ?_, fun _ => rfl⟩
    cases resource with
    | memory => exact Nat.le_add_right _ _
    | table => exact Nat.le_refl _
  | table =>
    obtain rfl := Instance.extendTable_of_growTable outcome
    refine ⟨(congrArg (before.table + ·) (Nat.mul_one more.toNat)).symm, fun resource => ?_,
      fun _ => rfl⟩
    cases resource with
    | memory => exact Nat.le_refl _
    | table => exact Nat.le_add_right _ _

theorem decided (request : GrowthRequest σ) (bounded : Bounded limits guest request.before) :
    request.Decided limits guest where
  bounded
  granted_iff := request.granted_iff bounded
  goes_on := request.run_code
  denied refused := by
    have none : request.outcome = none := by simpa [granted] using refused
    exact ⟨by rw [answer, none], by rw [after, none]⟩
  served granted := by
    obtain ⟨⟨old, next⟩, outcome⟩ := Option.isSome_iff_exists.mp granted
    obtain ⟨amount, -, bytes⟩ := served_of_outcome outcome
    rw [after, outcome]
    exact ⟨amount, bytes⟩

theorem after_cases (request : GrowthRequest σ) :
    request.after = request.before ∨ request.before.Quiet request.after := by
  cases outcome : request.outcome with
  | none => exact .inl (by rw [after, outcome])
  | some result =>
    obtain ⟨old, next⟩ := result
    rw [after, outcome]
    obtain ⟨resource, more, before⟩ := request
    cases resource with
    | memory =>
      obtain ⟨-, same | ⟨granted, rfl⟩⟩ := Instance.eq_of_grow outcome
      · exact .inl same
      · exact .inr (.extend before granted)
    | table =>
      obtain ⟨-, same | ⟨granted, rfl⟩⟩ := Instance.eq_of_growTable outcome
      · exact .inl same
      · exact .inr (.extendTable before granted)

end GrowthRequest

namespace Instance

section Kept

variable {Kept : Instance σ → Prop} (quietly : ∀ inst next, Quiet inst next → Kept inst → Kept next)
  (calling : ∀ inst call, Kept inst → Kept (inst.syscall call).2)

include quietly

private theorem after_keeps {request : GrowthRequest σ} (kept : Kept request.before) :
    Kept request.after := by
  rcases request.after_cases with same | quiet
  · exact same ▸ kept
  · exact quietly _ _ quiet kept

include calling

theorem requests_keep (code : Code σ α) {inst : Instance σ} (kept : Kept inst) :
    ∀ request ∈ requests code inst, Kept request.before := by
  induction code generalizing inst with
  | done answer | trap cause | spin => simp [requests]
  | getGlobals next ih => exact ih inst.globals kept
  | setGlobals globals next ih => exact ih () (quietly _ _ (.globals inst globals) kept)
  | load address width next ih =>
    rw [requests]
    cases inst.memory.read? address.toNat width with
    | none => simp
    | some data => exact ih data kept
  | store address data next ih =>
    rw [requests]
    split
    · rename_i inside
      exact ih () (quietly _ _ (.store inst inside) kept)
    · simp
  | grow pages next ih =>
    rw [requests]
    exact List.forall_mem_cons.mpr ⟨kept, ih _ (after_keeps quietly kept)⟩
  | growTable elements next ih =>
    rw [requests]
    exact List.forall_mem_cons.mpr ⟨kept, ih _ (after_keeps quietly kept)⟩
  | syscall call next ih =>
    have answered := calling inst call kept
    rw [requests]
    split
    · rename_i called
      rw [called] at answered
      exact ih _ answered
    · simp
    · simp
    · simp

theorem requestsEntered_keep (code : Code σ α) {inst : Instance σ} (kept : Kept inst) :
    ∀ request ∈ inst.requestsEntered code, Kept request.before := by
  rw [requestsEntered]
  split
  · exact requests_keep quietly calling code kept
  · simp
  · rename_i metered
    exact requests_keep quietly calling code (quietly _ _ (.fuel inst (by simp [metered])) kept)

end Kept

end Instance

end LispHost
