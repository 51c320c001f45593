import LispHost.Proofs.Bridge.Growth
import LispHost.Proofs.Bridge.Visits
import LispHost.Proofs.Guest.Minimal

/-!
Store limits.

A guest is given its resources within the limits of the settings and within the maxima of its module, or it is
not given any and no bridge comes of it. From then on only requests of its own code change the sizes, whichever
operation the code runs in, and each of them is held against the same bounds. So the bounds hold in every state
of every run, and no size ever decreases.
-/

set_option autoImplicit false

namespace LispHost

variable {σ : Type}

def Visit.requests (visit : Visit σ) : List (GrowthRequest σ) :=
  visit.before.requestsEntered (visit.f.run visit.args)

theorem Instance.Quiet.amount_le {inst next : Instance σ} (quiet : Instance.Quiet inst next)
    (resource : Resource) : inst.amount resource ≤ next.amount resource := by
  cases quiet with
  | fuel | globals => exact Nat.le_refl _
  | store inside =>
    cases resource with
    | memory => exact Nat.le_of_eq (Memory.size_setBytes ..).symm
    | table => exact Nat.le_refl _
  | extend granted | extendTable granted => cases resource <;> simp [Memory.extend]

theorem Instance.amount_syscall (inst : Instance σ) (call : Syscall) (resource : Resource) :
    (inst.syscall call).2.amount resource = inst.amount resource := by
  cases resource with
  | memory => exact inst.size_syscall call
  | table => exact (inst.syscall_resources call).2

/-- The instance keeps its bounds, and it has no less than an instance before it had. -/
structure GrownWithin (limits : Limits) (guest : Guest σ) (first inst : Instance σ) : Prop where
  bounded : Bounded limits guest inst
  grown (resource : Resource) : first.amount resource ≤ inst.amount resource

namespace GrownWithin

variable {limits : Limits} {guest : Guest σ} {first inst next : Instance σ}

theorem refl (bounded : Bounded limits guest first) : GrownWithin limits guest first first :=
  ⟨bounded, fun _ => Nat.le_refl _⟩

theorem quiet (within : GrownWithin limits guest first inst) (quiet : Instance.Quiet inst next) :
    GrownWithin limits guest first next where
  bounded := within.bounded.quiet quiet
  grown resource := Nat.le_trans (within.grown resource) (quiet.amount_le resource)

theorem syscall (within : GrownWithin limits guest first inst) (call : Syscall) :
    GrownWithin limits guest first (inst.syscall call).2 where
  bounded := within.bounded.syscall call
  grown resource := by
    rw [inst.amount_syscall call resource]
    exact within.grown resource

theorem withHost (within : GrownWithin limits guest first inst) (host : SyscallHost) :
    GrownWithin limits guest first { inst with host } where
  bounded := within.bounded.of_same rfl rfl rfl rfl
  grown resource := by
    have kept := within.grown resource
    cases resource <;> exact kept

theorem ran {made : List (Made σ)} (within : GrownWithin limits guest first inst)
    (ran : Instance.Ran inst made next) : GrownWithin limits guest first next :=
  (ran.keeps (fun _ _ step kept => kept.quiet step) (fun _ call kept => kept.syscall call) within).1

/-- Every request that code makes is decided by the bounds, in an instance that has grown no less. -/
theorem requests {α : Type} (within : GrownWithin limits guest first inst) (code : Code σ α) :
    ∀ request ∈ inst.requestsEntered code, request.Decided limits guest ∧
      ∀ resource, first.amount resource ≤ request.before.amount resource := by
  intro request member
  have kept := Instance.requestsEntered_keep (fun _ _ step kept => kept.quiet step)
    (fun _ call kept => kept.syscall call) code within request member
  exact ⟨request.decided kept.bounded, kept.grown⟩

end GrownWithin

namespace Bridge

variable {config : Config} {guest : Guest σ} {inst : Instance σ} {bridge : Bridge σ}

/-- The requests that the guest makes while it is started: in its start code and in its initialiser. -/
def startRequests (config : Config) (guest : Guest σ) : List (GrowthRequest σ) :=
  (match prepared config guest, guest.start with
    | some inst, some start => inst.requestsEntered start
    | _, _ => []) ++
  (startVisits config guest).flatMap Visit.requests

def requestsAll (bridge : Bridge σ) (operations : List Operation) : List (GrowthRequest σ) :=
  (bridge.visitsAll operations).flatMap Visit.requests

theorem bounded_of_prepared (ok : prepared config guest = some inst) :
    Bounded config.limits guest inst ∧ ∀ resource, inst.amount resource = guest.initial resource := by
  have paged := Instance.paged_of_prepare ok
  simp only [Instance.prepare, Option.ite_none_right_eq_some, Bool.and_eq_true,
    Option.map_eq_some_iff] at ok
  obtain ⟨⟨-, pages, elements⟩, memory, written, rfl⟩ := ok
  rw [Instance.mayHavePages_iff rfl] at pages
  rw [Instance.mayHaveElements_iff rfl] at elements
  have size : memory.size = guest.pages * Memory.pageSize := Instance.size_of_writeSegments written
  let given : Instance σ := ⟨guest, some config.limits, memory, guest.table, guest.globals,
    .new config.syscalls, config.limits.maxFuel⟩
  have same : ∀ resource, given.amount resource = guest.initial resource := by
    intro resource
    cases resource with
    | memory => exact size
    | table => rfl
  refine ⟨⟨rfl, rfl, paged, fun resource => ?_⟩, same⟩
  change Fits config.limits guest resource (given.amount resource)
  rw [same]
  cases resource with
  | memory => exact pages
  | table => exact elements

theorem grown_of_createBound (ok : createBound config guest = .ok inst) :
    ∃ before, prepared config guest = some before ∧
      GrownWithin config.limits guest before inst := by
  obtain ⟨-, created, ok', rfl⟩ := created_of_createBound ok
  obtain ⟨before, prepared, started⟩ := Instance.started_of_create ok'
  have begun := GrownWithin.refl (bounded_of_prepared prepared).1
  refine ⟨before, prepared, GrownWithin.withHost ?_ _⟩
  rcases started with rfl | ⟨start, entered⟩
  · exact begun
  · have ran := (before.ends_enter start).ran
    rw [entered] at ran
    exact begun.ran ran

theorem grown_of_start (started : start config guest = .ok bridge) :
    ∃ before, prepared config guest = some before ∧
      GrownWithin config.limits guest before bridge.inst := by
  obtain ⟨inst, ok, -, -, ran⟩ := exists_of_start started
  obtain ⟨before, prepared, within⟩ := grown_of_createBound ok
  exact ⟨before, prepared, within.ran ran⟩

theorem grown_performAll {first : Instance σ}
    (within : GrownWithin config.limits guest first bridge.inst) (operations : List Operation) :
    GrownWithin config.limits guest first (bridge.performAll operations).2.inst :=
  bridge.performAll_keeps (fun _ _ step kept => kept.quiet step)
    (fun _ call kept => kept.syscall call) (fun _ _ kept => kept.withHost _) operations within

theorem start_of_exceeding (wellFormed : guest.wellFormed = true) {resource : Resource}
    (exceeds : config.limits.most resource < guest.initial resource) :
    ∃ detail, start config guest = .error ⟨.instantiation detail, .empty⟩ := by
  let empty : Instance σ := ⟨guest, some config.limits, .zeroed (guest.pages * Memory.pageSize),
    guest.table, guest.globals, .new config.syscalls, config.limits.maxFuel⟩
  have limited : empty.limits = some config.limits := rfl
  have refused : (empty.mayHavePages guest.pages && empty.mayHaveElements guest.table) = false := by
    cases resource with
    | memory =>
      have beyond : empty.mayHavePages guest.pages ≠ true := by
        rw [ne_eq, Instance.mayHavePages_iff limited]
        exact fun fits => Nat.not_le.mpr exceeds fits.limit
      simp [beyond]
    | table =>
      have beyond : empty.mayHaveElements guest.table ≠ true := by
        rw [ne_eq, Instance.mayHaveElements_iff limited]
        exact fun fits => Nat.not_le.mpr exceeds fits.limit
      simp [beyond]
  obtain ⟨detail, failed⟩ : ∃ detail, created config guest = .error (.instantiation detail) := by
    simp only [created, Instance.create]
    split
    · exact ⟨_, rfl⟩
    · rw [if_pos (by rw [Bool.not_eq_true']; exact refused)]
      exact ⟨_, rfl⟩
  refine ⟨detail, ?_⟩
  rw [start, createBound_of_failed wellFormed failed]

/-- The requests of a start are decided by the bounds, also when the start fails in the end. -/
theorem decided_of_startRequests :
    ∀ request ∈ startRequests config guest, request.Decided config.limits guest := by
  intro request member
  rcases List.mem_append.mp member with first | later
  · split at first
    · rename_i inst start given _
      have begun := GrownWithin.refl (bounded_of_prepared given).1
      exact (begun.requests start request first).1
    · cases first
  · obtain ⟨visit, visited, member⟩ := List.mem_flatMap.mp later
    rw [startVisits] at visited
    split at visited
    · rename_i inst context ok _
      obtain ⟨before, -, within⟩ := grown_of_createBound ok
      rw [← Instance.before_of_visitsNamed visit visited] at within
      exact (within.requests (visit.f.run visit.args) request member).1
    · cases visited

theorem decided_of_requestsAll {first : Instance σ}
    (within : GrownWithin config.limits guest first bridge.inst) (operations : List Operation) :
    ∀ request ∈ bridge.requestsAll operations, request.Decided config.limits guest ∧
      ∀ resource, first.amount resource ≤ request.before.amount resource := by
  intro request member
  obtain ⟨visit, visited, member⟩ := List.mem_flatMap.mp member
  have kept := bridge.visitsAll_keep (fun _ _ step kept => kept.quiet step)
    (fun _ call kept => kept.syscall call) (fun _ _ kept => kept.withHost _) operations within
    visit visited
  exact kept.requests (visit.f.run visit.args) request member

/-- Store limits hold over whole runs. The limits allow a size if and only if it is at most the limit and, where
there is one, at most the maximum. A module that starts with more than the limits never becomes a bridge. Every
request for memory or table elements, in the start code, in the initialiser or in any operation of a run, is
granted if and only if the size that is asked for is at most the limit, at most the maximum of the module where
it declares one, and can be addressed; a request that is denied leaves the instance as it was, and one that is
granted keeps all bytes. In every state the sizes keep the same bounds, and they never decrease. -/
theorem growth_within_limits (config : Config) (guest : Guest σ) :
    (∀ desired maximum,
      (config.limits.allowsMemory desired maximum = true ↔
        desired ≤ config.limits.most .memory ∧ ∀ most ∈ maximum, desired ≤ most) ∧
      (config.limits.allowsTable desired maximum = true ↔
        desired ≤ config.limits.most .table ∧ ∀ most ∈ maximum, desired ≤ most)) ∧
    (guest.wellFormed = true →
      ∀ resource, config.limits.most resource < guest.initial resource →
        ∃ detail, start config guest = .error ⟨.instantiation detail, .empty⟩) ∧
    (∀ request ∈ startRequests config guest, request.Decided config.limits guest) ∧
    ∀ bridge past future, start config guest = .ok bridge →
      let state := (bridge.performAll past).2
      let later := (state.performAll future).2
      (∀ resource, Fits config.limits guest resource (state.inst.amount resource) ∧
        guest.initial resource ≤ state.inst.amount resource ∧
        state.inst.amount resource ≤ later.inst.amount resource) ∧
      ∀ request ∈ state.requestsAll future, request.Decided config.limits guest ∧
        ∀ resource, state.inst.amount resource ≤ request.before.amount resource := by
  refine ⟨fun desired maximum => ⟨Limits.allowsMemory_iff, Limits.allowsTable_iff⟩,
    fun wellFormed resource exceeds => start_of_exceeding wellFormed exceeds,
    decided_of_startRequests, fun bridge past future started => ?_⟩
  intro state later
  obtain ⟨before, given, begun⟩ := grown_of_start started
  have within : GrownWithin config.limits guest before state.inst := grown_performAll begun past
  have onward := GrownWithin.refl within.bounded
  refine ⟨fun resource => ⟨within.bounded.fits resource, ?_, ?_⟩, decided_of_requestsAll onward future⟩
  · rw [← (bounded_of_prepared given).2 resource]
    exact within.grown resource
  · exact (grown_performAll onward future).grown resource

/-- A guest that asks for pages, as many as it is called with, and that asks for a page as it starts. -/
def growingGuest (pages : Nat) (maxPages : Option Nat) : Guest Unit :=
  { Guest.exporting (Guest.accessors 0 0 0 ++ Guest.sentinels ++
      [("grow", .func ⟨[.i32], [.i32], fun args =>
        .grow (args.headD 0) fun old => .done [old.toUInt64]⟩)]) with
    pages
    maxPages
    start := some (.grow 1 fun _ => .done ()) }

def withPageLimit (maxMemoryPages : Nat) : Config :=
  { Config.default with limits := { Limits.default with maxMemoryPages } }

/-- Below a limit of four pages a module with a maximum of three starts with two, and one page more is denied to
it; a module that starts with five does not start. -/
theorem growth_within_limits_growingGuest :
    (∃ detail, start (withPageLimit 4) (growingGuest 5 none) =
      .error ⟨.instantiation detail, .empty⟩) ∧
    ∃ bridge, start (withPageLimit 4) (growingGuest 2 (some 3)) = .ok bridge ∧
      bridge.inst.memory.size = 3 * 65536 ∧ (bridge.call "grow" [1]).1 = .ok [0xffffffff] ∧
      (bridge.requestsAll [.call "grow" [1]]).map GrowthRequest.granted = [false] ∧
      ∀ request ∈ bridge.requestsAll [.call "grow" [1]], request.after = request.before := by
  obtain ⟨-, exceeding, -⟩ := growth_within_limits (withPageLimit 4) (growingGuest 5 none)
  obtain ⟨-, -, -, runs⟩ := growth_within_limits (withPageLimit 4) (growingGuest 2 (some 3))
  obtain ⟨bridge, started⟩ :
      ∃ bridge, start (withPageLimit 4) (growingGuest 2 (some 3)) = .ok bridge := ⟨_, rfl⟩
  obtain ⟨-, decided⟩ := runs bridge [] [.call "grow" [1]] started
  refine ⟨exceeding rfl .memory (by decide), bridge, started, ?_⟩
  have denied : (bridge.requestsAll [.call "grow" [1]]).map GrowthRequest.granted = [false] := by
    cases started
    rfl
  refine ⟨by cases started; rfl, by cases started; rfl, denied, fun request member => ?_⟩
  have refused : request.granted ∈ [false] := denied ▸ List.mem_map_of_mem member
  exact ((decided request member).1.denied (List.mem_singleton.mp refused)).2

/-- With a limit beyond the address space and no maximum, a request within the limit is denied. -/
theorem growth_denied_within_limit :
    ∃ bridge request, start (withPageLimit 70000) (growingGuest 1 none) = .ok bridge ∧
      bridge.requestsAll [.call "grow" [65535]] = [request] ∧
      request.desired ≤ (withPageLimit 70000).limits.most .memory ∧
      (growingGuest 1 none).maximum .memory = none ∧ request.granted = false ∧
      (bridge.call "grow" [65535]).1 = .ok [0xffffffff] :=
  ⟨_, _, rfl, rfl, by decide, rfl, rfl, rfl⟩

end Bridge

end LispHost
