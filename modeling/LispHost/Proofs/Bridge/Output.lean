import LispHost.Proofs.Bridge.Effects
import LispHost.Proofs.Guest.Minimal
import LispHost.Proofs.Syscall.Accounts

/-!
Output of a bridge.

The host and the holders of the console use a bridge in turns: the host performs operations, and any clone
of the console takes the records out or only looks at them. However they are interleaved, what has been
taken, followed by what is still held, is exactly what the guest has written, and the counters are the
numbers of the guest's system calls.
-/

set_option autoImplicit false

namespace LispHost

variable {σ : Type}

namespace Bridge

/-- A use of a bridge, or of its console through one of its clones. -/
inductive Access where
  | perform (operation : Operation)
  | take (clone : Nat)
  | records (clone : Nat)
  | contents (clone : Nat) (stream : Stream)
  deriving DecidableEq, Repr

/-- The answer to a use; all clones hold the same records. -/
def access (bridge : Bridge σ) : Access → Except Error Answer × Bridge σ
  | .perform operation => bridge.perform operation
  | .take _ => (.ok (.records bridge.takeConsole.1), bridge.takeConsole.2)
  | .records _ => (.ok (.records bridge.inst.host.console.records), bridge)
  | .contents _ stream => (.ok (.data (bridge.inst.host.console.contents stream)), bridge)

def accessCalls (bridge : Bridge σ) : Access → List (Made σ)
  | .perform operation => bridge.made operation
  | .take _ | .records .. | .contents .. => []

/-- The batch of records that a use has taken out of the console. -/
def Access.batch : Access → Except Error Answer → List Record
  | .perform .takeConsole, .ok (.records batch) => batch
  | .take _, .ok (.records batch) => batch
  | _, _ => []

/-- The batches that are taken out of the console by one use after the other, joined. -/
def taken (bridge : Bridge σ) : List Access → List Record
  | [] => []
  | use :: rest => use.batch (bridge.access use).1 ++ (bridge.access use).2.taken rest

def afterAll (bridge : Bridge σ) : List Access → Bridge σ
  | [] => bridge
  | use :: rest => (bridge.access use).2.afterAll rest

def callsAll (bridge : Bridge σ) : List Access → List (Made σ)
  | [] => []
  | use :: rest => bridge.accessCalls use ++ (bridge.access use).2.callsAll rest

private theorem accounts_put_back {inst last : Instance σ} {made : List (Made σ)}
    {records : List Record}
    (accounts : (inst.withConsole .empty).Accounts made (last.withConsole ⟨records⟩)) :
    inst.Accounts made (last.withConsole ⟨inst.host.console.records ++ records⟩) where
  records := by
    have rest : records = made.filterMap Made.record? := accounts.records
    rw [← rest]
    rfl
  bytes := accounts.bytes
  attempts := accounts.attempts
  stubs := accounts.stubs

private theorem access_take (bridge : Bridge σ) {use : Access}
    (takes : use = .perform .takeConsole ∨ ∃ clone, use = .take clone) :
    bridge.accessCalls use = [] ∧
      use.batch (bridge.access use).1 = bridge.inst.host.console.records ∧
      (bridge.access use).2.inst = bridge.inst.withConsole .empty := by
  rcases takes with rfl | ⟨clone, rfl⟩ <;> exact ⟨rfl, rfl, rfl⟩

private theorem batch_perform {operation : Operation} (other : operation ≠ .takeConsole)
    (answer : Except Error Answer) :
    (Access.perform operation).batch answer = [] := by
  cases operation with
  | takeConsole => exact absurd rfl other
  | _ => rfl

private theorem access_other (bridge : Bridge σ) {use : Access}
    (other : ¬ (use = .perform .takeConsole ∨ ∃ clone, use = .take clone)) :
    use.batch (bridge.access use).1 = [] ∧
      bridge.inst.Ran (bridge.accessCalls use) (bridge.access use).2.inst := by
  cases use with
  | perform operation =>
    have keeps : operation ≠ .takeConsole := fun same => other (.inl (same ▸ rfl))
    exact ⟨batch_perform keeps _, bridge.ran_perform keeps⟩
  | take clone => exact absurd (.inr ⟨clone, rfl⟩) other
  | records clone | contents clone stream => exact ⟨rfl, .stay bridge.inst⟩

private theorem access_keeps (bridge : Bridge σ) (use : Access) :
    ((bridge.access use).2.inst.host.config = bridge.inst.host.config ∧
      (bridge.access use).2.inst.host.binding = bridge.inst.host.binding) ∧
    ∀ m ∈ bridge.accessCalls use, m.before.host.config = bridge.inst.host.config ∧
      m.before.host.binding = bridge.inst.host.binding := by
  by_cases takes : use = .perform .takeConsole ∨ ∃ clone, use = .take clone
  · obtain ⟨none, -, after⟩ := bridge.access_take takes
    rw [none, after]
    exact ⟨⟨rfl, rfl⟩, by simp⟩
  · obtain ⟨after, made⟩ := (bridge.access_other takes).2.same_host
    exact ⟨after.2, fun m member => (made m member).2⟩

/-- With what was taken out put back in front, every run of a bound bridge is accounted for. -/
theorem accounts_callsAll (bridge : Bridge σ) {name : String}
    (bound : bridge.inst.host.binding = some name) (uses : List Access) :
    bridge.inst.Accounts (bridge.callsAll uses) ((bridge.afterAll uses).inst.withConsole
      ⟨bridge.taken uses ++ (bridge.afterAll uses).inst.host.console.records⟩) := by
  induction uses generalizing bridge with
  | nil => exact .of_same_host rfl
  | cons use rest ih =>
    have kept := (bridge.access_keeps use).1.2
    have later := ih (bridge.access use).2 (kept.trans bound)
    rw [callsAll, afterAll, taken]
    -- What is taken comes before what is written later; any other use extends the chain of steps.
    by_cases takes : use = .perform .takeConsole ∨ ∃ clone, use = .take clone
    · obtain ⟨none, batch, after⟩ := bridge.access_take takes
      rw [after] at later
      rw [none, batch, List.nil_append, List.append_assoc]
      exact accounts_put_back later
    · obtain ⟨none, ran⟩ := bridge.access_other takes
      rw [none, List.nil_append]
      exact (ran.accounts bound).trans later

/-- Every system call of a run is made in an instance with the host's first settings and binding. -/
theorem host_of_callsAll (bridge : Bridge σ) (uses : List Access) :
    ∀ m ∈ bridge.callsAll uses, m.before.host.config = bridge.inst.host.config ∧
      m.before.host.binding = bridge.inst.host.binding := by
  induction uses generalizing bridge with
  | nil => simp [callsAll]
  | cons use rest ih =>
    obtain ⟨⟨config, binding⟩, made⟩ := bridge.access_keeps use
    refine List.forall_mem_append.mpr ⟨made, ?_⟩
    rw [← config, ← binding]
    exact ih (bridge.access use).2

/-- The whole output of a bridge: what was taken, through whichever clones and at whatever moments, and
what any clone still finds is the list of the guest's successful writes since the binding, in their order
and without the empty ones, and the bytes of the whole list are counted. The writes, faults and refused
descriptors together are the writes the guest has asked for, and each of these moves one of the three. The
stub calls are counted too; each answers 0 or 52, as the policy says, and changes nothing but its counter. -/
theorem output_accounting (config : Config) (guest : Guest σ) (bridge : Bridge σ)
    (started : start config guest = .ok bridge) (uses : List Access) :
    let made := startCalls config guest ++ bridge.callsAll uses
    let written := made.filterMap Made.record?
    let last := bridge.afterAll uses
    (∀ clone, ∃ held, (last.access (.records clone)).1 = .ok (.records held) ∧
      bridge.taken uses ++ held = written) ∧
    (∀ record ∈ written, record.bytes ≠ []) ∧
    (written.map fun record => record.bytes.length).sum = last.metrics.bytesWritten ∧
    last.metrics.writes + last.metrics.faults + last.metrics.badDescriptors =
      made.countP Made.isWrite ∧
    (∀ m ∈ made, m.isWrite = true → m.MovesOne) ∧
    last.metrics.stubCalls = made.countP Made.isStub ∧
    ∀ m ∈ made, ∀ call args, m.call = .stub call args →
      (config.syscalls.stubPolicy = .succeed → m.ending = .value 0) ∧
      (config.syscalls.stubPolicy = .notImplemented → m.ending = .value 52) ∧
      m.after = { m.before with host := { m.before.host with metrics :=
        { m.before.host.metrics with stubCalls := m.before.host.metrics.stubCalls + 1 } } } := by
  intro made written last
  obtain ⟨inst, ok, -, -, ran⟩ := exists_of_start started
  obtain ⟨-, before, created_ok, rfl⟩ := created_of_createBound ok
  have fresh : before.host = .new config.syscalls := (Instance.eq_of_create created_ok rfl).2
  have bound : (before.boundTo config.abi.memory).host.binding = some config.abi.memory := rfl
  obtain ⟨⟨-, kept_config, kept_binding⟩, start_made⟩ := ran.same_host
  have accounts := (ran.accounts bound).trans
    (bridge.accounts_callsAll (kept_binding.trans bound) uses)
  have host : ∀ m ∈ made, m.before.host.config = config.syscalls ∧
      m.before.host.binding = some config.abi.memory := by
    have configured : (before.boundTo config.abi.memory).host.config = config.syscalls :=
      congrArg SyscallHost.config fresh
    refine List.forall_mem_append.mpr ⟨?_, ?_⟩
    · intro m member
      obtain ⟨-, same_config, same_binding⟩ := start_made m member
      exact ⟨same_config.trans configured, same_binding⟩
    · intro m member
      obtain ⟨same_config, same_binding⟩ := bridge.host_of_callsAll uses m member
      exact ⟨same_config.trans (kept_config.trans configured), same_binding.trans kept_binding⟩
  have no_metrics : (before.boundTo config.abi.memory).host.metrics = .zero :=
    congrArg SyscallHost.metrics fresh
  have no_console : (before.boundTo config.abi.memory).host.console = .empty :=
    congrArg SyscallHost.console fresh
  have records := accounts.records
  have bytes := accounts.bytes
  have attempts := accounts.attempts
  have stubs := accounts.stubs
  rw [no_console] at records
  rw [no_metrics] at bytes attempts stubs
  refine ⟨fun clone => ⟨_, rfl, records⟩, ?_, ?_, ?_, ?_, ?_, ?_⟩
  · intro record member
    obtain ⟨m, -, recorded⟩ := List.mem_filterMap.mp member
    exact Made.bytes_ne_nil_of_record? recorded
  · exact (bytes.trans (Nat.zero_add _)).symm
  · exact attempts.trans (Nat.zero_add _)
  · intro m member write
    exact Instance.movesOne_of_isWrite (host m member).2 write
  · exact stubs.trans (Nat.zero_add _)
  · intro m member call args asked
    obtain ⟨configured, bound_before⟩ := host m member
    have answered := Instance.syscall_stub bound_before call args
    rw [Made.ending, Made.after, asked, answered, configured]
    refine ⟨fun succeed => ?_, fun refuse => ?_, rfl⟩
    · rw [succeed]
      rfl
    · rw [refuse]
      rfl

/-- A guest that writes when it is initialised and when it is asked to: to standard error, to no stream,
and nothing at all; and one of its functions fails at a write and then traps. -/
def talkingGuest : Guest Unit :=
  { Guest.exporting (Guest.accessors 0 0 0 ++ Guest.sentinels ++
      [("_initialize", .func ⟨[], [], fun _ => .syscall (.fdWrite 1 16 1 64) fun _ => .done []⟩),
        ("say", .func ⟨[], [], fun _ => .syscall (.fdWrite 2 16 1 64) fun _ =>
          .syscall (.stub .fdClose [2]) fun _ => .syscall (.fdWrite 9 16 1 64) fun _ =>
          .syscall (.fdWrite 1 16 0 64) fun _ => .done []⟩),
        ("fail", .func ⟨[], [], fun _ => .syscall (.fdWrite 1 16 1 65535) fun _ =>
          .trap .unreachable⟩)]) with
    data := [(16, [32, 0, 0, 0, 2, 0, 0, 0]), (32, [65, 66])] }

/-- Uses of that guest by a host and three holders of its console. -/
def talkingUses : List Access :=
  [.perform (.call "say" []), .take 0, .records 1, .perform (.call "fail" []), .take 2,
    .perform (.call "say" [])]

def refusing : Config :=
  { Config.default with syscalls := { SyscallConfig.default with stubPolicy := .notImplemented } }

/-- What is taken on the way and what is held in the end are the three writes of text among the eight that
the guest has asked for; two had no stream and one no place for its total. Both its stub calls answer 0, and 52
where they are refused. -/
theorem output_accounting_talkingGuest :
    (∃ bridge, start Config.default talkingGuest = .ok bridge ∧
      bridge.taken talkingUses = [⟨.stdout, [65, 66]⟩, ⟨.stderr, [65, 66]⟩] ∧
      (bridge.afterAll talkingUses).metrics = ⟨5, 6, 2, 1, 2⟩ ∧
      let made := startCalls Config.default talkingGuest ++ bridge.callsAll talkingUses
      made.filterMap Made.record? =
        [⟨.stdout, [65, 66]⟩, ⟨.stderr, [65, 66]⟩, ⟨.stderr, [65, 66]⟩] ∧
      made.countP Made.isWrite = 8 ∧ made.countP Made.isStub = 2 ∧
      ∀ m ∈ made, ∀ call args, m.call = .stub call args → m.ending = .value 0) ∧
    ∃ bridge, start refusing talkingGuest = .ok bridge ∧
      let made := startCalls refusing talkingGuest ++ bridge.callsAll talkingUses
      made.countP Made.isStub = 2 ∧
      ∀ m ∈ made, ∀ call args, m.call = .stub call args → m.ending = .value 52 := by
  refine ⟨⟨_, rfl, ?_⟩, _, rfl, ?_⟩
  · obtain ⟨records, -, -, attempts, -, stubs, answers⟩ :=
      output_accounting Config.default talkingGuest _ rfl talkingUses
    obtain ⟨held, found, whole⟩ := records 0
    refine ⟨rfl, rfl, ?_, ?_, ?_, fun m member call args asked =>
      (answers m member call args asked).1 rfl⟩
    · rw [← whole]
      have last : Except.ok (.records held) = (.ok (.records [⟨.stderr, [65, 66]⟩]) :
          Except Error Answer) := found.symm.trans (rfl)
      cases last
      rfl
    · rw [← attempts]
      rfl
    · rw [← stubs]
      rfl
  · obtain ⟨-, -, -, -, -, stubs, answers⟩ :=
      output_accounting refusing talkingGuest _ rfl talkingUses
    refine ⟨?_, fun m member call args asked => (answers m member call args asked).2.1 rfl⟩
    rw [← stubs]
    rfl

end Bridge

end LispHost
