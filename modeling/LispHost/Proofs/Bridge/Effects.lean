import LispHost.Proofs.Bridge.Runs
import LispHost.Proofs.Decode.Runs
import LispHost.Proofs.Guest.Effects
import LispHost.Proofs.Memory.Bytes

/-!
System calls of a bridge.

A bridge runs guest code when it is started and in most of its operations. Each has its list of system
calls, in the order in which the guest makes them, also when the operation fails on the way; for a decode
they are those of the accessors it calls. Between its system calls the instance changes by the guest's own
steps alone, and apart from taking the console no operation changes it in any other way.
-/

set_option autoImplicit false

namespace LispHost

variable {σ : Type}

namespace Instance

def boundTo (inst : Instance σ) (name : String) : Instance σ :=
  { inst with host := { inst.host with binding := some name } }

def withConsole (inst : Instance σ) (console : Console) : Instance σ :=
  { inst with host := { inst.host with console } }

end Instance

namespace DecodingContext

def rowCalls (ctx : DecodingContext σ) (tag : Tag) (value : Word) (inst : Instance σ) :
    List (Made σ) :=
  match tag.rowWidth, ctx.tags.codeOf tag with
  | some _, some code => inst.callsOf ctx.row [code, value]
  | _, _ => []

def traced (ctx : DecodingContext σ) : HeapReader (Instance σ × List (Made σ)) where
  tagOf value state :=
    let (answer, inst) := ctx.tagOfValue value state.1
    (answer, inst, state.2 ++ state.1.callsOf ctx.tagOf [value])
  row tag value state :=
    let (answer, inst) := ctx.rowOf tag value state.1
    (answer, inst, state.2 ++ ctx.rowCalls tag value state.1)
  string handle state :=
    let (answer, inst) := ctx.stringOf handle state.1
    (answer, inst, state.2 ++ state.1.callsOf ctx.string [handle])
  sentinels _ := ctx.sentinels

def decodeCalls (ctx : DecodingContext σ) (options : DecodeOptions) (value : Word)
    (inst : Instance σ) : List (Made σ) :=
  (Projection.decode ctx.traced options value (inst, [])).2.2

theorem ran_tagOfValue (ctx : DecodingContext σ) (value : Word) (inst : Instance σ) :
    inst.Ran (inst.callsOf ctx.tagOf [value]) (ctx.tagOfValue value inst).2 :=
  inst.ran_callWord ctx.tagOf [value]

theorem ran_rowOf (ctx : DecodingContext σ) (tag : Tag) (value : Word) (inst : Instance σ) :
    inst.Ran (ctx.rowCalls tag value inst) (ctx.rowOf tag value inst).2 := by
  rw [rowCalls, rowOf]
  cases tag.rowWidth with
  | none => exact .stay inst
  | some width =>
    cases ctx.tags.codeOf tag with
    | none => exact .stay inst
    | some code =>
      have ran := inst.ran_callWord ctx.row [code, value]
      cases called : inst.callWord ctx.row [code, value] with
      | mk answer next =>
      rw [called] at ran
      cases answer with
      | error e => simpa only [called] using ran
      | ok address => simpa only [called] using ran

theorem ran_stringOf (ctx : DecodingContext σ) (handle : Word) (inst : Instance σ) :
    inst.Ran (inst.callsOf ctx.string [handle]) (ctx.stringOf handle inst).2 := by
  have ran := inst.ran_callWord ctx.string [handle]
  rw [stringOf]
  split <;> rename_i called <;> rwa [called] at ran

private theorem traced_mirrors (ctx : DecodingContext σ) :
    HeapReader.Mirrors Prod.fst ctx.traced ctx.reader where
  tagOf _ _ := rfl
  row _ _ _ := rfl
  string _ _ := rfl
  sentinels _ := rfl

private theorem ends_of_ran {α : Type} {Kept : Instance σ × List (Made σ) → Prop}
    {answer : Except Error α} {state : Instance σ × List (Made σ)} (kept : Kept state) :
    Inquiry.Ends Kept (fun _ => Kept) (answer, state) := by
  cases answer <;> exact kept

private theorem traced_invariant (ctx : DecodingContext σ) (inst : Instance σ)
    (detectCycles : Bool) :
    ctx.traced.Invariant detectCycles (fun state => inst.Ran state.2 state.1)
      (fun _ state => inst.Ran state.2 state.1) :=
  .of_accessors
    (fun value state ran => ends_of_ran (ran.trans (ctx.ran_tagOfValue value state.1)))
    (fun tag value state ran => ends_of_ran (ran.trans (ctx.ran_rowOf tag value state.1)))
    (fun handle state ran => ends_of_ran (ran.trans (ctx.ran_stringOf handle state.1)))
    (fun _ _ _ ran => ran) (fun _ _ _ ran => ran)

/-- What the questions of one position keep of the instance and of the system calls so far is kept by a
decode. -/
theorem ends_decode {ctx : DecodingContext σ} {options : DecodeOptions} {inst : Instance σ}
    {Kept : Instance σ × List (Made σ) → Prop} {Failed : Error → Instance σ × List (Made σ) → Prop}
    (invariant : ctx.traced.Invariant options.detectCycles Kept Failed) (kept : Kept (inst, []))
    (value : Word) :
    Inquiry.Ends Kept Failed ((ctx.decode options value inst).1,
      (ctx.decode options value inst).2, ctx.decodeCalls options value inst) := by
  -- The traced heap shows what the live heap shows.
  have mirrored := ctx.traced_mirrors.decode options value (inst, [])
  rw [decode, decodeCalls, mirrored]
  exact invariant.decode value kept

theorem ran_decode (ctx : DecodingContext σ) (options : DecodeOptions) (value : Word)
    (inst : Instance σ) :
    inst.Ran (ctx.decodeCalls options value inst) (ctx.decode options value inst).2 := by
  have begun : inst.Ran (inst, ([] : List (Made σ))).2 (inst, ([] : List (Made σ))).1 := .stay inst
  have ends := ends_decode (ctx.traced_invariant inst options.detectCycles) begun value
  cases answered : (ctx.decode options value inst).1 with
  | error e =>
    rw [answered] at ends
    exact ends
  | ok shown =>
    rw [answered] at ends
    exact ends

end DecodingContext

namespace Bridge

/-- The system calls made while the guest parses a source: for a buffer, then for the parse. -/
def readCalls (bridge : Bridge σ) (source : String) : List (Made σ) :=
  let data := Text.Utf8.encode source
  if wordCount ≤ data.length then []
  else
    let len := UInt32.ofNat data.length
    match bridge.inst.guest.wordFunc bridge.abi.alloc 1,
        bridge.inst.guest.wordFunc bridge.abi.read 2 with
    | .ok alloc, .ok read =>
      bridge.inst.callsOf alloc [len] ++
        match bridge.inst.callWord alloc [len] with
        | (.error _, _) => []
        | (.ok address, inst) =>
          match { bridge with inst }.deliver address data with
          | .error _ => []
          | .ok bridge => bridge.inst.callsOf read [address, len]
    | _, _ => []

def evalCalls (bridge : Bridge σ) (value : Word) : List (Made σ) :=
  match bridge.inst.guest.wordFunc bridge.abi.eval 1 with
  | .error _ => []
  | .ok eval => bridge.inst.callsOf eval [value]

def made (bridge : Bridge σ) : Operation → List (Made σ)
  | .read source => bridge.readCalls source
  | .eval value => bridge.evalCalls value
  | .call name args => bridge.inst.callsNamed name args
  | .project value => bridge.context.decodeCalls bridge.options value bridge.inst
  | .decode options value => bridge.context.decodeCalls options value bridge.inst
  | .tagOf value => bridge.inst.callsOf bridge.context.tagOf [value]
  | .row tag value => bridge.context.rowCalls tag value bridge.inst
  | .string handle => bridge.inst.callsOf bridge.context.string [handle]
  | .memorySize | .word _ | .bytes _ _ | .setOptions _ | .takeConsole => []

def madeAll (bridge : Bridge σ) : List Operation → List (Made σ)
  | [] => []
  | operation :: rest =>
    bridge.made operation ++ (bridge.perform operation).2.madeAll rest

def startCalls (config : Config) (guest : Guest σ) : List (Made σ) :=
  match createBound config guest, DecodingContext.resolve guest config.abi with
  | .ok inst, .ok _ => inst.callsNamed config.abi.start []
  | _, _ => []

theorem eq_of_deliver {bridge next : Bridge σ} {address : Word} {data : List UInt8}
    (delivered : bridge.deliver address data = .ok next) :
    address.toNat + data.length ≤ bridge.inst.memory.size ∧
      next = { bridge with inst := { bridge.inst with
        memory := bridge.inst.memory.setBytes address.toNat data } } := by
  obtain ⟨memory, exported, delivered⟩ := exists_of_bind_eq_ok delivered
  obtain ⟨written, wrote, delivered⟩ := exists_of_bind_eq_ok delivered
  cases delivered
  have same : bridge.inst.memory = memory := by
    rw [Instance.memoryOf, Instance.exportedMemory] at exported
    split at exported
    · rename_i found
      cases exported
      exact Option.some.inj (Option.ite_none_right_eq_some.mp found).2
    · cases exported
  subst same
  rw [Memory.writeBytes] at wrote
  split at wrote
  · cases wrote
  · split at wrote
    · rename_i stored
      cases wrote
      obtain ⟨inside, rfl⟩ := Memory.write?_eq_some_iff.mp stored
      exact ⟨inside, rfl⟩
    · cases wrote

private theorem ran_read (bridge : Bridge σ) (source : String) :
    bridge.inst.Ran (bridge.readCalls source) (bridge.read source).2.inst := by
  simp only [readCalls, read]
  split
  · exact .stay _
  · cases bridge.inst.guest.wordFunc bridge.abi.alloc 1 with
    | error e => exact .stay _
    | ok alloc =>
      cases bridge.inst.guest.wordFunc bridge.abi.read 2 with
      | error e => exact .stay _
      | ok parse =>
        have allocated := bridge.inst.ran_callWord alloc
          [UInt32.ofNat (Text.Utf8.encode source).length]
        simp only
        generalize bridge.inst.callWord alloc [UInt32.ofNat (Text.Utf8.encode source).length] =
          called at allocated ⊢
        obtain ⟨answer | address, inst⟩ := called
        · simpa only [List.append_nil] using allocated
        · dsimp only
          cases delivered : Bridge.deliver { bridge with inst } address
            (Text.Utf8.encode source) with
          | error e => simpa only [List.append_nil] using allocated
          | ok filled =>
            obtain ⟨inside, rfl⟩ := eq_of_deliver delivered
            -- The host's own write into the buffer is a step like a store of the guest.
            exact allocated.trans (.step (.store inst inside) (Instance.ran_callWord _ parse _))

private theorem ran_eval (bridge : Bridge σ) (value : Word) :
    bridge.inst.Ran (bridge.evalCalls value) (bridge.eval value).2.inst := by
  rw [evalCalls, eval]
  cases bridge.inst.guest.wordFunc bridge.abi.eval 1 with
  | error e => exact .stay _
  | ok f => exact bridge.inst.ran_callWord f [value]

/-- An operation other than taking the console makes its system calls, and otherwise changes the instance
only as the guest itself can. -/
theorem ran_perform (bridge : Bridge σ) {operation : Operation}
    (other : operation ≠ .takeConsole) :
    bridge.inst.Ran (bridge.made operation) (bridge.perform operation).2.inst := by
  cases operation with
  | read source => exact bridge.ran_read source
  | eval value => exact bridge.ran_eval value
  | call name args => exact bridge.inst.ran_call name args
  | project value => exact bridge.context.ran_decode bridge.options value bridge.inst
  | decode options value => exact bridge.context.ran_decode options value bridge.inst
  | tagOf value => exact bridge.context.ran_tagOfValue value bridge.inst
  | row tag value => exact bridge.context.ran_rowOf tag value bridge.inst
  | string handle => exact bridge.context.ran_stringOf handle bridge.inst
  | memorySize | word offset | bytes offset len | setOptions options => exact .stay _
  | takeConsole => exact absurd rfl other

theorem perform_keeps {Kept : Instance σ → Prop}
    (quietly : ∀ inst next, Instance.Quiet inst next → Kept inst → Kept next)
    (calling : ∀ inst call, Kept inst → Kept (inst.syscall call).2)
    (taking : ∀ inst console, Kept inst → Kept (inst.withConsole console))
    (bridge : Bridge σ) (operation : Operation) (kept : Kept bridge.inst) :
    Kept (bridge.perform operation).2.inst := by
  by_cases take : operation = .takeConsole
  · subst take
    exact taking bridge.inst _ kept
  · exact ((bridge.ran_perform take).keeps quietly calling kept).1

theorem performAll_keeps {Kept : Instance σ → Prop}
    (quietly : ∀ inst next, Instance.Quiet inst next → Kept inst → Kept next)
    (calling : ∀ inst call, Kept inst → Kept (inst.syscall call).2)
    (taking : ∀ inst console, Kept inst → Kept (inst.withConsole console))
    (bridge : Bridge σ) (operations : List Operation) (kept : Kept bridge.inst) :
    Kept (bridge.performAll operations).2.inst := by
  induction operations generalizing bridge with
  | nil => exact kept
  | cons operation rest ih =>
    exact ih _ (bridge.perform_keeps quietly calling taking operation kept)

end Bridge

/-! ### Starts -/

namespace Instance

/-- A guest with its resources, before its start code runs, if it can be given them. -/
def prepare (guest : Guest σ) (limits : Option Limits) (fuel : Option Nat) (host : SyscallHost) :
    Option (Instance σ) :=
  let inst : Instance σ :=
    ⟨guest, limits, .zeroed (guest.pages * Memory.pageSize), guest.table, guest.globals, host, fuel⟩
  if guest.linkable && (inst.mayHavePages guest.pages && inst.mayHaveElements guest.table) then
    (writeSegments inst.memory guest.data).map fun memory => { inst with memory }
  else none

variable {guest : Guest σ} {limits : Option Limits} {fuel : Option Nat} {host : SyscallHost}
  {inst : Instance σ}

/-- Run start code, if there is any, as the last part of creating an instance. -/
def begun (inst : Instance σ) : Option (Code σ Unit) → Except Error (Instance σ)
  | none => .ok inst
  | some start =>
    match inst.enter start with
    | (.value _, inst) => .ok inst
    | (.trap cause, _) => .error (.instantiation (ExecutionFault.trap cause).text)
    | (.exit code, _) => .error (.guestExit code)
    | (.unbound, _) => .error .unbound

theorem create_of_prepare (prepared : prepare guest limits fuel host = some inst) :
    create guest limits fuel host = inst.begun guest.start := by
  simp only [prepare, Option.ite_none_right_eq_some, Bool.and_eq_true, Option.map_eq_some_iff]
    at prepared
  obtain ⟨⟨linkable, sized⟩, memory, written, rfl⟩ := prepared
  simp only [create, linkable, sized, written, Bool.not_true, Bool.false_eq_true, if_false,
    Bool.and_self]
  rfl

theorem exists_prepare_of_create (created : create guest limits fuel host = .ok inst) :
    ∃ before, prepare guest limits fuel host = some before := by
  cases prepared : prepare guest limits fuel host with
  | some before => exact ⟨before, rfl⟩
  | none =>
    simp only [create] at created
    split at created
    · cases created
    · split at created
      · cases created
      · split at created
        · cases created
        · rename_i linkable sized _ memory written
          simp only [Bool.not_eq_true', Bool.not_eq_false] at linkable sized
          simp only [prepare, linkable, sized, written, Bool.and_self, if_true, Option.map_some,
            reduceCtorEq] at prepared

theorem eq_of_prepare (prepared : prepare guest limits fuel host = some inst) :
    inst.guest = guest ∧ inst.host = host := by
  simp only [prepare, Option.ite_none_right_eq_some, Option.map_eq_some_iff] at prepared
  obtain ⟨-, memory, -, rfl⟩ := prepared
  exact ⟨rfl, rfl⟩

theorem fuel_of_prepare (prepared : prepare guest limits fuel host = some inst) :
    inst.fuel = fuel := by
  simp only [prepare, Option.ite_none_right_eq_some, Option.map_eq_some_iff] at prepared
  obtain ⟨-, memory, -, rfl⟩ := prepared
  rfl

/-- A guest that was created was given its resources, and then its start code ran to its end. -/
theorem started_of_create (created : create guest limits fuel host = .ok inst) :
    ∃ before, prepare guest limits fuel host = some before ∧
      (inst = before ∨ ∃ start, before.enter start = (.value (), inst)) := by
  obtain ⟨before, prepared⟩ := exists_prepare_of_create created
  refine ⟨before, prepared, ?_⟩
  rw [create_of_prepare prepared] at created
  cases begins : guest.start with
  | none =>
    rw [begins] at created
    cases created
    exact .inl rfl
  | some start =>
    rw [begins, begun] at created
    cases entered : before.enter start with
    | mk ending next =>
    rw [entered] at created
    cases ending with
    | value answer =>
      cases created
      exact .inr ⟨start, entered⟩
    | trap cause | exit code | unbound => cases created

theorem eq_of_create (created : create guest limits fuel host = .ok inst)
    (unbound : host.binding = none) : inst.guest = guest ∧ inst.host = host := by
  obtain ⟨before, prepared, started⟩ := started_of_create created
  obtain ⟨rfl, rfl⟩ := eq_of_prepare prepared
  rcases started with rfl | ⟨start, entered⟩
  · exact ⟨rfl, rfl⟩
  · have kept := (before.ends_enter start).ran.same_host.1.1
    rw [entered] at kept
    rcases before.enter_of_unbound start unbound with ⟨-, -, host_eq⟩ | ⟨m, -, stopped, -⟩
    · rw [entered] at host_eq
      exact ⟨kept, host_eq⟩
    · rw [entered] at stopped
      cases congrArg Prod.fst stopped

end Instance

namespace Bridge

variable {config : Config} {guest : Guest σ} {inst : Instance σ} {bridge : Bridge σ}

/-- The instance of a module with its resources, before its start code runs. -/
abbrev prepared (config : Config) (guest : Guest σ) : Option (Instance σ) :=
  Instance.prepare guest (some config.limits) config.limits.maxFuel (.new config.syscalls)

abbrev created (config : Config) (guest : Guest σ) : Except Error (Instance σ) :=
  Instance.create guest (some config.limits) config.limits.maxFuel (.new config.syscalls)

/-- A guest that was created is bound: the binding never fails. -/
theorem createBound_of_created (wellFormed : guest.wellFormed = true)
    (ok : created config guest = .ok inst) :
    createBound config guest = .ok (inst.boundTo config.abi.memory) := by
  have unbound : inst.host.binding = none :=
    congrArg SyscallHost.binding (Instance.eq_of_create ok rfl).2
  have bound : inst.host.bind config.abi.memory =
      .ok { inst.host with binding := some config.abi.memory } := by
    rw [SyscallHost.bind, unbound]
  rw [createBound, wellFormed]
  change (created config guest >>= fun inst => inst.host.bind config.abi.memory >>= fun host =>
    pure { inst with host }) = _
  rw [ok]
  change (inst.host.bind config.abi.memory >>= fun host => pure { inst with host }) = _
  rw [bound]
  rfl

theorem createBound_of_failed (wellFormed : guest.wellFormed = true) {e : Error}
    (failed : created config guest = .error e) : createBound config guest = .error e := by
  rw [createBound, wellFormed]
  change (created config guest >>= fun inst => inst.host.bind config.abi.memory >>= fun host =>
    pure { inst with host }) = _
  rw [failed]
  rfl

theorem created_of_createBound (ok : createBound config guest = .ok inst) :
    guest.wellFormed = true ∧
      ∃ before, created config guest = .ok before ∧ inst = before.boundTo config.abi.memory := by
  cases wellFormed : guest.wellFormed with
  | false =>
    rw [createBound, wellFormed] at ok
    cases ok
  | true =>
    refine ⟨rfl, ?_⟩
    cases made : created config guest with
    | error e =>
      rw [createBound_of_failed wellFormed made] at ok
      cases ok
    | ok before =>
      rw [createBound_of_created wellFormed made] at ok
      cases ok
      exact ⟨before, rfl, rfl⟩

/-- A start is a guest that was bound, then its context, then its initialiser if it exports one. -/
theorem start_of_createBound (ok : createBound config guest = .ok inst) :
    start config guest =
      match DecodingContext.resolve guest config.abi with
      | .error error => .error ⟨error, inst.host.console⟩
      | .ok context =>
        if (guest.export? config.abi.start).isSome then
          match inst.call config.abi.start [] with
          | (.ok _, inst) => .ok ⟨inst, context, config.abi, config.decode.clamped⟩
          | (.error error, inst) => .error ⟨error, inst.host.console⟩
        else .ok ⟨inst, context, config.abi, config.decode.clamped⟩ := by
  obtain ⟨-, before, ok', rfl⟩ := created_of_createBound ok
  have same : (before.boundTo config.abi.memory).guest = guest := (Instance.eq_of_create ok' rfl).1
  rw [start, ok]
  cases DecodingContext.resolve guest config.abi with
  | error e => rfl
  | ok context =>
    simp only [hasExport, same, call]
    split
    · cases (before.boundTo config.abi.memory).call config.abi.start [] with
      | mk answer next => cases answer <;> rfl
    · rfl

/-- A bridge that was started is a bound guest whose initialiser, if it exports one, has answered. -/
theorem initialised_of_start (started : start config guest = .ok bridge) :
    ∃ inst, createBound config guest = .ok inst ∧
      DecodingContext.resolve guest config.abi = .ok bridge.context ∧
      bridge.abi = config.abi ∧
      (startCalls config guest = [] ∧ bridge.inst = inst ∨
        startCalls config guest = inst.callsNamed config.abi.start [] ∧
          ∃ words, inst.call config.abi.start [] = (.ok words, bridge.inst)) := by
  cases ok : createBound config guest with
  | error e =>
    rw [start, ok] at started
    cases started
  | ok inst =>
    have same : inst.guest = guest := by
      obtain ⟨-, before, ok', rfl⟩ := created_of_createBound ok
      exact (Instance.eq_of_create ok' rfl).1
    refine ⟨inst, rfl, ?_⟩
    rw [start_of_createBound ok] at started
    rw [startCalls, ok]
    cases resolved : DecodingContext.resolve guest config.abi with
    | error e =>
      rw [resolved] at started
      cases started
    | ok context =>
      simp only [resolved] at started
      split at started
      · cases called : inst.call config.abi.start [] with
        | mk answer next =>
        simp only [called] at started
        cases answer with
        | error e => cases started
        | ok words =>
          cases started
          exact ⟨rfl, rfl, .inr ⟨rfl, words, rfl⟩⟩
      · rename_i absent
        cases started
        simp only [Option.not_isSome_iff_eq_none] at absent
        have none : inst.callsNamed config.abi.start [] = [] := by
          rw [Instance.callsNamed, Guest.func, same, absent]
        exact ⟨rfl, rfl, .inl ⟨none, rfl⟩⟩

theorem exists_of_start (started : start config guest = .ok bridge) :
    ∃ inst, createBound config guest = .ok inst ∧
      DecodingContext.resolve guest config.abi = .ok bridge.context ∧
      bridge.abi = config.abi ∧ inst.Ran (startCalls config guest) bridge.inst := by
  obtain ⟨inst, ok, resolved, named, initialised⟩ := initialised_of_start started
  refine ⟨inst, ok, resolved, named, ?_⟩
  rcases initialised with ⟨none, rfl⟩ | ⟨calls, words, called⟩
  · rw [none]
    exact .stay bridge.inst
  · have ran := inst.ran_call config.abi.start []
    rw [called] at ran
    rw [calls]
    exact ran

theorem binding_of_start (started : start config guest = .ok bridge) :
    bridge.inst.host.binding = some config.abi.memory := by
  obtain ⟨inst, ok, -, -, ran⟩ := exists_of_start started
  obtain ⟨-, before, -, rfl⟩ := created_of_createBound ok
  exact ran.same_host.1.2.2

theorem binding_perform (bridge : Bridge σ) (operation : Operation) :
    (bridge.perform operation).2.inst.host.binding = bridge.inst.host.binding := by
  by_cases take : operation = .takeConsole
  · subst take
    rfl
  · exact (bridge.ran_perform take).same_host.1.2.2

end Bridge

end LispHost
