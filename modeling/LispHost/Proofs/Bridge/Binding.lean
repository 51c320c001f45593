import LispHost.Proofs.Bridge.Effects
import LispHost.Proofs.Bridge.OwnFailures
import LispHost.Proofs.Guest.Minimal

/-!
Binding discipline.

The host answers system calls only for a guest that is bound, and a guest is bound once, after its start
code. So start code that asks for anything fails the start with the error for a call that came too early,
and what it asked for is not done. After that the binding stays: no system call comes too early, and no
operation of the bridge ever complains about the binding.
-/

set_option autoImplicit false

namespace LispHost

variable {σ α β : Type}

def SparesBinding (answer : Except Error α) : Prop :=
  answer ≠ .error .unbound ∧ answer ≠ .error .alreadyBound

namespace SparesBinding

@[simp] theorem ok (a : α) : SparesBinding (.ok a : Except Error α) := by
  simp [SparesBinding]

theorem error {e : Error} (unbound : e ≠ .unbound) (alreadyBound : e ≠ .alreadyBound) :
    SparesBinding (.error e : Except Error α) := by
  simp [SparesBinding, unbound, alreadyBound]

theorem of_error {e : Error} (spares : SparesBinding (.error e : Except Error α)) :
    SparesBinding (.error e : Except Error β) := by
  simpa [SparesBinding] using spares

theorem of_own {answer : Except Error α} (own : OwnFailure answer) : SparesBinding answer := by
  constructor
  · intro failed
    cases own _ failed
  · intro failed
    cases own _ failed

theorem map {answer : Except Error α} (spares : SparesBinding answer) (f : α → β) :
    SparesBinding (answer.map f) := by
  cases answer with
  | error e => exact spares.of_error
  | ok a => exact ok (f a)

end SparesBinding

open SparesBinding (error)

namespace Instance

variable {inst : Instance σ} {name : String}

theorem callFunc_sparesBinding (bound : inst.host.binding = some name) (f : Func σ)
    (args : List Word) : SparesBinding (inst.callFunc f args).1 := by
  have late := enter_ne_unbound (f.run args) bound
  rw [callFunc]
  cases entered : inst.enter (f.run args) with
  | mk ending next =>
  rw [entered] at late
  cases ending with
  | value values => exact .ok values
  | trap cause | exit code => exact error (by simp) (by simp)
  | unbound => exact absurd rfl late

theorem callWord_sparesBinding (bound : inst.host.binding = some name) (f : Func σ)
    (args : List Word) : SparesBinding (inst.callWord f args).1 := by
  have called := callFunc_sparesBinding bound f args
  rw [callWord]
  split
  · exact .ok _
  · exact error (by simp [Error.signature]) (by simp [Error.signature])
  · rename_i failed
    rw [failed] at called
    exact called.of_error

theorem call_sparesBinding (bound : inst.host.binding = some name) (function : String)
    (args : List Word) : SparesBinding (inst.call function args).1 := by
  have found := inst.guest.func_ownFailure function
  rw [call]
  cases looked : inst.guest.func function with
  | error e => exact .of_own (.error (found e looked))
  | ok f =>
    dsimp only
    split
    · exact error (by simp) (by simp)
    · split
      · exact error (by simp) (by simp)
      · have called := callFunc_sparesBinding bound f args
        cases answered : inst.callFunc f args with
        | mk answer next =>
        rw [answered] at called
        cases answer with
        | error e => exact called.of_error
        | ok values => exact .of_own (wordsOf_ownFailure function values)

end Instance

namespace DecodingContext

variable {inst : Instance σ} {name : String}

theorem tagOfValue_sparesBinding (ctx : DecodingContext σ)
    (bound : inst.host.binding = some name) (value : Word) :
    SparesBinding (ctx.tagOfValue value inst).1 :=
  (Instance.callWord_sparesBinding bound ctx.tagOf [value]).map _

theorem rowOf_sparesBinding (ctx : DecodingContext σ) (bound : inst.host.binding = some name)
    (tag : Tag) (value : Word) : SparesBinding (ctx.rowOf tag value inst).1 := by
  rw [rowOf]
  split
  · rename_i width code _ _
    have called := Instance.callWord_sparesBinding bound ctx.row [code, value]
    cases answered : inst.callWord ctx.row [code, value] with
    | mk answer next =>
    rw [answered] at called
    cases answer with
    | error e => exact called.of_error
    | ok address => exact .of_own (((ctx.slice_ownFailure next _ _).map _).map _)
  · exact error (by simp) (by simp)

theorem stringOf_sparesBinding (ctx : DecodingContext σ) (bound : inst.host.binding = some name)
    (handle : Word) : SparesBinding (ctx.stringOf handle inst).1 := by
  have called := Instance.callWord_sparesBinding bound ctx.string [handle]
  rw [stringOf]
  cases answered : inst.callWord ctx.string [handle] with
  | mk answer next =>
  rw [answered] at called
  cases answer with
  | error e => exact called.of_error
  | ok address =>
    exact .of_own ((next.memoryOf_ownFailure ctx.memory).bind fun memory =>
      stringAt_ownFailure memory handle address)

private theorem ends_of_sparesBinding {answer : Except Error α}
    (spares : SparesBinding answer) (bound : inst.host.binding = some name) :
    Inquiry.Ends (fun state : Instance σ => state.host.binding = some name)
      (fun e state => state.host.binding = some name ∧ SparesBinding (.error e : Except Error Unit))
      (answer, inst) := by
  cases answer with
  | ok a => exact bound
  | error e => exact ⟨bound, spares.of_error⟩

private theorem binding_of_ran {next : Instance σ} {made : List (Made σ)}
    (ran : inst.Ran made next) (bound : inst.host.binding = some name) :
    next.host.binding = some name :=
  ran.same_host.1.2.2.trans bound

/-- A decode fails only where a call of an accessor or a copy from the memory does. -/
theorem decode_sparesBinding (ctx : DecodingContext σ) (bound : inst.host.binding = some name)
    (options : DecodeOptions) (value : Word) :
    SparesBinding (ctx.decode options value inst).1 := by
  have invariant : ctx.reader.Invariant options.detectCycles
      (fun state => state.host.binding = some name)
      (fun e state =>
        state.host.binding = some name ∧ SparesBinding (.error e : Except Error Unit)) := by
    refine .of_accessors ?_ ?_ ?_ ?_ ?_
    · intro raw state kept
      exact ends_of_sparesBinding (ctx.tagOfValue_sparesBinding kept raw)
        (binding_of_ran (ctx.ran_tagOfValue raw state) kept)
    · intro tag raw state kept
      exact ends_of_sparesBinding (ctx.rowOf_sparesBinding kept tag raw)
        (binding_of_ran (ctx.ran_rowOf tag raw state) kept)
    · intro handle state kept
      exact ends_of_sparesBinding (ctx.stringOf_sparesBinding kept handle)
        (binding_of_ran (ctx.ran_stringOf handle state) kept)
    · exact fun _ _ _ kept => ⟨kept, error (by simp) (by simp)⟩
    -- After a name that is no text the decode goes on, so the binding must still be there.
    · exact fun _ _ _ failed => failed.1
  have ends := invariant.decode value bound
  rw [decode]
  cases decoded : Projection.decode ctx.reader options value inst with
  | mk answer next =>
  rw [decoded] at ends
  cases answer with
  | ok shown => exact .ok shown
  | error e => exact ends.2.of_error

end DecodingContext

namespace Bridge

variable {bridge : Bridge σ} {name : String}

theorem read_sparesBinding (bound : bridge.inst.host.binding = some name) (source : String) :
    SparesBinding (bridge.read source).1 := by
  have alloc_found := bridge.inst.guest.wordFunc_ownFailure bridge.abi.alloc 1
  have read_found := bridge.inst.guest.wordFunc_ownFailure bridge.abi.read 2
  simp only [read]
  split
  · exact error (by simp) (by simp)
  · split
    · rename_i missing
      exact .of_own (.error (alloc_found _ missing))
    · rename_i missing
      exact .of_own (.error (read_found _ missing))
    · rename_i alloc parse _ _
      have called := Instance.callWord_sparesBinding bound alloc
        [UInt32.ofNat (Text.Utf8.encode source).length]
      have ran := bridge.inst.ran_callWord alloc [UInt32.ofNat (Text.Utf8.encode source).length]
      split
      · rename_i failed
        rw [failed] at called
        exact called.of_error
      · rename_i address inst answered
        rw [answered] at ran
        have kept : inst.host.binding = some name := ran.same_host.1.2.2.trans bound
        split
        · rename_i failed
          have delivered := Bridge.deliver_ownFailure { bridge with inst } address
            (Text.Utf8.encode source)
          exact .of_own (.error (delivered _ failed))
        · rename_i filled delivered
          have same : filled.inst.host = inst.host := by rw [(eq_of_deliver delivered).2]
          have still : filled.inst.host.binding = some name := by rw [same, kept]
          exact Instance.callWord_sparesBinding still parse _

theorem eval_sparesBinding (bound : bridge.inst.host.binding = some name) (value : Word) :
    SparesBinding (bridge.eval value).1 := by
  have found := bridge.inst.guest.wordFunc_ownFailure bridge.abi.eval 1
  rw [eval]
  cases looked : bridge.inst.guest.wordFunc bridge.abi.eval 1 with
  | error e => exact .of_own (.error (found e looked))
  | ok f => exact Instance.callWord_sparesBinding bound f [value]

theorem perform_sparesBinding (bound : bridge.inst.host.binding = some name)
    (operation : Operation) : SparesBinding (bridge.perform operation).1 := by
  cases operation with
  | read source => exact (read_sparesBinding bound source).map _
  | eval value => exact (eval_sparesBinding bound value).map _
  | call function args => exact (Instance.call_sparesBinding bound function args).map _
  | project value => exact (bridge.context.decode_sparesBinding bound bridge.options value).map _
  | decode options value => exact (bridge.context.decode_sparesBinding bound options value).map _
  | tagOf value => exact (bridge.context.tagOfValue_sparesBinding bound value).map _
  | row tag value => exact (bridge.context.rowOf_sparesBinding bound tag value).map _
  | string handle => exact (bridge.context.stringOf_sparesBinding bound handle).map _
  | memorySize => exact .of_own ((bridge.context.memorySize_ownFailure bridge.inst).map _)
  | word offset => exact .of_own ((bridge.context.word_ownFailure bridge.inst offset).map _)
  | bytes offset len => exact .of_own ((bridge.context.slice_ownFailure bridge.inst offset len).map _)
  | setOptions options => exact .ok _
  | takeConsole => exact .ok _

private theorem made_ne_unbound (bound : bridge.inst.host.binding = some name)
    (operation : Operation) : ∀ m ∈ bridge.made operation, m.ending ≠ .unbound := by
  by_cases take : operation = .takeConsole
  · subst take
    exact fun m member => absurd member (List.not_mem_nil)
  · exact (bridge.ran_perform take).ending_ne_unbound bound

/-- In a run of a bound bridge no system call comes too early and no operation complains about the
binding. -/
theorem performAll_sparesBinding (bound : bridge.inst.host.binding = some name)
    (operations : List Operation) :
    (∀ m ∈ bridge.madeAll operations, m.ending ≠ .unbound) ∧
      ∀ answer ∈ (bridge.performAll operations).1, SparesBinding answer := by
  induction operations generalizing bridge with
  | nil => simp [madeAll, performAll]
  | cons operation rest ih =>
    obtain ⟨made, answers⟩ := ih ((bridge.binding_perform operation).trans bound)
    constructor
    · exact List.forall_mem_append.mpr ⟨made_ne_unbound bound operation, made⟩
    · exact List.forall_mem_cons.mpr ⟨perform_sparesBinding bound operation, answers⟩

variable {config : Config} {guest : Guest σ} {inst : Instance σ}

private theorem startCalls_ne_unbound :
    ∀ m ∈ startCalls config guest, m.ending ≠ .unbound := by
  rw [startCalls]
  split
  · rename_i inst context ok _
    obtain ⟨-, before, -, rfl⟩ := created_of_createBound ok
    exact (Instance.ran_call _ config.abi.start []).ending_ne_unbound rfl
  · exact fun m member => absurd member List.not_mem_nil

private theorem failure_sparesBinding (ok : createBound config guest = .ok inst)
    {failure : StartFailure} (failed : start config guest = .error failure) :
    SparesBinding (.error failure.error : Except Error Unit) := by
  rw [start_of_createBound ok] at failed
  obtain ⟨-, before, -, rfl⟩ := created_of_createBound ok
  have found := DecodingContext.resolve_ownFailure guest config.abi
  cases resolved : DecodingContext.resolve guest config.abi with
  | error e =>
    rw [resolved] at failed
    cases failed
    exact .of_own (.error (found e resolved))
  | ok context =>
    have bound : (before.boundTo config.abi.memory).host.binding = some config.abi.memory := rfl
    have called := Instance.call_sparesBinding bound config.abi.start []
    simp only [resolved] at failed
    split at failed
    · cases answered : (before.boundTo config.abi.memory).call config.abi.start [] with
      | mk answer next =>
      rw [answered] at called
      simp only [answered] at failed
      cases answer with
      | ok words => cases failed
      | error e =>
        cases failed
        exact called.of_error
    · cases failed

private theorem start_of_early {before : Instance σ} {code : Code σ Unit}
    (compiles : guest.wellFormed = true) (ready : prepared config guest = some before)
    (begins : guest.start = some code) {m : Made σ} (early : before.enter code = (.unbound, m.before)) :
    start config guest = .error ⟨.unbound, .empty⟩ := by
  have failed : created config guest = .error .unbound := by
    rw [created, Instance.create_of_prepare ready, begins, Instance.begun, early]
  rw [start, createBound_of_failed compiles failed]

/-- Start code that makes a system call fails the start with the error for a call that came too early. It
is the only call made, and it leaves the instance as it was: the host has emitted, counted and recorded
nothing. Once the start code has come to its end, the binding succeeds, and from then on no system call,
be it the initialiser's or one of any operations in any order, comes too early, nor does the start or an
operation fail with an error about the binding. -/
theorem binding_discipline (config : Config) (guest : Guest σ)
    (compiles : guest.wellFormed = true) :
    (∀ before code, prepared config guest = some before → guest.start = some code →
      before.callsEntered code ≠ [] →
      start config guest = .error ⟨.unbound, .empty⟩ ∧
      ∃ m, before.callsEntered code = [m] ∧ before.enter code = (.unbound, m.before) ∧
        m.before.syscall m.call = (.unbound, m.before) ∧
        m.before.host = .new config.syscalls) ∧
    (∀ inst, created config guest = .ok inst →
      createBound config guest = .ok (inst.boundTo config.abi.memory) ∧
      (∀ m ∈ startCalls config guest, m.ending ≠ .unbound) ∧
      (∀ failure, start config guest = .error failure →
        failure.error ≠ .unbound ∧ failure.error ≠ .alreadyBound) ∧
      ∀ bridge, start config guest = .ok bridge → ∀ operations,
        (∀ m ∈ bridge.madeAll operations, m.ending ≠ .unbound) ∧
        ∀ answer ∈ (bridge.performAll operations).1,
          answer ≠ .error .unbound ∧ answer ≠ .error .alreadyBound) := by
  constructor
  · intro before code ready begins asks
    have fresh := (Instance.eq_of_prepare ready).2
    have unbound : before.host.binding = none := congrArg SyscallHost.binding fresh
    rcases before.enter_of_unbound code unbound with ⟨none, -, -⟩ | ⟨m, only, early, host⟩
    · exact absurd none asks
    · refine ⟨start_of_early compiles ready begins early, m, only, early, ?_, host.trans fresh⟩
      exact Instance.syscall_of_unbound (by rw [host, unbound]) m.call
  · intro inst made
    have ok := createBound_of_created compiles made
    refine ⟨ok, startCalls_ne_unbound, ?_, ?_⟩
    · intro failure failed
      have spares := failure_sparesBinding ok failed
      exact ⟨fun same => spares.1 (congrArg _ same), fun same => spares.2 (congrArg _ same)⟩
    · intro bridge started operations
      exact performAll_sparesBinding (binding_of_start started) operations

/-- A guest whose start code asks for a write to no stream and for an exit before it traps. -/
def hastyGuest : Guest Unit where
  pages := 1
  maxPages := none
  table := 0
  maxTable := none
  data := []
  globals := ()
  start := some (.store 8 [1] fun _ => .syscall (.fdWrite 9 0 0 0) fun _ =>
    .syscall (.procExit 3) fun _ => .trap .unreachable)
  exports := []
  linkable := true

/-- A guest whose initialiser closes a descriptor, and which exits when it is asked to leave. -/
def leavingGuest : Guest Unit :=
  { Guest.exporting [] with
    start := some (.store 8 [1] .done)
    exports := Guest.accessors 0 0 0 ++ Guest.sentinels ++
      [("_initialize", .func ⟨[], [], fun _ => .syscall (.stub .fdClose [1]) fun _ => .done []⟩),
        ("leave", .func ⟨[], [], fun _ => .syscall (.procExit 3) fun _ => .done []⟩)] }

/-- The first guest fails at its write, and nothing of it is left. The second one is started, closes its
descriptor, and leaves with its own exit code each time. -/
theorem binding_discipline_hastyGuest :
    (hastyGuest.wellFormed = true ∧
      ∃ before code, prepared Config.default hastyGuest = some before ∧
        hastyGuest.start = some code ∧ before.callsEntered code ≠ [] ∧
        start Config.default hastyGuest = .error ⟨.unbound, .empty⟩) ∧
    (leavingGuest.wellFormed = true ∧
      ∃ inst bridge, created Config.default leavingGuest = .ok inst ∧
        start Config.default leavingGuest = .ok bridge ∧
        (startCalls Config.default leavingGuest).map Made.call = [.stub .fdClose [1]] ∧
        (∀ m ∈ startCalls Config.default leavingGuest, m.ending ≠ .unbound) ∧
        (bridge.performAll [.call "leave" [], .call "leave" []]).1 =
          [.error (.guestExit 3), .error (.guestExit 3)] ∧
        ∀ answer ∈ (bridge.performAll [.call "leave" [], .call "leave" []]).1,
          answer ≠ .error .unbound ∧ answer ≠ .error .alreadyBound) := by
  obtain ⟨hasty, -⟩ := binding_discipline Config.default hastyGuest rfl
  obtain ⟨-, late⟩ := binding_discipline Config.default leavingGuest rfl
  obtain ⟨failed, m, only, -⟩ := hasty _ _ rfl rfl (List.cons_ne_nil _ _)
  have asks : Instance.callsEntered _ _ ≠ [] := only ▸ List.cons_ne_nil m []
  obtain ⟨-, calls, -, answers⟩ := late _ rfl
  exact ⟨⟨rfl, _, _, rfl, rfl, asks, failed⟩,
    ⟨rfl, _, _, rfl, rfl, rfl, calls, rfl, (answers _ rfl _).2⟩⟩

end Bridge

end LispHost
