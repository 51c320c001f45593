import LispHost.Proofs.Bridge.Effects
import LispHost.Proofs.Bridge.OwnFailures
import LispHost.Proofs.Guest.Minimal

/-!
Exits of the guest.

An exit leaves two records: the code that the host notes, and the error that the operation answers. They
are made in different places, and between them lie all the layers that a failure of the guest passes. The
two stay in step because an exit ends its run at once: it is the last system call of its operation, and the
instance in which the operation ends is the one that the exit left.
-/

set_option autoImplicit false

namespace LispHost

variable {σ α β : Type}

def Made.exit? (made : Made σ) : Option Int32 :=
  match made.call with
  | .procExit code => some code.toInt32
  | .fdWrite .. | .stub .. => none

def Error.exit? : Error → Option Int32
  | .guestExit code => some code
  | _ => none

theorem Error.exit?_eq_some_iff {e : Error} {code : Int32} :
    e.exit? = some code ↔ e = .guestExit code := by
  cases e <;> simp [exit?]

def exitOf? : Except Error α → Option Int32
  | .ok _ => none
  | .error e => e.exit?

theorem exitOf?_eq_some_iff {answer : Except Error α} {code : Int32} :
    exitOf? answer = some code ↔ answer = .error (.guestExit code) := by
  cases answer with
  | ok a => simp [exitOf?]
  | error e => simp [exitOf?, Error.exit?_eq_some_iff]

theorem Error.Own.exit? {e : Error} (own : e.Own) : e.exit? = none := by
  cases own <;> rfl

theorem OwnFailure.exitOf? {answer : Except Error α} (own : OwnFailure answer) :
    exitOf? answer = none := by
  cases answer with
  | ok a => rfl
  | error e => exact (own e rfl).exit?

@[simp] theorem exitOf?_map (answer : Except Error α) (f : α → β) :
    exitOf? (answer.map f) = exitOf? answer := by
  cases answer <;> rfl

namespace Instance

/-- System calls, the exit that the host is told of, and the code it has noted in the end, in step: either
there is no exit at all, or the last call is the one exit and nothing happens after it. -/
inductive InStep (inst : Instance σ) : List (Made σ) → Option Int32 → Instance σ → Prop
  | stays {made : List (Made σ)} {last : Instance σ} (spares : ∀ m ∈ made, m.exit? = none)
      (noted : last.host.exitCode = inst.host.exitCode) : InStep inst made none last
  | leaves {earlier : List (Made σ)} {m : Made σ} {code : Int32}
      (spares : ∀ m ∈ earlier, m.exit? = none) (exits : m.exit? = some code)
      (noted : m.after = { m.before with host := { m.before.host with exitCode := some code } }) :
      InStep inst (earlier ++ [m]) (some code) m.after

namespace InStep

variable {inst next last : Instance σ} {made later : List (Made σ)} {exit : Option Int32}

theorem stay (inst : Instance σ) : InStep inst [] none inst :=
  .stays (by simp) rfl

theorem of_quiet (quiet : Quiet inst next) : InStep inst [] none next :=
  .stays (by simp) (congrArg SyscallHost.exitCode quiet.host_eq)

theorem trans (first : InStep inst made none next) (second : InStep next later exit last) :
    InStep inst (made ++ later) exit last := by
  cases first with
  | stays spares noted =>
    cases second with
    | stays spares' noted' =>
      exact .stays (List.forall_mem_append.mpr ⟨spares, spares'⟩) (noted'.trans noted)
    | leaves spares' exits left =>
      rw [← List.append_assoc]
      exact .leaves (List.forall_mem_append.mpr ⟨spares, spares'⟩) exits left

/-- What the host notes in the end: the exit it is told of, if there is one. -/
theorem exitCode_eq (step : InStep inst made exit last) :
    last.host.exitCode = exit.or inst.host.exitCode := by
  cases step with
  | stays spares noted => exact noted
  | leaves spares exits left => rw [left, Option.some_or]

theorem exit_eq_some_iff (step : InStep inst made exit last) (code : Int32) :
    exit = some code ↔ ∃ m ∈ made, m.exit? = some code := by
  cases step with
  | stays spares noted =>
    constructor
    · simp
    · rintro ⟨m, member, exits⟩
      cases (spares m member).symm.trans exits
  | leaves spares exits left =>
    rename_i earlier m own
    constructor
    · intro same
      exact ⟨m, by simp, exits.trans same⟩
    · rintro ⟨m', member, exits'⟩
      rcases List.mem_append.mp member with before | only
      · cases (spares m' before).symm.trans exits'
      · obtain rfl := List.mem_singleton.mp only
        exact exits.symm.trans exits'

theorem of_exit (step : InStep inst made exit last) {m : Made σ} (member : m ∈ made) {code : Int32}
    (exits : m.exit? = some code) :
    exit = some code ∧ (∃ earlier, made = earlier ++ [m]) ∧
      last = { m.before with host := { m.before.host with exitCode := some code } } := by
  cases step with
  | stays spares noted => cases (spares m member).symm.trans exits
  | leaves spares exits' left =>
    rename_i earlier m' own
    rcases List.mem_append.mp member with before | only
    · cases (spares m before).symm.trans exits
    · obtain rfl := List.mem_singleton.mp only
      obtain rfl : own = code := Option.some.inj (exits'.symm.trans exits)
      exact ⟨rfl, ⟨earlier, rfl⟩, left⟩

end InStep

private theorem fdWrite_exitCode (host : SyscallHost) (exported : Option Memory)
    (fd table count nwritten : Word) :
    (host.fdWrite exported fd table count nwritten).2.1.exitCode = host.exitCode := by
  rw [SyscallHost.fdWrite]
  split
  · rfl
  · split
    · rfl
    · split <;> rfl

theorem inStep_syscall {inst : Instance σ} {name : String} (bound : inst.host.binding = some name)
    (call : Syscall) :
    InStep inst [⟨call, inst⟩] (exitOf? (inst.syscall call).1.toExcept) (inst.syscall call).2 := by
  cases call with
  | procExit code =>
    have left : inst.syscall (.procExit code) =
        (.exit code.toInt32,
          { inst with host := { inst.host with exitCode := some code.toInt32 } }) := by
      rw [syscall, bound]
    have step : InStep inst ([] ++ [⟨.procExit code, inst⟩]) (some code.toInt32)
        (Made.after ⟨.procExit code, inst⟩) :=
      .leaves (by simp) rfl (congrArg Prod.snd left)
    rw [left]
    rw [Made.after, left] at step
    exact step
  | fdWrite fd table count nwritten =>
    rw [syscall, bound]
    exact .stays (by simp [Made.exit?]) (fdWrite_exitCode ..)
  | stub call args =>
    rw [syscall, bound]
    exact .stays (by simp [Made.exit?]) rfl

private theorem exitOf?_map_ending (ending : Ending α) (f : α → β) :
    exitOf? (ending.map f).toExcept = exitOf? ending.toExcept := by
  cases ending <;> rfl

theorem Ends.inStep {inst last : Instance σ} {made : List (Made σ)} {ending : Ending Unit}
    {name : String} (ends : Ends inst made ending last) (bound : inst.host.binding = some name) :
    InStep inst made (exitOf? ending.toExcept) last := by
  -- A call with an answer was no exit, so the rest of the run decides; one without an answer ends it.
  induction ends with
  | value inst | trap inst cause => exact .stay inst
  | step quiet rest ih => exact (InStep.of_quiet quiet).trans (ih (by rw [quiet.host_eq, bound]))
  | @call inst next last made ending call status answered rest ih =>
    have kept := (inst.syscall_keeps call).2.2
    have first := inStep_syscall bound call
    rw [answered] at kept first
    exact first.trans (ih (kept.trans bound))
  | @stopped inst next call ending answered refused =>
    have only := inStep_syscall bound call
    rw [answered] at only
    rw [exitOf?_map_ending]
    exact only

variable {inst : Instance σ} {name : String}

theorem inStep_callFunc (bound : inst.host.binding = some name) (f : Func σ) (args : List Word) :
    InStep inst (inst.callsOf f args) (exitOf? (inst.callFunc f args).1)
      (inst.callFunc f args).2 := by
  have step := (inst.ends_enter (f.run args)).inStep bound
  rw [exitOf?_map_ending] at step
  exact step

theorem inStep_callWord (bound : inst.host.binding = some name) (f : Func σ) (args : List Word) :
    InStep inst (inst.callsOf f args) (exitOf? (inst.callWord f args).1)
      (inst.callWord f args).2 := by
  have step := inStep_callFunc bound f args
  rw [callWord]
  split <;> rename_i called <;> rw [called] at step <;> exact step

theorem inStep_call (bound : inst.host.binding = some name) (function : String)
    (args : List Word) :
    InStep inst (inst.callsNamed function args) (exitOf? (inst.call function args).1)
      (inst.call function args).2 := by
  have found := inst.guest.func_ownFailure function
  rw [callsNamed, call]
  cases looked : inst.guest.func function with
  | error e =>
    rw [looked] at found
    simp only [OwnFailure.exitOf? (.error (α := List Word) (found e rfl))]
    exact .stay inst
  | ok f =>
    by_cases count : f.params.length = args.length
    · simp only [count, ne_eq, not_true_eq_false, if_false]
      cases foreignParam? f with
      | some type => exact .stay inst
      | none =>
        have step := inStep_callFunc bound f args
        cases called : inst.callFunc f args with
        | mk answer next =>
        rw [called] at step
        cases answer with
        | error e => exact step
        | ok values =>
          simp only [(wordsOf_ownFailure function values).exitOf?]
          exact step
    · simp only [ne_eq, count, not_false_eq_true, if_true]
      exact .stay inst

end Instance

namespace DecodingContext

variable {inst : Instance σ} {name : String}

theorem inStep_tagOfValue (ctx : DecodingContext σ) (bound : inst.host.binding = some name)
    (value : Word) :
    inst.InStep (inst.callsOf ctx.tagOf [value]) (exitOf? (ctx.tagOfValue value inst).1)
      (ctx.tagOfValue value inst).2 := by
  rw [tagOfValue, exitOf?_map]
  exact Instance.inStep_callWord bound ctx.tagOf [value]

theorem inStep_rowOf (ctx : DecodingContext σ) (bound : inst.host.binding = some name)
    (tag : Tag) (value : Word) :
    inst.InStep (ctx.rowCalls tag value inst) (exitOf? (ctx.rowOf tag value inst).1)
      (ctx.rowOf tag value inst).2 := by
  rw [rowCalls, rowOf]
  cases tag.rowWidth with
  | none => exact .stay inst
  | some width =>
    cases ctx.tags.codeOf tag with
    | none => exact .stay inst
    | some code =>
      have step := Instance.inStep_callWord bound ctx.row [code, value]
      cases called : inst.callWord ctx.row [code, value] with
      | mk answer next =>
      rw [called] at step
      cases answer with
      | error e =>
        simp only [called]
        exact step
      | ok address =>
        have own := ((ctx.slice_ownFailure next address (UInt32.ofNat (4 * width))).map
          Word.listOfBytes).map (Row.mk tag)
        simp only [called, own.exitOf?]
        exact step

theorem inStep_stringOf (ctx : DecodingContext σ) (bound : inst.host.binding = some name)
    (handle : Word) :
    inst.InStep (inst.callsOf ctx.string [handle]) (exitOf? (ctx.stringOf handle inst).1)
      (ctx.stringOf handle inst).2 := by
  have step := Instance.inStep_callWord bound ctx.string [handle]
  rw [stringOf]
  cases called : inst.callWord ctx.string [handle] with
  | mk answer next =>
  rw [called] at step
  cases answer with
  | error e => exact step
  | ok address =>
    have own := (next.memoryOf_ownFailure ctx.memory).bind fun memory =>
      stringAt_ownFailure memory handle address
    simp only [own.exitOf?]
    exact step

/-- The invariant of a decode: the calls so far are in step, and the guest is still bound. -/
private def Held (inst : Instance σ) (name : String) (exit : Option Int32)
    (state : Instance σ × List (Made σ)) : Prop :=
  state.1.host.binding = some name ∧ inst.InStep state.2 exit state.1

private theorem ends_of_inStep {answer : Except Error α} {state : Instance σ × List (Made σ)}
    (kept : Held inst name none state) {next : Instance σ} {later : List (Made σ)}
    (ran : state.1.Ran later next) (step : state.1.InStep later (exitOf? answer) next) :
    Inquiry.Ends (Held inst name none) (fun e => Held inst name (exitOf? (.error e : Except Error α)))
      (answer, next, state.2 ++ later) := by
  have bound : next.host.binding = some name := ran.same_host.1.2.2.trans kept.1
  cases answer with
  | ok a => exact ⟨bound, kept.2.trans step⟩
  | error e => exact ⟨bound, kept.2.trans step⟩

/-- A decode is in step: an accessor that exits ends it, and no other failure is an exit. -/
theorem inStep_decode (ctx : DecodingContext σ) (bound : inst.host.binding = some name)
    (options : DecodeOptions) (value : Word) :
    inst.InStep (ctx.decodeCalls options value inst) (exitOf? (ctx.decode options value inst).1)
      (ctx.decode options value inst).2 := by
  have invariant : ctx.traced.Invariant options.detectCycles (Held inst name none)
      (fun e => Held inst name (exitOf? (.error e : Except Error Projection))) := by
    refine .of_accessors ?_ ?_ ?_ ?_ ?_
    · intro raw state kept
      exact ends_of_inStep kept (ctx.ran_tagOfValue raw state.1) (ctx.inStep_tagOfValue kept.1 raw)
    · intro tag raw state kept
      exact ends_of_inStep kept (ctx.ran_rowOf tag raw state.1) (ctx.inStep_rowOf kept.1 tag raw)
    · intro handle state kept
      exact ends_of_inStep kept (ctx.ran_stringOf handle state.1)
        (ctx.inStep_stringOf kept.1 handle)
    · exact fun _ _ _ kept => kept
    · exact fun _ _ _ failed => failed
  have ends := ends_decode invariant ⟨bound, .stay inst⟩ value
  cases answered : (ctx.decode options value inst).1 with
  | ok shown =>
    rw [answered] at ends
    exact ends.2
  | error e =>
    rw [answered] at ends
    exact ends.2

end DecodingContext

namespace Bridge

variable {bridge : Bridge σ} {name : String}

theorem inStep_read (bound : bridge.inst.host.binding = some name) (source : String) :
    bridge.inst.InStep (bridge.readCalls source) (exitOf? (bridge.read source).1)
      (bridge.read source).2.inst := by
  have alloc_found := bridge.inst.guest.wordFunc_ownFailure bridge.abi.alloc 1
  have read_found := bridge.inst.guest.wordFunc_ownFailure bridge.abi.read 2
  simp only [readCalls, read]
  split
  · exact .stay _
  · cases looked : bridge.inst.guest.wordFunc bridge.abi.alloc 1 with
    | error e =>
      simp only [OwnFailure.exitOf? (.error (α := Word) (alloc_found e looked))]
      exact .stay _
    | ok alloc =>
      cases looked' : bridge.inst.guest.wordFunc bridge.abi.read 2 with
      | error e =>
        simp only [OwnFailure.exitOf? (.error (α := Word) (read_found e looked'))]
        exact .stay _
      | ok parse =>
        have allocated := Instance.inStep_callWord bound alloc
          [UInt32.ofNat (Text.Utf8.encode source).length]
        have ran := bridge.inst.ran_callWord alloc
          [UInt32.ofNat (Text.Utf8.encode source).length]
        simp only
        generalize bridge.inst.callWord alloc [UInt32.ofNat (Text.Utf8.encode source).length] =
          called at allocated ran ⊢
        obtain ⟨e | address, inst⟩ := called
        · simpa only [List.append_nil] using allocated
        · dsimp only
          have own := Bridge.deliver_ownFailure { bridge with inst } address
            (Text.Utf8.encode source)
          cases delivered : Bridge.deliver { bridge with inst } address
            (Text.Utf8.encode source) with
          | error e =>
            simp only [OwnFailure.exitOf? (.error (α := Word) (own e delivered)), List.append_nil]
            exact allocated
          | ok filled =>
            obtain ⟨inside, rfl⟩ := eq_of_deliver delivered
            let filled : Instance σ :=
              { inst with memory := inst.memory.setBytes address.toNat (Text.Utf8.encode source) }
            have still : filled.host.binding = some name := ran.same_host.1.2.2.trans bound
            have filling := Instance.InStep.of_quiet (.store inst inside)
            exact allocated.trans (filling.trans (Instance.inStep_callWord still parse _))

theorem inStep_eval (bound : bridge.inst.host.binding = some name) (value : Word) :
    bridge.inst.InStep (bridge.evalCalls value) (exitOf? (bridge.eval value).1)
      (bridge.eval value).2.inst := by
  have found := bridge.inst.guest.wordFunc_ownFailure bridge.abi.eval 1
  rw [evalCalls, eval]
  cases looked : bridge.inst.guest.wordFunc bridge.abi.eval 1 with
  | error e =>
    simp only [OwnFailure.exitOf? (.error (α := Word) (found e looked))]
    exact .stay _
  | ok f => exact Instance.inStep_callWord bound f [value]

theorem inStep_perform (bound : bridge.inst.host.binding = some name) (operation : Operation) :
    bridge.inst.InStep (bridge.made operation) (exitOf? (bridge.perform operation).1)
      (bridge.perform operation).2.inst := by
  cases operation with
  | read source =>
    rw [perform, exitOf?_map]
    exact inStep_read bound source
  | eval value =>
    rw [perform, exitOf?_map]
    exact inStep_eval bound value
  | call function args =>
    rw [perform, exitOf?_map]
    exact Instance.inStep_call bound function args
  | project value =>
    rw [perform, exitOf?_map]
    exact bridge.context.inStep_decode bound bridge.options value
  | decode options value =>
    rw [perform, exitOf?_map]
    exact bridge.context.inStep_decode bound options value
  | tagOf value =>
    rw [perform, exitOf?_map]
    exact bridge.context.inStep_tagOfValue bound value
  | row tag value =>
    rw [perform, exitOf?_map]
    exact bridge.context.inStep_rowOf bound tag value
  | string handle =>
    rw [perform, exitOf?_map]
    exact bridge.context.inStep_stringOf bound handle
  | memorySize =>
    have own := (bridge.context.memorySize_ownFailure bridge.inst).map Answer.size
    simpa only [perform, memorySize, own.exitOf?] using .stay bridge.inst
  | word offset =>
    have own := (bridge.context.word_ownFailure bridge.inst offset).map Answer.word
    simpa only [perform, word, own.exitOf?] using .stay bridge.inst
  | bytes offset len =>
    have own := (bridge.context.slice_ownFailure bridge.inst offset len).map Answer.data
    simpa only [perform, bytes, own.exitOf?] using .stay bridge.inst
  | setOptions options => exact .stay bridge.inst
  | takeConsole => exact .stays (by simp [made]) rfl

theorem binding_performAll (bridge : Bridge σ) (operations : List Operation) :
    (bridge.performAll operations).2.inst.host.binding = bridge.inst.host.binding := by
  have quietly (inst next : Instance σ) (quiet : Instance.Quiet inst next)
      (same : inst.host.binding = bridge.inst.host.binding) :
      next.host.binding = bridge.inst.host.binding := by
    rw [quiet.host_eq, same]
  have calling (inst : Instance σ) (call : Syscall)
      (same : inst.host.binding = bridge.inst.host.binding) :
      (inst.syscall call).2.host.binding = bridge.inst.host.binding :=
    (inst.syscall_keeps call).2.2.trans same
  exact performAll_keeps quietly calling (fun _ _ same => same) bridge operations rfl

/-- After every run the host has noted the last exit that an operation answered, or still what it had noted
before if there was none. -/
theorem exitCode_performAll (bound : bridge.inst.host.binding = some name)
    (operations : List Operation) :
    (bridge.performAll operations).2.exitCode =
      ((bridge.performAll operations).1.filterMap exitOf?).getLast?.or bridge.exitCode := by
  induction operations generalizing bridge with
  | nil => rfl
  | cons operation rest ih =>
    have step := (inStep_perform bound operation).exitCode_eq
    have later := ih ((bridge.binding_perform operation).trans bound)
    change ((bridge.perform operation).2.performAll rest).2.exitCode =
      (((bridge.perform operation).1 ::
        ((bridge.perform operation).2.performAll rest).1).filterMap exitOf?).getLast?.or _
    rw [later]
    -- The last exit of the rest, if there is one, and else that of the first operation.
    cases exits : exitOf? (bridge.perform operation).1 with
    | none =>
      rw [exits, Option.none_or] at step
      rw [List.filterMap_cons_none exits, exitCode, step]
      rfl
    | some code =>
      rw [exits, Option.some_or] at step
      rw [List.filterMap_cons_some exits, List.getLast?_cons, Option.some_or, exitCode, step]
      cases List.getLast? _ <;> rfl

variable {config : Config} {guest : Guest σ}

theorem noExit_of_start (started : start config guest = .ok bridge) :
    (∀ m ∈ startCalls config guest, m.exit? = none) ∧ bridge.exitCode = none := by
  obtain ⟨inst, ok, -, -, initialised⟩ := initialised_of_start started
  obtain ⟨-, before, created_ok, rfl⟩ := created_of_createBound ok
  have fresh : (before.boundTo config.abi.memory).host.exitCode = none :=
    congrArg SyscallHost.exitCode (Instance.eq_of_create created_ok rfl).2
  rcases initialised with ⟨none, same⟩ | ⟨calls, words, called⟩
  · rw [none, exitCode, same]
    exact ⟨by simp, fresh⟩
  · have bound : (before.boundTo config.abi.memory).host.binding = some config.abi.memory := rfl
    have step := Instance.inStep_call bound config.abi.start []
    rw [called] at step
    rw [calls]
    constructor
    · intro m member
      rw [Option.eq_none_iff_forall_ne_some]
      intro code exits
      cases (step.of_exit member exits).1
    · exact step.exitCode_eq.trans fresh

/-- The two records of an exit. After every run the host has noted the exit that the last operation with an
exit answered, and nothing if there was no such operation. Whatever was done before, an operation answers
an exit if and only if the guest asks for it during this operation. The request is then the last system call of
the operation, and the instance that is left is the one in which it was made, with the code noted. -/
theorem exit_bookkeeping (config : Config) (guest : Guest σ) (bridge : Bridge σ)
    (started : start config guest = .ok bridge) (operations : List Operation) :
    let answers := (bridge.performAll operations).1
    let last := (bridge.performAll operations).2
    last.exitCode = (answers.filterMap exitOf?).getLast? ∧
    ∀ operation,
      (∀ code, (last.perform operation).1 = .error (.guestExit code) →
        ∃ m ∈ last.made operation, ∃ word, m.call = .procExit word ∧ word.toInt32 = code) ∧
      ∀ m ∈ last.made operation, ∀ word, m.call = .procExit word →
        (last.perform operation).1 = .error (.guestExit word.toInt32) ∧
        (∃ earlier, last.made operation = earlier ++ [m]) ∧
        (last.perform operation).2.inst =
          { m.before with host := { m.before.host with exitCode := some word.toInt32 } } := by
  intro answers last
  have bound := binding_of_start started
  constructor
  · have noted := exitCode_performAll bound operations
    rw [(noExit_of_start started).2, Option.or_none] at noted
    exact noted
  · intro operation
    have still : last.inst.host.binding = some config.abi.memory :=
      (bridge.binding_performAll operations).trans bound
    have step := inStep_perform still operation
    constructor
    · intro code exits
      obtain ⟨m, member, asked⟩ :=
        (step.exit_eq_some_iff code).mp (exitOf?_eq_some_iff.mpr exits)
      refine ⟨m, member, ?_⟩
      rw [Made.exit?] at asked
      split at asked
      · rename_i word call
        exact ⟨word, call, Option.some.inj asked⟩
      · cases asked
      · cases asked
    · intro m member word call
      have asked : m.exit? = some word.toInt32 := by rw [Made.exit?, call]
      obtain ⟨exits, final, left⟩ := step.of_exit member asked
      exact ⟨exitOf?_eq_some_iff.mp exits, final, left⟩

/-- A guest that exits whenever it is asked for the tag of a value, and when it is asked to leave, with a
store before the exit and one after it. -/
def quittingGuest : Guest Unit :=
  Guest.exporting (("wisp_tag_of", .func ⟨[.i32], [.i32], fun args =>
      .syscall (.procExit (args.headD 0)) fun _ => .done [0]⟩) ::
    (Guest.accessors 0 0 0).tail ++ Guest.sentinels ++
    [("leave", .func ⟨[.i32], [], fun args => .store 8 [1] fun _ =>
        .syscall (.procExit (args.headD 0)) fun _ => .store 8 [2] fun _ => .done []⟩),
      ("stay", .func ⟨[], [], fun _ => .syscall (.stub .fdClose [1]) fun _ => .done []⟩)])

/-- Operations on that guest: two exits of a function, then a decode that exits with all bits set. -/
def quittingRun : List Operation :=
  [.call "leave" [3], .call "stay" [], .call "leave" [0], .project 0xffffffff, .call "stay" []]

/-- The last of three exits is the one noted, although more was done after it; and at a further exit the
store before it is there and the one after it is not. -/
theorem exit_bookkeeping_quittingGuest :
    ∃ bridge, start Config.default quittingGuest = .ok bridge ∧
      (bridge.performAll quittingRun).1 = [.error (.guestExit 3), .ok (.words []),
        .error (.guestExit 0), .error (.guestExit (-1)), .ok (.words [])] ∧
      (bridge.performAll quittingRun).2.exitCode = some (-1) ∧
      ((bridge.performAll quittingRun).2.perform (.call "leave" [9])).1 =
        .error (.guestExit 9) ∧
      ((bridge.performAll quittingRun).2.perform (.call "leave" [9])).2.inst.memory.byte 8 = 1 := by
  refine ⟨_, rfl, ?_⟩
  obtain ⟨noted, later⟩ := exit_bookkeeping Config.default quittingGuest _ rfl quittingRun
  obtain ⟨-, leaves⟩ := later (.call "leave" [9])
  obtain ⟨exits, -, left⟩ := leaves _ (List.mem_singleton.mpr rfl) 9 rfl
  refine ⟨rfl, noted.trans (rfl), exits, ?_⟩
  rw [left]
  rfl

end Bridge

end LispHost
