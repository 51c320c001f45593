import LispHost.Proofs.Bridge.Output
import LispHost.Proofs.Session.Law

/-!
Log events of the guest's output.

Each system call is logged once if it is a write to one of the two streams that was answered with success and
had any bytes, and not at all otherwise. A start, a turn and every line of a session have their system calls,
and what each of them logs is the events of its calls, in their order. A start that fails hands over the events
from before its failure in the same way.
-/

set_option autoImplicit false

namespace LispHost

variable {σ : Type}

/-- A text without the line break at its end, if there is one; a second one stays. -/
inductive LessOneBreak (text : String) : String → Prop
  | broken {message : String} : text = message ++ "\n" → LessOneBreak text message
  | whole : text.toList.getLast? ≠ some '\n' → LessOneBreak text text

/-- The log event of a system call: of a write that was answered with success and wrote something. Its
message is the text of the listed bytes as they were before the call. -/
inductive Made.Logs (decoding : TextDecoding) (made : Made σ) : LogEvent → Prop
  | write {fd table count nwritten : Word} {level : Level} {message : String} :
      made.call = .fdWrite fd table count nwritten →
      made.ending = .value Errno.success.raw →
      SyscallHost.listedData made.before.memory table count.toNat ≠ [] →
      fd = 1 ∧ level = .info ∨ fd = 2 ∧ level = .warn →
      LessOneBreak
        (decoding.decode (SyscallHost.listedData made.before.memory table count.toNat)) message →
      made.Logs decoding ⟨level, message⟩

theorem lessOneBreak_iff {text message : String} :
    LessOneBreak text message ↔ chompLine text = message := by
  have ends : text.toList = text.toList.reverse.reverse := (List.reverse_reverse _).symm
  constructor
  · rintro (same | whole)
    · have chars : text.toList.reverse = '\n' :: message.toList.reverse := by
        rw [same, String.toList_append, List.reverse_append]
        rfl
      rw [chompLine, chars]
      simp only [List.reverse_reverse, String.ofList_toList]
    · rw [chompLine]
      split
      · rename_i rest reversed
        rw [ends, reversed, List.reverse_cons, List.getLast?_concat] at whole
        exact absurd rfl whole
      · rfl
  · rintro rfl
    rw [chompLine]
    split
    · rename_i rest reversed
      refine .broken (String.toList_inj.mp ?_)
      rw [ends, reversed, String.toList_append, String.toList_ofList, List.reverse_cons]
      rfl
    · rename_i other
      refine .whole fun last => ?_
      obtain ⟨rest, chars⟩ := List.getLast?_eq_some_iff.mp last
      refine other rest.reverse ?_
      rw [chars, List.reverse_append]
      rfl

namespace Made

def event? (decoding : TextDecoding) (made : Made σ) : Option LogEvent :=
  made.record?.map (Record.event decoding)

theorem event?_eq_some_iff (decoding : TextDecoding) (made : Made σ) (event : LogEvent) :
    made.event? decoding = some event ↔ made.Logs decoding event := by
  have success : Errno.success.raw = 0 := rfl
  rw [event?, record?]
  constructor
  · intro found
    obtain ⟨record, recorded, rfl⟩ := Option.map_eq_some_iff.mp found
    split at recorded
    · rename_i fd table count nwritten status call ending
      split at recorded
      · rename_i zero
        split at recorded
        · rename_i stream b data descriptor listed
          cases recorded
          have message : LessOneBreak (decoding.decode (b :: data))
            (chompLine (decoding.decode (b :: data))) := lessOneBreak_iff.mpr rfl
          have nonempty : SyscallHost.listedData made.before.memory table count.toNat ≠ [] := by
            rw [listed]
            exact List.cons_ne_nil b data
          rw [← listed] at message ⊢
          refine .write call (by rw [ending, zero, success]) nonempty ?_ message
          rw [Stream.ofDescriptor?] at descriptor
          split at descriptor
          · rename_i first
            cases descriptor
            exact .inl ⟨first, rfl⟩
          · split at descriptor
            · rename_i second
              cases descriptor
              exact .inr ⟨second, rfl⟩
            · cases descriptor
        · cases recorded
      · cases recorded
    · cases recorded
  · rintro ⟨call, ending, nonempty, level, message⟩
    obtain rfl := lessOneBreak_iff.mp message
    obtain ⟨b, data, listed⟩ := List.exists_cons_of_ne_nil nonempty
    rw [call, ending]
    simp only [success, if_true, listed]
    rcases level with ⟨rfl, rfl⟩ | ⟨rfl, rfl⟩ <;> rfl

end Made

namespace Bridge

variable {config : Config} {guest : Guest σ}

def earlyCalls (config : Config) (guest : Guest σ) : List (Made σ) :=
  match prepared config guest, guest.start with
  | some inst, some code => if guest.wellFormed then inst.callsEntered code else []
  | _, _ => []

/-- The system calls of a whole start: those of the start code, then those of the initialiser. -/
def bootCalls (config : Config) (guest : Guest σ) : List (Made σ) :=
  earlyCalls config guest ++ startCalls config guest

def consoleOf : Except StartFailure (Bridge σ) → Console
  | .ok bridge => bridge.inst.host.console
  | .error failure => failure.console

private theorem records_of_unbound {inst : Instance σ} (unbound : inst.host.binding = none)
    (code : Code σ Unit) : (inst.callsEntered code).filterMap Made.record? = [] := by
  rcases inst.enter_of_unbound code unbound with ⟨none, -, -⟩ | ⟨m, only, -, host⟩
  · rw [none]
    rfl
  · have early : m.ending = .unbound :=
      congrArg Prod.fst (Instance.syscall_of_unbound (by rw [host, unbound]) m.call)
    have silent : m.record? = none := by
      rw [Made.record?, early]
      cases m.call <;> rfl
    rw [only, List.filterMap_cons, silent]
    rfl

private theorem records_of_startCalls (config : Config) (guest : Guest σ) :
    (consoleOf (start config guest)).records = (startCalls config guest).filterMap Made.record? := by
  cases ok : createBound config guest with
  | error e =>
    rw [start, startCalls, ok]
    rfl
  | ok inst =>
    obtain ⟨-, before, created_ok, rfl⟩ := created_of_createBound ok
    obtain ⟨same, fresh⟩ := Instance.eq_of_create created_ok rfl
    have silent : (before.boundTo config.abi.memory).host.console.records = [] :=
      congrArg (fun host => host.console.records) fresh
    have accounts := ((before.boundTo config.abi.memory).ran_call config.abi.start []).accounts rfl
    have records := accounts.records
    rw [silent, List.nil_append] at records
    rw [start_of_createBound ok, startCalls, ok]
    cases DecodingContext.resolve guest config.abi with
    | error e => exact silent
    | ok context =>
      simp only
      rw [← records]
      split
      · cases (before.boundTo config.abi.memory).call config.abi.start [] with
        | mk answer next => cases answer <;> rfl
      · rename_i absent
        simp only [Option.not_isSome_iff_eq_none] at absent
        have guest_eq : (before.boundTo config.abi.memory).guest = guest := same
        rw [Instance.call, Guest.func, guest_eq, absent]
        rfl

private theorem records_of_earlyCalls (config : Config) (guest : Guest σ) :
    (earlyCalls config guest).filterMap Made.record? = [] := by
  rw [earlyCalls]
  split
  · rename_i inst code ready begins
    have unbound : inst.host.binding = none :=
      congrArg SyscallHost.binding (Instance.eq_of_prepare ready).2
    split
    · exact records_of_unbound unbound code
    · rfl
  · rfl

/-- What the guest has written by the end of a start is what its system calls have written, whether the start
succeeds or not. -/
theorem records_of_bootCalls (config : Config) (guest : Guest σ) :
    (consoleOf (start config guest)).records = (bootCalls config guest).filterMap Made.record? := by
  rw [records_of_startCalls, bootCalls, List.filterMap_append, records_of_earlyCalls,
    List.nil_append]

def turnCalls (bridge : Bridge σ) (source : String) : List (Made σ) :=
  bridge.made (.read source) ++
    match bridge.read source with
    | (.error _, _) => []
    | (.ok exp, bridge) =>
      bridge.made (.project exp) ++
        match bridge.project exp with
        | (.error _, _) => []
        | (.ok _, bridge) =>
          bridge.made (.eval exp) ++
            match bridge.eval exp with
            | (.error _, _) => []
            | (.ok raw, bridge) => bridge.made (.project raw)

theorem ran_turn (bridge : Bridge σ) (source : String) :
    bridge.inst.Ran (bridge.turnCalls source) (bridge.turn source).2.inst := by
  have reads : bridge.inst.Ran (bridge.made (.read source)) (bridge.read source).2.inst :=
    bridge.ran_perform Operation.noConfusion
  rw [turnCalls, turn]
  cases reading : bridge.read source with
  | mk answer afterRead =>
  rw [reading] at reads
  cases answer with
  | error e => simpa only [List.append_nil] using reads
  | ok exp =>
    refine reads.trans ?_
    have shows : afterRead.inst.Ran (afterRead.made (.project exp))
      (afterRead.project exp).2.inst := afterRead.ran_perform Operation.noConfusion
    simp only
    cases showing : afterRead.project exp with
    | mk answer afterShown =>
    rw [showing] at shows
    cases answer with
    | error e => simpa only [List.append_nil] using shows
    | ok expression =>
      refine shows.trans ?_
      have evaluates : afterShown.inst.Ran (afterShown.made (.eval exp))
        (afterShown.eval exp).2.inst := afterShown.ran_perform Operation.noConfusion
      simp only
      cases evaluating : afterShown.eval exp with
      | mk answer afterEval =>
      rw [evaluating] at evaluates
      cases answer with
      | error e => simpa only [List.append_nil] using evaluates
      | ok raw =>
        refine evaluates.trans ?_
        have decodes : afterEval.inst.Ran (afterEval.made (.project raw))
          (afterEval.project raw).2.inst := afterEval.ran_perform Operation.noConfusion
        simp only
        cases decoding : afterEval.project raw with
        | mk answer afterDecoded =>
        rw [decoding] at decodes
        cases answer <;> exact decodes

end Bridge

namespace Cli

def logEvents (emissions : List Emission) : List LogEvent :=
  emissions.filterMap fun
    | .log event => some event
    | _ => none

theorem logEvents_append (first second : List Emission) :
    logEvents (first ++ second) = logEvents first ++ logEvents second :=
  List.filterMap_append

theorem logEvents_log (events : List LogEvent) : logEvents (events.map .log) = events := by
  induction events with
  | nil => rfl
  | cons event rest ih => exact congrArg (event :: ·) ih

theorem logEvents_out (lines : List String) : logEvents (lines.map .out) = [] := by
  induction lines with
  | nil => rfl
  | cons line rest ih => exact ih

def eventsOf (config : Config) (made : List (Made σ)) : List LogEvent :=
  made.filterMap (Made.event? config.syscalls.consoleEncoding)

theorem eventsOf_append (config : Config) (first second : List (Made σ)) :
    eventsOf config (first ++ second) = eventsOf config first ++ eventsOf config second :=
  List.filterMap_append

theorem logsOf_of_records (config : Config) {console : Console} {made : List (Made σ)}
    (records : console.records = made.filterMap Made.record?) :
    logsOf config console = eventsOf config made := by
  rw [logsOf, records, eventsOf, List.map_filterMap]
  rfl

namespace Exchange

def calls (x : Exchange σ) : List (Made σ) :=
  match x.request? with
  | some (.source text) => x.before.bridge.turnCalls text
  | _ => []

theorem logEvents_emissions (x : Exchange σ) : logEvents x.emissions = logEvents x.emitted := by
  unfold emissions
  split
  · rw [logEvents_append]
    exact List.append_nil _
  · rfl

end Exchange

/-- A session between two lines: the guest is bound, and what it has written is logged. -/
structure Attentive (session : Session σ) : Prop where
  bound : ∃ name, session.bridge.inst.host.binding = some name
  drained : session.bridge.Drained

variable {config : Config} {format : OutputFormat} {colour : Bool} {session : Session σ}

theorem Attentive.begin {bridge : Bridge σ} {guest : Guest σ}
    (started : Bridge.start config guest = .ok bridge) :
    Attentive (beginSession config bridge).2 := by
  have bound := Bridge.binding_of_start started
  exact ⟨⟨_, bound⟩, rfl⟩

private theorem logEvents_of_reply {line : List UInt8} {text : String} {next : Session σ}
    {reply : Reply} (decoded : Text.Utf8.decode? line = some text)
    (answered : session.answer (.ofLine text) = (reply, next)) :
    logEvents (exchange config format colour line session).emissions =
      logsOf config next.bridge.inst.host.console := by
  obtain ⟨-, -, emitted, -⟩ := exchange_of_reply config format colour decoded answered
  have complaint : logEvents (((reply.complaint? colour).map fun s =>
      Emission.err (s ++ "\n")).toList) = [] := by
    cases reply.complaint? colour <;> rfl
  rw [Exchange.logEvents_emissions, emitted, logEvents_append, logEvents_append, logged,
    logEvents_log, logEvents_out, complaint, List.append_nil, List.append_nil]

theorem Attentive.step (attentive : Attentive session) (config : Config) (format : OutputFormat)
    (colour : Bool) (line : List UInt8) :
    let x := exchange config format colour line session
    logEvents x.emissions = eventsOf config x.calls ∧ Attentive x.after := by
  intro x
  have still (quiet : x.calls = []) {text : String} {reply : Reply}
      (decoded : Text.Utf8.decode? line = some text)
      (answered : session.answer (.ofLine text) = (reply, session)) :
      logEvents x.emissions = eventsOf config x.calls ∧ Attentive x.after := by
    obtain ⟨-, after, -⟩ := exchange_of_reply config format colour decoded answered
    refine ⟨?_, ?_⟩
    · rw [logEvents_of_reply decoded answered, quiet, (attentive.drained : _ = Console.empty)]
      rfl
    · rw [after, attentive.drained.takeConsole]
      exact attentive
  cases decoded : Text.Utf8.decode? line with
  | none =>
    obtain ⟨request, after, -⟩ := exchange_of_unreadable config format colour session decoded
    have quiet : x.calls = [] := by simp only [Exchange.calls, x, request]
    refine ⟨?_, after ▸ attentive⟩
    rw [quiet]
    simp only [x, exchange, answerLine, decoded]
    rfl
  | some text =>
    have requested : x.request? = some (.ofLine text) :=
      congrArg (Option.map Request.ofLine) decoded
    cases asked : Request.ofLine text with
    | nothing | quit | history =>
      rw [asked] at requested
      obtain ⟨reply, answered⟩ : ∃ reply, session.answer (.ofLine text) = (reply, session) := by
        rw [asked]
        exact ⟨_, rfl⟩
      exact still (by simp only [Exchange.calls, requested]) decoded answered
    | source source =>
      rw [asked] at requested
      obtain ⟨name, bound⟩ := attentive.bound
      have evaluates := evaluates_answer session source
      rw [← asked] at evaluates
      cases answered : session.answer (.ofLine text) with
      | mk reply next =>
      rw [answered] at evaluates
      obtain ⟨-, after, -⟩ := exchange_of_reply config format colour decoded answered
      have ran := session.bridge.ran_turn source
      have records := (ran.accounts bound).records
      rw [(attentive.drained : _ = Console.empty)] at records
      have calls : x.calls = session.bridge.turnCalls source := by
        simp only [Exchange.calls, requested]
        rfl
      refine ⟨?_, ⟨⟨name, ?_⟩, ?_⟩⟩
      · rw [logEvents_of_reply decoded answered, evaluates.bridge_eq, calls]
        exact logsOf_of_records config records
      · rw [after, evaluates.bridge_eq]
        exact ran.same_host.1.2.2.trans bound
      · rw [after]
        exact Bridge.drained_takeConsole _

theorem Attentive.run (attentive : Attentive session) (lines : List (List UInt8)) :
    logEvents ((exchanges config format colour lines session).flatMap Exchange.emissions) =
      eventsOf config ((exchanges config format colour lines session).flatMap Exchange.calls) := by
  induction lines generalizing session with
  | nil => rfl
  | cons line rest ih =>
    obtain ⟨events, next⟩ := attentive.step config format colour line
    by_cases on : (exchange config format colour line session).progress = .goesOn
    · rw [exchanges_of_goesOn rest on, List.flatMap_cons, List.flatMap_cons, logEvents_append,
        eventsOf_append, events, ih next]
    · rw [exchanges_of_not_goesOn rest on, List.flatMap_singleton, List.flatMap_singleton, events]

end Cli

end LispHost
