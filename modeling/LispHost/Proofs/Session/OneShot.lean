import LispHost.Proofs.Bridge.Earlier
import LispHost.Proofs.Guest.Minimal
import LispHost.Proofs.Report.Lossless
import LispHost.Proofs.Session.Exchanges
import LispHost.Proofs.Session.Input
import LispHost.Proofs.Session.Turns
import LispHost.Proofs.Terminal.Screen

/-!
A source evaluated by itself and in a session.

The program evaluates a source in two places: once for a command of its own and once for a line of a session.
Both take the same four steps, but a session hands the records of the start over to the log before its first
line, while the command leaves them on the console until its end. The guest cannot tell, so the two come out
alike: with the same report, printed in two forms, or with the same error.
-/

set_option autoImplicit false

namespace LispHost.Cli

variable {σ : Type}

theorem evaluateOnce_eq (bridge : Bridge σ) (source : String) :
    evaluateOnce bridge source =
      ((bridge.turn source).1.map Turn.report, (bridge.turn source).2) := by
  unfold evaluateOnce Bridge.turn
  cases bridge.read source with
  | mk answer afterRead =>
  cases answer with
  | error e => rfl
  | ok exp =>
    simp only
    cases afterRead.project exp with
    | mk answer afterShown =>
    cases answer with
    | error e => rfl
    | ok expression =>
      simp only
      cases afterShown.eval exp with
      | mk answer afterEval =>
      cases answer with
      | error e => rfl
      | ok raw =>
        simp only
        cases afterEval.project raw with
        | mk answer afterDecoded => cases answer <;> rfl

/-- How a source comes out by itself and on the first line of a session, when it is evaluated once to
`evaluated`. -/
inductive Alike (config : Config) (format : OutputFormat) (colour : Bool) (source : String)
    (evaluated : Except Error Report × Bridge σ) (once session : Outcome) (first : Exchange σ) : Prop
  | succeeded {turn : Turn} {number printed line : String} {later : List Emission} :
      evaluated.1 = .ok turn.report → turn.source = source → first.outcome? = some (.ok turn) →
      once = ⟨0, (logsOf config evaluated.2.inst.host.console).map .log ++ [.out printed]⟩ →
      session.emissions =
        (logsOf config evaluated.2.inst.host.console).map .log ++ .out line :: later →
      (colour = false → number = "0") →
      (Terminal.shown number).cells.map Prod.fst = ['0'] →
      (format = .text → printed = turn.value.render colour ∧
        line = number ++ "  " ++ turn.expression.render colour ++ " ↦ " ++ printed) →
      (format = .json → printed = turn.report.toJson.pretty ∧ line = turn.report.toJson.compact ∧
        Json.squeeze printed = line ∧
        Json.parse? printed.length printed = some turn.report.toJson ∧
        Json.parse? line.length line = some turn.report.toJson) →
      Alike config format colour source evaluated once session first
  | failed {e : Error} {complaint later : List Emission} :
      evaluated.1 = .error e → first.outcome? = some (.error e) → first.printed = [] →
      once = .fail (logsOf config evaluated.2.inst.host.console) (.ofError e) →
      session.emissions =
        (logsOf config evaluated.2.inst.host.console).map .log ++ complaint ++ later →
      ((∀ code, e ≠ .guestExit code) → complaint =
        [.err (Terminal.Span.render colour ⟨.redBold, "error:"⟩ ++ " " ++ e.message ++ "\n")]) →
      ((∃ code, e = .guestExit code) → complaint = [] ∧ later = []) →
      Alike config format colour source evaluated once session first

theorem logged_withEarlier (config : Config) (bridge : Bridge σ) (records : List Record) :
    logged config (bridge.withEarlier records) =
      records.map (fun record => .log (record.event config.syscalls.consoleEncoding)) ++
        logged config bridge := by
  have console : (bridge.withEarlier records).inst.host.console.records =
    records ++ bridge.inst.host.console.records := rfl
  unfold logged logsOf
  rw [console, List.map_append, List.map_append, List.map_map]
  rfl

/-- The guest's part in an evaluation, and in the turn of a session that has begun. -/
theorem turn_of_begun (config : Config) (bridge : Bridge σ) (source : String) :
    let begun := (beginSession config bridge).2.bridge
    (bridge.turn source).1 = (begun.turn source).1 ∧
      (bridge.turn source).2.takeConsole.2 = (begun.turn source).2.takeConsole.2 ∧
      logged config (bridge.turn source).2 =
        (beginSession config bridge).1 ++ logged config (begun.turn source).2 := by
  have begun : (beginSession config bridge).2.bridge = bridge.takeConsole.2 := rfl
  have events : (beginSession config bridge).1 = bridge.takeConsole.1.map
    fun record => .log (record.event config.syscalls.consoleEncoding) := rfl
  have turned := bridge.takeConsole.2.turn_withEarlier bridge.takeConsole.1 source
  rw [bridge.takeConsole_withEarlier] at turned
  simp only [begun, events]
  rw [turned]
  generalize bridge.takeConsole.2.turn source = after
  exact ⟨rfl, rfl, logged_withEarlier config after.2 _⟩

theorem shown_number (colour : Bool) :
    (Terminal.shown (Terminal.Span.render colour ⟨.dimmed, "0"⟩)).cells.map Prod.fst = ['0'] := by
  cases colour <;> decide +kernel

section Runs

variable {world : World σ} {invocation : Invocation} {config : Config}

theorem runCommand_eval (set : settings world.env world.read invocation = .ok config)
    {bridge : Bridge σ} (opened : openBridge world config = .ok bridge) (source : String) :
    runCommand world { invocation with command := .eval source } =
      reportOnce config invocation.output (coloursOn world.env world.terminal)
        (evaluateOnce bridge source) := by
  have same : settings world.env world.read { invocation with command := .eval source } =
    .ok config := set
  simp only [runCommand, same, opened]

theorem emissions_repl (set : settings world.env world.read invocation = .ok config)
    {bridge : Bridge σ} (opened : openBridge world config = .ok bridge) (input : List UInt8) :
    (runCommand { world with input } { invocation with command := .repl }).emissions =
      (beginSession config bridge).1 ++
        (exchanges config invocation.output (coloursOn world.env world.terminal)
          (inputLines input) (beginSession config bridge).2).flatMap Exchange.emissions := by
  have same : settings world.env world.read { invocation with command := .repl } =
    .ok config := set
  have reopened : openBridge { world with input } config = .ok bridge := opened
  simp only [runCommand, same, reopened, emissions_answerLines]

end Runs

theorem first_exchange (config : Config) (format : OutputFormat) (colour : Bool)
    (bridge : Bridge σ) {source text : String} {line : List UInt8} (later : List (List UInt8))
    (decoded : Text.Utf8.decode? line = some text)
    (asked : Request.ofLine text = .source source) :
    ∃ first rest reply next,
      Evaluates (beginSession config bridge).2
        ((beginSession config bridge).2.bridge.turn source).2 (bridge.turn source).1 reply next ∧
      exchanges config format colour (line :: later) (beginSession config bridge).2 =
        first :: rest ∧
      first.request? = some (.source source) ∧
      first.outcome? = some (bridge.turn source).1 ∧
      first.after.bridge = (bridge.turn source).2.takeConsole.2 ∧
      first.printed = reply.lines format colour ∧
      (beginSession config bridge).1 ++ first.emissions =
        logged config (bridge.turn source).2 ++ (reply.lines format colour).map .out ++
          ((reply.complaint? colour).map fun s => Emission.err (s ++ "\n")).toList ∧
      (reply.goesOn = false → rest = []) := by
  obtain ⟨answer, drained, events⟩ := turn_of_begun config bridge source
  have evaluates := evaluates_answer (beginSession config bridge).2 source
  rw [← answer, ← asked] at evaluates
  cases answered : (beginSession config bridge).2.answer (.ofLine text) with
  | mk reply next =>
  rw [answered] at evaluates
  rw [← evaluates.bridge_eq] at drained events
  obtain ⟨request, after, emitted, progress⟩ :=
    exchange_of_reply config format colour decoded answered
  have printed := printed_of_reply config format colour decoded answered
  rw [asked] at request
  have outcome := outcome?_of_source request
  obtain ⟨rest, run, last⟩ := exists_exchanges_cons config format colour line later
    (beginSession config bridge).2
  have found : (exchange config format colour line (beginSession config bridge).2).before =
    (beginSession config bridge).2 := rfl
  rw [found, ← answer] at outcome
  generalize exchange config format colour line (beginSession config bridge).2 = first at *
  have whole : first.emissions = first.emitted := by
    unfold Exchange.emissions
    rw [progress]
    cases reply.goesOn <;> rfl
  refine ⟨first, rest, reply, next, evaluates, run, request, outcome, ?_, printed, ?_, ?_⟩
  · rw [after, drained]
  · rw [whole, emitted, events, List.append_assoc, List.append_assoc, List.append_assoc]
  · intro stops
    apply last
    rw [progress, stops]
    decide

section Outcomes

variable {config : Config} {format : OutputFormat} {colour : Bool} {source : String}
  {bridge : Bridge σ} {once session : Outcome} {first : Exchange σ} {later : List Emission}
  (reported : once = reportOnce config format colour (evaluateOnce bridge source))

include reported

theorem alike_of_ok {turn : Turn} (turned : (bridge.turn source).1 = .ok turn)
    (outcome : first.outcome? = some (.ok turn))
    (emitted : session.emissions = logged config (bridge.turn source).2 ++
      ((Reply.turn 0 turn).lines format colour).map .out ++
        (((Reply.turn 0 turn).complaint? colour).map fun s => Emission.err (s ++ "\n")).toList ++
          later) :
    Alike config format colour source (evaluateOnce bridge source) once session first := by
  have evaluated : evaluateOnce bridge source = (.ok turn.report, (bridge.turn source).2) := by
    rw [evaluateOnce_eq, turned]
    rfl
  rw [evaluated] at reported ⊢
  obtain ⟨shown, reply_lines, as_text, as_json⟩ : ∃ shown,
      (Reply.turn 0 turn).lines format colour = [shown] ∧
        (format = .text → shown = turn.line colour 0) ∧
        (format = .json → shown = turn.report.toJson.compact) := by
    cases format with
    | text =>
      refine ⟨_, rfl, fun _ => rfl, ?_⟩
      intro other
      cases other
    | json =>
      refine ⟨_, rfl, ?_, fun _ => rfl⟩
      intro other
      cases other
  have emitted_line : session.emissions =
      logged config (bridge.turn source).2 ++ .out shown :: later := by
    rw [emitted, reply_lines]
    simp [Reply.complaint?]
  refine .succeeded rfl (Bridge.source_of_turn turned) outcome reported emitted_line ?_
    (shown_number colour) ?_ ?_
  · intro plain
    rw [plain]
    rfl
  · intro text_format
    rw [as_text text_format, text_format]
    exact ⟨rfl, rfl⟩
  · intro json_format
    rw [as_json json_format, json_format]
    exact ⟨rfl, rfl, Json.squeeze_pretty turn.report.natural_toJson,
      turn.report.parse?_pretty (Nat.le_refl _), turn.report.parse?_compact (Nat.le_refl _)⟩

theorem alike_of_error {e : Error} {begun next : Session σ} {left : Bridge σ} {reply : Reply}
    (turned : (bridge.turn source).1 = .error e) (outcome : first.outcome? = some (.error e))
    (evaluates : Evaluates begun left (.error e) reply next)
    (printed : first.printed = reply.lines format colour)
    (emitted : session.emissions = logged config (bridge.turn source).2 ++
      (reply.lines format colour).map .out ++
        ((reply.complaint? colour).map fun s => Emission.err (s ++ "\n")).toList ++ later)
    (last : reply.goesOn = false → later = []) :
    Alike config format colour source (evaluateOnce bridge source) once session first := by
  have evaluated : evaluateOnce bridge source = (.error e, (bridge.turn source).2) := by
    rw [evaluateOnce_eq, turned]
    rfl
  rw [evaluated] at reported ⊢
  have silent : reply.lines format colour = [] := by cases evaluates <;> rfl
  rw [silent] at printed emitted
  rw [List.map_nil, List.append_nil] at emitted
  refine .failed rfl outcome printed reported emitted ?_ ?_
  · intro no_exit
    cases evaluates with
    | exited code => exact absurd rfl (no_exit code)
    | failed => rfl
  · rintro ⟨code, rfl⟩
    cases evaluates with
    | exited => exact ⟨rfl, last rfl⟩
    | failed no_exit => exact absurd rfl (no_exit code)

end Outcomes

/-- A source that is a single trimmed line and no command comes out alike by itself and as the first turn of a
session. -/
theorem eval_agrees_with_session (world : World σ) (invocation : Invocation) (source : String)
    (after : List UInt8) (single : '\n' ∉ source.toList) (trimmed : Text.trim source = source)
    (nonempty : source ≠ "") (plain : source ∉ [":q", ":quit", ":history"])
    (ending : after = [] ∨ after.head? = some 10) :
    let input := Text.Utf8.encode source ++ after
    let format := invocation.output
    let colour := coloursOn world.env world.terminal
    let once := runCommand world { invocation with command := .eval source }
    let session := runCommand { world with input } { invocation with command := .repl }
    (∀ failure, settings world.env world.read invocation = .error failure →
      once = .fail [] failure ∧ session = .fail [] failure) ∧
    ∀ config, settings world.env world.read invocation = .ok config →
      (∀ failure logs, openBridge world config = .error (failure, logs) →
        once = .fail logs failure ∧ session = .fail logs failure) ∧
      ∀ bridge, openBridge world config = .ok bridge →
        ∃ first rest,
          exchanges config format colour (inputLines input) (beginSession config bridge).2 =
            first :: rest ∧
          first.request? = some (.source source) ∧
          (once.code = 0 ↔ ∃ turn, first.outcome? = some (.ok turn)) ∧
          first.after.bridge = (evaluateOnce bridge source).2.takeConsole.2 ∧
          Alike config format colour source (evaluateOnce bridge source) once session first := by
  intro input format colour once session
  refine ⟨?_, ?_⟩
  · intro failure unset
    have eval_unset : settings world.env world.read { invocation with command := .eval source } =
      .error failure := unset
    have repl_unset : settings world.env world.read { invocation with command := .repl } =
      .error failure := unset
    exact ⟨by simp only [once, runCommand, eval_unset], by simp only [session, runCommand, repl_unset]⟩
  · intro config set
    refine ⟨?_, ?_⟩
    · intro failure logs closed
      have eval_set : settings world.env world.read { invocation with command := .eval source } =
        .ok config := set
      have repl_set : settings world.env world.read { invocation with command := .repl } =
        .ok config := set
      have reclosed : openBridge { world with input } config = .error (failure, logs) := closed
      exact ⟨by simp only [once, runCommand, eval_set, closed],
        by simp only [session, runCommand, repl_set, reclosed]⟩
    · intro bridge opened
      obtain ⟨line, later, text, lines, decoded, asked⟩ :=
        request_of_source single trimmed nonempty plain ending
      obtain ⟨first, rest, reply, next, evaluates, run, request, outcome, left, printed, events,
        last⟩ := first_exchange config format colour bridge later decoded asked
      have reported : once = reportOnce config format colour (evaluateOnce bridge source) :=
        runCommand_eval set opened source
      have emitted : session.emissions = logged config (bridge.turn source).2 ++
          (reply.lines format colour).map .out ++
            ((reply.complaint? colour).map fun s => Emission.err (s ++ "\n")).toList ++
              rest.flatMap Exchange.emissions := by
        simp only [session, emissions_repl set opened, input, lines]
        rw [run, List.flatMap_cons, ← List.append_assoc, events]
      have same_run : exchanges config format colour (inputLines input)
          (beginSession config bridge).2 = first :: rest := by
        rw [lines, run]
      have code : once.code = 0 ↔ ∃ turn, first.outcome? = some (.ok turn) := by
        rw [reported, evaluateOnce_eq, outcome]
        cases (bridge.turn source).1 with
        | ok turn => exact ⟨fun _ => ⟨turn, rfl⟩, fun _ => rfl⟩
        | error e => simp [reportOnce, Outcome.fail, Except.map]
      have after_once : first.after.bridge = (evaluateOnce bridge source).2.takeConsole.2 := by
        rw [left, evaluateOnce_eq]
      refine ⟨first, rest, same_run, request, code, after_once, ?_⟩
      cases turned : (bridge.turn source).1 with
      | ok turn =>
        rw [turned] at evaluates outcome
        cases evaluates
        exact alike_of_ok reported turned outcome emitted
      | error e =>
        rw [turned] at evaluates outcome
        refine alike_of_error reported turned outcome evaluates printed emitted fun stops => ?_
        rw [last stops]
        rfl

/-- A guest that reads every source as `T` and evaluates everything to `NIL`. It writes to standard error when it
is initialised, and to standard output when it evaluates. -/
def greetingGuest : Guest Unit :=
  { Guest.exporting (Guest.accessors 1 0 0 ++ Guest.sentinels ++
      [("wisp_tag_sys", .global (.i32 1)),
        ("_initialize", .func ⟨[], [], fun _ => .syscall (.fdWrite 2 16 1 64) fun _ => .done []⟩),
        ("wisp_alloc", .func (Guest.constant 1 1024)), ("wisp_read", .func (Guest.constant 2 1)),
        ("wisp_eval", .func ⟨[.i32], [.i32], fun _ => .syscall (.fdWrite 1 16 1 64) fun _ =>
          .done [0]⟩)]) with
    data := [(16, [32, 0, 0, 0, 2, 0, 0, 0]), (32, [65, 66])] }

def greetingWorld : World Unit where
  args := []
  env := []
  read _ := .ok []
  compile _ := .ok greetingGuest
  input := []
  terminal := false

def greetingInvocation : Invocation :=
  ⟨false, .text, none, none, .repl⟩

/-- What the guest writes is logged alike, and the line of the session ends in the one of the command. -/
theorem eval_agrees_with_session_greetingGuest :
    settings greetingWorld.env greetingWorld.read greetingInvocation = .ok Config.default ∧
    ∃ bridge, openBridge greetingWorld Config.default = .ok bridge ∧
      (evaluateOnce bridge "(hello)").1 = .ok ⟨some "(hello)", some .true, 0, .nil⟩ ∧
      runCommand greetingWorld { greetingInvocation with command := .eval "(hello)" } =
        ⟨0, [.log ⟨.warn, "AB"⟩, .log ⟨.info, "AB"⟩, .out "NIL"]⟩ ∧
      ∃ later, (runCommand { greetingWorld with input := Text.Utf8.encode "(hello)" ++ [10, 49] }
          { greetingInvocation with command := .repl }).emissions =
        [.log ⟨.warn, "AB"⟩, .log ⟨.info, "AB"⟩, .out "0  T ↦ NIL"] ++ later := by
  have set : settings greetingWorld.env greetingWorld.read greetingInvocation =
    .ok Config.default := rfl
  obtain ⟨bridge, started⟩ :
    ∃ bridge, Bridge.start Config.default greetingGuest = .ok bridge := ⟨_, rfl⟩
  have opened : openBridge greetingWorld Config.default = .ok bridge := by
    simp only [openBridge, greetingWorld, started]
  have answer : (evaluateOnce bridge "(hello)").1 =
      .ok ⟨some "(hello)", some .true, 0, .nil⟩ := by
    cases started
    rfl
  have events : logsOf Config.default (evaluateOnce bridge "(hello)").2.inst.host.console =
      [⟨.warn, "AB"⟩, ⟨.info, "AB"⟩] := by
    cases started
    rfl
  obtain ⟨-, general⟩ := eval_agrees_with_session greetingWorld greetingInvocation "(hello)"
    [10, 49] (by decide) (by decide +kernel) (by decide) (by decide) (.inr rfl)
  obtain ⟨-, agree⟩ := general Config.default set
  obtain ⟨first, rest, -, -, -, -, alike⟩ := agree bridge opened
  refine ⟨set, bridge, opened, answer, ?_⟩
  cases alike with
  | failed failed =>
    rw [answer] at failed
    cases failed
  | @succeeded turn number printed line later succeeded _ _ once session plain _ as_text _ =>
    rw [answer] at succeeded
    have reports := Except.ok.inj succeeded
    have expression : turn.expression = .true :=
      (Option.some.inj (congrArg Report.expression reports)).symm
    have value : turn.value = .nil := (congrArg Report.value reports).symm
    have colourless : coloursOn greetingWorld.env greetingWorld.terminal = false := by decide
    obtain ⟨printed_eq, line_eq⟩ := as_text rfl
    rw [colourless, value] at printed_eq
    rw [plain colourless, expression, colourless, printed_eq] at line_eq
    rw [events, printed_eq] at once
    rw [events, line_eq] at session
    refine ⟨once.trans (by decide +kernel), later, session.trans ?_⟩
    have shown : "0" ++ "  " ++ Projection.render false .true ++ " ↦ " ++ Projection.render false .nil =
        "0  T ↦ NIL" := by decide +kernel
    rw [shown]
    rfl

end LispHost.Cli
