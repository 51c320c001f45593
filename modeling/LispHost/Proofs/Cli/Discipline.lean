import LispHost.Proofs.Session.Events
import LispHost.Proofs.Session.OneShot
import LispHost.Proofs.Session.Printing

/-!
The output of whole runs.

A run reads its settings, finds a guest, starts it and then follows its command, and it can fail at each of
these stages. Whatever the stage, what the guest has written goes to the log and nowhere else, and the standard
output is computed from the reports of the run. So a run that makes one report prints that report or nothing,
and two runs with the same reports print the same, whatever their guests have written.
-/

set_option autoImplicit false

namespace LispHost.Cli

variable {σ : Type}

inductive Finds (world : World σ) (invocation : Invocation) (config : Config) (guest : Guest σ) : Prop
  | found {bytes : List UInt8} :
      settings world.env world.read invocation = .ok config →
      world.read config.guest = .ok bytes → world.compile bytes = .ok guest →
      Finds world invocation config guest

/-- A run that makes one report gets as far as this report. -/
inductive Reports (world : World σ) (invocation : Invocation) : Report → Prop
  | eval {config : Config} {guest : Guest σ} {bridge : Bridge σ} {source : String}
      {operations : List Bridge.Operation} {turn : Turn} :
      invocation.command = .eval source → Finds world invocation config guest →
      Bridge.start config guest = .ok bridge → bridge.Takes source operations (.ok turn) →
      Reports world invocation turn.report
  | inspect {config : Config} {guest : Guest σ} {bridge : Bridge σ} {text : String} {raw : Word}
      {value : Projection} :
      invocation.command = .inspect text → Word.parse text = .ok raw →
      Finds world invocation config guest → Bridge.start config guest = .ok bridge →
      (bridge.project raw).1 = .ok value →
      Reports world invocation ⟨none, none, raw, value⟩

/-- A stage at which a run that makes one report fails. -/
inductive Fails (world : World σ) (invocation : Invocation) : Prop
  | config {path : String} {error : Config.LoadError} :
      invocation.config = some path → Config.load world.env world.read path = .error error →
      Fails world invocation
  | word {text : String} {bad : Word.BadText} :
      invocation.command = .inspect text → Word.parse text = .error bad → Fails world invocation
  | unread {config : Config} {fault : FileFault} :
      settings world.env world.read invocation = .ok config →
      world.read config.guest = .error fault → Fails world invocation
  | uncompiled {config : Config} {bytes : List UInt8} {error : Error} :
      settings world.env world.read invocation = .ok config →
      world.read config.guest = .ok bytes → world.compile bytes = .error error →
      Fails world invocation
  | unstarted {config : Config} {guest : Guest σ} {failure : StartFailure} :
      Finds world invocation config guest → Bridge.start config guest = .error failure →
      Fails world invocation
  | unevaluated {config : Config} {guest : Guest σ} {bridge : Bridge σ} {source : String}
      {operations : List Bridge.Operation} {error : Error} :
      invocation.command = .eval source → Finds world invocation config guest →
      Bridge.start config guest = .ok bridge → bridge.Takes source operations (.error error) →
      Fails world invocation
  | undecoded {config : Config} {guest : Guest σ} {bridge : Bridge σ} {text : String} {raw : Word}
      {error : Error} :
      invocation.command = .inspect text → Word.parse text = .ok raw →
      Finds world invocation config guest → Bridge.start config guest = .ok bridge →
      (bridge.project raw).1 = .error error →
      Fails world invocation

/-! ### Runs that start a guest -/

/-- What a command does with a bridge: the end of its run. -/
def Command.carryOut (config : Config) (format : OutputFormat) (colour : Bool) (input : List UInt8)
    (bridge : Bridge σ) : Command → Outcome
  | .repl =>
    let (emitted, session) := beginSession config bridge
    let outcome := answerLines config format colour (inputLines input) session
    { outcome with emissions := emitted ++ outcome.emissions }
  | .eval source => reportOnce config format colour (evaluateOnce bridge source)
  | .inspect text =>
    match Word.parse text with
    | .error bad => .fail [] ⟨bad.context, [bad.fault.text]⟩
    | .ok raw => reportOnce config format colour (inspectOnce bridge raw)

def Command.calls (config : Config) (format : OutputFormat) (colour : Bool) (input : List UInt8)
    (bridge : Bridge σ) : Command → List (Made σ)
  | .repl => (exchanges config format colour (inputLines input)
      (beginSession config bridge).2).flatMap Exchange.calls
  | .eval source => bridge.turnCalls source
  | .inspect text =>
    match Word.parse text with
    | .error _ => []
    | .ok raw => bridge.made (.project raw)

def reportShown : Except Error Report × Bridge σ → List Shown
  | (.ok report, _) => [.report report]
  | (.error _, _) => []

def Command.shown (config : Config) (format : OutputFormat) (colour : Bool) (input : List UInt8)
    (bridge : Bridge σ) : Command → List Shown
  | .repl => (exchanges config format colour (inputLines input)
      (beginSession config bridge).2).filterMap Exchange.shown?
  | .eval source => reportShown (evaluateOnce bridge source)
  | .inspect text =>
    match Word.parse text with
    | .error _ => []
    | .ok raw => reportShown (inspectOnce bridge raw)

/-- Whether the operand of a command is well written; a word has to be. -/
def Command.WellWritten : Command → Prop
  | .repl | .eval _ => True
  | .inspect text => ∃ raw, Word.parse text = .ok raw

instance (command : Command) : Decidable command.WellWritten :=
  match command with
  | .repl | .eval _ => .isTrue trivial
  | .inspect text =>
    match parsed : Word.parse text with
    | .ok raw => .isTrue ⟨raw, parsed⟩
    | .error bad => .isFalse (by
        rintro ⟨raw, ok⟩
        rw [parsed] at ok
        cases ok)

def guest? (world : World σ) (config : Config) : Option (Guest σ) :=
  match world.read config.guest with
  | .error _ => none
  | .ok bytes => (world.compile bytes).toOption

/-- The settings and the guest of a run that comes to starting one. -/
def launch? (world : World σ) (invocation : Invocation) : Option (Config × Guest σ) :=
  match settings world.env world.read invocation with
  | .error _ => none
  | .ok config =>
    if invocation.command.WellWritten then (guest? world config).map (config, ·) else none

def runCalls (world : World σ) (invocation : Invocation) : List (Made σ) :=
  match launch? world invocation with
  | none => []
  | some (config, guest) =>
    Bridge.bootCalls config guest ++
      match Bridge.start config guest with
      | .error _ => []
      | .ok bridge => invocation.command.calls config invocation.output
          (coloursOn world.env world.terminal) world.input bridge

/-- What a run shows on the standard output: its reports or turns, in order, and where it shows the history of
its turns. -/
def runShown (world : World σ) (invocation : Invocation) : List Shown :=
  match launch? world invocation with
  | none => []
  | some (config, guest) =>
    match Bridge.start config guest with
    | .error _ => []
    | .ok bridge => invocation.command.shown config invocation.output
        (coloursOn world.env world.terminal) world.input bridge

section Stages

variable {world : World σ} {invocation : Invocation} {config : Config} {guest : Guest σ}

theorem fails_of_settings {failure : Failure}
    (unset : settings world.env world.read invocation = .error failure) :
    Fails world invocation := by
  cases path : invocation.config with
  | none => simp [settings, path, pure, Except.pure, bind, Except.bind] at unset
  | some path' =>
    cases loaded : Config.load world.env world.read path' with
    | error error => exact .config path loaded
    | ok config => simp [settings, path, loaded, pure, Except.pure, bind, Except.bind] at unset

/-- The ways of opening a bridge: there is no guest, it does not start, or it does. -/
theorem openBridge_cases (set : settings world.env world.read invocation = .ok config) :
    (∃ failure, openBridge world config = .error (failure, []) ∧ guest? world config = none ∧
      Fails world invocation) ∨
    ∃ guest, guest? world config = some guest ∧ Finds world invocation config guest ∧
      ((∃ failure notice, Bridge.start config guest = .error failure ∧
          openBridge world config = .error (notice, logsOf config failure.console)) ∨
        ∃ bridge, Bridge.start config guest = .ok bridge ∧
          openBridge world config = .ok bridge) := by
  cases file : world.read config.guest with
  | error fault =>
    obtain ⟨failure, closed⟩ : ∃ failure, openBridge world config = .error (failure, []) := by
      simp only [openBridge, file]
      exact ⟨_, rfl⟩
    exact .inl ⟨failure, closed, by simp only [guest?, file], .unread set file⟩
  | ok bytes =>
    cases compiled : world.compile bytes with
    | error error =>
      obtain ⟨failure, closed⟩ : ∃ failure, openBridge world config = .error (failure, []) := by
        simp only [openBridge, file, compiled]
        exact ⟨_, rfl⟩
      refine .inl ⟨failure, closed, ?_, .uncompiled set file compiled⟩
      simp only [guest?, file, compiled, Except.toOption]
    | ok guest =>
      have named : guest? world config = some guest := by
        simp only [guest?, file, compiled, Except.toOption]
      refine .inr ⟨guest, named, .found set file compiled, ?_⟩
      cases started : Bridge.start config guest with
      | error failure =>
        refine .inl ⟨failure, (Failure.ofError failure.error).within
          ("Failed to start guest " ++ config.guest), rfl, ?_⟩
        simp only [openBridge, file, compiled, started]
      | ok bridge => exact .inr ⟨bridge, rfl, by simp only [openBridge, file, compiled, started]⟩

/-- A run whose operand is well written opens a bridge and carries out its command with it. -/
theorem runCommand_of_wellWritten (set : settings world.env world.read invocation = .ok config)
    (written : invocation.command.WellWritten) :
    runCommand world invocation =
      match openBridge world config with
      | .error (failure, logs) => .fail logs failure
      | .ok bridge => invocation.command.carryOut config invocation.output
          (coloursOn world.env world.terminal) world.input bridge := by
  cases command : invocation.command with
  | repl | eval source =>
    cases opened : openBridge world config with
    | error closed => simp only [runCommand, set, command, opened]
    | ok bridge => simp only [runCommand, set, command, opened, Command.carryOut]
  | inspect text =>
    rw [command] at written
    obtain ⟨raw, parsed⟩ := written
    cases opened : openBridge world config with
    | error closed => simp only [runCommand, set, command, parsed, opened]
    | ok bridge => simp only [runCommand, set, command, parsed, opened, Command.carryOut]

/-- The ways of a run: it fails before it has a guest, the guest does not start, or the command is carried
out. -/
theorem runCommand_cases (world : World σ) (invocation : Invocation) :
    (∃ failure, runCommand world invocation = .fail [] failure ∧
      launch? world invocation = none ∧ Fails world invocation) ∨
    ∃ config guest, launch? world invocation = some (config, guest) ∧
      Finds world invocation config guest ∧ invocation.command.WellWritten ∧
      ((∃ failure notice, Bridge.start config guest = .error failure ∧
          runCommand world invocation = .fail (logsOf config failure.console) notice) ∨
        ∃ bridge, Bridge.start config guest = .ok bridge ∧
          runCommand world invocation = invocation.command.carryOut config invocation.output
            (coloursOn world.env world.terminal) world.input bridge) := by
  cases set : settings world.env world.read invocation with
  | error failure =>
    refine .inl ⟨failure, by simp only [runCommand, set], ?_, fails_of_settings set⟩
    simp only [launch?, set]
  | ok config =>
    by_cases written : invocation.command.WellWritten
    · have run := runCommand_of_wellWritten set written
      obtain ⟨failure, closed, nobody, fails⟩ | ⟨guest, named, finds, opened⟩ :=
        openBridge_cases set
      · refine .inl ⟨failure, by rw [run, closed], ?_, fails⟩
        simp only [launch?, set, nobody, Option.map_none, ite_self]
      · refine .inr ⟨config, guest, ?_, finds, written, ?_⟩
        · simp only [launch?, set, named, if_pos written, Option.map_some]
        · obtain ⟨failure, notice, failed, closed⟩ | ⟨bridge, started, opened⟩ := opened
          · exact .inl ⟨failure, notice, failed, by rw [run, closed]⟩
          · exact .inr ⟨bridge, started, by rw [run, opened]⟩
    · cases command : invocation.command with
      | repl | eval source =>
        rw [command] at written
        exact absurd trivial written
      | inspect text =>
        cases parsed : Word.parse text with
        | ok raw =>
          rw [command] at written
          exact absurd ⟨raw, parsed⟩ written
        | error bad =>
          refine .inl ⟨⟨bad.context, [bad.fault.text]⟩, ?_, ?_, .word command parsed⟩
          · simp only [runCommand, set, command, parsed]
          · simp only [launch?, set, if_neg written]

end Stages

/-! ### What comes out -/

theorem stdout_fail (logs : List LogEvent) (failure : Failure) :
    stdout (Outcome.fail logs failure).emissions = "" := by
  rw [stdout_eq, Outcome.fail, outLines_append, outLines_log]
  rfl

theorem logEvents_fail (logs : List LogEvent) (failure : Failure) :
    logEvents (Outcome.fail logs failure).emissions = logs := by
  rw [Outcome.fail, logEvents_append, logEvents_log]
  exact List.append_nil _

theorem stdout_reportOnce (config : Config) (format : OutputFormat) (colour : Bool)
    (result : Except Error Report × Bridge σ) :
    stdout (reportOnce config format colour result).emissions =
      shownText format colour (reportShown result) := by
  obtain ⟨answer, bridge⟩ := result
  cases answer with
  | error error => exact stdout_fail _ _
  | ok report =>
    rw [stdout_eq, reportOnce, outLines_append, outLines_log]
    rfl

theorem logEvents_reportOnce (config : Config) (format : OutputFormat) (colour : Bool)
    (result : Except Error Report × Bridge σ) :
    logEvents (reportOnce config format colour result).emissions =
      logsOf config result.2.inst.host.console := by
  obtain ⟨answer, bridge⟩ := result
  cases answer with
  | error error => exact logEvents_fail _ _
  | ok report =>
    rw [reportOnce, logEvents_append, logEvents_log]
    exact List.append_nil _

theorem inspectOnce_eq (bridge : Bridge σ) (raw : Word) :
    inspectOnce bridge raw =
      ((bridge.project raw).1.map fun value => ⟨none, none, raw, value⟩, (bridge.project raw).2) := by
  unfold inspectOnce
  cases bridge.project raw with
  | mk answer after => cases answer <;> rfl

theorem emissions_beginSession (config : Config) (bridge : Bridge σ) :
    (beginSession config bridge).1 = logged config bridge := by
  unfold logged logsOf
  rw [List.map_map]
  rfl

theorem stdout_carryOut (config : Config) (format : OutputFormat) (colour : Bool)
    (input : List UInt8) (bridge : Bridge σ) (command : Command) :
    stdout (command.carryOut config format colour input bridge).emissions =
      shownText format colour (command.shown config format colour input bridge) := by
  cases command with
  | eval source => exact stdout_reportOnce config format colour _
  | inspect text =>
    simp only [Command.carryOut, Command.shown]
    cases Word.parse text with
    | error bad => exact stdout_fail _ _
    | ok raw => exact stdout_reportOnce config format colour _
  | repl =>
    simp only [Command.carryOut, Command.shown]
    rw [stdout_eq, outLines_append, emissions_beginSession, logged, outLines_log, List.nil_append,
      ← stdout_eq, stdout_answerLines, printed_exchanges]
    rfl

section Commands

variable {config : Config} {guest : Guest σ} {bridge : Bridge σ}

theorem logEvents_carryOut (started : Bridge.start config guest = .ok bridge)
    (format : OutputFormat) (colour : Bool) (input : List UInt8) {command : Command}
    (written : command.WellWritten) :
    logEvents (command.carryOut config format colour input bridge).emissions =
      eventsOf config (Bridge.bootCalls config guest ++
        command.calls config format colour input bridge) := by
  have bound := Bridge.binding_of_start started
  have boot := Bridge.records_of_bootCalls config guest
  rw [started] at boot
  have whole {made : List (Made σ)} {last : Bridge σ} (ran : bridge.inst.Ran made last.inst) :
      logsOf config last.inst.host.console =
        eventsOf config (Bridge.bootCalls config guest ++ made) := by
    apply logsOf_of_records
    rw [(ran.accounts bound).records, List.filterMap_append, ← boot]
    rfl
  cases command with
  | eval source =>
    simp only [Command.carryOut, Command.calls]
    rw [logEvents_reportOnce, evaluateOnce_eq]
    exact whole (bridge.ran_turn source)
  | inspect text =>
    obtain ⟨raw, parsed⟩ := written
    simp only [Command.carryOut, Command.calls, parsed]
    have ran : bridge.inst.Ran (bridge.made (.project raw)) (bridge.project raw).2.inst :=
      bridge.ran_perform Bridge.Operation.noConfusion
    rw [logEvents_reportOnce, inspectOnce_eq]
    exact whole ran
  | repl =>
    simp only [Command.carryOut, Command.calls]
    rw [logEvents_append, emissions_beginSession, logged, logEvents_log, emissions_answerLines,
      (Attentive.begin started).run, eventsOf_append]
    have first : logsOf config bridge.inst.host.console =
        eventsOf config (Bridge.bootCalls config guest) := logsOf_of_records config boot
    rw [first]

end Commands

/-! ### Runs that make one report -/

section Once

variable {world : World σ} {invocation : Invocation}

theorem Finds.unique {config config' : Config} {guest guest' : Guest σ}
    (finds : Finds world invocation config guest) (again : Finds world invocation config' guest') :
    config' = config ∧ guest' = guest := by
  obtain ⟨set, file, compiled⟩ := finds
  obtain ⟨set', file', compiled'⟩ := again
  cases set.symm.trans set'
  cases file.symm.trans file'
  cases compiled.symm.trans compiled'
  exact ⟨rfl, rfl⟩

/-- How a run that makes one report ends: with the report, or at the stage where it fails. -/
theorem once_cases (world : World σ) {invocation : Invocation}
    (once : invocation.command ≠ .repl) :
    (∃ report, Reports world invocation report ∧ (runCommand world invocation).code = 0 ∧
      runShown world invocation = [.report report]) ∨
    (Fails world invocation ∧ (runCommand world invocation).code = 1 ∧
      runShown world invocation = []) := by
  obtain ⟨failure, run, closed, fails⟩ | ⟨config, guest, launched, finds, written, opened⟩ :=
    runCommand_cases world invocation
  · exact .inr ⟨fails, by rw [run]; rfl, by simp only [runShown, closed]⟩
  obtain ⟨failure, notice, failed, run⟩ | ⟨bridge, started, run⟩ := opened
  · exact .inr ⟨.unstarted finds failed, by rw [run]; rfl,
      by simp only [runShown, launched, failed]⟩
  have shown : runShown world invocation = invocation.command.shown config invocation.output
      (coloursOn world.env world.terminal) world.input bridge := by
    simp only [runShown, launched, started]
  rw [run, shown]
  cases command : invocation.command with
  | repl => exact absurd command once
  | eval source =>
    obtain ⟨operations, takes, -⟩ := bridge.exists_takes source
    simp only [Command.carryOut, Command.shown, evaluateOnce_eq]
    cases turned : (bridge.turn source).1 with
    | ok turn =>
      rw [turned] at takes
      exact .inl ⟨turn.report, .eval command finds started takes, rfl, rfl⟩
    | error e =>
      rw [turned] at takes
      exact .inr ⟨.unevaluated command finds started takes, rfl, rfl⟩
  | inspect text =>
    rw [command] at written
    obtain ⟨raw, parsed⟩ := written
    simp only [Command.carryOut, Command.shown, parsed, inspectOnce_eq]
    cases decoded : (bridge.project raw).1 with
    | ok value => exact .inl ⟨_, .inspect command parsed finds started decoded, rfl, rfl⟩
    | error e => exact .inr ⟨.undecoded command parsed finds started decoded, rfl, rfl⟩

theorem not_fails_of_reports {report : Report} (reports : Reports world invocation report) :
    ¬ Fails world invocation := by
  obtain ⟨config, guest, bridge, finds, started⟩ : ∃ config guest bridge,
      Finds world invocation config guest ∧ Bridge.start config guest = .ok bridge := by
    cases reports with
    | eval _ finds started | inspect _ _ finds started => exact ⟨_, _, _, finds, started⟩
  have settled {config' : Config} {guest' : Guest σ} {bridge' : Bridge σ}
      (again : Finds world invocation config' guest')
      (restarted : Bridge.start config' guest' = .ok bridge') : bridge' = bridge := by
    obtain ⟨rfl, rfl⟩ := finds.unique again
    exact Except.ok.inj (restarted.symm.trans started)
  rintro (⟨path, unloaded⟩ | ⟨command, malformed⟩ | ⟨set, unread⟩ | ⟨set, file, uncompiled⟩ |
    ⟨again, unstarted⟩ | ⟨command, again, restarted, takes⟩ |
    ⟨command, parsed, again, restarted, undecoded⟩)
  · obtain ⟨set, -, -⟩ := finds
    simp [settings, path, unloaded, bind, Except.bind] at set
  · cases reports with
    | eval asked => rw [command] at asked; cases asked
    | inspect asked parsed =>
      cases command.symm.trans asked
      cases malformed.symm.trans parsed
  · obtain ⟨set', file, -⟩ := finds
    cases set.symm.trans set'
    cases unread.symm.trans file
  · obtain ⟨set', file', compiled⟩ := finds
    cases set.symm.trans set'
    cases file.symm.trans file'
    cases uncompiled.symm.trans compiled
  · obtain ⟨rfl, rfl⟩ := finds.unique again
    cases unstarted.symm.trans started
  · cases settled again restarted
    cases reports with
    | inspect asked => rw [command] at asked; cases asked
    | eval asked others restarted' succeeded =>
      cases command.symm.trans asked
      cases settled others restarted'
      cases (Bridge.turn_of_takes takes).symm.trans (Bridge.turn_of_takes succeeded)
  · cases settled again restarted
    cases reports with
    | eval asked => rw [command] at asked; cases asked
    | inspect asked parsed' others restarted' decoded =>
      cases command.symm.trans asked
      cases parsed.symm.trans parsed'
      cases settled others restarted'
      cases undecoded.symm.trans decoded

end Once

theorem code_of_repl {world : World σ} {invocation : Invocation}
    (session : invocation.command = .repl) {text : String}
    (input : world.input = Text.Utf8.encode text) {config : Config} {guest : Guest σ}
    {bridge : Bridge σ} (finds : Finds world invocation config guest)
    (started : Bridge.start config guest = .ok bridge) :
    (runCommand world invocation).code = 0 := by
  obtain ⟨set, file, compiled⟩ := finds
  have opened : openBridge world config = .ok bridge := by
    simp only [openBridge, file, compiled, started]
  have written : invocation.command.WellWritten := by
    rw [session]
    trivial
  have texts := exists_encode_of_mem_inputLines text
  rw [← input] at texts
  rw [runCommand_of_wellWritten set written, opened, session]
  exact code_answerLines texts _

theorem logEvents_runCommand {world : World σ} {invocation : Invocation} {config : Config}
    (set : settings world.env world.read invocation = .ok config) :
    logEvents (runCommand world invocation).emissions =
      eventsOf config (runCalls world invocation) := by
  obtain ⟨failure, run, closed, -⟩ | ⟨config', guest, launched, finds, written, opened⟩ :=
    runCommand_cases world invocation
  · simp only [run, runCalls, closed]
    exact logEvents_fail [] failure
  obtain ⟨set', -, -⟩ := finds
  cases set.symm.trans set'
  obtain ⟨failure, notice, failed, run⟩ | ⟨bridge, started, run⟩ := opened
  · have boot := Bridge.records_of_bootCalls config guest
    rw [failed] at boot
    simp only [run, runCalls, launched, failed, List.append_nil]
    rw [logEvents_fail]
    exact logsOf_of_records config boot
  · simp only [run, runCalls, launched, started]
    exact logEvents_carryOut started _ _ _ written

theorem stdout_runCommand (world : World σ) (invocation : Invocation) :
    stdout (runCommand world invocation).emissions =
      shownText invocation.output (coloursOn world.env world.terminal)
        (runShown world invocation) := by
  obtain ⟨failure, run, closed, -⟩ | ⟨config, guest, launched, -, -, opened⟩ :=
    runCommand_cases world invocation
  · simp only [run, runShown, closed]
    exact stdout_fail [] failure
  obtain ⟨failure, notice, failed, run⟩ | ⟨bridge, started, run⟩ := opened
  · simp only [run, runShown, launched, failed]
    exact stdout_fail _ notice
  · simp only [run, runShown, launched, started]
    exact stdout_carryOut config _ _ _ bridge _

theorem level_of_logs {decoding : TextDecoding} {made : Made σ} {event : LogEvent}
    (logs : made.Logs decoding event) : event.level = .info ∨ event.level = .warn := by
  obtain ⟨-, -, -, ⟨-, rfl⟩ | ⟨-, rfl⟩, -⟩ := logs
  · exact .inl rfl
  · exact .inr rfl

theorem shows_of_default (verbose : Bool) {event : LogEvent}
    (level : event.level = .info ∨ event.level = .warn) :
    (LogFilter.default verbose).shows event = true := by
  rcases level with level | level <;> cases verbose <;>
    simp [LogFilter.shows, LogFilter.default, level] <;> decide

theorem run_of_parse {world : World σ} {invocation : Invocation}
    (valid : Invocation.parse world.env world.args = .ok invocation) :
    run world = runCommand world invocation := by
  simp only [run, valid]

def silentGuest : Guest Unit :=
  { greetingGuest with exports := greetingGuest.exports.map fun
      | ("_initialize", _) => ("_initialize", .func ⟨[], [], fun _ => .done []⟩)
      | ("wisp_eval", _) => ("wisp_eval", .func ⟨[.i32], [.i32], fun _ => .done [0]⟩)
      | other => other }

/-- A command line that evaluates a source, in a world with some guest. -/
def greetingCall (guest : Guest Unit) : World Unit :=
  { greetingWorld with
    args := ["eval", "(hello)"]
    compile := fun _ => .ok guest }

end LispHost.Cli
