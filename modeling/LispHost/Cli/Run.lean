import LispHost.Cli.Arguments
import LispHost.Cli.LogFilter
import LispHost.Config.Load
import LispHost.Session
import LispHost.Word.Reader

/-!
Whole runs of the program: what it prints and how it ends.

A run is a function of the command line, the environment, the files and the standard input. What the
guest writes to its console becomes log events and never reaches the standard output.
-/

set_option autoImplicit false

namespace LispHost.Cli

structure World (σ : Type) where
  args : List String
  env : Config.Environment
  read : String → Except FileFault (List UInt8)
  compile : List UInt8 → Except Error (Guest σ)
  input : List UInt8
  terminal : Bool

inductive Emission where
  | out (line : String)
  | err (text : String)
  | log (event : LogEvent)
  deriving DecidableEq, Repr

structure Outcome where
  code : Nat
  emissions : List Emission
  deriving DecidableEq, Repr

/-- A failure that ends a run: what failed, and why, from the nearest cause on. -/
structure Failure where
  head : String
  causes : List String
  deriving DecidableEq, Repr

namespace Failure

def indentLines (blanks : Nat) (s : String) : String :=
  String.ofList (s.toList.flatMap fun c =>
    if c = '\n' then '\n' :: List.replicate blanks ' ' else [c])

/-- The lines of the causes; several are numbered. -/
def causesText : List String → String
  | [] => ""
  | [cause] => "\n\nCaused by:\n    " ++ indentLines 4 cause
  | causes => "\n\nCaused by:" ++ String.join (causes.zipIdx.map fun (cause, index) =>
      "\n    " ++ decimalText index ++ ": " ++ indentLines 7 cause)

def text (failure : Failure) : String :=
  "Error: " ++ failure.head ++ causesText failure.causes ++ "\n"

def ofError (error : Error) : Failure :=
  match error with
  | .file fault => ⟨error.message, [fault.text]⟩
  | error => ⟨error.message, []⟩

def within (failure : Failure) (head : String) : Failure :=
  ⟨head, failure.head :: failure.causes⟩

end Failure

def Outcome.fail (logs : List LogEvent) (failure : Failure) : Outcome :=
  ⟨1, logs.map .log ++ [.err failure.text]⟩

/-- Whether colours are on: they can be forced, and otherwise need a terminal and nobody against. -/
def coloursOn (env : Config.Environment) (terminal : Bool) : Bool :=
  if (env.value? "CLICOLOR_FORCE").any (· ≠ "0") then true
  else if (env.value? "NO_COLOR").isSome then false
  else terminal && (env.value? "CLICOLOR").all (· ≠ "0")

/-- The settings of a command: those of its file, with the guest that was asked for. -/
def settings (env : Config.Environment) (read : String → Except FileFault (List UInt8))
    (invocation : Invocation) : Except Failure Config := do
  let config ← match invocation.config with
    | none => pure Config.default
    | some path =>
      match Config.load env read path with
      | .ok config => pure config
      | .error error =>
        throw ((Failure.ofError error.toError).within ("Failed to load config " ++ path))
  return { config with guest := invocation.guest.getD config.guest }

def logsOf (config : Config) (console : Console) : List LogEvent :=
  console.records.map (Record.event config.syscalls.consoleEncoding)

/-- A bridge to the guest of the settings; a failure comes with the events before it. -/
def openBridge {σ : Type} (world : World σ) (config : Config) :
    Except (Failure × List LogEvent) (Bridge σ) :=
  match world.read config.guest with
  | .error fault => .error (⟨"Failed to read guest " ++ config.guest, [fault.text]⟩, [])
  | .ok bytes =>
    let head := "Failed to start guest " ++ config.guest
    match world.compile bytes with
    | .error error => .error ((Failure.ofError error).within head, [])
    | .ok guest =>
      match Bridge.start config guest with
      | .error failure =>
        .error ((Failure.ofError failure.error).within head, logsOf config failure.console)
      | .ok bridge => .ok bridge

def evaluateOnce {σ : Type} (bridge : Bridge σ) (source : String) :
    Except Error Report × Bridge σ :=
  match bridge.read source with
  | (.error e, bridge) => (.error e, bridge)
  | (.ok exp, bridge) =>
    match bridge.project exp with
    | (.error e, bridge) => (.error e, bridge)
    | (.ok expression, bridge) =>
      match bridge.eval exp with
      | (.error e, bridge) => (.error e, bridge)
      | (.ok raw, bridge) =>
        match bridge.project raw with
        | (.error e, bridge) => (.error e, bridge)
        | (.ok value, bridge) => (.ok ⟨some source, some expression, raw, value⟩, bridge)

def inspectOnce {σ : Type} (bridge : Bridge σ) (raw : Word) : Except Error Report × Bridge σ :=
  match bridge.project raw with
  | (.error e, bridge) => (.error e, bridge)
  | (.ok value, bridge) => (.ok ⟨none, none, raw, value⟩, bridge)

def reportOnce {σ : Type} (config : Config) (format : OutputFormat) (colour : Bool) :
    Except Error Report × Bridge σ → Outcome
  | (.ok report, bridge) =>
    ⟨0, (logsOf config bridge.inst.host.console).map .log ++ [.out (report.print format colour)]⟩
  | (.error error, bridge) =>
    .fail (logsOf config bridge.inst.host.console) (.ofError error)

/-! ### Sessions -/

/-- The lines of an input, each with the line break that ends it. -/
def inputLines : List UInt8 → List (List UInt8)
  | [] => []
  | b :: rest =>
    if b = 10 then [b] :: inputLines rest
    else match inputLines rest with
      | line :: lines => (b :: line) :: lines
      | [] => [[b]]

inductive Progress where
  | goesOn
  | ended
  | failed (failure : Failure)
  deriving DecidableEq, Repr

/-- Answer one line of the input; also gives what it emits, the guest's events first. -/
def answerLine {σ : Type} (config : Config) (format : OutputFormat) (colour : Bool)
    (line : List UInt8) (session : Session σ) : List Emission × Progress × Session σ :=
  match Text.Utf8.decode? line with
  | none =>
    let defect := ((Text.Utf8.defect? line).map Text.Utf8.Defect.message).getD ""
    ([], .failed ⟨defect, []⟩, session)
  | some text =>
    let (reply, session) := session.answer (.ofLine text)
    let (records, bridge) := session.bridge.takeConsole
    let logs := records.map fun record => Emission.log (record.event config.syscalls.consoleEncoding)
    let printed := (reply.lines format colour).map Emission.out
    let complaint := ((reply.complaint? colour).map fun s => Emission.err (s ++ "\n")).toList
    (logs ++ printed ++ complaint, if reply.goesOn then .goesOn else .ended, { session with bridge })

def answerLines {σ : Type} (config : Config) (format : OutputFormat) (colour : Bool) :
    List (List UInt8) → Session σ → Outcome
  | [], _ => ⟨0, []⟩
  | line :: rest, session =>
    match answerLine config format colour line session with
    | (emitted, .goesOn, session) =>
      let outcome := answerLines config format colour rest session
      { outcome with emissions := emitted ++ outcome.emissions }
    | (emitted, .ended, _) => ⟨0, emitted⟩
    | (emitted, .failed failure, _) => ⟨1, emitted ++ [.err failure.text]⟩

/-- A session from its start on: the events of the start come first. -/
def beginSession {σ : Type} (config : Config) (bridge : Bridge σ) : List Emission × Session σ :=
  let (records, bridge) := bridge.takeConsole
  (records.map fun record => Emission.log (record.event config.syscalls.consoleEncoding),
    .start bridge)

/-! ### Runs -/

def runCommand {σ : Type} (world : World σ) (invocation : Invocation) : Outcome :=
  let colour := coloursOn world.env world.terminal
  let format := invocation.output
  match settings world.env world.read invocation with
  | .error failure => .fail [] failure
  | .ok config =>
    match invocation.command with
    | .repl =>
      match openBridge world config with
      | .error (failure, logs) => .fail logs failure
      | .ok bridge =>
        let (emitted, session) := beginSession config bridge
        let outcome := answerLines config format colour (inputLines world.input) session
        { outcome with emissions := emitted ++ outcome.emissions }
    | .eval source =>
      match openBridge world config with
      | .error (failure, logs) => .fail logs failure
      | .ok bridge => reportOnce config format colour (evaluateOnce bridge source)
    | .inspect text =>
      match Word.parse text with
      | .error bad => .fail [] ⟨bad.context, [bad.fault.text]⟩
      | .ok raw =>
        match openBridge world config with
        | .error (failure, logs) => .fail logs failure
        | .ok bridge => reportOnce config format colour (inspectOnce bridge raw)

def helpText : String :=
  "Usage: wisp [-v] [-o text|json] [-c CONFIG] [--guest GUEST] <repl|eval SOURCE|inspect RAW>"

def Stop.outcome : Stop → Outcome
  | usage => ⟨2, [.err (helpText ++ "\n")]⟩
  | help => ⟨0, [.out helpText]⟩
  | version name => ⟨0, [.out (name ++ " " ++ programVersion)]⟩

def run {σ : Type} (world : World σ) : Outcome :=
  match Invocation.parse world.env world.args with
  | .error stop => stop.outcome
  | .ok invocation => runCommand world invocation

def filterOf {σ : Type} (world : World σ) : LogFilter :=
  match Invocation.parse world.env world.args with
  | .error _ => .default false
  | .ok invocation => .ofEnvironment world.env invocation.verbose

def stdout (emissions : List Emission) : String :=
  String.join (emissions.map fun
    | .out line => line ++ "\n"
    | _ => "")

def stderr (filter : LogFilter) (emissions : List Emission) : String :=
  String.join (emissions.map fun
    | .err text => text
    | .log event => if filter.shows event then logLine event ++ "\n" else ""
    | .out _ => "")

end LispHost.Cli
