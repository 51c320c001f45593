import LispHost.Config.Substitution
import LispHost.Report

/-!
The command line: options that hold everywhere, and one command.

Options may stand before and after the command, and of two settings of one option the one after it
counts. Short options may be joined, and a value may follow its option at once, after an equals sign, or
as the next argument. Two dashes end the options of a command.
-/

set_option autoImplicit false

namespace LispHost.Cli

inductive Command where
  | repl
  | eval (source : String)
  | inspect (raw : String)
  deriving DecidableEq, Repr

structure Invocation where
  verbose : Bool
  output : OutputFormat
  config : Option String
  guest : Option String
  command : Command
  deriving DecidableEq, Repr

inductive Stop where
  | usage
  | help
  | version (name : String)
  deriving DecidableEq, Repr

inductive ValueOption where
  | output
  | config
  | guest
  deriving DecidableEq, Repr

/-- The options and the operands on one side of the command. -/
structure Level where
  verbose : Bool
  output : Option OutputFormat
  config : Option String
  guest : Option String
  operands : List String
  deriving DecidableEq, Repr

namespace Level

def empty : Level :=
  ⟨false, none, none, none, []⟩

/-- Switch to many log lines; once only. -/
def setVerbose (level : Level) : Except Stop Level :=
  if level.verbose then .error .usage else .ok { level with verbose := true }

/-- Give an option its value; once only, and a path may not be empty. -/
def set (level : Level) (option : ValueOption) (value : String) : Except Stop Level :=
  match option with
  | .output =>
    match level.output, OutputFormat.ofName? value with
    | none, some format => .ok { level with output := some format }
    | _, _ => .error .usage
  | .config =>
    if level.config.isSome || value.isEmpty then .error .usage
    else .ok { level with config := some value }
  | .guest =>
    if level.guest.isSome || value.isEmpty then .error .usage
    else .ok { level with guest := some value }

def add (most : Nat) (level : Level) (operand : String) : Except Stop Level :=
  if level.operands.length < most then
    .ok { level with operands := level.operands ++ [operand] }
  else .error .usage

end Level

def ValueOption.ofLetter? : Char → Option ValueOption
  | 'o' => some .output
  | 'c' => some .config
  | _ => none

def ValueOption.ofName? : String → Option ValueOption
  | "output" => some .output
  | "config" => some .config
  | "guest" => some .guest
  | _ => none

/-- Read joined short options; the last may still wait for its value. -/
def readShort (name : String) : List Char → Level → Except Stop (Level × Option ValueOption)
  | [], level => .ok (level, none)
  | c :: rest, level =>
    match ValueOption.ofLetter? c with
    | some option =>
      match rest with
      | [] => .ok (level, some option)
      | '=' :: value => (level.set option (String.ofList value)).map fun level => (level, none)
      | value => (level.set option (String.ofList value)).map fun level => (level, none)
    | none =>
      if c = 'v' then level.setVerbose.bind (readShort name rest)
      else if c = 'h' then .error .help
      else if c = 'V' then .error (.version name)
      else .error .usage

/-- Read a long option, its dashes left out; it may still wait for its value. -/
def readLong (name : String) (body : List Char) (level : Level) :
    Except Stop (Level × Option ValueOption) :=
  let word := String.ofList (body.takeWhile (· ≠ '='))
  match ValueOption.ofName? word, body.dropWhile (· ≠ '=') with
  | some option, [] => .ok (level, some option)
  | some option, _ :: value => (level.set option (String.ofList value)).map fun level => (level, none)
  | none, _ :: _ => .error .usage
  | none, [] =>
    match word with
    | "verbose" => level.setVerbose.map fun level => (level, none)
    | "help" => .error .help
    | "version" => .error (.version name)
    | _ => .error .usage

def isOption (arg : List Char) : Bool :=
  match arg with
  | '-' :: _ :: _ => true
  | _ => false

/-- Read the arguments of a command with at most so many operands, while an option may wait for its
value. -/
def readOperands (name : String) (most : Nat) :
    Option ValueOption → Level → List String → Except Stop Level
  | none, level, [] => .ok level
  | some _, _, [] => .error .usage
  | some option, level, arg :: rest =>
    if isOption arg.toList then .error .usage
    else (level.set option arg).bind fun level => readOperands name most none level rest
  | none, level, arg :: rest =>
    match arg.toList with
    | ['-', '-'] => rest.foldlM (Level.add most) level
    | '-' :: '-' :: body =>
      (readLong name body level).bind fun (level, waiting) =>
        readOperands name most waiting level rest
    | '-' :: c :: body =>
      (readShort name (c :: body) level).bind fun (level, waiting) =>
        readOperands name most waiting level rest
    | _ => (level.add most arg).bind fun level => readOperands name most none level rest

def programName : String := "wisp"

def programVersion : String := "0.1.0"

def commands : List (String × Nat) := [("repl", 0), ("eval", 1), ("inspect", 1)]

def Command.ofOperands? : String → List String → Option Command
  | "repl", [] => some .repl
  | "eval", [source] => some (.eval source)
  | "inspect", [raw] => some (.inspect raw)
  | _, _ => none

def readLevels : Option ValueOption → Level → List String → Except Stop (Level × Level × Command)
  | _, _, [] => .error .usage
  | some option, level, arg :: rest =>
    if isOption arg.toList then .error .usage
    else (level.set option arg).bind fun level => readLevels none level rest
  | none, level, arg :: rest =>
    match arg.toList with
    | ['-', '-'] => .error .usage
    | '-' :: '-' :: body =>
      (readLong programName body level).bind fun (level, waiting) => readLevels waiting level rest
    | '-' :: c :: body =>
      (readShort programName (c :: body) level).bind fun (level, waiting) =>
        readLevels waiting level rest
    | _ =>
      if arg = "help" then
        let isKnown := rest.all fun name => name = "help" || (commands.lookup name).isSome
        .error (if isKnown && rest.length ≤ 1 then .help else .usage)
      else
        match commands.lookup arg with
        | none => .error .usage
        | some most => do
          let inner ← readOperands (programName ++ "-" ++ arg) most none .empty rest
          match Command.ofOperands? arg inner.operands with
          | some command => return (level, inner, command)
          | none => throw .usage

def guestVariable : String := "WISP_GUEST"

/-- The guest that options and the environment name; an empty variable is refused wherever it would be
looked at. -/
def chooseGuest (env : Config.Environment) (outer inner : Level) : Except Stop (Option String) :=
  match inner.guest, outer.guest, env.value? guestVariable with
  | some path, some _, _ => .ok (some path)
  | _, _, some "" => .error .usage
  | some path, none, _ => .ok (some path)
  | none, some path, _ => .ok (some path)
  | none, none, path? => .ok path?

def Invocation.parse (env : Config.Environment) (args : List String) : Except Stop Invocation := do
  let (outer, inner, command) ← readLevels none .empty args
  let guest ← chooseGuest env outer inner
  return {
    verbose := outer.verbose || inner.verbose
    output := (inner.output <|> outer.output).getD .default
    config := inner.config <|> outer.config
    guest, command }

end LispHost.Cli
