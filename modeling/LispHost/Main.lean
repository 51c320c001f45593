import LispHost.Cli.Run
import LispHost.Guest.Script.Reader

/-!
The program itself: it reads files and lines, and prints what a run emits.
-/

set_option autoImplicit false

namespace LispHost.Cli

def faultOf : IO.Error → FileFault
  | .inappropriateType .. => .isDirectory
  | _ => .notFound

def fetch (path : String) : IO (Except FileFault (List UInt8)) := do
  try
    return .ok (← IO.FS.readBinFile path).toList
  catch error => return .error (faultOf error)

/-- The parts of a byte string that zeros end. -/
def zeroEnded : List UInt8 → List (List UInt8)
  | [] => []
  | b :: rest =>
    if b = 0 then [] :: zeroEnded rest
    else match zeroEnded rest with
      | part :: parts => (b :: part) :: parts
      | [] => [[b]]

def setting? (bytes : List UInt8) : Option (String × String) := do
  let text ← Text.Utf8.decode? bytes
  let name := text.toList.takeWhile (· ≠ '=')
  return (String.ofList name, String.ofList (text.toList.drop (name.length + 1)))

def currentEnvironment : IO Config.Environment := do
  match ← fetch "/proc/self/environ" with
  | .ok bytes => return (zeroEnded bytes).filterMap setting?
  | .error _ => return []

def emit (filter : LogFilter) (emissions : List Emission) : IO Unit := do
  let out ← IO.getStdout
  let err ← IO.getStderr
  out.putStr (stdout emissions)
  out.flush
  err.putStr (stderr filter emissions)
  err.flush

partial def nextLine (stream : IO.FS.Stream) (before : List UInt8) : IO (List UInt8) := do
  match (← stream.read 1).toList with
  | [] => return before.reverse
  | b :: _ => if b = 10 then return (b :: before).reverse else nextLine stream (b :: before)

partial def converse {σ : Type} (filter : LogFilter) (answer : List UInt8 → Session σ →
    List Emission × Progress × Session σ) (stream : IO.FS.Stream) (session : Session σ) :
    IO UInt32 := do
  let line ← nextLine stream []
  if line.isEmpty then return 0
  match answer line session with
  | (emitted, .goesOn, session) =>
    emit filter emitted
    converse filter answer stream session
  | (emitted, .ended, _) =>
    emit filter emitted
    return 0
  | (emitted, .failed failure, _) =>
    emit filter (emitted ++ [.err failure.text])
    return 1

def perform (args : List String) (env : Config.Environment) (invocation : Invocation) :
    IO UInt32 := do
  let filter := LogFilter.ofEnvironment env invocation.verbose
  let configFile ← match invocation.config with
    | some path => fetch path
    | none => pure (.error .notFound)
  let loaded := settings env (fun _ => configFile) invocation
  let guestPath := loaded.toOption.map Config.guest
  let guestFile ← match guestPath with
    | some path => fetch path
    | none => pure (.error .notFound)
  let terminal ← (← IO.getStdout).isTty
  let world : World Script.Globals := {
    args, env, terminal
    read := fun path => if guestPath = some path then guestFile else configFile
    compile := fun bytes => (Script.Image.ofBytes bytes).guest
    input := [] }
  let finish (outcome : Outcome) : IO UInt32 := do
    emit filter outcome.emissions
    return UInt32.ofNat outcome.code
  match invocation.command, loaded with
  | .repl, .ok config =>
    match openBridge world config with
    | .error (failure, logs) => finish (.fail logs failure)
    | .ok bridge =>
      let (emitted, session) := beginSession config bridge
      emit filter emitted
      let answer := answerLine config invocation.output (coloursOn env terminal)
      converse filter answer (← IO.getStdin) session
  | _, _ => finish (run world)

end LispHost.Cli

open LispHost.Cli in
def main (args : List String) : IO UInt32 := do
  let env ← currentEnvironment
  match Invocation.parse env args with
  | .error stop =>
    emit (.default false) stop.outcome.emissions
    return UInt32.ofNat stop.outcome.code
  | .ok invocation => perform args env invocation
