import LispHost.Bridge
import LispHost.Report
import LispHost.Text.Blank

/-!
Interactive sessions: lines that a guest reads, evaluates and shows, one after the other.

A line is a source or a command to the session itself. A source that the guest takes through all four
steps becomes a turn of the history; one that fails leaves no trace there. The session ends with the
command to quit, or when the guest exits.
-/

set_option autoImplicit false

namespace LispHost

inductive Request where
  | nothing
  | quit
  | history
  | source (text : String)
  deriving DecidableEq, Repr

/-- The request that a line is; white space around it does not count. -/
def Request.ofLine (line : String) : Request :=
  match Text.trim line with
  | "" => nothing
  | ":quit" => quit
  | ":q" => quit
  | ":history" => history
  | text => source text

/-- Read a source, decode what was read, evaluate it and decode the value. -/
def Bridge.turn {σ : Type} (bridge : Bridge σ) (source : String) : Except Error Turn × Bridge σ :=
  match bridge.read source with
  | (.error e, bridge) => (.error e, bridge)
  | (.ok exp, bridge) =>
    match bridge.project exp with
    | (.error e, bridge) => (.error e, bridge)
    | (.ok expression, bridge) =>
      match bridge.eval exp with
      | (.error e, bridge) => (.error e, bridge)
      | (.ok raw, bridge) =>
        match bridge.project raw with
        | (.error e, bridge) => (.error e, bridge)
        | (.ok value, bridge) => (.ok ⟨source, exp, expression, raw, value⟩, bridge)

/-- A session: its guest, and the turns so far. -/
structure Session (σ : Type) where
  bridge : Bridge σ
  history : List Turn

inductive Reply where
  | nothing
  | quit
  | history (turns : List Turn)
  | turn (index : Nat) (turn : Turn)
  | failed (error : Error)
  | exited (code : Int32)
  deriving DecidableEq, Repr

namespace Reply

def goesOn : Reply → Bool
  | quit => false
  | exited _ => false
  | _ => true

def lines (format : OutputFormat) (colour : Bool) : Reply → List String
  | history turns => turns.zipIdx.map fun (t, index) => t.line colour index
  | turn index t =>
    match format with
    | .text => [t.line colour index]
    | .json => [t.report.toJson.compact]
  | _ => []

def complaint? (colour : Bool) : Reply → Option String
  | failed error =>
    some (Terminal.Span.render colour ⟨.redBold, "error:"⟩ ++ " " ++ error.message)
  | _ => none

end Reply

namespace Session

variable {σ : Type}

def start (bridge : Bridge σ) : Session σ :=
  ⟨bridge, []⟩

def evaluate (session : Session σ) (source : String) : Reply × Session σ :=
  match session.bridge.turn source with
  | (.ok turn, bridge) => (.turn session.history.length turn, ⟨bridge, session.history ++ [turn]⟩)
  | (.error (.guestExit code), bridge) => (.exited code, { session with bridge })
  | (.error error, bridge) => (.failed error, { session with bridge })

def answer (session : Session σ) : Request → Reply × Session σ
  | .nothing => (.nothing, session)
  | .quit => (.quit, session)
  | .history => (.history session.history, session)
  | .source text => session.evaluate text

def run (session : Session σ) : List Request → List Reply × Session σ
  | [] => ([], session)
  | request :: rest =>
    let (reply, session) := session.answer request
    if reply.goesOn then
      let (replies, session) := session.run rest
      (reply :: replies, session)
    else ([reply], session)

end Session

end LispHost
