import LispHost.Projection.Json
import LispHost.Projection.Terminal

/-!
Reports: what the program prints about a value, as text or as JSON.

A report names the source and what was read from it, where there was a source, and the raw word and
projection of the value. A turn of a session keeps the same facts, and its line shows its number, what
was read and what came of it.
-/

set_option autoImplicit false

namespace LispHost

inductive OutputFormat where
  | text
  | json
  deriving DecidableEq, Repr

namespace OutputFormat

def default : OutputFormat := text

def name : OutputFormat → String
  | text => "text"
  | json => "json"

def ofName? : String → Option OutputFormat
  | "text" => some text
  | "json" => some json
  | _ => none

end OutputFormat

structure Report where
  source : Option String
  expression : Option Projection
  raw : Word
  value : Projection
  deriving DecidableEq, Repr

/-- The JSON form of a report; absent parts have no field. -/
def Report.toJson (report : Report) : Json :=
  .object <|
    (report.source.map fun source => ("source", Json.string source)).toList ++
    (report.expression.map fun expression => ("expression", expression.toJson)).toList ++
    [("raw", .word report.raw), ("value", report.value.toJson)]

def Report.print (format : OutputFormat) (colour : Bool) (report : Report) : String :=
  match format with
  | .text => report.value.render colour
  | .json => report.toJson.pretty

/-- One read, evaluated and decoded line of a session. -/
structure Turn where
  source : String
  exp : Word
  expression : Projection
  raw : Word
  value : Projection
  deriving DecidableEq, Repr

namespace Turn

def report (turn : Turn) : Report :=
  ⟨some turn.source, some turn.expression, turn.raw, turn.value⟩

/-- The line of a turn: its number, what was read, and its value. -/
def line (colour : Bool) (index : Nat) (turn : Turn) : String :=
  Terminal.Span.render colour ⟨.dimmed, decimalText index⟩ ++ "  " ++
    turn.expression.render colour ++ " ↦ " ++ turn.value.render colour

end Turn

end LispHost
