import LispHost.Text.Utf8

/-!
The console: what the guest writes to its two output streams.

Each successful write is one record. Records are kept in order until they are taken; as log events,
standard output is information and standard error a warning, decoded to text and without one trailing
line break.
-/

set_option autoImplicit false

namespace LispHost

inductive Stream where
  | stdout
  | stderr
  deriving DecidableEq, Repr

namespace Stream

def ofDescriptor? (fd : UInt32) : Option Stream :=
  if fd = 1 then some stdout else if fd = 2 then some stderr else none

def name : Stream → String
  | stdout => "stdout"
  | stderr => "stderr"

def ofName? : String → Option Stream
  | "stdout" => some stdout
  | "stderr" => some stderr
  | _ => none

end Stream

inductive TextDecoding where
  | latin1
  /-- UTF-8, each malformed piece replaced. -/
  | utf8Lossy
  deriving DecidableEq, Repr

namespace TextDecoding

def decode : TextDecoding → List UInt8 → String
  | latin1 => Text.Latin1.decode
  | utf8Lossy => Text.Utf8.decodeLossy

def name : TextDecoding → String
  | latin1 => "latin1"
  | utf8Lossy => "utf8-lossy"

def ofName? : String → Option TextDecoding
  | "latin1" => some latin1
  | "utf8-lossy" => some utf8Lossy
  | _ => none

end TextDecoding

structure Record where
  stream : Stream
  bytes : List UInt8
  deriving DecidableEq, Repr

inductive Level where
  | error
  | warn
  | info
  | debug
  | trace
  deriving DecidableEq, Repr

namespace Level

def name : Level → String
  | error => "ERROR"
  | warn => "WARN"
  | info => "INFO"
  | debug => "DEBUG"
  | trace => "TRACE"

/-- The place of a level, the gravest first. -/
def rank : Level → Nat
  | error => 1
  | warn => 2
  | info => 3
  | debug => 4
  | trace => 5

end Level

def Stream.level : Stream → Level
  | stdout => .info
  | stderr => .warn

structure LogEvent where
  level : Level
  message : String
  deriving DecidableEq, Repr

/-- The text without its last character if that is a line break. -/
def chompLine (text : String) : String :=
  match text.toList.reverse with
  | '\n' :: rest => String.ofList rest.reverse
  | _ => text

def Record.event (decoding : TextDecoding) (record : Record) : LogEvent :=
  ⟨record.stream.level, chompLine (decoding.decode record.bytes)⟩

/-- The records not taken yet, in the order of the writes. -/
structure Console where
  records : List Record
  deriving DecidableEq, Repr

namespace Console

def empty : Console :=
  ⟨[]⟩

def emit (console : Console) (record : Record) : Console :=
  ⟨console.records ++ [record]⟩

def take (console : Console) : List Record × Console :=
  (console.records, empty)

def contents (console : Console) (stream : Stream) : List UInt8 :=
  (console.records.filter fun record => record.stream = stream).flatMap Record.bytes

def isEmpty (console : Console) : Bool :=
  console.records.isEmpty

end Console

end LispHost
