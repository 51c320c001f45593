import LispHost.Console
import LispHost.Ending
import LispHost.Memory

/-!
System calls: what the guest may ask of the host.

Writes go to the console, an exit ends the run, and the other descriptor calls answer a fixed status
without doing anything. The host answers only once the guest instance has been bound; a call before
that ends the run and leaves no mark. A write gathers every segment first, then stores the total, and
only then reaches the console, so a write that fails on the way is not seen at all.
-/

set_option autoImplicit false

namespace LispHost

inductive Errno where
  | success
  | badFileDescriptor
  | fault
  | invalidArgument
  | notImplemented
  deriving DecidableEq, Repr

namespace Errno

def raw : Errno → Word
  | success => 0
  | badFileDescriptor => 8
  | fault => 21
  | invalidArgument => 28
  | notImplemented => 52

def text : Errno → String
  | success => "success"
  | badFileDescriptor => "badf"
  | fault => "fault"
  | invalidArgument => "inval"
  | notImplemented => "nosys"

end Errno

inductive StubPolicy where
  | succeed
  | notImplemented
  deriving DecidableEq, Repr

namespace StubPolicy

def errno : StubPolicy → Errno
  | succeed => .success
  | notImplemented => .notImplemented

def name : StubPolicy → String
  | succeed => "succeed"
  | notImplemented => "not-implemented"

def ofName? : String → Option StubPolicy
  | "succeed" => some succeed
  | "not-implemented" => some notImplemented
  | _ => none

end StubPolicy

/-- A call that only answers the status of the policy. -/
inductive StubCall where
  | fdClose
  | fdRead
  | pathOpen
  | fdPrestatGet
  | fdPrestatDirName
  | fdFilestatGet
  deriving DecidableEq, Repr

def StubCall.name : StubCall → String
  | fdClose => "fd_close"
  | fdRead => "fd_read"
  | pathOpen => "path_open"
  | fdPrestatGet => "fd_prestat_get"
  | fdPrestatDirName => "fd_prestat_dir_name"
  | fdFilestatGet => "fd_filestat_get"

def StubCall.arity : StubCall → Nat
  | fdClose => 1
  | fdRead => 4
  | pathOpen => 9
  | fdPrestatGet => 2
  | fdPrestatDirName => 3
  | fdFilestatGet => 2

/-- The stub calls, in the order in which they are linked. -/
def StubCall.all : List StubCall :=
  [fdClose, fdRead, pathOpen, fdPrestatGet, fdPrestatDirName, fdFilestatGet]

inductive Syscall where
  /-- Write `count` segments listed from `table` on, and store the total at `nwritten`. -/
  | fdWrite (fd table count nwritten : Word)
  | procExit (code : Word)
  /-- A call without an effect, with the bits of its arguments. -/
  | stub (call : StubCall) (args : List UInt64)
  deriving DecidableEq, Repr

namespace Syscall

def importModule : String := "wasi_snapshot_preview1"

/-- The names of the system calls, in the order in which they are linked. -/
def names : List String :=
  "fd_write" :: "proc_exit" :: StubCall.all.map StubCall.name

/-- The system call of an import name and its arguments, if they are as many as it takes. Words are
extended with zeros where the call takes more bits. -/
def ofName? (name : String) (args : List Word) : Option Syscall :=
  match name, args with
  | "fd_write", [fd, table, count, nwritten] => some (fdWrite fd table count nwritten)
  | "proc_exit", [code] => some (procExit code)
  | name, args =>
    (StubCall.all.find? fun call => call.name = name ∧ call.arity = args.length).map
      (stub · (args.map UInt32.toUInt64))

/-- Link every system call where the names in `taken` are defined already. -/
def link (taken : List String) : Except Error Unit :=
  match names.find? fun name => name ∈ taken with
  | some name =>
    .error (.internal ("import of \x60" ++ importModule ++ "::" ++ name ++ "\x60 defined twice"))
  | none => .ok ()

end Syscall

structure SyscallConfig where
  stubPolicy : StubPolicy
  consoleEncoding : TextDecoding
  deriving DecidableEq, Repr

def SyscallConfig.default : SyscallConfig :=
  ⟨.succeed, .latin1⟩

structure Metrics where
  writes : Nat
  bytesWritten : Nat
  stubCalls : Nat
  faults : Nat
  badDescriptors : Nat
  deriving DecidableEq, Repr

def Metrics.zero : Metrics :=
  ⟨0, 0, 0, 0, 0⟩

structure SyscallHost where
  config : SyscallConfig
  binding : Option String
  metrics : Metrics
  exitCode : Option Int32
  console : Console
  deriving DecidableEq, Repr

namespace SyscallHost

def new (config : SyscallConfig) : SyscallHost :=
  ⟨config, none, .zero, none, .empty⟩

/-- Bind the guest instance whose memory has that export name; only the first binding succeeds. -/
def bind (host : SyscallHost) (memoryExport : String) : Except Error SyscallHost :=
  match host.binding with
  | some _ => .error .alreadyBound
  | none => .ok { host with binding := some memoryExport }

def bound (host : SyscallHost) : Except Error String :=
  match host.binding with
  | some name => .ok name
  | none => .error .unbound

/-- The distance of an entry from the start of the segment table, unless it wraps. -/
def entryOffset (index : Word) : Option Word :=
  if index.toNat * 8 < wordCount then some (index * 8) else none

/-- The bytes of the segment with this index and their number, if the entry and the segment lie
within the memory. An entry is two words, the address of the segment and its length. -/
def segment (memory : Memory) (table index : Word) : Option (List UInt8 × Word) := do
  let offset ← entryOffset index
  let entry ← Memory.advance table offset
  let lengthField ← Memory.advance entry 4
  let address ← memory.readWord? entry.toNat
  let length ← memory.readWord? lengthField.toNat
  let data ← memory.read? address.toNat length.toNat
  return (data, length)

/-- Gather `count` segments from an index of the table on, after `total` bytes already gathered;
answers the bytes and the new total. -/
def gather (memory : Memory) (table : Word) : Nat → Word → Word → Except Errno (List UInt8 × Word)
  | 0, _, total => .ok ([], total)
  | count + 1, index, total =>
    match segment memory table index with
    | none => .error .fault
    | some (data, length) =>
      if wordCount ≤ total.toNat + length.toNat then .error .invalidArgument
      else
        match gather memory table count (index + 1) (total + length) with
        | .error e => .error e
        | .ok (rest, total) => .ok (data ++ rest, total)

/-- Gather the segments and store their total length; answers the bytes, the total and the memory
after. -/
def prepareWrite (memory : Memory) (table count nwritten : Word) :
    Except Errno (List UInt8 × Word × Memory) :=
  match gather memory table count.toNat 0 0 with
  | .error e => .error e
  | .ok (data, total) =>
    match memory.write? nwritten.toNat (Word.toBytes total) with
    | none => .error .fault
    | some memory => .ok (data, total, memory)

def countFault (host : SyscallHost) : SyscallHost :=
  { host with metrics := { host.metrics with faults := host.metrics.faults + 1 } }

/-- Count a write that succeeded, and emit its bytes unless there are none. -/
def finishWrite (host : SyscallHost) (stream : Stream) (data : List UInt8) (total : Word) :
    SyscallHost :=
  let metrics := { host.metrics with
    writes := host.metrics.writes + 1
    bytesWritten := host.metrics.bytesWritten + total.toNat }
  let console := if data.isEmpty then host.console else host.console.emit ⟨stream, data⟩
  { host with metrics, console }

/-- A write by a bound guest; `exported` is its memory as the binding names it, if it exists. -/
def fdWrite (host : SyscallHost) (exported : Option Memory) (fd table count nwritten : Word) :
    Errno × SyscallHost × Option Memory :=
  match Stream.ofDescriptor? fd with
  | none =>
    let metrics := { host.metrics with badDescriptors := host.metrics.badDescriptors + 1 }
    (.badFileDescriptor, { host with metrics }, exported)
  | some stream =>
    match exported with
    | none =>
      -- Without segments nothing is read, but the total still has nowhere to go.
      (.fault, host.countFault, none)
    | some memory =>
      match prepareWrite memory table count nwritten with
      | .error e => (e, host.countFault, some memory)
      | .ok (data, total, memory) => (.success, host.finishWrite stream data total, some memory)

/-- Count a call without an effect and answer the status of the policy. -/
def stub (host : SyscallHost) : Errno × SyscallHost :=
  (host.config.stubPolicy.errno,
    { host with metrics := { host.metrics with stubCalls := host.metrics.stubCalls + 1 } })

end SyscallHost

end LispHost
