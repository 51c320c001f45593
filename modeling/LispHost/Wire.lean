import LispHost.Bridge
import LispHost.Projection.Json

/-!
The JSON forms of the values that cross the border of the program, and their readers.

A record is an object with named fields, or an array that gives the fields in order. Fields that are
not known are ignored, and where a record has defaults a missing field takes its own. A variant is its
name, or an object with the name as its only key. Numbers must be written as integers and fit.
-/

set_option autoImplicit false

namespace LispHost.Wire

abbrev Reader (α : Type) := Json → Option α

def natBelow (bound : Nat) : Reader Nat
  | .number d => do
    let n ← d.nat?
    if n < bound then some n else none
  | _ => none

def word : Reader Word := fun j => (natBelow wordCount j).map UInt32.ofNat

def long : Reader Nat := natBelow UInt64.size

def byte : Reader UInt8 := fun j => (natBelow 256 j).map UInt8.ofNat

def bool : Reader Bool
  | .bool b => some b
  | _ => none

def string : Reader String
  | .string s => some s
  | _ => none

def list {α : Type} (item : Reader α) : Reader (List α)
  | .array items => items.mapM item
  | _ => none

def optional {α : Type} (item : Reader α) : Reader (Option α)
  | .null => some none
  | j => (item j).map some

def record (names : List String) : Reader (List (Option Json))
  | .object fields => some (names.map fun name => (Json.object fields).field? name)
  | .array items =>
    if items.length ≤ names.length then
      some (items.map some ++ List.replicate (names.length - items.length) none)
    else none
  | _ => none

def orElse {α : Type} (default : α) (item : Reader α) : Option Json → Option α
  | none => some default
  | some j => item j

/-- The name and the content of a variant; a bare name has the content null. -/
def variant : Reader (String × Json)
  | .string name => some (name, .null)
  | .object [(name, content)] => some (name, content)
  | _ => none

def unitVariant {α : Type} (ofName? : String → Option α) : Reader α := fun j =>
  match variant j with
  | some (name, .null) => ofName? name
  | _ => none

end LispHost.Wire

namespace LispHost

open Wire

def Tag.ofJson? : Reader Tag := fun j =>
  match variant j with
  | some ("int", .null) => some .int
  | some ("sys", .null) => some .sys
  | some ("duo", .null) => some .duo
  | some ("sym", .null) => some .sym
  | some ("unknown", content) => (word content).map .unknown
  | _ => none

def Stream.ofJson? : Reader Stream := unitVariant ofName?

def Record.toJson (record : Record) : Json :=
  .object [("stream", .string record.stream.name),
    ("bytes", .array (record.bytes.map fun b => .nat b.toNat))]

def Record.ofJson? : Reader Record := fun j => do
  match ← record ["stream", "bytes"] j with
  | [some stream, some bytes] => return ⟨← Stream.ofJson? stream, ← list byte bytes⟩
  | _ => none

def StubPolicy.ofJson? : Reader StubPolicy := unitVariant ofName?

def TextDecoding.ofJson? : Reader TextDecoding := unitVariant ofName?

def Sentinels.toJson (s : Sentinels) : Json :=
  .object [("nil", .word s.nil), ("t", .word s.t)]

def Sentinels.ofJson? : Reader Sentinels := fun j => do
  match ← record ["nil", "t"] j with
  | [some nil, some t] => return ⟨← word nil, ← word t⟩
  | _ => none

def DecodeOptions.toJson (o : DecodeOptions) : Json :=
  .object [("max_depth", .nat o.maxDepth), ("detect_cycles", .bool o.detectCycles)]

def DecodeOptions.ofJson? : Reader DecodeOptions := fun j => do
  match ← record ["max_depth", "detect_cycles"] j with
  | [depth, cycles] =>
    return ⟨← orElse default.maxDepth long depth, ← orElse default.detectCycles bool cycles⟩
  | _ => none

def Metrics.toJson (m : Metrics) : Json :=
  .object [("writes", .nat m.writes), ("bytes_written", .nat m.bytesWritten),
    ("stub_calls", .nat m.stubCalls), ("faults", .nat m.faults),
    ("bad_descriptors", .nat m.badDescriptors)]

/-- Read the counters; none may be absent. -/
def Metrics.ofJson? : Reader Metrics := fun j => do
  match ← record ["writes", "bytes_written", "stub_calls", "faults", "bad_descriptors"] j with
  | [some writes, some bytes, some stubs, some faults, some bad] =>
    return ⟨← long writes, ← long bytes, ← long stubs, ← long faults, ← long bad⟩
  | _ => none

def SyscallConfig.toJson (c : SyscallConfig) : Json :=
  .object [("stub_policy", .string c.stubPolicy.name),
    ("console_encoding", .string c.consoleEncoding.name)]

def SyscallConfig.ofJson? : Reader SyscallConfig := fun j => do
  match ← record ["stub_policy", "console_encoding"] j with
  | [policy, encoding] =>
    return ⟨← orElse default.stubPolicy StubPolicy.ofJson? policy,
      ← orElse default.consoleEncoding TextDecoding.ofJson? encoding⟩
  | _ => none

def Limits.toJson (l : Limits) : Json :=
  .object [("max_memory_pages", .nat l.maxMemoryPages),
    ("max_table_elements", .nat l.maxTableElements),
    ("max_fuel", (l.maxFuel.map Json.nat).getD .null)]

def Limits.ofJson? : Reader Limits := fun j => do
  match ← record ["max_memory_pages", "max_table_elements", "max_fuel"] j with
  | [pages, elements, fuel] =>
    return ⟨← orElse default.maxMemoryPages (natBelow wordCount) pages,
      ← orElse default.maxTableElements (natBelow wordCount) elements,
      ← orElse default.maxFuel (optional long) fuel⟩
  | _ => none

def Abi.fieldNames : List String :=
  ["memory", "tag_of", "row", "string", "tag_int", "tag_sys", "tag_duo", "tag_sym", "sys_nil",
    "sys_t", "alloc", "read", "eval", "initialize"]

def Abi.fieldValues (abi : Abi) : List String :=
  [abi.memory, abi.tagOf, abi.row, abi.string, abi.tagInt, abi.tagSys, abi.tagDuo, abi.tagSym,
    abi.sysNil, abi.sysT, abi.alloc, abi.read, abi.eval, abi.start]

def Abi.ofFieldValues? : List String → Option Abi
  | [memory, tagOf, row, string, tagInt, tagSys, tagDuo, tagSym, sysNil, sysT, alloc, read, eval,
      start] =>
    some ⟨memory, tagOf, row, string, tagInt, tagSys, tagDuo, tagSym, sysNil, sysT, alloc, read,
      eval, start⟩
  | _ => none

def Abi.toJson (abi : Abi) : Json :=
  .object (fieldNames.zip (abi.fieldValues.map Json.string))

def Abi.ofJson? : Reader Abi := fun j => do
  let found ← record fieldNames j
  let values ← (default.fieldValues.zip found).mapM fun (usual, field) =>
    orElse usual Wire.string field
  ofFieldValues? values

def Config.toJson (c : Config) : Json :=
  .object [("guest", .string c.guest), ("abi", c.abi.toJson), ("shim", c.syscalls.toJson),
    ("decode", c.decode.toJson), ("limits", c.limits.toJson)]

def Config.ofJson? : Reader Config := fun j => do
  match ← record ["guest", "abi", "shim", "decode", "limits"] j with
  | [guest, abi, syscalls, decode, limits] =>
    return ⟨← orElse default.guest string guest, ← orElse default.abi Abi.ofJson? abi,
      ← orElse default.syscalls SyscallConfig.ofJson? syscalls,
      ← orElse default.decode DecodeOptions.ofJson? decode,
      ← orElse default.limits Limits.ofJson? limits⟩
  | _ => none

end LispHost
