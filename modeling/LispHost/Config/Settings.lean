import LispHost.Bridge
import LispHost.Config.Field

/-!
The settings of a bridge, read from a tree.
-/

set_option autoImplicit false

namespace LispHost

open Config

def Abi.ofTree : FieldReader Abi := fun key tree => do
  let s ← Section.ofTree "GuestAbi" key tree
  let usual := default
  return {
    memory := ← s.field 0 "memory" usual.memory .text
    tagOf := ← s.field 1 "tag_of" usual.tagOf .text
    row := ← s.field 2 "row" usual.row .text
    string := ← s.field 3 "string" usual.string .text
    tagInt := ← s.field 4 "tag_int" usual.tagInt .text
    tagSys := ← s.field 5 "tag_sys" usual.tagSys .text
    tagDuo := ← s.field 6 "tag_duo" usual.tagDuo .text
    tagSym := ← s.field 7 "tag_sym" usual.tagSym .text
    sysNil := ← s.field 8 "sys_nil" usual.sysNil .text
    sysT := ← s.field 9 "sys_t" usual.sysT .text
    alloc := ← s.field 10 "alloc" usual.alloc .text
    read := ← s.field 11 "read" usual.read .text
    eval := ← s.field 12 "eval" usual.eval .text
    start := ← s.field 13 "initialize" usual.start .text }

def StubPolicy.ofTree : FieldReader StubPolicy :=
  .variant "StubPolicy" ([succeed, notImplemented].map fun p => (p.name, p))

def TextDecoding.ofTree : FieldReader TextDecoding :=
  .variant "TextDecoding" ([latin1, utf8Lossy].map fun d => (d.name, d))

def SyscallConfig.ofTree : FieldReader SyscallConfig := fun key tree => do
  let s ← Section.ofTree "ShimConfig" key tree
  return {
    stubPolicy := ← s.field 0 "stub_policy" default.stubPolicy StubPolicy.ofTree
    consoleEncoding := ← s.field 1 "console_encoding" default.consoleEncoding TextDecoding.ofTree }

def DecodeOptions.ofTree : FieldReader DecodeOptions := fun key tree => do
  let s ← Section.ofTree "DecodeOptions" key tree
  return {
    maxDepth := ← s.field 0 "max_depth" default.maxDepth .long
    detectCycles := ← s.field 1 "detect_cycles" default.detectCycles .bool }

def Limits.ofTree : FieldReader Limits := fun key tree => do
  let s ← Section.ofTree "GuestLimits" key tree
  return {
    maxMemoryPages := ← s.field 0 "max_memory_pages" default.maxMemoryPages .short
    maxTableElements := ← s.field 1 "max_table_elements" default.maxTableElements .short
    maxFuel := ← s.field 2 "max_fuel" default.maxFuel (.optional .long) }

namespace Config

def ofFields (fields : List (String × Tree)) : Except Problem Config := do
  let s ← Section.ofTree "BridgeConfig" [] (.table fields)
  return {
    guest := ← s.field 0 "guest" default.guest .text
    abi := ← s.field 1 "abi" default.abi Abi.ofTree
    syscalls := ← s.field 2 "shim" default.syscalls SyscallConfig.ofTree
    decode := ← s.field 3 "decode" default.decode DecodeOptions.ofTree
    limits := ← s.field 4 "limits" default.limits Limits.ofTree }

def clamped (config : Config) : Config :=
  { config with decode := config.decode.clamped }

end Config

end LispHost
