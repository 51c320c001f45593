import LispHost.View

/-!
Bridges: one guest instance, ready to use.

Starting a bridge runs the whole bootstrap: check the module, give it its resources, bind it to the
system calls, look up what decoding needs, and call the guest's initialiser if it exports one. What
the guest writes on the way stays on the console, also when the bootstrap fails.
-/

set_option autoImplicit false

namespace LispHost

structure Config where
  guest : String
  abi : Abi
  syscalls : SyscallConfig
  decode : DecodeOptions
  limits : Limits
  deriving DecidableEq, Repr

def Config.default : Config :=
  ⟨"wisp.wasm", .default, .default, .default, .default⟩

structure Bridge (σ : Type) where
  inst : Instance σ
  context : DecodingContext σ
  abi : Abi
  options : DecodeOptions

/-- A bootstrap that failed, and what the guest had written by then. -/
structure StartFailure where
  error : Error
  console : Console
  deriving DecidableEq, Repr

namespace Bridge

variable {σ : Type}

def call (bridge : Bridge σ) (name : String) (args : List Word) :
    Except Error (List Word) × Bridge σ :=
  let (answer, inst) := bridge.inst.call name args
  (answer, { bridge with inst })

def hasExport (bridge : Bridge σ) (name : String) : Bool :=
  (bridge.inst.guest.export? name).isSome

def createBound (config : Config) (guest : Guest σ) : Except Error (Instance σ) := do
  if !guest.wellFormed then throw (.compilation "the module contradicts its own declarations")
  let inst ← Instance.create guest (some config.limits) config.limits.maxFuel (.new config.syscalls)
  let host ← inst.host.bind config.abi.memory
  return { inst with host }

def start (config : Config) (guest : Guest σ) : Except StartFailure (Bridge σ) :=
  match createBound config guest with
  | .error error => .error ⟨error, .empty⟩
  | .ok inst =>
    match DecodingContext.resolve guest config.abi with
    | .error error => .error ⟨error, inst.host.console⟩
    | .ok context =>
      let bridge : Bridge σ := ⟨inst, context, config.abi, config.decode.clamped⟩
      if bridge.hasExport config.abi.start then
        match bridge.call config.abi.start [] with
        | (.ok _, bridge) => .ok bridge
        | (.error error, bridge) => .error ⟨error, bridge.inst.host.console⟩
      else .ok bridge

def setOptions (bridge : Bridge σ) (options : DecodeOptions) : Bridge σ :=
  { bridge with options := options.clamped }

def metrics (bridge : Bridge σ) : Metrics :=
  bridge.inst.host.metrics

def exitCode (bridge : Bridge σ) : Option Int32 :=
  bridge.inst.host.exitCode

def remainingFuel (bridge : Bridge σ) : Option Nat :=
  bridge.inst.fuel

def takeConsole (bridge : Bridge σ) : List Record × Bridge σ :=
  let (records, console) := bridge.inst.host.console.take
  (records, { bridge with inst := { bridge.inst with
    host := { bridge.inst.host with console } } })

/-- Copy a source into a buffer of the guest; the bounds are those after the buffer was allocated. -/
def deliver (bridge : Bridge σ) (address : Word) (data : List UInt8) : Except Error (Bridge σ) := do
  let memory ← bridge.inst.memoryOf bridge.context.memory
  let memory ← memory.writeBytes address data
  return { bridge with inst := { bridge.inst with memory } }

def read (bridge : Bridge σ) (source : String) : Except Error Word × Bridge σ :=
  let data := Text.Utf8.encode source
  if wordCount ≤ data.length then
    (.error (.internal s!"source of {data.length} bytes is too large"), bridge)
  else
    let len := UInt32.ofNat data.length
    match bridge.inst.guest.wordFunc bridge.abi.alloc 1,
        bridge.inst.guest.wordFunc bridge.abi.read 2 with
    | .error e, _ => (.error e, bridge)
    | .ok _, .error e => (.error e, bridge)
    | .ok alloc, .ok read =>
      match bridge.inst.callWord alloc [len] with
      | (.error e, inst) => (.error e, { bridge with inst })
      | (.ok address, inst) =>
        match { bridge with inst }.deliver address data with
        | .error e => (.error e, { bridge with inst })
        | .ok bridge =>
          let (answer, inst) := bridge.inst.callWord read [address, len]
          (answer, { bridge with inst })

def eval (bridge : Bridge σ) (value : Word) : Except Error Word × Bridge σ :=
  match bridge.inst.guest.wordFunc bridge.abi.eval 1 with
  | .error e => (.error e, bridge)
  | .ok eval =>
    let (answer, inst) := bridge.inst.callWord eval [value]
    (answer, { bridge with inst })

def decode (bridge : Bridge σ) (options : DecodeOptions) (value : Word) :
    Except Error Projection × Bridge σ :=
  let (answer, inst) := bridge.context.decode options value bridge.inst
  (answer, { bridge with inst })

def project (bridge : Bridge σ) (value : Word) : Except Error Projection × Bridge σ :=
  bridge.decode bridge.options value

def tagOf (bridge : Bridge σ) (value : Word) : Except Error Tag × Bridge σ :=
  let (answer, inst) := bridge.context.tagOfValue value bridge.inst
  (answer, { bridge with inst })

def row (bridge : Bridge σ) (tag : Tag) (value : Word) : Except Error Row × Bridge σ :=
  let (answer, inst) := bridge.context.rowOf tag value bridge.inst
  (answer, { bridge with inst })

def string (bridge : Bridge σ) (handle : Word) : Except Error String × Bridge σ :=
  let (answer, inst) := bridge.context.stringOf handle bridge.inst
  (answer, { bridge with inst })

def memorySize (bridge : Bridge σ) : Except Error Nat :=
  bridge.context.memorySize bridge.inst

def word (bridge : Bridge σ) (offset : Word) : Except Error Word :=
  bridge.context.word bridge.inst offset

def bytes (bridge : Bridge σ) (offset len : Word) : Except Error (List UInt8) :=
  bridge.context.slice bridge.inst offset len

end Bridge

end LispHost
