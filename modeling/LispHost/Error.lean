import LispHost.Word

/-!
Everything that can go wrong between host and guest, and the sentence that reports it.
-/

set_option autoImplicit false

namespace LispHost

inductive ValueType where
  | i32 | i64 | f32 | f64
  deriving DecidableEq, Repr

def ValueType.name : ValueType → String
  | .i32 => "i32"
  | .i64 => "i64"
  | .f32 => "f32"
  | .f64 => "f64"

inductive Trap where
  | unreachable
  | outOfBounds
  | divideByZero
  | overflow
  | stackExhausted
  | outOfFuel
  deriving DecidableEq, Repr

def Trap.text : Trap → String
  | .unreachable => "wasm \x60unreachable\x60 instruction executed"
  | .outOfBounds => "out of bounds memory access"
  | .divideByZero => "integer divide by zero"
  | .overflow => "integer overflow"
  | .stackExhausted => "call stack exhausted"
  | .outOfFuel => "all fuel consumed by WebAssembly"

inductive ExecutionFault where
  | trap (cause : Trap)
  | argumentCount (expected given : Nat)
  | argumentType (expected given : ValueType)
  | other (text : String)
  deriving DecidableEq, Repr

def ExecutionFault.text : ExecutionFault → String
  | .trap cause => "wasm trap: " ++ cause.text
  | .argumentCount expected given => s!"expected {expected} arguments, got {given}"
  | .argumentType expected given =>
    "argument type mismatch: type mismatch: expected " ++ expected.name ++ ", found " ++ given.name
  | .other text => text

inductive FileFault where
  | notFound
  | isDirectory
  | notDirectory
  | notText
  deriving DecidableEq, Repr

def FileFault.text : FileFault → String
  | .notFound => "No such file or directory (os error 2)"
  | .isDirectory => "Is a directory (os error 21)"
  | .notDirectory => "Not a directory (os error 20)"
  | .notText => "stream did not contain valid UTF-8"

inductive Error where
  | memoryFault (offset len : Word) (size : Nat)
  | encoding (handle len : Word)
  | unbound
  | alreadyBound
  | guestExit (code : Int32)
  | missingRow (tag : String)
  | compilation (detail : String)
  | instantiation (detail : String)
  | execution (fault : ExecutionFault)
  | exportNotFound (name : String)
  | typeMismatch (expected actual : String)
  | config (detail : String)
  | file (fault : FileFault)
  | internal (detail : String)
  deriving DecidableEq, Repr

namespace Error

/-- Whether the error means that guest memory can no longer be trusted. -/
def isMemoryFault : Error → Bool
  | memoryFault .. => true
  | _ => false

def message : Error → String
  | memoryFault offset len size =>
    s!"Memory access out of bounds: offset={offset}, len={len}, memory size={size}"
  | encoding handle len =>
    "Invalid UTF-8 in guest string (handle=" ++ Word.hex handle ++ s!", {len} bytes)"
  | unbound => "Syscall invoked before the guest instance was bound"
  | alreadyBound => "Guest instance is already bound"
  | guestExit code => "Guest exited with code " ++ toString code.toInt
  | missingRow tag => "Tag \x60" ++ tag ++ "\x60 has no row accessor"
  | compilation detail => "Failed to compile guest module: " ++ detail
  | instantiation detail => "Failed to instantiate guest module: " ++ detail
  | execution fault => "Guest execution failed: " ++ fault.text
  | exportNotFound name => "Export not found: " ++ name
  | typeMismatch expected actual =>
    "Type mismatch: expected " ++ expected ++ ", got " ++ actual
  | config detail => "Configuration error: " ++ detail
  | file fault => "IO error: " ++ fault.text
  | internal detail => "Internal error: " ++ detail

/-- A function is exported, but not with the signature the host needs. -/
def signature (name : String) : Error :=
  typeMismatch ("signature of \x60" ++ name ++ "\x60") "another signature"

end Error

end LispHost
