import LispHost.Ending
import LispHost.Syscall

/-!
Guest code as trees of effects.

A guest function is a tree: each node asks for one effect and goes on with its answer, and a leaf is
an answer or a trap. All a guest can do to the host is in the nodes, so a fact about the host that
every node keeps holds of every guest.
-/

set_option autoImplicit false

namespace LispHost

/-- Guest code over private globals `σ` that answers an `α`. -/
inductive Code (σ α : Type) : Type where
  | done (answer : α)
  | trap (cause : Trap)
  /-- Run until the fuel is spent. -/
  | spin
  | getGlobals (next : σ → Code σ α)
  | setGlobals (globals : σ) (next : Unit → Code σ α)
  /-- Read `width` bytes; a range outside the memory traps. -/
  | load (address : Word) (width : Nat) (next : List UInt8 → Code σ α)
  /-- Write bytes; a range outside the memory traps before anything is written. -/
  | store (address : Word) (data : List UInt8) (next : Unit → Code σ α)
  /-- Add pages; goes on with the old number of pages, or with all bits set if denied. -/
  | grow (pages : Word) (next : Word → Code σ α)
  /-- Add table elements; goes on with the old number, or with all bits set if denied. -/
  | growTable (elements : Word) (next : Word → Code σ α)
  | syscall (call : Syscall) (next : Word → Code σ α)

namespace Code

variable {σ α β : Type}

def bind (f : α → Code σ β) : Code σ α → Code σ β
  | done answer => f answer
  | trap cause => .trap cause
  | spin => .spin
  | getGlobals next => .getGlobals fun globals => (next globals).bind f
  | setGlobals globals next => .setGlobals globals fun _ => (next ()).bind f
  | load address width next => .load address width fun data => (next data).bind f
  | store address data next => .store address data fun _ => (next ()).bind f
  | grow pages next => .grow pages fun old => (next old).bind f
  | growTable elements next => .growTable elements fun old => (next old).bind f
  | syscall call next => .syscall call fun status => (next status).bind f

instance : Monad (Code σ) where
  pure := .done
  bind code f := code.bind f

def globals : Code σ σ :=
  .getGlobals .done

def modifyGlobals (f : σ → σ) : Code σ Unit :=
  .getGlobals fun globals => .setGlobals (f globals) .done

def loadByte (address : Word) : Code σ UInt8 :=
  .load address 1 fun data => .done (data.headD 0)

def loadWord (address : Word) : Code σ Word :=
  .load address 4 fun
    | [b₀, b₁, b₂, b₃] => .done (Word.ofBytes b₀ b₁ b₂ b₃)
    | _ => .trap .outOfBounds

def storeBytes (address : Word) (data : List UInt8) : Code σ Unit :=
  .store address data .done

def storeByte (address value : Word) : Code σ Unit :=
  .storeBytes address [value.toUInt8]

def storeWord (address value : Word) : Code σ Unit :=
  .storeBytes address (Word.toBytes value)

def callHost (call : Syscall) : Code σ Word :=
  .syscall call .done

end Code

end LispHost
