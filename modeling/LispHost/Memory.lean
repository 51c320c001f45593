import LispHost.Error
import Std.Data.TreeMap

/-!
Linear memory: a size and the bytes that are not zero.

Every access names a range, and succeeds exactly when the range ends within the current size, counted
without wrap-around. A write changes its range and nothing else. Memory never shrinks, and new pages
are zero.
-/

set_option autoImplicit false

namespace LispHost

/-- A linear memory; a byte without an entry is zero. -/
structure Memory where
  size : Nat
  cells : Std.TreeMap Nat UInt8

namespace Memory

def pageSize : Nat := 65536

def pageCeiling : Nat := 65536

def zeroed (size : Nat) : Memory :=
  ⟨size, ∅⟩

def byte (m : Memory) (address : Nat) : UInt8 :=
  m.cells.getD address 0

def setByte (m : Memory) (address : Nat) (b : UInt8) : Memory :=
  { m with cells := m.cells.insert address b }

def setBytes (m : Memory) (address : Nat) : List UInt8 → Memory
  | [] => m
  | b :: rest => (m.setByte address b).setBytes (address + 1) rest

def bytes (m : Memory) (address length : Nat) : List UInt8 :=
  (List.range length).map fun i => m.byte (address + i)

/-- The bytes of a range that lies within the memory. -/
def read? (m : Memory) (address length : Nat) : Option (List UInt8) :=
  if address + length ≤ m.size then some (m.bytes address length) else none

def write? (m : Memory) (address : Nat) (data : List UInt8) : Option Memory :=
  if address + data.length ≤ m.size then some (m.setBytes address data) else none

/-- The word at an address, lowest byte first. -/
def wordAt (m : Memory) (address : Nat) : Word :=
  Word.ofBytes (m.byte address) (m.byte (address + 1)) (m.byte (address + 2)) (m.byte (address + 3))

def readWord? (m : Memory) (address : Nat) : Option Word :=
  if address + 4 ≤ m.size then some (m.wordAt address) else none

def pages (m : Memory) : Nat :=
  m.size / pageSize

def extend (m : Memory) (pages : Nat) : Memory :=
  { m with size := m.size + pages * pageSize }

/-! ### Access by the host -/

def fault (m : Memory) (offset len : Word) : Error :=
  .memoryFault offset len m.size

def slice (m : Memory) (offset len : Word) : Except Error (List UInt8) :=
  match m.read? offset.toNat len.toNat with
  | some data => .ok data
  | none => .error (m.fault offset len)

def word (m : Memory) (offset : Word) : Except Error Word :=
  match m.readWord? offset.toNat with
  | some w => .ok w
  | none => .error (m.fault offset 4)

def writeBytes (m : Memory) (offset : Word) (data : List UInt8) : Except Error Memory :=
  if wordCount ≤ data.length then .error (.memoryFault offset 0xffffffff 0)
  else match m.write? offset.toNat data with
    | some next => .ok next
    | none => .error (m.fault offset (UInt32.ofNat data.length))

def writeWord (m : Memory) (offset value : Word) : Except Error Memory :=
  m.writeBytes offset (Word.toBytes value)

/-- The address a number of bytes further on, unless it wraps. -/
def advance (address bytes : Word) : Option Word :=
  if address.toNat + bytes.toNat < wordCount then some (address + bytes) else none

end Memory

end LispHost
