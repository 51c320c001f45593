/-!
Machine words of the guest: their text and their four bytes in memory.

A word is opaque to the host. It is written in hexadecimal, either as short as possible or padded
to eight digits, and it lies in memory with its lowest byte first.
-/

set_option autoImplicit false

namespace LispHost

abbrev Word := UInt32

/-- The number of values a word can take, which is also the size of the address space. -/
def wordCount : Nat := 4294967296

def hexDigits (n : Nat) : List Char :=
  Nat.toDigits 16 n

def decimalText (n : Nat) : String :=
  String.ofList (Nat.toDigits 10 n)

namespace Word

/-- The word in hexadecimal, `0x` and no padding. -/
def hex (w : Word) : String :=
  String.ofList ('0' :: 'x' :: hexDigits w.toNat)

/-- The word in hexadecimal, `0x` and eight digits. -/
def padded (w : Word) : String :=
  let digits := hexDigits w.toNat
  String.ofList ('0' :: 'x' :: List.replicate (8 - digits.length) '0' ++ digits)

def decimal (w : Word) : String :=
  decimalText w.toNat

/-- The four bytes of a word, lowest first. -/
def toBytes (w : Word) : List UInt8 :=
  [w.toUInt8, (w >>> 8).toUInt8, (w >>> 16).toUInt8, (w >>> 24).toUInt8]

def ofBytes (b₀ b₁ b₂ b₃ : UInt8) : Word :=
  UInt32.ofNat (b₀.toNat + 256 * (b₁.toNat + 256 * (b₂.toNat + 256 * b₃.toNat)))

/-- The words written by consecutive groups of four bytes; an incomplete last group is dropped. -/
def listOfBytes : List UInt8 → List Word
  | b₀ :: b₁ :: b₂ :: b₃ :: rest => ofBytes b₀ b₁ b₂ b₃ :: listOfBytes rest
  | _ => []

example : padded 15 = "0x0000000f" ∧ hex 0x70000001 = "0x70000001" := by decide +kernel

end Word

end LispHost
