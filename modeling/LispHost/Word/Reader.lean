import LispHost.Text.Blank
import LispHost.Text.Digits
import LispHost.Word

/-!
Reading words as people write them: decimal, or hexadecimal after `0x`.

White space around the text and underscores inside it do not count, and one plus sign may come first.
Digits are read from the left, so of a bad digit and a value that is too large the first one met is
reported.
-/

set_option autoImplicit false

namespace LispHost.Word

inductive ReadFault where
  | empty
  | badDigit
  | tooLarge
  deriving DecidableEq, Repr

def ReadFault.text : ReadFault → String
  | empty => "cannot parse integer from empty string"
  | badDigit => "invalid digit found in string"
  | tooLarge => "number too large to fit in target type"

/-- The number below `bound` written by digits that follow the number `acc`. -/
def readDigits (bound radix : Nat) : Nat → List Char → Except ReadFault Nat
  | acc, [] => .ok acc
  | acc, c :: rest =>
    match Text.digitValue? radix c with
    | none => .error .badDigit
    | some d =>
      let acc := acc * radix + d
      if bound ≤ acc then .error .tooLarge else readDigits bound radix acc rest

/-- The number below `bound` written with an optional plus sign. -/
def readNumber (bound radix : Nat) : List Char → Except ReadFault Nat
  | [] => .error .empty
  | ['+'] => .error .badDigit
  | '+' :: rest => readDigits bound radix 0 rest
  | s => readDigits bound radix 0 s

/-- The radix that a text asks for, and the text after the radix mark. -/
def splitRadix : List Char → Nat × List Char
  | '0' :: 'x' :: rest => (16, rest)
  | '0' :: 'X' :: rest => (16, rest)
  | s => (10, s)

def ofChars (s : List Char) : Except ReadFault Word :=
  let (radix, body) := splitRadix s
  (readNumber wordCount radix (body.filter (· ≠ '_'))).map UInt32.ofNat

structure BadText where
  text : String
  fault : ReadFault
  deriving DecidableEq, Repr

def BadText.context (bad : BadText) : String :=
  "Invalid raw value: " ++ bad.text

def BadText.message (bad : BadText) : String :=
  bad.context ++ ": " ++ bad.fault.text

def parse (text : String) : Except BadText Word :=
  let trimmed := Text.trim text
  match ofChars trimmed.toList with
  | .ok word => .ok word
  | .error fault => .error ⟨trimmed, fault⟩

end LispHost.Word
