/-!
UTF-8 and Latin-1 readings of bytes.

The decoder is a machine fed one byte at a time. Each maximal piece that cannot be continued to a
character is reported once, with its length, so the same machine serves the strict reading, which
rejects the first such piece, and the lenient one, which replaces each by U+FFFD.
-/

set_option autoImplicit false

namespace LispHost.Text.Utf8

inductive Event where
  | char (c : Char)
  /-- A piece of this many bytes that no further byte can complete. -/
  | invalid (length : Nat)
  /-- The text ends inside a character. -/
  | truncated
  deriving DecidableEq, Repr

inductive State where
  | idle
  /-- Inside a character: bytes seen and still needed, the bounds of the next one, the bits so far. -/
  | within (seen need low high bits : Nat)
  deriving DecidableEq, Repr

def start (b : UInt8) : List Event × State :=
  let n := b.toNat
  if n < 0x80 then ([.char (Char.ofNat n)], .idle)
  else if n < 0xC2 then ([.invalid 1], .idle)
  else if n < 0xE0 then ([], .within 1 1 0x80 0xBF (n - 0xC0))
  else if n = 0xE0 then ([], .within 1 2 0xA0 0xBF 0)
  else if n = 0xED then ([], .within 1 2 0x80 0x9F 13)
  else if n < 0xF0 then ([], .within 1 2 0x80 0xBF (n - 0xE0))
  else if n = 0xF0 then ([], .within 1 3 0x90 0xBF 0)
  else if n < 0xF4 then ([], .within 1 3 0x80 0xBF (n - 0xF0))
  else if n = 0xF4 then ([], .within 1 3 0x80 0x8F 4)
  else ([.invalid 1], .idle)

/-- One byte fed to the decoder; a byte that breaks a character off is read as a new start. -/
def State.feed (s : State) (b : UInt8) : List Event × State :=
  match s with
  | .idle => start b
  | .within seen need low high bits =>
    if low ≤ b.toNat ∧ b.toNat ≤ high then
      let bits := bits * 64 + (b.toNat - 0x80)
      if need ≤ 1 then ([.char (Char.ofNat bits)], .idle)
      else ([], .within (seen + 1) (need - 1) 0x80 0xBF bits)
    else
      let (events, next) := start b
      (.invalid seen :: events, next)

def eventsFrom : State → List UInt8 → List Event
  | .idle, [] => []
  | .within .., [] => [.truncated]
  | s, b :: rest =>
    let (events, next) := s.feed b
    events ++ eventsFrom next rest

def events (bytes : List UInt8) : List Event :=
  eventsFrom .idle bytes

def charsOf? : List Event → Option (List Char)
  | [] => some []
  | .char c :: rest => (charsOf? rest).map (c :: ·)
  | _ => none

def decode? (bytes : List UInt8) : Option String :=
  (charsOf? (events bytes)).map String.ofList

def decodeLossy (bytes : List UInt8) : String :=
  String.ofList <| (events bytes).map fun
    | .char c => c
    | _ => '\ufffd'

def encodeChar (c : Char) : List UInt8 :=
  let n := c.toNat
  let tail (k : Nat) : UInt8 := UInt8.ofNat (0x80 + (n >>> (6 * k)) % 64)
  if n < 0x80 then [UInt8.ofNat n]
  else if n < 0x800 then [UInt8.ofNat (0xC0 + n / 64), tail 0]
  else if n < 0x10000 then [UInt8.ofNat (0xE0 + n / 4096), tail 1, tail 0]
  else [UInt8.ofNat (0xF0 + n / 262144), tail 2, tail 1, tail 0]

def encode (s : String) : List UInt8 :=
  s.toList.flatMap encodeChar

/-- Where and how a byte string first fails to be UTF-8. -/
inductive Defect where
  /-- After this many good bytes a piece of that length cannot be continued. -/
  | invalid (index length : Nat)
  /-- After this many good bytes the text ends inside a character. -/
  | incomplete (index : Nat)
  deriving DecidableEq, Repr

/-- The first defect among the events, after `index` good bytes. -/
def defectFrom (index : Nat) : List Event → Option Defect
  | [] => none
  | .char c :: rest => defectFrom (index + (encodeChar c).length) rest
  | .invalid n :: _ => some (.invalid index n)
  | .truncated :: _ => some (.incomplete index)

def defect? (bytes : List UInt8) : Option Defect :=
  defectFrom 0 (events bytes)

def Defect.message : Defect → String
  | .invalid index n => s!"invalid utf-8 sequence of {n} bytes from index {index}"
  | .incomplete index => s!"incomplete utf-8 byte sequence from index {index}"

example : decode? [0xE2, 0x82, 0xAC] = some "€" := by decide +kernel
example : decodeLossy [0xF0, 0x9F, 0x61] = "\ufffda" := by decide +kernel

end LispHost.Text.Utf8

namespace LispHost.Text.Latin1

/-- The text with one character per byte. -/
def decode (bytes : List UInt8) : String :=
  String.ofList (bytes.map fun b => Char.ofNat b.toNat)

end LispHost.Text.Latin1
