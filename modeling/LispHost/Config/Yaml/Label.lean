import LispHost.Config.Yaml.Cursor
import LispHost.Text.Digits

/-!
Names, tags and directives of YAML.

A tag is a handle and a suffix, where a directive may say what the handle stands for, or a name between
angle brackets. Characters of tags may be written by their bytes in hexadecimal.
-/

set_option autoImplicit false

namespace LispHost.Config.Yaml

open LispHost.Text

def isLabelChar (c : Char) : Bool :=
  !(isGap c || c = '\n' || c = '\ufeff' || isFlowMark c)

def label? (s : List Char) : Option (String × List Char) :=
  let name := s.takeWhile isLabelChar
  if name.isEmpty then none else some (String.ofList name, s.drop name.length)

/-! ### Tags -/

structure Tag where
  handle : String
  suffix : String
  deriving DecidableEq, Repr

def isAddressChar (c : Char) : Bool :=
  isNameChar c || "#;/?:@&=+$,.!~*'()[]%".toList.contains c

def isSuffixChar (c : Char) : Bool :=
  isAddressChar c && !isFlowMark c && c ≠ '!'

def escapedByte? : List Char → Option (Nat × List Char)
  | '%' :: a :: b :: rest => (radixNumber? 16 [a, b]).map fun byte => (byte, rest)
  | _ => none

def byteCount? (first : Nat) : Option Nat :=
  if first < 0x80 then some 1
  else if first < 0xc0 then none
  else if first < 0xe0 then some 2
  else if first < 0xf0 then some 3
  else if first < 0xf8 then some 4
  else none

/-- The number whose digits are so many escaped bytes behind those read, all of which go on with a
character. -/
def escapedNumber? : Nat → Nat → List Char → Option (Nat × List Char)
  | 0, number, s => some (number, s)
  | count + 1, number, s => do
    let (byte, rest) ← escapedByte? s
    guard (decide (0x80 ≤ byte) && decide (byte < 0xc0))
    escapedNumber? count (number * 0x100 + byte) rest

/-- The character that a text starts with in escapes; its number has their bytes for digits. -/
def escapedChar? (s : List Char) : Option (Char × List Char) := do
  let (first, rest) ← escapedByte? s
  let count ← byteCount? first
  let (number, rest) ← escapedNumber? (count - 1) first rest
  guard (decide number.isValidChar)
  return (Char.ofNat number, rest)

def address? (allowed : Char → Bool) : Nat → List Char → Option (List Char × List Char)
  | 0, s => some ([], s)
  | _, [] => some ([], [])
  | fuel + 1, c :: rest =>
    if !allowed c then some ([], c :: rest)
    else if c = '%' then do
      let (char, rest) ← escapedChar? (c :: rest)
      let (more, rest) ← address? allowed fuel rest
      return (char :: more, rest)
    else do
      let (more, rest) ← address? allowed fuel rest
      return (c :: more, rest)

/-- The handle of a tag that a text starts with, with its marks, and what follows it. -/
def handle? : List Char → Option (List Char × List Char)
  | '!' :: rest =>
    let name := rest.takeWhile isNameChar
    match rest.drop name.length with
    | '!' :: rest => some ('!' :: name ++ ['!'], rest)
    | rest => some ('!' :: name, rest)
  | _ => none

def tag? (s : List Char) : Option (Tag × List Char) := do
  match s with
  | '!' :: '<' :: rest =>
    let (name, rest) ← address? isAddressChar rest.length rest
    match rest with
    | '>' :: rest => return (⟨"", String.ofList name⟩, rest)
    | _ => failure
  | s =>
    let (handle, rest) ← handle? s
    let (suffix, rest') ← address? isSuffixChar rest.length rest
    if 2 ≤ handle.length && handle.getLast? = some '!' then
      guard !suffix.isEmpty
      return (⟨String.ofList handle, String.ofList suffix⟩, rest')
    else
      let suffix := handle.drop 1 ++ suffix
      if suffix.isEmpty then return (⟨"", "!"⟩, rest')
      else return (⟨"!", String.ofList suffix⟩, rest')

/-! ### Directives -/

inductive Directive where
  | version
  | tagPrefix (handle stands : String)
  deriving DecidableEq, Repr

def afterVersionNumber? (s : List Char) : Option (List Char) :=
  let digits := s.takeWhile Char.isDigit
  if digits.isEmpty || decide (9 < digits.length) then none else some (s.drop digits.length)

def tagPrefix? (s : List Char) : Option (Directive × List Char) := do
  let (handle, rest) ← handle? (s.dropWhile isGap)
  guard (handle = ['!'] || handle.getLast? = some '!')
  let rest := rest.dropWhile isGap
  guard (rest.head?.any fun c => c = '!' || isSuffixChar c)
  let (stands, rest) ← match rest with
    | '!' :: rest => (address? isAddressChar rest.length rest).map fun (more, rest) =>
      ('!' :: more, rest)
    | rest => address? isAddressChar rest.length rest
  guard (atGap rest)
  return (.tagPrefix (String.ofList handle) (String.ofList stands), rest)

/-- The directive behind its mark that a text starts with, and what follows it. One with another name
says nothing. -/
def directive? (s : List Char) : Option (Directive × List Char) := do
  let name := s.takeWhile isNameChar
  let rest := s.drop name.length
  guard (!name.isEmpty && atGap rest)
  match String.ofList name with
  | "YAML" =>
    match ← afterVersionNumber? (rest.dropWhile isGap) with
    | '.' :: minor => return (.version, ← afterVersionNumber? minor)
    | _ => failure
  | "TAG" => tagPrefix? rest
  | _ => return (.tagPrefix "" "", rest.dropWhile (· ≠ '\n'))

end LispHost.Config.Yaml
