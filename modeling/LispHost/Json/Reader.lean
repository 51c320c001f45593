import LispHost.Json
import LispHost.Text.Digits

/-!
Reading JSON text.

The grammar is the strict one: no comments, no trailing commas, no control characters in strings,
and escapes of surrogates only in pairs. Arrays and objects may nest up to a given depth. Fields of
one name are all kept, in order.
-/

set_option autoImplicit false

namespace LispHost.Json.Reader

def isBlank (c : Char) : Bool :=
  c = ' ' || c = '\n' || c = '\t' || c = '\r'

def skipBlank (s : List Char) : List Char :=
  s.dropWhile isBlank

inductive Piece where
  | char (c : Char)
  | unit (n : Nat)

def escaped? : Char → Option Char
  | '"' => some '"'
  | '\\' => some '\\'
  | '/' => some '/'
  | 'b' => some '\x08'
  | 'f' => some '\x0c'
  | 'n' => some '\n'
  | 'r' => some '\r'
  | 't' => some '\t'
  | _ => none

def pieces : List Char → Option (List Piece × List Char)
  | [] => none
  | '"' :: rest => some ([], rest)
  | '\\' :: 'u' :: a :: b :: c :: d :: rest => do
    let n ← Text.radixNumber? 16 [a, b, c, d]
    let (more, rest) ← pieces rest
    return (.unit n :: more, rest)
  | '\\' :: c :: rest => do
    let c ← escaped? c
    let (more, rest) ← pieces rest
    return (.char c :: more, rest)
  | c :: rest => do
    guard (c ≠ '\\' ∧ 0x20 ≤ c.toNat)
    let (more, rest) ← pieces rest
    return (.char c :: more, rest)

def isHighHalf (n : Nat) : Bool :=
  0xD800 ≤ n && n < 0xDC00

def isLowHalf (n : Nat) : Bool :=
  0xDC00 ≤ n && n < 0xE000

def ofHalves (high low : Nat) : Char :=
  Char.ofNat (0x10000 + (high - 0xD800) * 0x400 + (low - 0xDC00))

/-- The characters of the pieces; halves must come in pairs, of which `pair` gives the character. -/
def joinPieces (pair : Nat → Nat → Char) : List Piece → Option (List Char)
  | [] => some []
  | .char c :: rest => (joinPieces pair rest).map (c :: ·)
  | .unit high :: rest =>
    if isHighHalf high then
      match rest with
      | .unit low :: rest =>
        if isLowHalf low then (joinPieces pair rest).map (pair high low :: ·) else none
      | _ => none
    else if isLowHalf high then none
    else (joinPieces pair rest).map (Char.ofNat high :: ·)

def stringBody (s : List Char) : Option (String × List Char) := do
  let (parts, rest) ← pieces s
  return (String.ofList (← joinPieces ofHalves parts), rest)

def fraction : List Char → Option (List Char × List Char)
  | '.' :: rest =>
    let (digits, rest) := rest.span Char.isDigit
    if digits.isEmpty then none else some (digits, rest)
  | rest => some ([], rest)

def exponent : List Char → Option (Option Int × List Char)
  | e :: rest =>
    if e = 'e' ∨ e = 'E' then
      let (negative, rest) := match rest with
        | '+' :: rest => (false, rest)
        | '-' :: rest => (true, rest)
        | rest => (false, rest)
      let (digits, rest) := rest.span Char.isDigit
      let size : Int := Text.decimalNumber digits
      if digits.isEmpty then none
      else some (some (if negative then -size else size), rest)
    else some (none, e :: rest)
  | [] => some (none, [])

/-- A number without its sign; a leading zero stands alone. -/
def unsigned (negative : Bool) (s : List Char) : Option (Decimal × List Char) := do
  let (whole, rest) := s.span Char.isDigit
  guard (!whole.isEmpty && (whole.length = 1 || whole.head? ≠ some '0'))
  let (part, rest) ← fraction rest
  let (power, rest) ← exponent rest
  let integral := part.isEmpty && power.isNone
  let digits := Text.decimalNumber (whole ++ part)
  return (⟨negative, digits, part.length, power.getD 0, integral⟩, rest)

def number : List Char → Option (Decimal × List Char)
  | '-' :: rest => unsigned true rest
  | s => unsigned false s

mutual

/-- A value; `depth` counts the containers that may still open, `fuel` bounds the calls. -/
def value (depth : Nat) : Nat → List Char → Option (Json × List Char)
  | 0, _ => none
  | fuel + 1, s =>
    match skipBlank s with
    | 'n' :: 'u' :: 'l' :: 'l' :: rest => some (.null, rest)
    | 't' :: 'r' :: 'u' :: 'e' :: rest => some (.bool true, rest)
    | 'f' :: 'a' :: 'l' :: 's' :: 'e' :: rest => some (.bool false, rest)
    | '"' :: rest => (stringBody rest).map fun (text, rest) => (.string text, rest)
    | '[' :: rest =>
      if depth = 0 then none
      else match skipBlank rest with
        | ']' :: rest => some (.array [], rest)
        | rest => (items (depth - 1) fuel rest).map fun (found, rest) => (.array found, rest)
    | '\x7b' :: rest =>
      if depth = 0 then none
      else match skipBlank rest with
        | '\x7d' :: rest => some (.object [], rest)
        | rest => (fields (depth - 1) fuel rest).map fun (found, rest) => (.object found, rest)
    | rest => (number rest).map fun (n, rest) => (.number n, rest)

def items (depth : Nat) : Nat → List Char → Option (List Json × List Char)
  | 0, _ => none
  | fuel + 1, s => do
    let (item, rest) ← value depth fuel s
    match skipBlank rest with
    | ',' :: rest =>
      let (more, rest) ← items depth fuel rest
      return (item :: more, rest)
    | ']' :: rest => return ([item], rest)
    | _ => none

def fields (depth : Nat) : Nat → List Char → Option (List (String × Json) × List Char)
  | 0, _ => none
  | fuel + 1, s =>
    match skipBlank s with
    | '"' :: rest => do
      let (name, rest) ← stringBody rest
      match skipBlank rest with
      | ':' :: rest =>
        let (item, rest) ← value depth fuel rest
        match skipBlank rest with
        | ',' :: rest =>
          let (more, rest) ← fields depth fuel rest
          return ((name, item) :: more, rest)
        | '\x7d' :: rest => return ([(name, item)], rest)
        | _ => none
      | _ => none
    | _ => none

end

end LispHost.Json.Reader

namespace LispHost.Json

/-- The tree written by a text, with containers at most `depth` deep. -/
def parse? (depth : Nat) (text : String) : Option Json := do
  let chars := text.toList
  let (tree, rest) ← Reader.value depth (2 * chars.length + 2) chars
  guard (Reader.skipBlank rest).isEmpty
  return tree

end LispHost.Json
