import LispHost.Binary.Reader
import LispHost.Config.Tree
import LispHost.Json.Reader
import LispHost.Text.Blank
import LispHost.Text.Diacritic
import LispHost.Text.WordChar

/-!
Reading JSON5.

Beyond JSON there are comments, commas behind the last item, names without quotes, strings in either
kind of quotes that may go on in the next line, and numbers in hexadecimal, with a plus sign, with a
point at either end, infinite, or not a number at all. Integers have at most 64 bits.
-/

set_option autoImplicit false

namespace LispHost.Config.Json5

open LispHost.Text

def isGap (c : Char) : Bool :=
  isBlank c && c ≠ '\u0085' || c = '\ufeff'

def isBreak (c : Char) : Bool :=
  c = '\n' || c = '\x0d' || c = '\u2028' || c = '\u2029'

inductive Filler where
  | outside
  | lineComment
  | blockComment

def skipFiller : Filler → List Char → Option (List Char)
  | .outside, '/' :: '/' :: rest => skipFiller .lineComment rest
  | .outside, '/' :: '*' :: rest => skipFiller .blockComment rest
  | .outside, c :: rest => if isGap c then skipFiller .outside rest else some (c :: rest)
  | .lineComment, c :: rest => skipFiller (if isBreak c then .outside else .lineComment) rest
  | .blockComment, '*' :: '/' :: rest => skipFiller .outside rest
  | .blockComment, _ :: rest => skipFiller .blockComment rest
  | .blockComment, [] => none
  | _, [] => some []

def filler : Scan Unit :=
  Scan.of fun s => (skipFiller .outside s).map fun rest => ((), rest)

def mark (c : Char) : Scan Unit := do
  filler
  Scan.char c

def markIf (c : Char) : Scan Bool := do
  filler
  Scan.charIf c

/-! ### Strings and names -/

/-- The character of an escape with one letter; other characters stand for themselves. -/
def escaped : Char → Char
  | 'b' => '\x08'
  | 'f' => '\x0c'
  | 'n' => '\n'
  | 'r' => '\x0d'
  | 't' => '\t'
  | 'v' => '\x0b'
  | '0' => '\x00'
  | c => c

/-- The pieces of a string up to its closing quote, and what follows it. -/
def pieces (quote : Char) : List Char → Option (List Json.Reader.Piece × List Char)
  | [] => none
  | '\\' :: 'u' :: a :: b :: c :: d :: rest => do
    let n ← radixNumber? 16 [a, b, c, d]
    let (more, rest) ← pieces quote rest
    return (.unit n :: more, rest)
  | '\\' :: 'x' :: a :: b :: rest => do
    let n ← radixNumber? 16 [a, b]
    let (more, rest) ← pieces quote rest
    return (.unit n :: more, rest)
  | '\\' :: '\x0d' :: '\n' :: rest => pieces quote rest
  | '\\' :: c :: rest => do
    guard (c ≠ 'u' && c ≠ 'x' && !(c.isDigit && c ≠ '0'))
    let (more, rest) ← pieces quote rest
    return (if isBreak c then more else .char (escaped c) :: more, rest)
  | c :: rest =>
    if c = quote then some ([], rest)
    else do
      guard (c ≠ '\\' && !isBreak c)
      let (more, rest) ← pieces quote rest
      return (.char c :: more, rest)

/-- The character of a pair of halves: ten bits of each, and bit 16 set whatever they are. -/
def ofHalves (high low : Nat) : Char :=
  Char.ofNat (0x10000 ||| (high - 0xD800) * 0x400 ||| (low - 0xDC00))

def stringBody (quote : Char) : Scan String :=
  Scan.of fun s => do
    let (parts, rest) ← pieces quote s
    return (String.ofList (← Json.Reader.joinPieces ofHalves parts), rest)

def startsName (c : Char) : Bool :=
  c = '$' || c = '_' || isLetter c && inSixteen c

def continuesName (c : Char) : Bool :=
  startsName c || isJoiner c ||
    inSixteen c && (isAttachedMark c || isDecimalDigit c || isConnector c || isLoneDiacritic c)

/-- The pieces of a name without quotes, and what follows it; `first` for its first character. An escape
may stand for any character. -/
def namePieces (first : Bool) : List Char → Option (List Json.Reader.Piece × List Char)
  | [] => some ([], [])
  | '\\' :: rest =>
    match rest with
    | 'u' :: a :: b :: c :: d :: rest => do
      let n ← radixNumber? 16 [a, b, c, d]
      let (more, rest) ← namePieces false rest
      return (.unit n :: more, rest)
    | _ => none
  | c :: rest =>
    if if first then startsName c else continuesName c then do
      let (more, rest) ← namePieces false rest
      return (.char c :: more, rest)
    else some ([], c :: rest)

def name : Scan String := do
  match ← Scan.peek? with
  | none => failure
  | some c =>
    if c = '"' ∨ c = '\'' then do
      Scan.skip 1
      stringBody c
    else Scan.of fun s => do
      let (parts, rest) ← namePieces true s
      guard !parts.isEmpty
      return (String.ofList (← Json.Reader.joinPieces ofHalves parts), rest)

/-! ### Numbers -/

def isTokenChar (c : Char) : Bool :=
  c.isAlphanum || c = '.' || c = '+' || c = '-' || c = '_' || c = '$'

/-- Whether the whole part of a number is one zero or starts with another digit. -/
def hasPlainWhole (s : List Char) : Bool :=
  let whole := s.takeWhile Char.isDigit
  whole.length ≤ 1 || whole.head? ≠ some '0'

def unsigned? (negative : Bool) (s : List Char) : Option Tree :=
  match String.ofList s with
  | "Infinity" => some (.float (.infinite negative))
  | "NaN" => some (.float .nan)
  | _ =>
    if hasPlainWhole s then do
      let d ← Decimal.ofText? s
      let d := { d with negative }
      match d.int? with
      | some n =>
        guard (Tree.isInt64 n)
        return .int n
      | none =>
        let b := Binary.ofDecimal .double d
        guard (b ≠ .infinite negative)
        return .float b
    else none

def hexadecimal? (digits : List Char) : Option Tree := do
  let n ← radixNumber? 16 digits
  guard (decide (n < UInt32.size))
  return .int n

def token? (s : List Char) : Option Tree :=
  match s with
  | '0' :: 'x' :: digits => hexadecimal? digits
  | '0' :: 'X' :: digits => hexadecimal? digits
  | '-' :: rest => do
    guard (rest.head? ≠ some '-' && rest.head? ≠ some '+')
    unsigned? true rest
  | '+' :: rest => do
    guard ((rest.head?).any fun c => c.isDigit || c = '.')
    unsigned? false rest
  | s =>
    match String.ofList s with
    | "null" => some .nil
    | "true" => some (.bool true)
    | "false" => some (.bool false)
    | _ => unsigned? false s

/-! ### Values -/

mutual

/-- A value; `fuel` bounds the calls. -/
def value : Nat → Scan Tree
  | 0 => failure
  | fuel + 1 => do
    filler
    match ← Scan.peek? with
    | some '[' => do
      Scan.skip 1
      return .list (← items fuel)
    | some '\x7b' => do
      Scan.skip 1
      return .table (← fields [] fuel)
    | some '"' => do
      Scan.skip 1
      return .written (← stringBody '"')
    | some '\'' => do
      Scan.skip 1
      return .written (← stringBody '\'')
    | _ =>
      match token? (← Scan.takeWhile1 isTokenChar) with
      | some tree => return tree
      | none => failure

/-- The items of an array up to its closing bracket; a comma may stand behind the last one. -/
def items : Nat → Scan (List Tree)
  | 0 => failure
  | fuel + 1 => do
    if ← markIf ']' then return []
    else
      let item ← value fuel
      if ← markIf ',' then return item :: (← items fuel)
      else
        mark ']'
        return [item]

/-- The fields of an object up to its closing brace, after those already read. -/
def fields (found : List (String × Tree)) : Nat → Scan (List (String × Tree))
  | 0 => failure
  | fuel + 1 => do
    if ← markIf '\x7d' then return found
    else
      let field ← name
      mark ':'
      let item ← value fuel
      let found := Tree.setField field item found
      if ← markIf ',' then fields found fuel
      else
        mark '\x7d'
        return found

end

def document : Scan Tree := do
  let tree ← value (2 * (← Scan.remaining) + 2)
  filler
  return tree

/-- The fields at the root of a JSON5 text, which is an object. -/
def parse? (text : String) : Option (List (String × Tree)) :=
  match Scan.all? document text with
  | some (.table fields) => some fields
  | _ => none

end LispHost.Config.Json5
