import LispHost.Binary.Reader
import LispHost.Config.Toml.Table

/-!
Reading TOML.

A text is a list of lines: a key with its value, a header that names the table the next keys belong to,
a comment, or nothing. Values are strings of four kinds, numbers, truth values, moments, lists and
inline tables; a moment counts as a text.
-/

set_option autoImplicit false

namespace LispHost.Config.Toml

open LispHost.Text

def isGap (c : Char) : Bool :=
  c = ' ' || c = '\t'

def isPlain (c : Char) : Bool :=
  c = '\t' || decide (0x20 ≤ c.toNat) && c ≠ '\x7f'

def isKeyChar (c : Char) : Bool :=
  c.isAlphanum || c = '_' || c = '-'

def gap : Scan Unit :=
  Scan.skipWhile isGap

def afterBreak? : List Char → Option (List Char)
  | '\n' :: rest => some rest
  | '\x0d' :: '\n' :: rest => some rest
  | _ => none

/-- The end of a line: a comment may come first, then a line break or the end of the text. -/
def lineEnd : Scan Unit := do
  gap
  if ← Scan.charIf '#' then Scan.skipWhile isPlain
  Scan.of fun s =>
    match s with
    | [] => some ((), [])
    | s => (afterBreak? s).map fun rest => ((), rest)

/-- The text after blanks, comments and line breaks; `inComment` inside a comment. -/
def skipFiller : Bool → List Char → Option (List Char)
  | _, [] => some []
  | _, '\n' :: rest => skipFiller false rest
  | _, '\x0d' :: '\n' :: rest => skipFiller false rest
  | true, c :: rest => if isPlain c then skipFiller true rest else none
  | false, c :: rest =>
    if isGap c then skipFiller false rest
    else if c = '#' then skipFiller true rest
    else some (c :: rest)

def filler : Scan Unit :=
  Scan.of fun s => (skipFiller false s).map fun rest => ((), rest)

/-! ### Strings -/

def escaped? : Char → Option Char
  | '"' => some '"'
  | '\\' => some '\\'
  | 'b' => some '\x08'
  | 'f' => some '\x0c'
  | 'n' => some '\n'
  | 'r' => some '\x0d'
  | 't' => some '\t'
  | _ => none

def numbered? (digits : List Char) : Option Char := do
  let n ← radixNumber? 16 digits
  if n.isValidChar then some (Char.ofNat n) else none

def basicBody : List Char → Option (List Char × List Char)
  | [] => none
  | '"' :: rest => some ([], rest)
  | '\\' :: 'u' :: a :: b :: c :: d :: rest => do
    let char ← numbered? [a, b, c, d]
    let (more, rest) ← basicBody rest
    return (char :: more, rest)
  | '\\' :: 'U' :: a :: b :: c :: d :: e :: f :: g :: h :: rest => do
    let char ← numbered? [a, b, c, d, e, f, g, h]
    let (more, rest) ← basicBody rest
    return (char :: more, rest)
  | '\\' :: c :: rest => do
    let char ← escaped? c
    let (more, rest) ← basicBody rest
    return (char :: more, rest)
  | c :: rest => do
    guard (isPlain c && c ≠ '\\')
    let (more, rest) ← basicBody rest
    return (c :: more, rest)

def endsLine (s : List Char) : Bool :=
  (afterBreak? (s.dropWhile isGap)).isSome

/-- A basic string of many lines up to its closing quotes; `skipping` after a backslash that ends a
line, which joins the next text to it. Two quotes more may stand before the closing ones. -/
def basicLines : Bool → List Char → Option (List Char × List Char)
  | _, [] => none
  | _, '"' :: '"' :: '"' :: '"' :: '"' :: rest => some (['"', '"'], rest)
  | _, '"' :: '"' :: '"' :: '"' :: rest => some (['"'], rest)
  | _, '"' :: '"' :: '"' :: rest => some ([], rest)
  | skipping, '\x0d' :: '\n' :: rest => do
    let (more, rest) ← basicLines skipping rest
    return (if skipping then more else '\n' :: more, rest)
  | skipping, '\n' :: rest => do
    let (more, rest) ← basicLines skipping rest
    return (if skipping then more else '\n' :: more, rest)
  | _, '\\' :: 'u' :: a :: b :: c :: d :: rest => do
    let char ← numbered? [a, b, c, d]
    let (more, rest) ← basicLines false rest
    return (char :: more, rest)
  | _, '\\' :: 'U' :: a :: b :: c :: d :: e :: f :: g :: h :: rest => do
    let char ← numbered? [a, b, c, d, e, f, g, h]
    let (more, rest) ← basicLines false rest
    return (char :: more, rest)
  | _, '\\' :: c :: rest => do
    match escaped? c with
    | some char =>
      let (more, rest) ← basicLines false rest
      return (char :: more, rest)
    | none =>
      guard (endsLine (c :: rest))
      basicLines true (c :: rest)
  | skipping, c :: rest => do
    guard (isPlain c && c ≠ '\\')
    if skipping && isGap c then basicLines true rest
    else
      let (more, rest) ← basicLines false rest
      return (c :: more, rest)

def literalLines : List Char → Option (List Char × List Char)
  | [] => none
  | '\'' :: '\'' :: '\'' :: '\'' :: '\'' :: rest => some (['\'', '\''], rest)
  | '\'' :: '\'' :: '\'' :: '\'' :: rest => some (['\''], rest)
  | '\'' :: '\'' :: '\'' :: rest => some ([], rest)
  | '\x0d' :: '\n' :: rest => do
    let (more, rest) ← literalLines rest
    return ('\n' :: more, rest)
  | c :: rest => do
    guard (isPlain c || c = '\n')
    let (more, rest) ← literalLines rest
    return (c :: more, rest)

def dropBreak (s : List Char) : List Char :=
  (afterBreak? s).getD s

def lineString : Scan (List Char) := do
  match ← Scan.next with
  | '"' => Scan.of basicBody
  | '\'' => do
    let found ← Scan.takeWhile fun c => isPlain c && c ≠ '\''
    Scan.char '\''
    return found
  | _ => failure

def string : Scan (List Char) := do
  if ← Scan.textIf ['"', '"', '"'] then Scan.of fun s => basicLines false (dropBreak s)
  else if ← Scan.textIf ['\'', '\'', '\''] then Scan.of fun s => literalLines (dropBreak s)
  else lineString

/-! ### Keys -/

/-- How many containers may stand inside each other, and how many names a key may have. -/
def depthLimit : Nat := 79

def name : Scan String := do
  gap
  let found ← lineString <|> Scan.takeWhile1 isKeyChar
  gap
  return String.ofList found

def moreNames : Nat → Scan (List String)
  | 0 => failure
  | fuel + 1 => do
    if ← Scan.charIf '.' then return (← name) :: (← moreNames fuel) else return []

def key : Scan (List String) := do
  let first ← name
  let path := first :: (← moreNames ((← Scan.remaining) + 1))
  guard (decide (path.length ≤ depthLimit))
  return path

/-! ### Numbers -/

def ungrouped? (isDigit : Char → Bool) : List Char → Option (List Char)
  | [] => none
  | [c] => if isDigit c then some [c] else none
  | c :: '_' :: rest => if isDigit c then (ungrouped? isDigit rest).map (c :: ·) else none
  | c :: rest => if isDigit c then (ungrouped? isDigit rest).map (c :: ·) else none

def splitSign : List Char → Bool × List Char
  | '-' :: rest => (true, rest)
  | '+' :: rest => (false, rest)
  | s => (false, s)

/-- The digits of a whole number; a zero at the front stands alone. -/
def wholeDigits? (s : List Char) : Option (List Char) := do
  let digits ← ungrouped? Char.isDigit s
  guard (digits.length = 1 || digits.head? ≠ some '0')
  return digits

def radixInteger? (radix : Nat) (s : List Char) : Option Int := do
  let digits ← ungrouped? (fun c => (digitValue? radix c).isSome) s
  return (← radixNumber? radix digits : Nat)

def integer? (s : List Char) : Option Int := do
  let n ← match s with
    | '0' :: 'x' :: rest => radixInteger? 16 rest
    | '0' :: 'o' :: rest => radixInteger? 8 rest
    | '0' :: 'b' :: rest => radixInteger? 2 rest
    | s => do
      let (negative, rest) := splitSign s
      let size : Int := decimalNumber (← wholeDigits? rest)
      pure (if negative then -size else size)
  guard (Tree.isInt64 n)
  return n

def exponent? (s : List Char) : Option Int := do
  let (negative, rest) := splitSign s
  let size : Int := decimalNumber (← ungrouped? Char.isDigit rest)
  return if negative then -size else size

def decimal? (s : List Char) : Option Decimal := do
  let (negative, s) := splitSign s
  let inNumber (c : Char) : Bool := c.isDigit || c = '_'
  let (whole, rest) := s.span inNumber
  let whole ← wholeDigits? whole
  let (part, rest) ← match rest with
    | '.' :: rest => do
      pure (← ungrouped? Char.isDigit (rest.takeWhile inNumber), rest.dropWhile inNumber)
    | rest => pure ([], rest)
  let power ← match rest with
    | [] => do
      guard (!part.isEmpty)
      pure 0
    | e :: rest => do
      guard (e = 'e' || e = 'E')
      exponent? rest
  return ⟨negative, decimalNumber (whole ++ part), part.length, power, false⟩

/-- A float; a size beyond all floats is allowed below zero only. -/
def float? (s : List Char) : Option Binary :=
  match splitSign s with
  | (negative, ['i', 'n', 'f']) => some (.infinite negative)
  | (_, ['n', 'a', 'n']) => some .nan
  | _ => do
    let b := Binary.ofDecimal .double (← decimal? s)
    guard (b ≠ .infinite false)
    return b

def isBareChar (c : Char) : Bool :=
  c.isAlphanum || c = '_' || c = '+' || c = '-' || c = '.' || c = ':'

def bare : Scan Entry :=
  (do
    let text ← moment
    guard (!(← Scan.peek?).any isBareChar)
    return .moment (String.ofList text)) <|>
  (do
    let text ← Scan.takeWhile1 isBareChar
    if text = ['t', 'r', 'u', 'e'] then return .value (.bool true)
    else if text = ['f', 'a', 'l', 's', 'e'] then return .value (.bool false)
    else match integer? text with
      | some n => return .value (.int n)
      | none =>
        match float? text with
        | some b => return .value (.float b)
        | none => failure)

/-! ### Values -/

mutual

/-- A value; `depth` counts the containers that may still open, `fuel` bounds the calls. -/
def value (depth : Nat) : Nat → Scan Entry
  | 0 => failure
  | fuel + 1 => do
    match ← Scan.peek? with
    | some '"' => return .value (.written (String.ofList (← string)))
    | some '\'' => return .value (.written (String.ofList (← string)))
    | some '[' =>
      guard (depth ≠ 0)
      Scan.skip 1
      return .value (.list (← items (depth - 1) fuel))
    | some '\x7b' =>
      guard (depth ≠ 0)
      Scan.skip 1
      gap
      if ← Scan.charIf '\x7d' then return .value (.table [])
      else
        let table ← pairs (depth - 1) (.defined, []) fuel
        match tableTree? table.2 with
        | some tree => return .value tree
        | none => failure
    | _ => bare

/-- The items of a list up to its closing bracket; a comma may stand behind the last one. -/
def items (depth : Nat) : Nat → Scan (List Tree)
  | 0 => failure
  | fuel + 1 => do
    filler
    if ← Scan.charIf ']' then return []
    else
      let item ← match (← value depth fuel).tree? with
        | some tree => pure tree
        | none => failure
      filler
      if ← Scan.charIf ',' then return item :: (← items depth fuel)
      else
        Scan.char ']'
        return [item]

/-- The keys of an inline table with their values, up to its closing brace. -/
def pairs (depth : Nat) (table : Table) : Nat → Scan Table
  | 0 => failure
  | fuel + 1 => do
    let path ← key
    Scan.char '='
    gap
    let item ← value depth fuel
    gap
    match assign path item table with
    | none => failure
    | some table =>
      if ← Scan.charIf ',' then pairs depth table fuel
      else
        Scan.char '\x7d'
        return table

end

/-! ### Lines -/

/-- A line in the table of the last header; answers the path of the header that then holds. -/
def line (header : List String) (root : Table) : Scan (List String × Table) := do
  if ← Scan.textIf ['[', '['] then do
    let path ← key
    Scan.char ']'
    Scan.char ']'
    lineEnd
    match extend path root with
    | some root => return (path, root)
    | none => failure
  else if ← Scan.charIf '[' then do
    let path ← key
    Scan.char ']'
    lineEnd
    match define path root with
    | some root => return (path, root)
    | none => failure
  else
    match ← Scan.peek? with
    | none => return (header, root)
    | some c =>
      if c = '#' ∨ c = '\n' ∨ c = '\x0d' then do
        lineEnd
        return (header, root)
      else
        let path ← key
        Scan.char '='
        gap
        let item ← value depthLimit (2 * (← Scan.remaining) + 2)
        lineEnd
        match descend false (assign path item) header root with
        | some root => return (header, root)
        | none => failure

def lines : Nat → List String → Table → Scan Table
  | 0, _, _ => failure
  | fuel + 1, header, root => do
    gap
    if ← Scan.atEnd then return root
    else
      let (header, root) ← line header root
      lines fuel header root

/-- A whole text; a mark of the byte order at the front does not count. -/
def document : Scan Table := do
  let _ ← Scan.charIf '\ufeff'
  lines ((← Scan.remaining) + 1) [] (.defined, [])

def parse? (text : String) : Option (List (String × Tree)) :=
  match Scan.all? document text >>= fun root => tableTree? root.2 with
  | some (.table fields) => some fields
  | _ => none

end LispHost.Config.Toml
