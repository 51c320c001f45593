import LispHost.Binary.Reader
import LispHost.Config.Tree

/-!
Reading RON.

Values are truth values, numbers, characters, strings, lists in brackets, maps in braces, and tuples
and records in parentheses, in front of which a name may stand. A record is a table by its field names,
a map by its keys, which are texts. An option is its content, or nothing.
-/

set_option autoImplicit false

namespace LispHost.Config.Ron

open LispHost.Text

def isGap (c : Char) : Bool :=
  c = ' ' || c = '\n' || c = '\t' || c = '\x0d'

def startsName (c : Char) : Bool :=
  c.isAlpha || c = '_'

def continuesName (c : Char) : Bool :=
  c.isAlphanum || c = '_'

/-- The text after blanks and comments. The number says where it is: 0 outside comments, 1 in one up to
the end of the line, and above that in so many nested ones less one. -/
def skipFiller : Nat → List Char → Option (List Char)
  | 0, [] => some []
  | 0, '/' :: '/' :: rest => skipFiller 1 rest
  | 0, '/' :: '*' :: rest => skipFiller 2 rest
  | 0, c :: rest => if isGap c then skipFiller 0 rest else some (c :: rest)
  | 1, [] => some []
  | 1, c :: rest => skipFiller (if c = '\n' then 0 else 1) rest
  | _ + 2, [] => none
  | 2, '*' :: '/' :: rest => skipFiller 0 rest
  | level + 3, '*' :: '/' :: rest => skipFiller (level + 2) rest
  | level + 2, '/' :: '*' :: rest => skipFiller (level + 3) rest
  | level + 2, _ :: rest => skipFiller (level + 2) rest

def filler : Scan Unit :=
  Scan.of fun s => (skipFiller 0 s).map fun rest => ((), rest)

def mark (c : Char) : Scan Unit := do
  filler
  Scan.char c

def markIf (c : Char) : Scan Bool := do
  filler
  Scan.charIf c

def continuesRawName (c : Char) : Bool :=
  continuesName c || c = '.' || c = '+' || c = '-'

/-- A name behind the mark of raw names, whether such a mark may start here or not. -/
def rawName? : List Char → Option (List Char × List Char)
  | 'r' :: '#' :: rest =>
    if rest.head?.any continuesRawName then some (rest.span continuesRawName) else none
  | _ => none

/-- A name without that mark. It may not go on as a raw name would. -/
def plainName? : List Char → Option (List Char × List Char)
  | [] => none
  | c :: rest => do
    guard (startsName c && !(c = 'r' && rest.head?.any fun d => d = '"' || d = '#'))
    let (more, after) := rest.span continuesName
    guard !(after.head?.any continuesRawName)
    return (c :: more, after)

def name : Scan (List Char) :=
  Scan.of fun s => rawName? s <|> plainName? s

/-- Whether this word comes next, no longer name in its place; if so it is taken off. -/
def wordIf (word : String) : Scan Bool :=
  Scan.of fun s =>
    let after := s.drop word.length
    if word.toList.isPrefixOf s && !after.head?.any continuesName then some (true, after)
    else some (false, s)

/-! ### Strings and characters -/

def escaped? : Char → Option Char
  | '\'' => some '\''
  | '"' => some '"'
  | '\\' => some '\\'
  | 'n' => some '\n'
  | 'r' => some '\x0d'
  | 't' => some '\t'
  | '0' => some '\x00'
  | _ => none

def escape : Scan Char := do
  let numbered (digits : List Char) : Scan Char := do
    match radixNumber? 16 digits with
    | some n => guard n.isValidChar; return Char.ofNat n
    | none => failure
  match ← Scan.next with
  | 'x' => do
    let digits ← Scan.peekMany 2
    guard (digits.length = 2)
    Scan.skip 2
    numbered digits
  | 'u' => do
    Scan.char '\x7b'
    let digits ← Scan.takeWhile fun c => c ≠ '\x7d'
    guard (decide (digits.length ≤ 6))
    Scan.skip 1
    numbered digits
  | c =>
    match escaped? c with
    | some c => return c
    | none => failure

def stringBody : Nat → Scan (List Char)
  | 0 => failure
  | fuel + 1 => do
    match ← Scan.next with
    | '"' => return []
    | '\\' => return (← escape) :: (← stringBody fuel)
    | c => return c :: (← stringBody fuel)

def textBefore (stop : List Char) : Nat → Scan (List Char)
  | 0 => failure
  | fuel + 1 => do
    if ← Scan.textIf stop then return []
    else return (← Scan.next) :: (← textBefore stop fuel)

def rawString : Scan (List Char) := do
  let hashes ← Scan.takeWhile (· = '#')
  Scan.char '"'
  textBefore ('"' :: hashes) ((← Scan.remaining) + 1)

def charBody : Scan (List Char) := do
  let c ← match ← Scan.next with
    | '\\' => escape
    | '\'' => failure
    | c => pure c
  Scan.char '\''
  return [c]

/-! ### Numbers -/

def isIntegerChar (c : Char) : Bool :=
  (digitValue? 16 c).isSome || c = '_'

def isFloatChar (c : Char) : Bool :=
  c.isDigit || c = 'e' || c = 'E' || c = '.' || c = '+' || c = '-' || c = '_'

def naturalNumber : Scan Nat := do
  let radix ←
    if ← Scan.textIf ['0', 'x'] then pure 16
    else if ← Scan.textIf ['0', 'b'] then pure 2
    else if ← Scan.textIf ['0', 'o'] then pure 8
    else pure 10
  let digits ← Scan.takeWhile1 isIntegerChar
  guard (digits.head? ≠ some '_')
  match radixNumber? radix (digits.filter (· ≠ '_')) with
  | some n => return n
  | none => failure

def float : Scan Tree := do
  if ← wordIf "+inf" then return .float (.infinite false)
  else if ← wordIf "+NaN" then return .float .nan
  else if ← wordIf "-NaN" then return .float .nan
  else match Decimal.ofText? (← Scan.takeWhile1 isFloatChar) with
  | some d => return .float (.ofDecimal .double d)
  | none => failure

/-- An integer: of 64 bits with a sign in front of it, or without one. -/
def integer : Scan Tree := do
  let isSigned := (← Scan.peek?).any fun c => c = '+' || c = '-'
  let negative ← Decimal.signScan
  let n ← naturalNumber
  let value : Int := if negative then -n else n
  guard (Tree.isInt64 value || !isSigned && decide (n < UInt64.size))
  return .ofInt value

/-- Whether the characters of a float go on where those of an integer end. -/
def goesOnAsFloat (s : List Char) : Bool :=
  let body := match s with
    | '+' :: rest => rest
    | '-' :: rest => rest
    | s => s
  decide ((body.takeWhile isIntegerChar).length < (body.takeWhile isFloatChar).length)

/-- A number. What is no integer is read as a float. -/
def number : Scan Tree := do
  if ← Scan.of (fun s => some (goesOnAsFloat s, s)) then float else integer <|> float

/-! ### Values -/

/-- Whether a record starts here, its opening parenthesis read: a name with a colon comes first. -/
def startsRecord : Scan Bool :=
  let opening : Scan Unit := do
    filler
    let _ ← name
    mark ':'
  Scan.of fun s => some ((opening s).isSome, s)

def quoted : Scan String := do
  match ← Scan.next with
  | '"' => return String.ofList (← stringBody ((← Scan.remaining) + 1))
  | '\'' => return String.ofList (← charBody)
  | 'r' => return String.ofList (← rawString)
  | _ => failure

def words : List (String × Tree) :=
  [("true", .bool true), ("false", .bool false), ("None", .nil), ("inf", .float (.infinite false)),
    ("-inf", .float (.infinite true)), ("NaN", .float .nan)]

def word : List (String × Tree) → Scan (Option Tree)
  | [] => return none
  | (text, tree) :: more => do
    if ← wordIf text then return some tree else word more

/-- Whether a name comes next; if so it is taken off. -/
def nameIf : Scan Bool :=
  (do
    let _ ← name
    return true) <|> pure false

mutual

/-- A value. `depth` counts the levels that may still open: one for a container, one for what is inside
it. `fuel` bounds the calls. -/
def value (extended : Bool) (depth : Nat) : Nat → Scan Tree
  | 0 => failure
  | fuel + 1 => do
    filler
    match ← word words with
    | some tree => return tree
    | none =>
      if ← wordIf "Some" then do
        guard (depth ≠ 0)
        if ← markIf '(' then
          let content ← value extended (depth - 1) fuel
          let _ ← markIf ','
          mark ')'
          return content
        else
          guard extended
          value extended (depth - 1) fuel
      else if ← Scan.textIf ['(', ')'] then return .nil
      else if ← nameIf then do
        filler
        if (← Scan.peek?) = some '(' then group extended depth fuel else return .nil
      else
        match ← Scan.peek? with
        | none => failure
        | some '[' => do
          guard (depth ≠ 0)
          Scan.skip 1
          return .list (← items ']' extended (depth - 1) fuel)
        | some '\x7b' => do
          guard (depth ≠ 0)
          Scan.skip 1
          return .table (← entries extended (depth - 1) [] fuel)
        | some '(' => group extended depth fuel
        | some c =>
          if c.isDigit ∨ c = '+' ∨ c = '-' ∨ c = '.' then number
          else return .written (← quoted)
termination_by structural fuel => fuel

def group (extended : Bool) (depth : Nat) : Nat → Scan Tree
  | 0 => failure
  | fuel + 1 => do
    guard (depth ≠ 0)
    Scan.skip 1
    if ← startsRecord then return .table (← fields extended (depth - 1) [] fuel)
    else return .list (← items ')' extended (depth - 1) fuel)
termination_by structural fuel => fuel

/-- The items up to a closing character; a comma may stand behind the last one. -/
def items (close : Char) (extended : Bool) (depth : Nat) : Nat → Scan (List Tree)
  | 0 => failure
  | fuel + 1 => do
    if ← markIf close then return []
    else
      guard (depth ≠ 0)
      let item ← value extended (depth - 1) fuel
      if ← markIf ',' then return item :: (← items close extended depth fuel)
      else
        mark close
        return [item]
termination_by structural fuel => fuel

/-- The fields of a record up to the closing parenthesis, after those already read. -/
def fields (extended : Bool) (depth : Nat) (found : List (String × Tree)) :
    Nat → Scan (List (String × Tree))
  | 0 => failure
  | fuel + 1 => do
    if ← markIf ')' then return found
    else
      guard (depth ≠ 0)
      let field ← name
      mark ':'
      let item ← value extended (depth - 1) fuel
      let found := Tree.setField (String.ofList field) item found
      if ← markIf ',' then fields extended depth found fuel
      else
        mark ')'
        return found
termination_by structural fuel => fuel

/-- The entries of a map up to the closing brace, after those already read. Keys are texts. -/
def entries (extended : Bool) (depth : Nat) (found : List (String × Tree)) :
    Nat → Scan (List (String × Tree))
  | 0 => failure
  | fuel + 1 => do
    if ← markIf '\x7d' then return found
    else
      guard (depth ≠ 0)
      let key ← quoted
      mark ':'
      let item ← value extended (depth - 1) fuel
      let found := Tree.setField key item found
      if ← markIf ',' then entries extended depth found fuel
      else
        mark '\x7d'
        return found
termination_by structural fuel => fuel

end

def depthLimit : Nat := 128

inductive Extension where
  | unwrapNewtypes
  /-- The content of an option may stand without parentheses. -/
  | implicitSome
  | unwrapVariantNewtypes
  deriving DecidableEq, Repr

def Extension.ofName? : String → Option Extension
  | "unwrap_newtypes" => some .unwrapNewtypes
  | "implicit_some" => some .implicitSome
  | "unwrap_variant_newtypes" => some .unwrapVariantNewtypes
  | _ => none

/-- The extensions of a list with commas between them; one may stand behind the last one. -/
def extensionList : Nat → Scan (List Extension)
  | 0 => failure
  | fuel + 1 => do
    match Extension.ofName? (String.ofList (← name)) with
    | none => failure
    | some extension => do
      if ← markIf ',' then
        filler
        if (← Scan.peek?).any continuesName then return extension :: (← extensionList fuel)
        else return [extension]
      else return [extension]

/-- The extensions that the attributes at the front of a text ask for. -/
def attributes : Nat → Scan (List Extension)
  | 0 => failure
  | fuel + 1 => do
    if ← markIf '#' then
      mark '!'
      mark '['
      filler
      guard (← Scan.textIf "enable".toList)
      mark '('
      filler
      let found ← extensionList ((← Scan.remaining) + 1)
      mark ')'
      mark ']'
      return found ++ (← attributes fuel)
    else return []

def document : Scan Tree := do
  let extensions ← attributes ((← Scan.remaining) + 1)
  let extended := extensions.contains .implicitSome
  let tree ← value extended depthLimit (3 * (← Scan.remaining) + 3)
  filler
  return tree

/-- The fields at the root of a RON text, which is a record or a map. -/
def parse? (text : String) : Option (List (String × Tree)) :=
  match Scan.all? document text with
  | some (.table fields) => some fields
  | _ => none

end LispHost.Config.Ron
