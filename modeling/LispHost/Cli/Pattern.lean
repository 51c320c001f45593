import LispHost.Text.Digits
import LispHost.Text.WordChar

/-!
Which texts are patterns that a condition of a log directive may use.

Patterns are regular expressions with groups, alternatives, repetitions, sets of characters and escapes,
without counted repetitions and without tests for the edges of words. Only their form matters here: the
events of the guest have no field that a pattern could be held against.
-/

set_option autoImplicit false

namespace LispHost.Cli.Pattern

inductive Atom where
  | char (c : Char)
  | set
  | place

def numbered? (width : Nat) (s : List Char) : Option (Atom × List Char) := do
  guard (decide (width ≤ s.length))
  let n ← Text.radixNumber? 16 (s.take width)
  guard n.isValidChar
  return (.char (Char.ofNat n), s.drop width)

def escape? : List Char → Option (Atom × List Char)
  | [] => none
  | 'p' :: c :: rest => if "CLMNPSZclmnpsz".toList.contains c then some (.set, rest) else none
  | 'P' :: c :: rest => if "CLMNPSZclmnpsz".toList.contains c then some (.set, rest) else none
  | 'x' :: rest => numbered? 2 rest
  | 'u' :: rest => numbered? 4 rest
  | 'U' :: rest => numbered? 8 rest
  | 'a' :: rest => some (.char '\x07', rest)
  | 'f' :: rest => some (.char '\x0c', rest)
  | 't' :: rest => some (.char '\t', rest)
  | 'n' :: rest => some (.char '\n', rest)
  | 'r' :: rest => some (.char '\x0d', rest)
  | 'v' :: rest => some (.char '\x0b', rest)
  | c :: rest =>
    if "dDsSwW".toList.contains c then some (.set, rest)
    else if c = 'A' ∨ c = 'z' then some (.place, rest)
    else if decide (c.toNat < 128) && !c.isAlphanum && c ≠ '<' && c ≠ '>' then some (.char c, rest)
    else none

def setNames : List String :=
  ["alnum", "alpha", "ascii", "blank", "cntrl", "digit", "graph", "lower", "print", "punct", "space",
    "upper", "word", "xdigit"]

def afterNamedSet? : List Char → Option (List Char)
  | '[' :: ':' :: rest =>
    let rest := if rest.head? = some '^' then rest.drop 1 else rest
    match rest.span Char.isAlpha with
    | (name, ':' :: ']' :: after) => if setNames.contains (String.ofList name) then some after else none
    | _ => none
  | _ => none

/-- The text after the front of a set: a sign that turns it round, dashes, and a closing bracket if that
comes first. -/
def afterSetFront (s : List Char) : List Char :=
  let s := if s.head? = some '^' then s.drop 1 else s
  let dashes := s.takeWhile (· = '-')
  let s := s.dropWhile (· = '-')
  if dashes.isEmpty && s.head? = some ']' then s.drop 1 else s

def setItem? : List Char → Option (Atom × List Char)
  | [] => none
  | '\\' :: rest => escape? rest
  | c :: rest => some (.char c, rest)

/-- The text after a set of which `level` brackets are open. -/
def afterSet? : Nat → Nat → List Char → Option (List Char)
  | 0, _, _ => none
  | _, 0, s => some s
  | fuel + 1, level + 1, s =>
    match s with
    | [] => none
    | ']' :: rest => afterSet? fuel level rest
    | '&' :: '&' :: rest => afterSet? fuel (level + 1) rest
    | '-' :: '-' :: rest => afterSet? fuel (level + 1) rest
    | '~' :: '~' :: rest => afterSet? fuel (level + 1) rest
    | '[' :: rest =>
      match afterNamedSet? s with
      | some rest => afterSet? fuel (level + 1) rest
      | none => afterSet? fuel (level + 2) (afterSetFront rest)
    | s =>
      match setItem? s with
      | none => none
      | some (.place, _) => none
      | some (first, '-' :: rest) =>
        if rest.head?.any fun c => c = ']' || c = '-' then afterSet? fuel (level + 1) ('-' :: rest)
        else
          match first, setItem? rest with
          | .char low, some (.char high, rest) =>
            if low ≤ high then afterSet? fuel (level + 1) rest else none
          | _, _ => none
      | some (_, rest) => afterSet? fuel (level + 1) rest

/-- Whether these are flags, each at most once, with at most one sign that turns the later ones off. -/
def areFlags (s : List Char) : Bool :=
  s.all ("imsUuxR-".toList.contains ·) && s.all (s.count · ≤ 1) && s.getLast? ≠ some '-'

def isGroupName : List Char → Bool
  | [] => false
  | c :: rest =>
    (c = '_' || Text.isLetter c) &&
      rest.all fun c => c = '_' || c = '.' || c = '[' || c = ']' || Text.isLetterOrNumber c

/-- The text after the head of a group behind its question mark, and whether the group is still open. -/
def afterGroupHead? (s : List Char) : Option (Bool × List Char) :=
  let named (s : List Char) : Option (Bool × List Char) :=
    match s.span (· ≠ '>') with
    | (name, '>' :: rest) => if isGroupName name then some (true, rest) else none
    | _ => none
  match s with
  | 'P' :: '<' :: rest => named rest
  | '<' :: rest => named rest
  | s =>
    match s.span fun c => c ≠ ':' && c ≠ ')' with
    | (flags, ':' :: rest) => if areFlags flags then some (true, rest) else none
    | (flags, ')' :: rest) => if areFlags flags && !flags.isEmpty then some (false, rest) else none
    | _ => none

/-- Whether the rest of a text is well formed, `level` groups being open; `repeatable` if something to
repeat stands in front of it. -/
def isWellFormed : Nat → Nat → Bool → List Char → Bool
  | 0, _, _, _ => false
  | _, level, _, [] => level = 0
  | fuel + 1, level, repeatable, c :: rest =>
    if c = '(' then
      match rest with
      | '?' :: rest =>
        match afterGroupHead? rest with
        | some (isOpen, rest) => isWellFormed fuel (if isOpen then level + 1 else level) false rest
        | none => false
      | rest => isWellFormed fuel (level + 1) false rest
    else if c = ')' then level ≠ 0 && isWellFormed fuel (level - 1) true rest
    else if c = '|' then isWellFormed fuel level false rest
    else if c = '*' ∨ c = '+' ∨ c = '?' then
      repeatable &&
        isWellFormed fuel level true (if rest.head? = some '?' then rest.drop 1 else rest)
    else if c = '\x7b' then false
    else if c = '[' then
      match afterSet? (2 * rest.length + 2) 1 (afterSetFront rest) with
      | some rest => isWellFormed fuel level true rest
      | none => false
    else if c = '\\' then
      match escape? rest with
      | some (_, rest) => isWellFormed fuel level true rest
      | none => false
    else isWellFormed fuel level true rest

end Pattern

def isPattern (s : List Char) : Bool :=
  Pattern.isWellFormed (s.length + 1) 0 false s

end LispHost.Cli
