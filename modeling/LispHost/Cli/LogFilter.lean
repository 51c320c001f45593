import LispHost.Binary.Reader
import LispHost.Cli.Pattern
import LispHost.Config.Substitution
import LispHost.Console
import LispHost.Text.Blank
import LispHost.Word.Reader

/-!
Which of the guest's log events are shown.

A filter is a list of directives, each with the gravest levels up to one for the targets that start
with its own, and perhaps for events with a field. Of the directives that match an event the one with
the longest target decides, of those the one with a field, and of two alike the later. Without a
directive that matches, nothing is shown. Directives for the events inside a span match none, since the
guest's events lie in no span.
-/

set_option autoImplicit false

namespace LispHost.Cli

def guestTarget : String := "wisp::guest"

def guestField : String := "message"

/-- A directive: where it applies, and the rank of the last level shown. -/
structure Directive where
  target : Option String
  span : Option String
  field : Option String
  hasValue : Bool
  ceiling : Nat
  deriving DecidableEq, Repr

def lastRank : Nat := 5

def ceiling? (name : List Char) : Option Nat :=
  let number? : Option Nat := match Word.readNumber UInt64.size 10 name with
    | .ok n => if n ≤ lastRank then some n else none
    | .error _ => none
  number? <|> match String.ofList (name.map Char.toLower) with
    | "off" => some 0
    | "error" => some 1
    | "warn" => some 2
    | "info" => some 3
    | "debug" => some 4
    | "trace" => some 5
    | _ => none

namespace Directive

def all : Directive :=
  ⟨none, none, none, false, lastRank⟩

def upTo (ceiling : Nat) : Directive :=
  { all with ceiling }

def isValue (s : List Char) : Bool :=
  (Decimal.ofText? s).isSome || isPattern s

/-- The directive with the field that a text writes, and perhaps the value it must have. -/
def withField? (directive : Directive) (s : List Char) : Option Directive := do
  guard !s.isEmpty
  let name := s.takeWhile (· ≠ '=')
  let values := (s.dropWhile (· ≠ '=')).drop 1
  let hasValue := decide (name.length < s.length)
  guard (!hasValue || isValue (values.takeWhile (· ≠ '=')))
  return { directive with field := some (String.ofList name), hasValue }

/-- The text a directive is read from. Places are counted in the text without white space around it,
and then parts are cut out at those places of the text as it stands. -/
structure Source where
  whole : List Char
  inner : List Char

namespace Source

def part (source : Source) (start stop : Nat) : List Char :=
  (source.whole.drop start).take (stop - start)

/-- The first place from another on where one of some characters stands, and the character. -/
def next? (source : Source) (stops : List Char) (start : Nat) : Option (Nat × Char) := do
  let i ← (source.inner.drop start).findIdx? (stops.contains ·)
  return (start + i, ← source.inner[start + i]?)

/-- The directive with the level that stands at a place; all levels if none does. -/
def level? (source : Source) (start : Nat) (directive : Directive) : Option Directive :=
  let level := source.whole.drop start
  if level.isEmpty then some directive
  else (ceiling? level).map fun ceiling => { directive with ceiling }

/-- The directive whose brackets end in front of a place; a level may follow. -/
def closed? (source : Source) (start : Nat) (directive : Directive) : Option Directive :=
  match source.inner[start]? with
  | none => some directive
  | some '=' => source.level? (start + 1) directive
  | _ => none

/-- The directive whose brackets start in front of a place. They hold a span, a field in braces, or
both. -/
def brackets? (source : Source) (start : Nat) (directive : Directive) : Option Directive :=
  match source.next? [']', '\x7b'] start with
  | some (stop, ']') =>
    source.closed? (stop + 1)
      { directive with span := some (String.ofList (source.part start stop)) }
  | some (stop, _) => do
    let (last, _) ← source.next? ['\x7d'] (stop + 1)
    let name := source.part start stop
    let span := if name.isEmpty then none else some (String.ofList name)
    let directive ← { directive with span }.withField? (source.part (stop + 1) last)
    guard (source.inner[last + 1]? = some ']')
    source.closed? (last + 2) directive
  | none => none

/-- The directive that stands in the text: a level, or a target, brackets and a level, of which all but
one may be missing. -/
def directive? (source : Source) : Option Directive :=
  match source.inner with
  | [] => none
  | '[' :: _ => source.brackets? 1 all
  | c :: _ => do
    guard (c = '-' || c = ':' || c = '_' || Text.isLetterOrNumber c)
    match source.next? ['=', '['] 0 with
    | some (stop, mark) =>
      let targeted := { all with target := some (String.ofList (source.part 0 stop)) }
      if mark = '=' then source.level? (stop + 1) targeted
      else source.brackets? (stop + 1) targeted
    | none =>
      match ceiling? source.whole with
      | some ceiling => return upTo ceiling
      | none => return { all with target := some (String.ofList source.whole) }

end Source

def ofText? (s : String) : Option Directive :=
  let whole := s.toList
  Source.directive? ⟨whole, Text.trimRight (Text.trimLeft whole)⟩

def matchesGuest (directive : Directive) : Bool :=
  directive.span.isNone && !directive.hasValue &&
    (directive.target.all fun target => target.toList.isPrefixOf guestTarget.toList) &&
    directive.field.all (· = guestField)

/-- How narrow a directive is: the length of its target, one more if it has any, and whether it has a
field. -/
def narrowness (directive : Directive) : Nat × Nat :=
  (directive.target.elim 0 fun target => target.length + 1, if directive.field.isSome then 1 else 0)

def isAsNarrow (directive other : Directive) : Bool :=
  let (length, fields) := directive.narrowness
  let (length', fields') := other.narrowness
  decide (length' < length) || length' = length && decide (fields' ≤ fields)

end Directive

abbrev LogFilter := List Directive

namespace LogFilter

def default (verbose : Bool) : LogFilter :=
  [.upTo (if verbose then 4 else 3)]

/-- The filter that a text writes, a list of directives with commas between them. One without any
directive lets only errors through. -/
def ofText? (s : String) : Option LogFilter := do
  let directives ← ((s.splitOn ",").filter (· ≠ "")).mapM Directive.ofText?
  return if directives.isEmpty then [.upTo 1] else directives

def filterVariable : String := "RUST_LOG"

def ofEnvironment (env : Config.Environment) (verbose : Bool) : LogFilter :=
  (env.value? filterVariable >>= ofText?).getD (default verbose)

def decide? (best : Option Directive) : LogFilter → Option Directive
  | [] => best
  | directive :: rest =>
    let isBetter := directive.matchesGuest && best.all directive.isAsNarrow
    decide? (if isBetter then some directive else best) rest

def shows (filter : LogFilter) (event : LogEvent) : Bool :=
  (decide? none filter).any fun directive => event.level.rank ≤ directive.ceiling

end LogFilter

/-- A character of a log line; those that terminals act on are shown by number. -/
def logChar (c : Char) : List Char :=
  if c = '\x1b' then ['\\', 'x', '1', 'b']
  else if c = '\x07' then ['\\', 'x', '0', '7']
  else if c = '\x08' then ['\\', 'x', '0', '8']
  else if c = '\x0c' then ['\\', 'x', '0', 'c']
  else if c = '\x7f' then ['\\', 'x', '7', 'f']
  else if 0x80 ≤ c.toNat ∧ c.toNat < 0xa0 then
    '\\' :: 'u' :: '\x7b' :: (Nat.toDigits 16 c.toNat ++ ['\x7d'])
  else [c]

def logLine (event : LogEvent) : String :=
  event.level.name ++ " " ++ guestTarget ++ ": " ++
    String.ofList (event.message.toList.flatMap logChar)

end LispHost.Cli
