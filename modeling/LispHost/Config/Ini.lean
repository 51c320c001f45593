import LispHost.Config.Tree
import LispHost.Text.Blank
import LispHost.Text.Digits

/-!
Reading INI.

A text holds keys with values, and headers in brackets that start a section; the keys before the first
header lie at the root. A comment starts in the first column. Every value is a text; quotes around its
front part do not belong to it, a backslash starts an escape, and white space around it does not count.
-/

set_option autoImplicit false

namespace LispHost.Config.Ini

open LispHost.Text

/-- The character of an escape with one letter; other characters stand for themselves. -/
def escaped : Char → Char
  | '0' => '\x00'
  | 'a' => '\x07'
  | 'b' => '\x08'
  | 't' => '\t'
  | 'r' => '\x0d'
  | 'n' => '\n'
  | c => c

/-- The number of an escape with four characters; the first may be a plus. -/
def escapeNumber? : List Char → Option Nat
  | '+' :: digits => radixNumber? 16 digits
  | digits => radixNumber? 16 digits

/-- The text up to a character that ends it, and the rest from there on. The end of the whole text
counts as one only if `endOfText` is set. A backslash before a line break joins the lines. -/
def textUntil (ends : Char → Bool) (endOfText : Bool) : List Char → Option (List Char × List Char)
  | [] => if endOfText then some ([], []) else none
  | '\\' :: 'x' :: a :: b :: c :: d :: rest => do
    let n ← escapeNumber? [a, b, c, d]
    guard n.isValidChar
    let (more, rest) ← textUntil ends endOfText rest
    return (Char.ofNat n :: more, rest)
  | '\\' :: c :: rest => do
    guard (c ≠ 'x')
    let (more, rest) ← textUntil ends endOfText rest
    return (if c = '\n' then more else escaped c :: more, rest)
  | c :: rest =>
    if ends c then some ([], c :: rest)
    else if c = '\\' then none
    else do
      let (more, rest) ← textUntil ends endOfText rest
      return (c :: more, rest)

def isBreak (c : Char) : Bool :=
  c = '\n' || c = '\x0d'

/-- The text after white space, and whether it then stands in the first column; `fresh` is whether it
did before. -/
def skipBlank : Bool → List Char → Bool × List Char
  | fresh, [] => (fresh, [])
  | fresh, c :: rest =>
    if isBlank c then skipBlank (c = '\n') rest else (fresh, c :: rest)

/-- The part in quotes at the front of a text; empty if there is none. -/
def quotedPart : List Char → Option (List Char × List Char)
  | [] => some ([], [])
  | c :: rest =>
    if c = '"' ∨ c = '\'' then do
      let (part, rest) ← textUntil (· = c) false rest
      return (part, rest.drop 1)
    else some ([], c :: rest)

/-- A value after its separator, up to the end of its line: a part in quotes, then other text. -/
def value (s : List Char) : Option (List Char × List Char) := do
  let (part, rest) ← quotedPart (s.dropWhile fun c => isBlank c && !isBreak c)
  let (more, rest) ← textUntil isBreak true rest
  return (part ++ more, rest)

/-- What has been read: the fields at the root, and the open section with its fields. -/
structure State where
  root : List (String × Tree)
  current : Option (String × List (String × Tree))

namespace State

/-- The fields at the root with the open section closed. A section replaces an earlier one of its
name. -/
def close (state : State) : List (String × Tree) :=
  match state.current with
  | none => state.root
  | some (name, fields) => Tree.setField name (.table fields) state.root

def assign (key value : String) (state : State) : State :=
  match state.current with
  | none => { state with root := Tree.setField key (.written value) state.root }
  | some (name, fields) =>
    { state with current := some (name, Tree.setField key (.written value) fields) }

def openSection (name : String) (state : State) : State :=
  ⟨state.close, some (name, [])⟩

end State

def trimmed (s : List Char) : String :=
  String.ofList (trimRight (trimLeft s))

/-- The rest of a text from a place on; `fresh` is whether that is the first column. -/
def entries : Nat → Bool → State → List Char → Option State
  | 0, _, _, _ => none
  | fuel + 1, fresh, state, s =>
    let (fresh, s) := skipBlank fresh s
    match s with
    | [] => some state
    | '[' :: rest => do
      let (name, rest) ← textUntil (· = ']') false rest
      entries fuel false (state.openSection (trimmed name)) (rest.drop 1)
    | c :: rest =>
      if c = ';' ∨ c = '#' then
        if fresh then entries fuel true state ((rest.dropWhile (· ≠ '\n')).drop 1) else none
      else do
        let (key, rest) ← textUntil (fun c => c = '=' || c = ':') false s
        guard (trimmed key ≠ "")
        let (found, rest) ← value (rest.drop 1)
        entries fuel false (state.assign (trimmed key) (trimmed found)) rest

def parse? (text : String) : Option (List (String × Tree)) :=
  let chars := text.toList
  (entries (chars.length + 1) true ⟨[], none⟩ chars).map State.close

end LispHost.Config.Ini
