import LispHost.Config.Yaml.Cursor
import LispHost.Text.Digits

/-!
Scalars of YAML in quotes.

Between two lines of a scalar the break becomes a blank, or, with empty lines between them, one break
for each of those. Blanks at the ends of lines do not count. A line may not start further left than the
collection around it asks for, nor with the mark of a document.
-/

set_option autoImplicit false

namespace LispHost.Config.Yaml

open LispHost.Text

inductive Between where
  | blanks (found : List Char)
  | breaks (count : Nat)
  /-- A break that joins the lines, then so many others. -/
  | joined (count : Nat)
  deriving DecidableEq, Repr

namespace Between

def nothing : Between :=
  blanks []

def chars : Between → List Char
  | blanks found => found
  | breaks 1 => [' ']
  | breaks count => List.replicate (count - 1) '\n'
  | joined count => List.replicate count '\n'

def isBroken : Between → Bool
  | blanks _ => false
  | _ => true

/-- One more blank; those behind a line break do not count. -/
def addBlank (c : Char) : Between → Between
  | blanks found => blanks (found ++ [c])
  | between => between

/-- One more line break; the blanks in front of it do not count. -/
def addBreak : Between → Between
  | blanks _ => breaks 1
  | breaks count => breaks (count + 1)
  | joined count => joined (count + 1)

end Between

def isMisplaced (least : Nat) (p : Place) (s : List Char) : Bool :=
  decide (p.column < least) || p.column = 0 && atDocumentMark s

/-- Whether a blank may not stand at a place of a scalar in quotes: a tab that indents a line. -/
def isBadGap (least : Nat) (between : Between) (p : Place) (c : Char) : Bool :=
  between.isBroken && c = '\t' && decide (p.column < least)

def singleQuoted? (least : Nat) : Between → Place → List Char → Option (List Char × Cursor)
  | _, _, [] => none
  | between, p, '\'' :: '\'' :: rest => do
    guard !(isMisplaced least p ('\'' :: '\'' :: rest))
    let (more, cursor) ← singleQuoted? least .nothing (p.after 2) rest
    return (between.chars ++ '\'' :: more, cursor)
  | between, p, c :: rest =>
    if c = '\n' then singleQuoted? least between.addBreak p.afterBreak rest
    else if isGap c then do
      guard !(isBadGap least between p c)
      singleQuoted? least (between.addBlank c) (p.afterGap 1) rest
    else do
      guard !(isMisplaced least p (c :: rest))
      if c = '\'' then return (between.chars, ⟨p.after 1, rest⟩)
      else
        let (more, cursor) ← singleQuoted? least .nothing (p.after 1) rest
        return (between.chars ++ c :: more, cursor)

def escaped? : Char → Option Char
  | '0' => some '\x00'
  | 'a' => some '\x07'
  | 'b' => some '\x08'
  | 't' => some '\t'
  | '\t' => some '\t'
  | 'n' => some '\n'
  | 'v' => some '\x0b'
  | 'f' => some '\x0c'
  | 'r' => some '\x0d'
  | 'e' => some '\x1b'
  | ' ' => some ' '
  | '"' => some '"'
  | '/' => some '/'
  | '\\' => some '\\'
  | 'N' => some '\u0085'
  | '_' => some '\u00a0'
  | 'L' => some '\u2028'
  | 'P' => some '\u2029'
  | _ => none

def numbered? (digits : List Char) : Option Char := do
  let n ← radixNumber? 16 digits
  if n.isValidChar then some (Char.ofNat n) else none

def doubleQuoted? (least : Nat) : Between → Place → List Char → Option (List Char × Cursor)
  | _, _, [] => none
  | between, p, '\\' :: '\n' :: rest => do
    guard !(isMisplaced least p ('\\' :: '\n' :: rest))
    let (more, cursor) ← doubleQuoted? least (.joined 0) p.afterBreak rest
    return (between.chars ++ more, cursor)
  | between, p, '\\' :: 'x' :: a :: b :: rest => do
    guard !(isMisplaced least p ('\\' :: 'x' :: a :: b :: rest))
    let char ← numbered? [a, b]
    let (more, cursor) ← doubleQuoted? least .nothing (p.after 4) rest
    return (between.chars ++ char :: more, cursor)
  | between, p, '\\' :: 'u' :: a :: b :: c :: d :: rest => do
    guard !(isMisplaced least p ('\\' :: 'u' :: a :: b :: c :: d :: rest))
    let char ← numbered? [a, b, c, d]
    let (more, cursor) ← doubleQuoted? least .nothing (p.after 6) rest
    return (between.chars ++ char :: more, cursor)
  | between, p, '\\' :: 'U' :: a :: b :: c :: d :: e :: f :: g :: h :: rest => do
    guard !(isMisplaced least p ('\\' :: 'U' :: a :: b :: c :: d :: e :: f :: g :: h :: rest))
    let char ← numbered? [a, b, c, d, e, f, g, h]
    let (more, cursor) ← doubleQuoted? least .nothing (p.after 10) rest
    return (between.chars ++ char :: more, cursor)
  | between, p, '\\' :: c :: rest => do
    guard !(isMisplaced least p ('\\' :: c :: rest))
    let char ← escaped? c
    let (more, cursor) ← doubleQuoted? least .nothing (p.after 2) rest
    return (between.chars ++ char :: more, cursor)
  | between, p, c :: rest =>
    if c = '\n' then doubleQuoted? least between.addBreak p.afterBreak rest
    else if isGap c then do
      guard !(isBadGap least between p c)
      doubleQuoted? least (between.addBlank c) (p.afterGap 1) rest
    else do
      guard !(isMisplaced least p (c :: rest))
      if c = '"' then return (between.chars, ⟨p.after 1, rest⟩)
      else
        let (more, cursor) ← doubleQuoted? least .nothing (p.after 1) rest
        return (between.chars ++ c :: more, cursor)

def quoted? (least : Nat) (cursor : Cursor) : Option (List Char × Cursor) :=
  match cursor.rest with
  | '\'' :: rest => singleQuoted? least .nothing (cursor.place.after 1) rest
  | '"' :: rest => doubleQuoted? least .nothing (cursor.place.after 1) rest
  | _ => none

end LispHost.Config.Yaml
