/-!
Places in a YAML text.

A place knows its line and its column, since these decide where collections by indentation end, and
whether anything but blanks stands in front of it on its line. Line breaks are single characters here.
-/

set_option autoImplicit false

namespace LispHost.Config.Yaml

/-! ### Characters that set parts apart -/

def isGap (c : Char) : Bool :=
  c = ' ' || c = '\t'

def atLineEnd : List Char → Bool
  | [] => true
  | c :: _ => c = '\n'

def atGap : List Char → Bool
  | [] => true
  | c :: _ => isGap c || c = '\n'

def isFlowMark (c : Char) : Bool :=
  c = ',' || c = '[' || c = ']' || c = '\x7b' || c = '\x7d'

def atFlowMark (s : List Char) : Bool :=
  s.head?.any isFlowMark

def isNameChar (c : Char) : Bool :=
  c.isAlphanum || c = '_' || c = '-'

def atDocumentStart : List Char → Bool
  | '-' :: '-' :: '-' :: rest => atGap rest
  | _ => false

def atDocumentEnd : List Char → Bool
  | '.' :: '.' :: '.' :: rest => atGap rest
  | _ => false

def atDocumentMark (s : List Char) : Bool :=
  atDocumentStart s || atDocumentEnd s

/-! ### Places -/

/-- A place in a text; all counts start from zero. -/
structure Place where
  index : Nat
  line : Nat
  column : Nat
  isFresh : Bool
  deriving DecidableEq, Repr

namespace Place

def start : Place :=
  ⟨0, 0, 0, true⟩

def afterGap (count : Nat) (p : Place) : Place :=
  { p with index := p.index + count, column := p.column + count }

def after (count : Nat) (p : Place) : Place :=
  { p with index := p.index + count, column := p.column + count, isFresh := false }

def afterBreak (p : Place) : Place :=
  ⟨p.index + 1, p.line + 1, 0, true⟩

end Place

structure Cursor where
  place : Place
  rest : List Char
  deriving DecidableEq, Repr

namespace Cursor

def skip (count : Nat) (cursor : Cursor) : Cursor :=
  ⟨cursor.place.after count, cursor.rest.drop count⟩

def gaps (cursor : Cursor) : List Char :=
  cursor.rest.takeWhile isGap

/-- The text behind its blanks, and behind a comment if one follows. A comment needs a blank in
front. -/
def afterGaps? (cursor : Cursor) : Option Cursor :=
  let count := cursor.gaps.length
  let place := cursor.place.afterGap count
  match cursor.rest.drop count with
  | '#' :: rest =>
    if count = 0 then none
    else
      let comment := rest.takeWhile (· ≠ '\n')
      some ⟨place.after (comment.length + 1), rest.drop comment.length⟩
  | rest => some ⟨place, rest⟩

inductive Filler where
  | blanks
  | comment
  | indentation
  deriving DecidableEq, Repr

/-- The text behind blanks, comments and line breaks. A tab in the first `least` columns of a line may
not lead to anything on the line. -/
def toPart? (least : Nat) : Filler → Place → List Char → Option Cursor
  | _, p, [] => some ⟨p, []⟩
  | filler, p, c :: rest =>
    if c = '\n' then toPart? least .blanks p.afterBreak rest
    else
      match filler with
      | .comment => toPart? least .comment (p.after 1) rest
      | .indentation =>
        if isGap c then toPart? least .indentation (p.afterGap 1) rest
        else if c = '#' then toPart? least .comment (p.after 1) rest
        else none
      | .blanks =>
        if c = '\t' && p.isFresh && decide (p.column < least) then
          toPart? least .indentation (p.afterGap 1) rest
        else if isGap c then toPart? least .blanks (p.afterGap 1) rest
        else if c = '#' then toPart? least .comment (p.after 1) rest
        else some ⟨p, c :: rest⟩

end Cursor

end LispHost.Config.Yaml
