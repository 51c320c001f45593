import LispHost.Projection
import LispHost.Proofs.Text.Digits
import LispHost.Text.Blank

/-!
Reading list notation.

A text is cut into pieces from the left: the parentheses, and what stands between parentheses and blanks,
where the blanks inside `#<…>` do not count. The pieces are then put together from the right, so that the tail
of a list is there before its items. The stack holds the tails of the lists that are still open; at the bottom
lies the list of the whole text.
-/

set_option autoImplicit false

namespace LispHost.Notation

/-! ### Pieces -/

/-- Whether a piece, given backwards, is a stand-in that has not been closed. -/
def isUnclosed (piece : List Char) : Bool :=
  piece.getLast? = some '#' && piece.head? ≠ some '>'

def ended (piece : List Char) : List (List Char) :=
  if piece = [] then [] else [piece.reverse]

/-- The pieces of a text that follow a part of a piece, given backwards. -/
def piecesFrom (piece : List Char) : List Char → List (List Char)
  | [] => ended piece
  | c :: rest =>
    if c = '(' ∨ c = ')' then ended piece ++ [c] :: piecesFrom [] rest
    else if c = ' ' ∧ isUnclosed piece = false then ended piece ++ piecesFrom [] rest
    else piecesFrom (c :: piece) rest

def pieces (text : String) : List (List Char) :=
  piecesFrom [] text.toList

/-! ### Leaves -/

def decimal? (digits : List Char) : Option Word :=
  (Text.radixNumber? 10 digits).map UInt32.ofNat

def hex? : List Char → Option Word
  | '0' :: 'x' :: digits => (Text.radixNumber? 16 digits).map UInt32.ofNat
  | _ => none

def tag? (text : List Char) : Option Tag :=
  match text.splitOn ':' with
  | [label] => [Tag.int, .sys, .duo, .sym].find? fun tag => tag.label.toList = label
  | [_, code] => (decimal? code).map .unknown
  | _ => none

def standIn? (inside : List Char) : Option Projection :=
  match inside.splitOn ' ' with
  | [kind, raw] =>
    if kind = "cycle".toList then (hex? raw).map .cycle
    else (tag? kind).bind fun tag => (hex? raw).map (.unknown tag)
  | [_, raw, len, _] => (hex? raw).bind fun raw => (decimal? len).map (.undecodable raw)
  | _ => none

/-- The leaf of a piece; of a value beyond the depth bound the word is not known. -/
def leaf? (piece : List Char) : Option Projection :=
  if piece = "NIL".toList then some .nil
  else if piece = "T".toList then some .true
  else if piece = "...".toList then some (.elided 0)
  else
    match piece with
    | '#' :: '<' :: rest => standIn? rest.dropLast
    | _ => if piece.all Char.isDigit then (decimal? piece).map .int else some (.sym (String.ofList piece))

/-! ### Lists -/

def put (piece : List Char) (stack : List Projection) : Option (List Projection) :=
  if piece = [')'] then some (.nil :: stack)
  else if piece = ['('] then
    match stack with
    | value :: tail :: rest => some (.duo value tail :: rest)
    | _ => none
  else if piece = ['.'] then
    match stack with
    | .duo value .nil :: rest => some (value :: rest)
    | _ => none
  else
    match stack with
    | tail :: rest => (leaf? piece).map fun leaf => .duo leaf tail :: rest
    | [] => none

def read? (text : String) : Option Projection :=
  match (pieces text).foldrM put [.nil] with
  | some [.duo value .nil] => some value
  | _ => none

example : read? "(a (1 . T) #<cycle 0x30000000> . ...)" =
    some (.duo (.sym "a") (.duo (.duo (.int 1) .true) (.duo (.cycle 0x30000000) (.elided 0)))) := by
  decide +kernel

end LispHost.Notation
