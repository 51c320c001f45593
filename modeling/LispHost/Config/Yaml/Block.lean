import LispHost.Config.Yaml.Cursor

/-!
Block scalars of YAML.

A block scalar is the lines below its header that stand deeper than what is around it. Its line breaks
are kept, or those between two lines that do not start with a blank are folded; its header says which,
and what becomes of the breaks at its end.
-/

set_option autoImplicit false

namespace LispHost.Config.Yaml

/-- What becomes of the line breaks at the end of a block scalar. -/
inductive Chomping where
  | strip
  | clip
  | keep
  deriving DecidableEq, Repr

def Chomping.ofChar? : Char → Option Chomping
  | '+' => some .keep
  | '-' => some .strip
  | _ => none

structure BlockHeader where
  chomping : Chomping
  /-- How much deeper the text stands than what is around it, if the header says so. -/
  deeper : Option Nat
  deriving DecidableEq, Repr

namespace BlockHeader

/-- The depth that a text starts with, none if it is zero, and what follows. -/
def depth? : List Char → Option (Option Nat × List Char)
  | [] => some (none, [])
  | c :: rest =>
    if c = '0' then none
    else if c.isDigit then some (some (c.toNat - '0'.toNat), rest)
    else some (none, c :: rest)

/-- The header that a text starts with, a sign and a depth in either order, and what follows. -/
def ofChars? (s : List Char) : Option (BlockHeader × List Char) := do
  match s.head? >>= Chomping.ofChar? with
  | some chomping =>
    let (deeper, rest) ← depth? (s.drop 1)
    return (⟨chomping, deeper⟩, rest)
  | none =>
    let (deeper, rest) ← depth? s
    match rest.head? >>= Chomping.ofChar? with
    | some chomping =>
      if deeper.isSome then return (⟨chomping, deeper⟩, rest.drop 1)
      else return (⟨.clip, deeper⟩, rest)
    | none => return (⟨.clip, deeper⟩, rest)

end BlockHeader

/-- The text behind empty lines and the first `indent` columns of the next one, and the number of the
lines. -/
def afterIndent (indent : Nat) : Nat → Place → List Char → Nat × Cursor
  | empties, p, [] => (empties, ⟨p, []⟩)
  | empties, p, c :: rest =>
    if c = ' ' && decide (p.column < indent) then afterIndent indent empties (p.afterGap 1) rest
    else if c = '\n' then afterIndent indent (empties + 1) p.afterBreak rest
    else (empties, ⟨p, c :: rest⟩)

/-- The text behind empty lines and the blanks at the front of the next one, the number of the lines,
and the greatest number of blanks on one of them. -/
def afterBlanks : Nat → Nat → Place → List Char → Nat × Nat × Cursor
  | empties, deepest, p, [] => (empties, max deepest p.column, ⟨p, []⟩)
  | empties, deepest, p, c :: rest =>
    if c = ' ' then afterBlanks empties deepest (p.afterGap 1) rest
    else if c = '\n' then afterBlanks (empties + 1) (max deepest p.column) p.afterBreak rest
    else (empties, max deepest p.column, ⟨p, c :: rest⟩)

inductive BlockPart where
  | front (empties : Nat)
  | line (isDeep : Bool)
  | lines (isDeep : Bool) (empties : Nat)
  deriving DecidableEq, Repr

structure BlockShape where
  folded : Bool
  chomping : Chomping
  indent : Nat
  deriving DecidableEq, Repr

namespace BlockShape

/-- The line breaks in front of a line, which starts with a blank if `isDeep`. -/
def joint (shape : BlockShape) (isDeep : Bool) : BlockPart → List Char
  | .front empties => List.replicate empties '\n'
  | .line _ => []
  | .lines wasDeep empties =>
    if shape.folded && !wasDeep && !isDeep then
      if empties = 0 then [' '] else List.replicate empties '\n'
    else List.replicate (empties + 1) '\n'

/-- The line breaks at the end of a block scalar. The end of the text counts as a break if it stands
deep enough. -/
def tail (shape : BlockShape) (p : Place) (atEnd : Bool) (part : BlockPart) : List Char :=
  let last := if atEnd && decide (max shape.indent 1 ≤ p.column) then ['\n'] else []
  let (own, empties) := match part with
    | .front empties => ([], empties)
    | .line _ => ([], 0)
    | .lines _ empties => (['\n'], empties)
  match shape.chomping with
  | .strip => []
  | .clip => own ++ last
  | .keep => own ++ last ++ List.replicate empties '\n'

/-- The lines of a block scalar from a place on, and what follows it. -/
def lines (shape : BlockShape) : BlockPart → Place → List Char → List Char × Cursor
  | part, p, [] => (shape.tail p true part, ⟨p, []⟩)
  | .line isDeep, p, c :: rest =>
    if c = '\n' then lines shape (.lines isDeep 0) p.afterBreak rest
    else
      let (more, cursor) := lines shape (.line isDeep) (p.afterGap 1) rest
      (c :: more, cursor)
  | .front empties, p, c :: rest =>
    if p.column = shape.indent && !(shape.indent = 0 && atDocumentEnd (c :: rest)) then
      let (more, cursor) := lines shape (.line (isGap c)) (p.afterGap 1) rest
      (shape.joint (isGap c) (.front empties) ++ c :: more, cursor)
    else (shape.tail p false (.front empties), ⟨p, c :: rest⟩)
  | .lines wasDeep empties, p, c :: rest =>
    if c = ' ' && decide (p.column < shape.indent) then
      lines shape (.lines wasDeep empties) (p.afterGap 1) rest
    else if c = '\n' then lines shape (.lines wasDeep (empties + 1)) p.afterBreak rest
    else if p.column = shape.indent && !(shape.indent = 0 && atDocumentEnd (c :: rest)) then
      let (more, cursor) := lines shape (.line (isGap c)) (p.afterGap 1) rest
      (shape.joint (isGap c) (.lines wasDeep empties) ++ c :: more, cursor)
    else (shape.tail p false (.lines wasDeep empties), ⟨p, c :: rest⟩)

end BlockShape

/-- The text of a block scalar that has nothing but so many empty lines up to the end of the text. -/
def emptyBlock (chomping : Chomping) (empties : Nat) : List Char :=
  match chomping with
  | .strip => []
  | .clip => ['\n']
  | .keep => List.replicate (max empties 1) '\n'

/-- The block scalar that a text starts with, inside a collection of an indentation, which is below zero
outside all, and what follows it. -/
def blockScalar? (around : Int) (cursor : Cursor) : Option (List Char × Cursor) := do
  let folded := cursor.rest.head? = some '>'
  let (header, rest) ← BlockHeader.ofChars? (cursor.rest.drop 1)
  let header' ← (cursor.skip (cursor.rest.length - rest.length)).afterGaps?
  match header'.rest with
  | [] => return ([], header')
  | c :: rest =>
    guard (c = '\n' && rest.head? ≠ some '\t')
    let p := header'.place.afterBreak
    let (empties, indent, start) := match header.deeper with
      | some deeper =>
        let indent := (max around 0).toNat + deeper
        let (empties, start) := afterIndent indent 0 p rest
        (empties, indent, start)
      | none =>
        let (empties, deepest, start) := afterBlanks 0 0 p rest
        (empties, max deepest (around + 1).toNat, start)
    if start.rest.isEmpty then return (emptyBlock header.chomping empties, start)
    else
      let column := start.place.column
      guard !(decide (column < indent) && decide (around < column))
      return BlockShape.lines ⟨folded, header.chomping, indent⟩ (.front empties) start.place start.rest

end LispHost.Config.Yaml
