import LispHost.Error
import LispHost.Tag

/-!
Rows: the words of one value's payload, read by position.
-/

set_option autoImplicit false

namespace LispHost

structure Row where
  tag : Tag
  cells : List Word
  deriving DecidableEq, Repr

namespace Row

def cell (row : Row) (index : Nat) : Except Error Word :=
  match row.cells[index]? with
  | some word => .ok word
  | none => .error <| .typeMismatch
      (row.tag.text ++ s!" row with column {index}") (toString row.cells.length ++ " columns")

/-- Succeeds on rows of the given tag. -/
def expect (row : Row) (tag : Tag) : Except Error Unit :=
  if row.tag = tag then .ok () else .error (.typeMismatch tag.label row.tag.text)

def duo (row : Row) : Except Error (Word × Word) := do
  row.expect .duo
  return (← row.cell 0, ← row.cell 1)

def sym (row : Row) : Except Error Word := do
  row.expect .sym
  row.cell 0

end Row

end LispHost
