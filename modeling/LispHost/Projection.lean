import LispHost.Tag

/-!
Projections: the decoded shape of a guest value, and its text in list notation.

A chain of pairs is written as one list; its last tail is left out when it is `NIL` and stands after
a dot otherwise. Leaves that stand in for something the host could not show are written `#<…>`, and
a value beyond the depth bound is written `...`.
-/

set_option autoImplicit false

namespace LispHost

inductive Projection where
  | int (value : Word)
  | nil
  | true
  | duo (car cdr : Projection)
  | sym (name : String)
  /-- An unrecognised tag, or a system word that is neither sentinel. -/
  | unknown (tag : Tag) (raw : Word)
  /-- A symbol whose name is not UTF-8. -/
  | undecodable (raw len : Word)
  /-- A pair cell that is its own ancestor. -/
  | cycle (raw : Word)
  /-- A value beyond the depth bound. -/
  | elided (raw : Word)
  deriving DecidableEq, Repr

namespace Projection

/-- Whether the value itself stands in for something the host could not show. -/
def isFallback : Projection → Bool
  | unknown .. | undecodable .. | cycle .. | elided .. => Bool.true
  | _ => false

/-- The nesting depth; leaves have depth 0. -/
def depth : Projection → Nat
  | duo car cdr => 1 + max car.depth cdr.depth
  | _ => 0

def leaves : Projection → List Projection
  | duo car cdr => car.leaves ++ cdr.leaves
  | leaf => [leaf]

/-- The text of a leaf; a pair has none of its own. -/
def leafText : Projection → String
  | int value => Word.decimal value
  | nil => "NIL"
  | true => "T"
  | duo .. => ""
  | sym name => name
  | unknown tag raw => "#<" ++ tag.text ++ " " ++ Word.hex raw ++ ">"
  | undecodable raw len => "#<undecodable " ++ Word.hex raw ++ " " ++ Word.decimal len ++ " bytes>"
  | cycle raw => "#<cycle " ++ Word.hex raw ++ ">"
  | elided _ => "..."

mutual

def text : Projection → String
  | duo car cdr => "(" ++ (car.text ++ cdr.tailText)
  | leaf => leaf.leafText

/-- The rest of a list whose tail is this value, with its closing parenthesis. -/
def tailText : Projection → String
  | nil => ")"
  | duo car cdr => " " ++ (car.text ++ cdr.tailText)
  | leaf => " . " ++ leaf.leafText ++ ")"

end

/-- The list of these values, ending in `tail`. -/
def ofList (tail : Projection) : List Projection → Projection
  | [] => tail
  | item :: rest => duo item (ofList tail rest)

def nested : Nat → Projection → Projection
  | 0, value => value
  | n + 1, value => nested n (duo value nil)

end Projection

end LispHost
