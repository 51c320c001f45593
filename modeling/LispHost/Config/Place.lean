import LispHost.Config.Tree
import LispHost.Text.Digits
import LispHost.Text.Scan

/-!
Places in a tree of settings, and what it means to set one.

A place is a name, then names after points or indices in brackets. Setting a place makes the tables and
lists on the way to it, also where something else stood. A scalar or a list replaces what was there; a
table is merged into it name by name.
-/

set_option autoImplicit false

namespace LispHost.Config

open LispHost.Text

inductive Step where
  | name (name : String)
  | index (index : Int)
  deriving DecidableEq, Repr

/-- A place: the name to start with, and the steps from there. -/
structure Place where
  start : String
  steps : List Step
  deriving DecidableEq, Repr

namespace Place

def isNameChar (c : Char) : Bool :=
  c.isAlphanum || c = ' ' || c = '_' || c = '-'

/-- An index in brackets, the opening one read, blanks around it allowed. -/
def indexBody : Scan Int := do
  let isGap (c : Char) : Bool := c = ' ' || c = '\t'
  Scan.skipWhile isGap
  let negative ← Scan.charIf '-'
  let size : Int := decimalNumber (← Scan.takeWhile1 Char.isDigit)
  let n := if negative then -size else size
  guard (Tree.isInt64 n)
  Scan.skipWhile isGap
  Scan.char ']'
  return n

def scanStep : Scan Step := do
  match ← Scan.next with
  | '.' => return .name (String.ofList (← Scan.takeWhile1 isNameChar))
  | '[' => return .index (← indexBody)
  | _ => failure

def scanSteps : Nat → Scan (List Step)
  | 0 => return []
  | fuel + 1 => do
    if ← Scan.atEnd then return []
    return (← scanStep) :: (← scanSteps fuel)

def scan : Scan Place := do
  let start ← Scan.takeWhile1 isNameChar
  return ⟨String.ofList start, ← scanSteps (← Scan.remaining)⟩

/-- The place a name stands for; one that is not written as a place is a name all the same. -/
def ofName (name : String) : Place :=
  (Scan.all? scan name).getD ⟨name, []⟩

/-- The position of an index in a list; a negative index counts from the end. -/
def position (index : Int) (length : Nat) : Nat :=
  if 0 ≤ index then index.toNat else length - index.natAbs

/-- A list with the item at a position changed, filled up with nothing if it is too short. -/
def changeItem (change : Tree → Tree) (items : List Tree) (position : Nat) : List Tree :=
  let items := items ++ List.replicate (position + 1 - items.length) .nil
  items.modify position change

/-- The fields of a tree, none if it is no table. -/
def fieldsOf : Tree → List (String × Tree)
  | .table fields => fields
  | _ => []

/-- The items of a tree, none if it is no list. -/
def itemsOf : Tree → List Tree
  | .list items => items
  | _ => []

mutual

def overlayFields : List (String × Tree) → List (String × Tree) → List (String × Tree)
  | [], old => old
  | (name, value) :: fields, old =>
    overlayFields fields (overlayField name value old)

/-- Fields with one put over them; an empty table leaves a field as it is. -/
def overlayField (name : String) : Tree → List (String × Tree) → List (String × Tree)
  | .table [], old =>
    match Tree.field? name old with
    | some _ => old
    | none => Tree.setField name (.table []) old
  | .table (field :: fields), old =>
    Tree.setField name
      (.table (overlayFields (field :: fields) (fieldsOf ((Tree.field? name old).getD .nil)))) old
  | tree, old => Tree.setField name tree old

end

def setSteps (value : Tree) : List Step → Tree → Tree
  | [], old => old
  | [.name name], old => .table (overlayField name value (fieldsOf old))
  | [.index index], old =>
    let items := itemsOf old
    .list (changeItem (fun _ => value) items (position index items.length))
  | .name name :: steps, old =>
    let fields := fieldsOf old
    let inner := (Tree.field? name fields).getD .nil
    .table (Tree.setField name (setSteps value steps inner) fields)
  | .index index :: steps, old =>
    let items := itemsOf old
    .list (changeItem (setSteps value steps) items (position index items.length))

def set (place : Place) (value : Tree) (fields : List (String × Tree)) : List (String × Tree) :=
  fieldsOf (setSteps value (.name place.start :: place.steps) (.table fields))

end Place

end LispHost.Config
