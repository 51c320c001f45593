import LispHost.Config.Toml.Time
import LispHost.Config.Tree

/-!
Tables while a TOML text is being read.

A table is defined once: by a header of its own, or piece by piece by dotted keys. A table that was
only implied, as the parent of a header, may still get a header of its own. A header in double brackets
adds a table to a list.
-/

set_option autoImplicit false

namespace LispHost.Config.Toml

inductive Shape where
  | defined
  | implied
  | dotted
  deriving DecidableEq, Repr

inductive Entry where
  | value (tree : Tree)
  /-- A date or a time, in its usual text. -/
  | moment (text : String)
  | table (shape : Shape) (entries : List (String × Entry))
  | tables (items : List (List (String × Entry)))

abbrev Table := Shape × List (String × Entry)

/-- The entries with one replaced where it stands, or added at the end. -/
def setEntry (name : String) (entry : Entry) : List (String × Entry) → List (String × Entry)
  | [] => [(name, entry)]
  | head :: rest => if head.1 = name then (name, entry) :: rest else head :: setEntry name entry rest

/-- Change the table at the end of a path, making the tables on the way. A path of a dotted key does
not enter a table that has a header of its own. -/
def descend (isDotted : Bool) (change : Table → Option Table) : List String → Table → Option Table
  | [], table => change table
  | name :: path, (shape, entries) => do
    match entries.lookup name with
    | none =>
      let (s, es) ← descend isDotted change path (if isDotted then .dotted else .implied, [])
      return (shape, setEntry name (.table s es) entries)
    | some (.value _) => none
    | some (.moment _) => none
    | some (.table s es) =>
      if isDotted ∧ s = .defined then none
      else do
        let (s, es) ← descend isDotted change path (s, es)
        return (shape, setEntry name (.table s es) entries)
    | some (.tables items) =>
      match items.reverse with
      | [] => none
      | last :: before => do
        let (_, last) ← descend isDotted change path (.defined, last)
        return (shape, setEntry name (.tables (last :: before).reverse) entries)

def splitPath? (path : List String) : Option (List String × String) :=
  match path.reverse with
  | [] => none
  | last :: before => some (before.reverse, last)

def assign (key : List String) (value : Entry) (table : Table) : Option Table := do
  let (parents, name) ← splitPath? key
  let put : Table → Option Table := fun (shape, entries) => do
    guard (parents.isEmpty || shape = .dotted)
    guard (entries.lookup name).isNone
    return (shape, setEntry name value entries)
  descend true put parents table

/-- Define the table of a header. A table that was implied so far takes its place anew, at the end. -/
def define (path : List String) (root : Table) : Option Table := do
  let (parents, name) ← splitPath? path
  let put : Table → Option Table := fun (shape, entries) =>
    match entries.lookup name with
    | none => some (shape, setEntry name (.table .defined []) entries)
    | some (.table .implied found) =>
      some (shape, entries.filter (·.1 ≠ name) ++ [(name, .table .defined found)])
    | some _ => none
  descend false put parents root

def extend (path : List String) (root : Table) : Option Table := do
  let (parents, name) ← splitPath? path
  let put : Table → Option Table := fun (shape, entries) =>
    match entries.lookup name with
    | none => some (shape, setEntry name (.tables [[]]) entries)
    | some (.tables items) => some (shape, setEntry name (.tables (items ++ [[]])) entries)
    | some _ => none
  descend false put parents root

/-- The name of a field that makes its table stand for a moment. -/
def momentField : String := "$__toml_private_datetime"

mutual

def Entry.tree? : Entry → Option Tree
  | .value tree => some tree
  | .moment text => some (.written text)
  | .table _ entries => tableTree? entries
  | .tables items => do return .list (← tableTrees? items)

/-- The tree of a table: its fields, or the moment that the text in its first field writes. -/
def tableTree? : List (String × Entry) → Option Tree
  | [] => some (.table [])
  | (name, entry) :: rest =>
    if name = momentField then
      match entry with
      | .value (.text _ text) => (momentText? text).map .written
      | _ => none
    else do
      let tree ← entry.tree?
      return .table ((name, tree) :: (← fields? rest))

def fields? : List (String × Entry) → Option (List (String × Tree))
  | [] => some []
  | (name, entry) :: rest => do
    let tree ← entry.tree?
    return (name, tree) :: (← fields? rest)

def tableTrees? : List (List (String × Entry)) → Option (List Tree)
  | [] => some []
  | entries :: rest => do
    let tree ← tableTree? entries
    return tree :: (← tableTrees? rest)

end

end LispHost.Config.Toml
