import LispHost.Config.Yaml.Scalar
import LispHost.Config.Yaml.Token

/-!
The nodes of a YAML document.

A node is a scalar, a list or a table. It may be named, and the name may stand for it further on; in the
node itself the name stands for no value.
-/

set_option autoImplicit false

namespace LispHost.Config.Yaml

inductive Node where
  | scalar (s : Scalar)
  | list (items : List Node)
  | table (fields : List (Node × Node))
  deriving BEq, Repr

namespace Node

def missing : Node :=
  scalar .nil

def bad : Node :=
  scalar .bad

def isBad : Node → Bool
  | scalar .bad => true
  | _ => false

/-- The fields whose keys and values take turns in a list, behind those found. A key without a value is
passed over, so that what follows it counts as a key. Keys differ. -/
def fields? : Option Node → List (Node × Node) → List Node → Option (List (Node × Node))
  | _, found, [] => some found
  | none, found, node :: nodes => fields? (if node.isBad then none else some node) found nodes
  | some key, found, node :: nodes => do
    guard !(found.any fun field => field.1 == key)
    fields? none (found ++ [(key, node)]) nodes

def name? : Node → Option String
  | scalar s => s.name?
  | _ => none

mutual

def tree? : Node → Option Tree
  | scalar s => s.tree?
  | list items => (trees? items).map .list
  | table fields => (treeFields? fields []).map .table

def trees? : List Node → Option (List Tree)
  | [] => some []
  | item :: items => do
    let tree ← item.tree?
    return tree :: (← trees? items)

/-- The fields of a tree, behind those found; of two with one name the later counts. -/
def treeFields? : List (Node × Node) → List (String × Tree) → Option (List (String × Tree))
  | [], found => some found
  | (key, value) :: fields, found => do
    let name ← key.name?
    let tree ← value.tree?
    treeFields? fields (Tree.setField name tree found)

end

end Node

structure Composer where
  tokens : List Token
  handles : List (String × String)
  names : List (String × Nat)
  nodes : List (Nat × Node)
  next : Nat

abbrev Composing (α : Type) := StateT Composer Option α

namespace Composer

def peek? : Composing (Option Token) :=
  return (← get).tokens.head?

def skip : Composing Unit :=
  modify fun c => { c with tokens := c.tokens.drop 1 }

/-- Whether this token comes next; if so it is skipped. -/
def skipIf (token : Token) : Composing Bool := do
  if (← peek?) = some token then
    skip
    return true
  else return false

def atAny (tokens : List Token) : Composing Bool :=
  return (← peek?).any tokens.contains

/-! ### Names and tags -/

def coreHandle : String := "tag:yaml.org,2002:"

/-- What a tag says; its handle must be known if it has a name. -/
def kind? (handles : List (String × String)) (tag : Tag) : Option Kind :=
  let kindOf (handle : String) : Kind := if handle = coreHandle then .core tag.suffix else .custom
  match handles.lookup tag.handle with
  | some stands => some (kindOf stands)
  | none =>
    if tag.handle = "!!" then some (kindOf coreHandle)
    else if 2 ≤ tag.handle.length then none
    else some .custom

def kind : Composing (Option Kind) := do
  match ← peek? with
  | some (.tag found) =>
    skip
    match kind? (← get).handles found with
    | some kind => return some kind
    | none => failure
  | _ => return none

def number : Composing (Option Nat) := do
  match ← peek? with
  | some (.anchor name) =>
    skip
    let number := (← get).next
    modify fun c => { c with names := (name, number) :: c.names, next := number + 1 }
    return some number
  | _ => return none

/-- What the tag of the next node says, and its number; either comes first. -/
def properties : Composing (Option Kind × Option Nat) := do
  match ← number with
  | some number => return (← kind, some number)
  | none =>
    match ← kind with
    | some kind => return (some kind, ← number)
    | none => return (none, none)

def complete (number : Option Nat) (node : Node) : Composing Node := do
  match number with
  | some number => modify fun c => { c with nodes := (number, node) :: c.nodes }
  | none => pure ()
  return node

def named (name : String) : Composing Node := do
  let c ← get
  match c.names.lookup name with
  | some number => return (c.nodes.lookup number).getD .bad
  | none => failure

def plainNode (kind : Option Kind) (text : String) : Node :=
  .scalar (match kind with
    | some kind => .ofTagged kind text
    | none => .ofPlain text)

/-- The scalar that is left out behind a tag or a name; without either there must be one. -/
def leftOut (kind : Option Kind) (number : Option Nat) : Composing Node := do
  guard (kind.isSome || number.isSome)
  return plainNode kind ""

def tableOf (nodes : List Node) : Composing Node := do
  match Node.fields? none [] nodes with
  | some fields => return .table fields
  | none => failure

/-! ### Nodes -/

/-- The tokens in front of which a key or value by indentation is left out. -/
def fieldEnds : List Token :=
  [.key, .value, .collectionEnd]

/-- The tokens in front of which a value in a list in brackets is left out. -/
def pairEnds : List Token :=
  [.comma, .closeList]

/-- The tokens in front of which a value in a table in braces is left out. -/
def braceEnds : List Token :=
  [.comma, .closeTable]

mutual

/-- A node. It may be a collection by indentation only if `block`, and a list by dashes that stand no
deeper than what is around them only if `loose`. -/
def node (block loose : Bool) : Nat → Composing Node
  | 0 => failure
  | fuel + 1 => do
    match ← peek? with
    | some (.reference name) =>
      skip
      named name
    | _ =>
      let (kind, number) ← properties
      let found ← match ← peek? with
        | some .dash =>
          if loose then return ← complete number (.list (← looseItems fuel))
          else leftOut kind number
        | some (.scalar isPlain text) => do
          skip
          pure (if isPlain then plainNode kind text else .scalar (.text text))
        | some .openList => do
          skip
          pure (.list (← flowItems true fuel))
        | some .openTable => do
          skip
          tableOf (← flowFields true fuel)
        | some .listStart =>
          if block then do
            skip
            pure (.list (← items fuel))
          else leftOut kind number
        | some .tableStart =>
          if block then do
            skip
            tableOf (← fields fuel)
          else leftOut kind number
        | _ => leftOut kind number
      complete number found
termination_by structural fuel => fuel

def items : Nat → Composing (List Node)
  | 0 => failure
  | fuel + 1 => do
    if ← skipIf .collectionEnd then return []
    else
      guard (← skipIf .dash)
      let item ← if ← atAny [.dash, .collectionEnd] then pure Node.missing else node true false fuel
      return item :: (← items fuel)
termination_by structural fuel => fuel

/-- The items of a list whose dashes stand no deeper than what is around it. -/
def looseItems : Nat → Composing (List Node)
  | 0 => failure
  | fuel + 1 => do
    if ← skipIf .dash then
      let item ← if ← atAny (.dash :: fieldEnds) then pure Node.missing else node true false fuel
      return item :: (← looseItems fuel)
    else return []
termination_by structural fuel => fuel

def fields : Nat → Composing (List Node)
  | 0 => failure
  | fuel + 1 => do
    if ← skipIf .collectionEnd then return []
    else
      let key ← if ← skipIf .key then
          if ← atAny fieldEnds then pure Node.missing else node true true fuel
        else do
          guard (← atAny [.value])
          pure Node.missing
      let value ← if ← skipIf .value then
          if ← atAny fieldEnds then pure Node.missing else node true true fuel
        else pure Node.missing
      return key :: value :: (← fields fuel)
termination_by structural fuel => fuel

/-- The items of a list in brackets; a comma comes before all but the first. A key with its value is a
table of its own. -/
def flowItems (isFirst : Bool) : Nat → Composing (List Node)
  | 0 => failure
  | fuel + 1 => do
    if ← skipIf .closeList then return []
    else
      if !isFirst then guard (← skipIf .comma)
      if ← skipIf .closeList then return []
      else
        let item ← if ← skipIf .key then tableOf (← flowPair fuel) else node false false fuel
        return item :: (← flowItems false fuel)
termination_by structural fuel => fuel

/-- A key and its value in a list in brackets. The token that shows that the key is left out is taken
with it. -/
def flowPair : Nat → Composing (List Node)
  | 0 => failure
  | fuel + 1 => do
    let key ← if ← atAny (.value :: pairEnds) then do
        skip
        pure Node.missing
      else node false false fuel
    let value ← if ← skipIf .value then
        if ← atAny pairEnds then pure Node.missing else node false false fuel
      else pure Node.missing
    return [key, value]
termination_by structural fuel => fuel

/-- The keys and values of a table in braces, in turns; a comma comes before all but the first. -/
def flowFields (isFirst : Bool) : Nat → Composing (List Node)
  | 0 => failure
  | fuel + 1 => do
    if ← skipIf .closeTable then return []
    else
      if !isFirst then guard (← skipIf .comma)
      if ← skipIf .closeTable then return []
      else if ← skipIf .key then
        let key ← if ← atAny (.value :: braceEnds) then pure Node.missing else node false false fuel
        let value ← flowValue fuel
        return key :: value :: (← flowFields false fuel)
      else if ← atAny [.value] then
        let value ← flowValue fuel
        return .missing :: value :: (← flowFields false fuel)
      else
        let key ← node false false fuel
        return key :: .missing :: (← flowFields false fuel)
termination_by structural fuel => fuel

def flowValue : Nat → Composing Node
  | 0 => failure
  | fuel + 1 => do
    if ← skipIf .value then
      if ← atAny braceEnds then return .missing else node false false fuel
    else return .missing
termination_by structural fuel => fuel

end

/-! ### Documents -/

/-- The directives of a document, from those after a version on. Only the last one counts. -/
def directives (hasVersion : Bool) : Nat → Composing Unit
  | 0 => failure
  | fuel + 1 => do
    match ← peek? with
    | some (.directive .version) =>
      guard !hasVersion
      skip
      modify fun c => { c with handles := [] }
      directives true fuel
    | some (.directive (.tagPrefix handle stands)) =>
      skip
      modify fun c => { c with handles := [(handle, stands)] }
      directives hasVersion fuel
    | _ => return ()

/-- The text's document, if it has any; there may not be two. -/
def document : Composing (Option Node) := do
  let fuel := 4 * (← get).tokens.length + 8
  modify fun c => { c with tokens := c.tokens.dropWhile (· = .documentEnd) }
  match ← peek? with
  | none => return none
  | some token =>
    let isMarked := match token with
      | .directive _ => true
      | .documentStart => true
      | _ => false
    if isMarked then
      directives false fuel
      guard (← skipIf .documentStart)
    let isEmpty := isMarked && (← peek?).all fun token =>
      match token with
      | .directive _ => true
      | .documentStart => true
      | .documentEnd => true
      | _ => false
    let found ← if isEmpty then pure Node.missing else node true false fuel
    guard ((← get).tokens.all (· = .documentEnd))
    return some found

end Composer

/-- The document of a text, where that can be read; a text may have none. -/
def Node.ofChars? (s : List Char) : Option (Option Node) := do
  let tokens ← Token.ofChars? s
  Composer.document.run' ⟨tokens, [], [], [], 1⟩

end LispHost.Config.Yaml
