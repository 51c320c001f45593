import LispHost.Config.Tree
import LispHost.Text.Quoted
import LispHost.Word.Reader

/-!
Settings of a known type, read from trees.

A number, a truth value and a text may each be written as one of the others where that makes sense. A
record is a table with its fields, or a list that gives them in order; a field that is absent keeps its
usual value and one that is not known does not count. A problem says what was found, what was expected
and where.
-/

set_option autoImplicit false

namespace LispHost.Config

inductive Segment where
  | field (name : String)
  | item (index : Nat)
  deriving DecidableEq, Repr

abbrev Key := List Segment

/-- The text of a segment, `first` at the root. -/
def Segment.text (first : Bool) : Segment → String
  | field name => if first then name else "." ++ name
  | item index => "[" ++ decimalText index ++ "]"

def Key.text : Key → String
  | [] => ""
  | segment :: rest => segment.text true ++ String.join (rest.map (Segment.text false))

inductive Found where
  | nothing
  | bool (value : Bool)
  | integer (value : Int)
  | signed64 (value : Int)
  | unsigned64 (value : Nat)
  | float (value : Binary)
  | text (value : String)
  | list
  | table
  deriving DecidableEq, Repr

def Found.message : Found → String
  | nothing => "unit value"
  | bool b => "boolean \x60" ++ (if b then "true" else "false") ++ "\x60"
  | integer n => "integer \x60" ++ toString n ++ "\x60"
  | signed64 n => "64-bit integer \x60" ++ toString n ++ "\x60"
  | unsigned64 n => "64-bit unsigned integer \x60" ++ decimalText n ++ "\x60"
  | float b => "floating point \x60" ++ b.pointedText ++ "\x60"
  | text s => "string " ++ Text.quoted s
  | list => "sequence"
  | table => "map"

inductive Expected where
  | unsigned
  | word
  | integer
  | boolean
  | text
  deriving DecidableEq, Repr

def Expected.message : Expected → String
  | unsigned => "an unsigned 64 bit or less integer"
  | word => "an unsigned 32 bit integer"
  | integer => "an integer"
  | boolean => "a boolean"
  | text => "a string"

inductive Problem where
  | wrongType (found : Found) (expected : Expected) (key : Key) (source : Source)
  | noRecord (found : Found) (record : String)
  | noVariant (choice name : String)
  | notOneVariant (choice : String)
  deriving DecidableEq, Repr

def Problem.message : Problem → String
  | wrongType found expected key source =>
    "invalid type: " ++ found.message ++ ", expected " ++ expected.message ++
      " for key \x60" ++ key.text ++ "\x60" ++
      (match source with
        | .file => ""
        | .environment => " in the environment")
  | noRecord found record => "invalid type: " ++ found.message ++ ", expected struct " ++ record
  | noVariant choice name => "enum " ++ choice ++ " does not have variant constructor " ++ name
  | notOneVariant choice =>
    "value of enum " ++ choice ++
      " should be represented by either string or table with exactly one key"

abbrev FieldReader (α : Type) := Key → Tree → Except Problem α

namespace FieldReader

def truth? : String → Option Bool
  | "true" => some true
  | "on" => some true
  | "yes" => some true
  | "false" => some false
  | "off" => some false
  | "no" => some false
  | _ => none

/-- A natural number of 64 bits. A float is rounded, and pulled into the range. -/
def long : FieldReader Nat := fun key tree =>
  let wrong (found : Found) (expected : Expected) (source : Source) : Except Problem Nat :=
    .error (.wrongType found expected key source)
  match tree with
  | .int n => if 0 ≤ n then .ok n.toNat else wrong (.signed64 n) .unsigned .file
  | .float b => .ok (b.saturate UInt64.size)
  | .bool b => .ok b.toNat
  | .text source s =>
    match truth? (Text.lowercase s), Word.readNumber UInt64.size 10 s.toList with
    | some b, _ => .ok b.toNat
    | none, .ok n => .ok n
    | none, .error _ => wrong (.text s) .integer source
  | .nil => wrong .nothing .integer .file
  | .list _ => wrong .list .integer .file
  | .table _ => wrong .table .integer .file

def short : FieldReader Nat := fun key tree => do
  let n ← long key tree
  if n < wordCount then return n
  else throw (.wrongType (.unsigned64 n) .word key .file)

def bool : FieldReader Bool := fun key tree =>
  let wrong (found : Found) (source : Source) : Except Problem Bool :=
    .error (.wrongType found .boolean key source)
  match tree with
  | .bool b => .ok b
  | .int n => .ok (n ≠ 0)
  | .float b => .ok b.isNonzero
  | .text source s =>
    match Text.lowercase s with
    | "1" => .ok true
    | "0" => .ok false
    | lower =>
      match truth? lower with
      | some b => .ok b
      | none => wrong (.text lower) source
  | .nil => wrong .nothing .file
  | .list _ => wrong .list .file
  | .table _ => wrong .table .file

def text : FieldReader String := fun key tree =>
  let wrong (found : Found) : Except Problem String := .error (.wrongType found .text key .file)
  match tree with
  | .text _ s => .ok s
  | .bool b => .ok (if b then "true" else "false")
  | .int n => .ok (toString n)
  | .float b => .ok b.text
  | .nil => wrong .nothing
  | .list _ => wrong .list
  | .table _ => wrong .table

def optional {α : Type} (read : FieldReader α) : FieldReader (Option α) := fun key tree =>
  match tree with
  | .nil => .ok none
  | tree => (read key tree).map some

/-- One of the named values of a choice, in any case; a table names it by its only key. -/
def variant {α : Type} (choice : String) (values : List (String × α)) : FieldReader α := fun _ tree =>
  let named (name : String) : Except Problem α :=
    match values.find? fun value => Text.lowercase value.1 = Text.lowercase name with
    | some (_, value) => .ok value
    | none => .error (.noVariant choice name)
  match tree with
  | .text _ name => named name
  | .table [(name, _)] => named name
  | _ => .error (.notOneVariant choice)

end FieldReader

/-- A record: its key, and its fields by position and name. -/
structure Section where
  key : Key
  find? : Nat → String → Option (Segment × Tree)

namespace Section

def ofTree (record : String) : FieldReader Section := fun key tree =>
  let wrong (found : Found) : Except Problem Section := .error (.noRecord found record)
  match tree with
  | .table fields => .ok ⟨key, fun _ name => (Tree.field? name fields).map fun t => (.field name, t)⟩
  | .list items => .ok ⟨key, fun index _ => items[index]?.map fun t => (.item index, t)⟩
  | .nil => wrong .nothing
  | .bool b => wrong (.bool b)
  | .int n => wrong (.integer n)
  | .float b => wrong (.float b)
  | .text _ s => wrong (.text s)

/-- A field, or its usual value where it is absent. -/
def field {α : Type} (s : Section) (index : Nat) (name : String) (usual : α)
    (read : FieldReader α) : Except Problem α :=
  match s.find? index name with
  | none => .ok usual
  | some (segment, tree) => read (s.key ++ [segment]) tree

end Section

end LispHost.Config
