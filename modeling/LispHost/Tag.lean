import LispHost.Word

/-!
Tags: the variant of a guest value, as the guest's own classifier names it.

The guest answers a numeric code; a table of the codes the guest exports turns it into a tag. A code
inserted twice belongs to the later tag, and a code no one inserted is an unknown tag that carries it.
-/

set_option autoImplicit false

namespace LispHost

inductive Tag where
  | int
  | sys
  | duo
  | sym
  /-- A classifier code the host has no case for. -/
  | unknown (code : Word)
  deriving DecidableEq, Repr

namespace Tag

def label : Tag → String
  | int => "int"
  | sys => "sys"
  | duo => "duo"
  | sym => "sym"
  | unknown _ => "unknown"

/-- The name of the variant, with the code of an unknown one. -/
def text : Tag → String
  | unknown code => "unknown:" ++ Word.decimal code
  | tag => tag.label

/-- The number of words in the row of a tag, if it has a row. -/
def rowWidth : Tag → Option Nat
  | duo => some 2
  | sym => some 1
  | _ => none

end Tag

/-- The codes the guest uses for tags, in the order of first insertion, one entry a code. -/
structure TagTable where
  entries : List (Word × Tag)
  deriving DecidableEq, Repr

namespace TagTable

def empty : TagTable :=
  ⟨[]⟩

/-- Entries with `code` given to `tag`, in place if the code is there. -/
def put (tag : Tag) (code : Word) : List (Word × Tag) → List (Word × Tag)
  | [] => [(code, tag)]
  | entry :: rest =>
    if entry.1 = code then (code, tag) :: rest else entry :: put tag code rest

/-- Give a code to a tag, taking it from the tag that had it. -/
def insert (table : TagTable) (tag : Tag) (code : Word) : TagTable :=
  ⟨put tag code table.entries⟩

def classify (table : TagTable) (code : Word) : Tag :=
  match table.entries.lookup code with
  | some tag => tag
  | none => .unknown code

/-- The code of a tag; an unknown tag carries its own. -/
def codeOf (table : TagTable) : Tag → Option Word
  | .unknown code => some code
  | tag => (table.entries.find? fun entry => entry.2 = tag).map Prod.fst

def size (table : TagTable) : Nat :=
  table.entries.length

def isEmpty (table : TagTable) : Bool :=
  table.entries.isEmpty

end TagTable

end LispHost
