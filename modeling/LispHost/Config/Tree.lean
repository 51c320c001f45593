import LispHost.Binary
import LispHost.Text.Lowercase

/-!
Settings as trees, whatever format they were written in.

A text remembers whether it was written in a file or comes from the environment, since messages say
so. Names of settings do not depend on case: a tree is used with its names in lower case,
except for those inside lists.
-/

set_option autoImplicit false

namespace LispHost.Config

inductive Source where
  | file
  | environment
  deriving DecidableEq, Repr

/-- A tree of settings; the fields of a table keep their order. -/
inductive Tree where
  | nil
  | bool (value : Bool)
  | int (value : Int)
  | float (value : Binary)
  | text (source : Source) (value : String)
  | list (items : List Tree)
  | table (fields : List (String × Tree))
  deriving Repr

namespace Tree

def written (value : String) : Tree :=
  text .file value

def isInt64 (n : Int) : Bool :=
  decide (Int64.minValue.toInt ≤ n) && decide (n ≤ Int64.maxValue.toInt)

/-- An integer, or the nearest float if it has more than 64 bits. -/
def ofInt (n : Int) : Tree :=
  if isInt64 n then int n else float (.ofInt n)

/-- A field of a table; of two with one name the later. -/
def field? (name : String) (fields : List (String × Tree)) : Option Tree :=
  (fields.reverse.find? fun entry => entry.1 = name).map Prod.snd

/-- A table with a field replaced where it stands, or added at the end. -/
def setField (name : String) (value : Tree) : List (String × Tree) → List (String × Tree)
  | [] => [(name, value)]
  | entry :: fields =>
    if entry.1 = name then (name, value) :: fields else entry :: setField name value fields

mutual

/-- The tree with every name in lower case, those inside lists left as they are. -/
def lowerNames : Tree → Tree
  | table fields => table (lowerFields fields)
  | tree => tree

/-- The fields with every name in lower case, those inside lists left as they are. -/
def lowerFields : List (String × Tree) → List (String × Tree)
  | [] => []
  | (name, value) :: fields => (Text.lowercase name, lowerNames value) :: lowerFields fields

end

end Tree

end LispHost.Config
