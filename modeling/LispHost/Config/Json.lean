import LispHost.Binary.Stepwise
import LispHost.Config.Tree
import LispHost.Json.Reader

/-!
Settings written in JSON.

A number written as an integer is one if it has at most 64 bits and is not minus zero; any other number
is read as a float with a rounding at every step, and must not lie beyond all floats. Of two fields
with one name the later counts.
-/

set_option autoImplicit false

namespace LispHost.Config

def Tree.ofDecimal? (d : Decimal) : Option Tree :=
  let n : Int := if d.negative then -d.digits else d.digits
  if d.integral ∧ isInt64 n ∧ ¬(d.negative ∧ d.digits = 0) then some (.int n)
  else
    (Binary.ofDecimalStepwise? d).map .float

mutual

def Tree.ofJson? : Json → Option Tree
  | .null => some .nil
  | .bool b => some (.bool b)
  | .number d => ofDecimal? d
  | .string s => some (.written s)
  | .array items => do return .list (← itemsOfJson? items)
  | .object fields => do return .table (← fieldsOfJson? fields [])

def Tree.itemsOfJson? : List Json → Option (List Tree)
  | [] => some []
  | item :: items => do return (← ofJson? item) :: (← itemsOfJson? items)

/-- The trees of the fields of a JSON object, after those already read. -/
def Tree.fieldsOfJson? : List (String × Json) → List (String × Tree) → Option (List (String × Tree))
  | [], found => some found
  | (name, value) :: fields, found => do
    fieldsOfJson? fields (setField name (← ofJson? value) found)

end

namespace JsonText

def depthLimit : Nat := 127

/-- The fields at the root of a JSON text, which is an object. -/
def parse? (text : String) : Option (List (String × Tree)) :=
  match Json.parse? depthLimit text >>= Tree.ofJson? with
  | some (.table fields) => some fields
  | _ => none

end JsonText

end LispHost.Config
