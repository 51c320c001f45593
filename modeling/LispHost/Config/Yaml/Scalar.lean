import LispHost.Binary.Reader
import LispHost.Config.Tree

/-!
Scalars of YAML and what they stand for.

A scalar in quotes is a text. One without quotes stands for nothing, a truth value, an integer or a
float if it is written like one, or for what its tag says.
-/

set_option autoImplicit false

namespace LispHost.Config.Yaml

open LispHost.Text

/-- What the tag of a node says: a name of the core schema, or one of its own. -/
inductive Kind where
  | core (name : String)
  | custom
  deriving DecidableEq, Repr

inductive Scalar where
  | nil
  /-- The text is not what the tag asks for. -/
  | bad
  | bool (value : Bool)
  | int (value : Int)
  | real (written : String)
  | text (value : String)
  deriving DecidableEq, Repr

namespace Scalar

def integer? (radix : Nat) (s : List Char) : Option Int := do
  let (negative, digits) := match s with
    | '-' :: rest => (true, rest)
    | '+' :: rest => (false, rest)
    | s => (false, s)
  let size : Int ← (radixNumber? radix digits).map Int.ofNat
  let n := if negative then -size else size
  guard (Tree.isInt64 n)
  return n

/-- An integer with a mark in front that is not part of it. -/
def markedInteger? : List Char → Option Int
  | '0' :: 'x' :: digits => integer? 16 digits
  | '0' :: 'o' :: digits => integer? 8 digits
  | '+' :: digits => integer? 10 digits
  | _ => none

def specialFloats : List String :=
  [".inf", ".Inf", ".INF", "+.inf", "+.Inf", "+.INF", "-.inf", "-.Inf", "-.INF", ".nan", ".NaN", ".NAN"]

def isReal (s : String) : Bool :=
  specialFloats.contains s || (Decimal.ofText? s.toList).isSome

def ofPlain (s : String) : Scalar :=
  match markedInteger? s.toList with
  | some n => int n
  | none =>
    match s with
    | "" => nil
    | "~" => nil
    | "null" => nil
    | "true" => bool true
    | "false" => bool false
    | s =>
      match integer? 10 s.toList with
      | some n => int n
      | none => if isReal s then real s else text s

def ofTagged (kind : Kind) (s : String) : Scalar :=
  match kind with
  | .core "bool" =>
    match s with
    | "true" => bool true
    | "false" => bool false
    | _ => bad
  | .core "int" => ((integer? 10 s.toList).map int).getD bad
  | .core "float" => if isReal s then real s else bad
  | .core "null" => if s = "~" ∨ s = "null" then nil else bad
  | _ => text s

/-- The tree of a scalar. The spellings of floats that are no numbers have none. -/
def tree? : Scalar → Option Tree
  | nil => some .nil
  | bad => some .nil
  | bool b => some (.bool b)
  | int n => some (.int n)
  | real s => (Decimal.ofText? s.toList).map fun d => .float (.ofDecimal .double d)
  | text s => some (.written s)

def name? : Scalar → Option String
  | nil => none
  | bad => none
  | bool b => some (if b then "true" else "false")
  | int n => some (toString n)
  | real s => some s
  | text s => some s

end Scalar

end LispHost.Config.Yaml
