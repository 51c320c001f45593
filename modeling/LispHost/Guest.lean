import LispHost.Guest.Code

/-!
Guest modules: what a guest declares and exports.

Exports of all kinds share one namespace. A module is well formed when its sizes respect its own
maxima and the address space and no name is exported twice.
-/

set_option autoImplicit false

namespace LispHost

inductive Value where
  | i32 (word : Word)
  | i64 (number : Int64)
  | f32 (bits : UInt32)
  | f64 (bits : UInt64)
  deriving DecidableEq, Repr

namespace Value

def type : Value → ValueType
  | i32 _ => .i32
  | i64 _ => .i64
  | f32 _ => .f32
  | f64 _ => .f64

def ofBits (bits : UInt64) : ValueType → Value
  | .i32 => i32 bits.toUInt32
  | .i64 => i64 bits.toInt64
  | .f32 => f32 bits.toUInt32
  | .f64 => f64 bits

/-- The value with its type, integers signed and floats as bits. -/
def text : Value → String
  | i32 word => "I32(" ++ toString word.toInt32.toInt ++ ")"
  | i64 number => "I64(" ++ toString number.toInt ++ ")"
  | f32 bits => "F32(" ++ decimalText bits.toNat ++ ")"
  | f64 bits => "F64(" ++ decimalText bits.toNat ++ ")"

end Value

/-- A guest function; its body is run only on words, and answers the bits of its results. -/
structure Func (σ : Type) where
  params : List ValueType
  results : List ValueType
  body : List Word → Code σ (List UInt64)

/-- The values of the given types; missing bits are zero. -/
def valuesOfBits : List ValueType → List UInt64 → List Value
  | [], _ => []
  | type :: types, [] => .ofBits 0 type :: valuesOfBits types []
  | type :: types, bits :: rest => .ofBits bits type :: valuesOfBits types rest

def Func.run {σ : Type} (f : Func σ) (args : List Word) : Code σ (List Value) :=
  (f.body args).bind fun bits => .done (valuesOfBits f.results bits)

inductive Export (σ : Type) where
  | func (f : Func σ)
  | global (value : Value)
  | memory
  | table

/-- A guest module over private globals `σ`. -/
structure Guest (σ : Type) where
  pages : Nat
  maxPages : Option Nat
  table : Nat
  maxTable : Option Nat
  /-- The data segments, written in order when the guest is instantiated. -/
  data : List (Nat × List UInt8)
  globals : σ
  start : Option (Code σ Unit)
  exports : List (String × Export σ)
  linkable : Bool

namespace Guest

variable {σ : Type}

def wellFormed (guest : Guest σ) : Bool :=
  decide (guest.pages ≤ guest.maxPages.getD Memory.pageCeiling) &&
  decide (guest.pages ≤ Memory.pageCeiling) &&
  decide (guest.maxPages.getD 0 ≤ Memory.pageCeiling) &&
  decide (guest.table ≤ guest.maxTable.getD guest.table) &&
  decide (guest.exports.map Prod.fst).Nodup

def export? (guest : Guest σ) (name : String) : Option (Export σ) :=
  guest.exports.lookup name

def func (guest : Guest σ) (name : String) : Except Error (Func σ) :=
  match guest.export? name with
  | some (.func f) => .ok f
  | _ => .error (.exportNotFound name)

def typedFunc (guest : Guest σ) (name : String) (params results : List ValueType) :
    Except Error (Func σ) :=
  match guest.func name with
  | .error e => .error e
  | .ok f =>
    if f.params = params ∧ f.results = results then .ok f else .error (.signature name)

/-- The exported function from `arity` words to a word. -/
def wordFunc (guest : Guest σ) (name : String) (arity : Nat) : Except Error (Func σ) :=
  guest.typedFunc name (List.replicate arity .i32) [.i32]

def globalWord (guest : Guest σ) (name : String) : Except Error Word :=
  match guest.export? name with
  | some (.global (.i32 word)) => .ok word
  | some (.global value) =>
    .error (.typeMismatch ("i32 global \x60" ++ name ++ "\x60") value.text)
  | _ => .error (.exportNotFound name)

def exportsMemory (guest : Guest σ) (name : String) : Bool :=
  match guest.export? name with
  | some .memory => true
  | _ => false

end Guest

end LispHost
