import LispHost.Guest.Script
import LispHost.Binary
import LispHost.Json.Reader
import LispHost.Wire

/-!
Reading the description of a scripted guest from JSON, and guests from files.

A description is an object; a field that is absent keeps its usual value. A file holds either a
description or the bytes of a module, and of modules given as bytes only the empty one is usable.
-/

set_option autoImplicit false

namespace LispHost.Script

open Wire

/-- The field of a JSON object read by `item`, or the given value where it is absent. -/
def fieldOr {α : Type} (j : Json) (name : String) (usual : α) (item : Reader α) : Option α :=
  orElse usual item (j.field? name)

def hexByte? (a b : Char) : Option UInt8 :=
  (Text.radixNumber? 16 [a, b]).map UInt8.ofNat

def hexBytes? : List Char → Option (List UInt8)
  | [] => some []
  | a :: b :: rest => do return (← hexByte? a b) :: (← hexBytes? rest)
  | _ => none

def hex : Reader (List UInt8) := fun j => do hexBytes? (← string j).toList

def dictionary {α : Type} (item : Reader α) : Reader (List (String × α))
  | .object fields => fields.mapM fun (name, j) => do return (name, ← item j)
  | _ => none

def segment : Reader (Nat × List UInt8)
  | .array [offset, bytes] => do return (← long offset, ← hex bytes)
  | _ => none

/-- The arguments of a system call: words, or the low halves of longer numbers. -/
def argument : Reader Word := fun j => (long j).map UInt32.ofNat

/-- An action: its name, then its arguments. -/
def action : Reader Action
  | .array (.string name :: args) => do
    let args ← args.mapM argument
    match name, args with
    | "store", [address, value] => some (.store address value)
    | "store8", [address, value] => some (.storeByte address value)
    | "grow", [pages] => some (.grow pages)
    | "cons", [car, cdr] => some (.cons car cdr)
    | "set_str_base", [base] => some (.setStrBase base)
    | "trap", [] => some .trap
    | name, args => (Syscall.ofName? name args).map .syscall
  | _ => none

def evalRule : Reader EvalRule := fun j => do
  return ⟨← word (← j.field? "when"), ← fieldOr j "do" [] (list action),
    ← fieldOr j "ret" none (optional word)⟩

def rowRule : Reader RowRule := fun j => do
  match ← list word j with
  | [code, base, mask, stride] => some ⟨code, base, mask, stride⟩
  | _ => none

def int64 : Reader Int64
  | .number d => if d.integral then some (Int64.ofInt (if d.negative then -d.digits else d.digits))
    else none
  | _ => none

def single : Reader UInt32
  | .number d => some (UInt32.ofNat (Binary.ofDecimal .single d).singleBits)
  | _ => none

def globalExport : Reader GlobalExport
  | .null => some .absent
  | .string "func" => some .func
  | .object [("i64", n)] => do return .value (.i64 (← int64 n))
  | .object [("f32", n)] => do return .value (.f32 (← single n))
  | j => do return .value (.i32 (← word j))

def Description.ofJson? : Reader Description := fun j => do
  let usual := Description.default
  match j with
  | .object _ => return {
      pages := ← fieldOr j "pages" usual.pages long
      maxPages := ← fieldOr j "max_pages" none (optional long)
      memory := ← fieldOr j "memory" usual.memory (optional string)
      table := ← fieldOr j "table" usual.table long
      maxTable := ← fieldOr j "table_max" none (optional long)
      defaultData := ← fieldOr j "default_data" true bool
      data := ← fieldOr j "data" [] (list segment)
      strBase := ← fieldOr j "str_base" usual.strBase word
      duoBase := ← fieldOr j "duo_base" usual.duoBase word
      allocMax := ← fieldOr j "alloc_max" usual.allocMax word
      allocPtr := ← fieldOr j "alloc_ptr" usual.allocPtr word
      omitted := ← fieldOr j "omit" [] (list string)
      renamed := ← fieldOr j "rename" [] (dictionary string)
      misTyped := ← fieldOr j "badsig" [] (list string)
      linkable := ← fieldOr j "bad_import" true (fun b => (optional string b).map Option.isNone)
      globals := ← fieldOr j "globals" [] (dictionary globalExport)
      extraGlobals := ← fieldOr j "extra_globals" [] (dictionary word)
      tagCodes := ← fieldOr j "tag_codes" usual.tagCodes (list (optional word))
      rowRules := ← fieldOr j "row_rules" usual.rowRules (list rowRule)
      start := ← fieldOr j "start" [] (list action)
      init := ← fieldOr j "init" [] (list action)
      eval := ← fieldOr j "eval" usual.eval (list evalRule) }
  | _ => none

inductive Image where
  | description (d : Description)
  | bytes (data : List UInt8)

def emptyModule : List UInt8 :=
  [0x00, 0x61, 0x73, 0x6d, 0x01, 0x00, 0x00, 0x00]

def isEmptyModuleText (text : List Char) : Bool :=
  let blank (c : Char) : Bool := c = ' ' || c = '\n' || c = '\t' || c = '\r'
  match text.dropWhile blank with
  | '(' :: rest =>
    match rest.dropWhile blank with
    | 'm' :: 'o' :: 'd' :: 'u' :: 'l' :: 'e' :: rest =>
      match rest.dropWhile blank with
      | ')' :: rest => (rest.dropWhile blank).isEmpty
      | _ => false
    | _ => false
  | _ => false

def Image.guest : Image → Except Error (Guest Globals)
  | .description d => .ok d.guest
  | .bytes data =>
    if data = emptyModule ∨ (Text.Utf8.decode? data).any fun text => isEmptyModuleText text.toList
    then .ok emptyGuest
    else .error (.compilation "the bytes are no usable module")

def descriptionHeader : String := "scripted guest\n"

def Image.ofBytes (data : List UInt8) : Image :=
  let header := Text.Utf8.encode descriptionHeader
  if header.isPrefixOf data then
    match (Text.Utf8.decode? (data.drop header.length)).bind (Json.parse? 127) >>=
        Description.ofJson? with
    | some d => .description d
    | none => .bytes data
  else .bytes data

end LispHost.Script
