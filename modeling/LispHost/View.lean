import LispHost.Guest.Instance
import LispHost.Decode

/-!
Live heaps: the accessors, tag codes and sentinels that a guest instance exports.

The names are looked up once. A tag code that the guest does not export leaves the tag unused, so its
values decode as unknown; an accessor or sentinel that is missing is an error. Reading a live heap
calls the guest's accessors and then reads the memory they point to.
-/

set_option autoImplicit false

namespace LispHost

/-- The names of everything the host looks up in a guest. -/
structure Abi where
  memory : String
  tagOf : String
  row : String
  string : String
  tagInt : String
  tagSys : String
  tagDuo : String
  tagSym : String
  sysNil : String
  sysT : String
  alloc : String
  read : String
  eval : String
  start : String
  deriving DecidableEq, Repr

def Abi.default : Abi where
  memory := "memory"
  tagOf := "wisp_tag_of"
  row := "wisp_row"
  string := "wisp_str"
  tagInt := "wisp_tag_int"
  tagSys := "wisp_tag_sys"
  tagDuo := "wisp_tag_duo"
  tagSym := "wisp_tag_sym"
  sysNil := "wisp_sys_nil"
  sysT := "wisp_sys_t"
  alloc := "wisp_alloc"
  read := "wisp_read"
  eval := "wisp_eval"
  start := "_initialize"

/-- The names of the tag codes, in the order of their lookup. -/
def Abi.tagNames (abi : Abi) : List (Tag × String) :=
  [(.int, abi.tagInt), (.sys, abi.tagSys), (.duo, abi.tagDuo), (.sym, abi.tagSym)]

structure DecodingContext (σ : Type) where
  memory : String
  tagOf : Func σ
  row : Func σ
  string : Func σ
  tags : TagTable
  sentinels : Sentinels

namespace DecodingContext

variable {σ : Type}

/-- The table with the codes of the tags whose names the guest exports. -/
def resolveTags (guest : Guest σ) (table : TagTable) :
    List (Tag × String) → Except Error TagTable
  | [] => .ok table
  | (tag, name) :: rest =>
    match guest.globalWord name with
    | .ok code => resolveTags guest (table.insert tag code) rest
    | .error (.exportNotFound _) => resolveTags guest table rest
    | .error e => .error e

def resolve (guest : Guest σ) (abi : Abi) : Except Error (DecodingContext σ) := do
  let tagOf ← guest.wordFunc abi.tagOf 1
  let row ← guest.wordFunc abi.row 2
  let string ← guest.wordFunc abi.string 1
  let tags ← resolveTags guest .empty abi.tagNames
  let nil ← guest.globalWord abi.sysNil
  let t ← guest.globalWord abi.sysT
  return { memory := abi.memory, tagOf, row, string, tags, sentinels := ⟨nil, t⟩ }

def slice (ctx : DecodingContext σ) (inst : Instance σ) (offset len : Word) :
    Except Error (List UInt8) := do
  let memory ← inst.memoryOf ctx.memory
  memory.slice offset len

def word (ctx : DecodingContext σ) (inst : Instance σ) (offset : Word) : Except Error Word := do
  let memory ← inst.memoryOf ctx.memory
  memory.word offset

def memorySize (ctx : DecodingContext σ) (inst : Instance σ) : Except Error Nat := do
  let memory ← inst.memoryOf ctx.memory
  return memory.size

def tagOfValue (ctx : DecodingContext σ) (value : Word) (inst : Instance σ) :
    Except Error Tag × Instance σ :=
  let (answer, inst) := inst.callWord ctx.tagOf [value]
  (answer.map ctx.tags.classify, inst)

/-- The row of a value under a tag; the guest says where it lies. -/
def rowOf (ctx : DecodingContext σ) (tag : Tag) (value : Word) (inst : Instance σ) :
    Except Error Row × Instance σ :=
  match tag.rowWidth, ctx.tags.codeOf tag with
  | some width, some code =>
    match inst.callWord ctx.row [code, value] with
    | (.error e, inst) => (.error e, inst)
    | (.ok address, inst) =>
      let cells := (ctx.slice inst address (UInt32.ofNat (4 * width))).map Word.listOfBytes
      (cells.map (Row.mk tag), inst)
  | _, _ => (.error (.missingRow tag.text), inst)

/-- The string record at an address: its length word, then its bytes. -/
def stringAt (memory : Memory) (handle address : Word) : Except Error String := do
  let len ← memory.word address
  match Memory.advance address 4 with
  | none => .error (memory.fault address 4)
  | some start =>
    let data ← memory.slice start len
    match Text.Utf8.decode? data with
    | some text => .ok text
    | none => .error (.encoding handle len)

/-- The text of a string handle; the guest says where its record lies. -/
def stringOf (ctx : DecodingContext σ) (handle : Word) (inst : Instance σ) :
    Except Error String × Instance σ :=
  match inst.callWord ctx.string [handle] with
  | (.error e, inst) => (.error e, inst)
  | (.ok address, inst) =>
    ((do let memory ← inst.memoryOf ctx.memory; stringAt memory handle address), inst)

def reader (ctx : DecodingContext σ) : HeapReader (Instance σ) where
  tagOf := ctx.tagOfValue
  row := ctx.rowOf
  string := ctx.stringOf
  sentinels _ := ctx.sentinels

def decode (ctx : DecodingContext σ) (options : DecodeOptions) (value : Word)
    (inst : Instance σ) : Except Error Projection × Instance σ :=
  Projection.decode ctx.reader options value inst

end DecodingContext

end LispHost
