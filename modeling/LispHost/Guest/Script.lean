import LispHost.Guest

/-!
Scripted guests: a small Lisp guest whose layout and behaviour are given by a description.

The top four bits of a word select its variant, pairs are pairs of words in an array, a symbol's row
holds the offset of its name record, and evaluation follows a list of rules. All arithmetic wraps.
The description says where things lie, what `_initialize`, the start function and evaluation do, and
which exports are missing, renamed or of another kind.
-/

set_option autoImplicit false

namespace LispHost.Script

structure Globals where
  duoCount : Word
  strBase : Word
  initialized : Word
  /-- The status of the last system call made by an action. -/
  errno : Word
  deriving DecidableEq, Repr

abbrev Program (α : Type) := Code Globals α

/-- A step of a start function, an initialiser or an evaluation rule. -/
inductive Action where
  | syscall (call : Syscall)
  | store (address value : Word)
  | storeByte (address value : Word)
  | grow (pages : Word)
  | cons (car cdr : Word)
  | setStrBase (base : Word)
  | trap
  deriving DecidableEq, Repr

structure EvalRule where
  input : Word
  actions : List Action
  /-- The answer; the word itself if absent. -/
  output : Option Word
  deriving DecidableEq, Repr

/-- Where the rows of one tag code lie: `base + (value & mask) * stride`. -/
structure RowRule where
  code : Word
  base : Word
  mask : Word
  stride : Word
  deriving DecidableEq, Repr

/-- What is exported in place of a global constant. -/
inductive GlobalExport where
  | absent
  | func
  | value (v : Value)
  deriving DecidableEq, Repr

structure Description where
  pages : Nat
  maxPages : Option Nat
  memory : Option String
  table : Nat
  maxTable : Option Nat
  defaultData : Bool
  data : List (Nat × List UInt8)
  strBase : Word
  duoBase : Word
  allocMax : Word
  allocPtr : Word
  omitted : List String
  renamed : List (String × String)
  misTyped : List String
  linkable : Bool
  globals : List (String × GlobalExport)
  extraGlobals : List (String × Word)
  /-- The tag code of each variant nibble; a missing one traps. -/
  tagCodes : List (Option Word)
  rowRules : List RowRule
  start : List Action
  init : List Action
  eval : List EvalRule
  deriving Repr

def nilWord : Word := 0x20000000

def trueWord : Word := 0x20000001

def indexMask : Word := 0x0fffffff

def Description.default : Description where
  pages := 1
  maxPages := none
  memory := some "memory"
  table := 0
  maxTable := none
  defaultData := true
  data := []
  strBase := 0x1000
  duoBase := 0x100
  allocMax := 0x1000
  allocPtr := 0x3000
  omitted := []
  renamed := []
  misTyped := []
  linkable := true
  globals := []
  extraGlobals := []
  tagCodes := [some 0, some 7, some 1, some 2, some 3] ++ List.replicate 11 (some 7)
  rowRules := [⟨2, 0x100, indexMask, 8⟩, ⟨3, 0x800, indexMask, 4⟩]
  start := []
  init := []
  eval := [⟨trueWord, [.syscall (.fdWrite 1 16 2 128)], none⟩]

/-! ### Functions -/

def setErrno (status : Word) : Program Unit :=
  Code.modifyGlobals fun g => { g with errno := status }

def setStrBase (base : Word) : Program Unit :=
  Code.modifyGlobals fun g => { g with strBase := base }

/-- The cell that a pair word names. -/
def cellOf (d : Description) (pair : Word) : Word :=
  d.duoBase + (pair &&& indexMask) * 8

/-- Make a pair in the next cell. The cell is that of the whole number, although a pair word keeps only
the index bits of it. -/
def cons (d : Description) (car cdr : Word) : Program Word := do
  let g ← Code.globals
  let cell := d.duoBase + g.duoCount * 8
  Code.storeWord cell car
  Code.storeWord (cell + 4) cdr
  Code.modifyGlobals fun g => { g with duoCount := g.duoCount + 1 }
  return g.duoCount ||| 0x30000000

/-- Put the numbers below `n` in front of a list, the least first. -/
def iota (d : Description) : Nat → Word → Program Word
  | 0, tail => return tail
  | n + 1, tail => do iota d n (← cons d (UInt32.ofNat n) tail)

def nest (d : Description) : Nat → Word → Program Word
  | 0, value => return value
  | n + 1, value => do nest d n (← cons d value nilWord)

def Action.run (d : Description) : Action → Program Unit
  | .syscall call => do setErrno (← Code.callHost call)
  | .store address value => Code.storeWord address value
  | .storeByte address value => Code.storeByte address value
  | .grow pages => .grow pages fun _ => .done ()
  | .cons car cdr => do let _ ← Script.cons d car cdr
  | .setStrBase base => Script.setStrBase base
  | .trap => .trap .unreachable

def runAll (d : Description) : List Action → Program Unit
  | [] => return ()
  | action :: rest => do
    action.run d
    runAll d rest

def initialise (d : Description) : Program Unit := do
  Code.modifyGlobals fun g => { g with initialized := 1 }
  runAll d d.init

def tagOf (d : Description) (value : Word) : Program Word :=
  match d.tagCodes[(value >>> 28).toNat]? with
  | some (some code) => return code
  | _ => .trap .unreachable

def row (d : Description) (code value : Word) : Program Word :=
  match d.rowRules.find? fun rule => rule.code = code with
  | some rule => return rule.base + (value &&& rule.mask) * rule.stride
  | none => .trap .unreachable

def str (handle : Word) : Program Word := do
  return (← Code.globals).strBase + handle

/-- Move the name records to a new page and clear the old place. -/
def relocate : Program Word := do
  let old := (← Code.globals).strBase
  let page ← Code.grow 1 .done
  let new := page * 65536
  let records ← Code.load old 32 .done
  Code.storeBytes new records
  Code.storeBytes old (List.replicate 32 0)
  Script.setStrBase new
  return new

def divide (a b : Word) : Program Word :=
  if b = 0 then .trap .divideByZero
  else if a = 0x80000000 ∧ b = 0xffffffff then .trap .overflow
  else return (a.toInt32 / b.toInt32).toUInt32

def alloc (d : Description) (len : Word) : Program Word :=
  if d.allocMax < len then .trap .unreachable else return d.allocPtr

def hexValue? (b : UInt8) : Option Word :=
  if 0x30 ≤ b ∧ b ≤ 0x39 then some (b - 0x30).toUInt32
  else if 0x61 ≤ b ∧ b ≤ 0x66 then some (b - 0x57).toUInt32
  else none

/-- Read hexadecimal digits; any other byte traps. -/
def readHex : Nat → Word → Word → Program Word
  | 0, _, acc => return acc
  | n + 1, address, acc => do
    match hexValue? (← Code.loadByte address) with
    | some digit => readHex n (address + 1) ((acc <<< 4) ||| digit)
    | none => .trap .unreachable

/-- Read decimal digits to an integer; any other byte makes it the first symbol. -/
def readDecimal : Nat → Word → Word → Program Word
  | 0, _, acc => return acc &&& indexMask
  | n + 1, address, acc => do
    let b ← Code.loadByte address
    if 0x30 ≤ b ∧ b ≤ 0x39 then readDecimal n (address + 1) (acc * 10 + (b - 0x30).toUInt32)
    else return 0x40000000

def read (address len : Word) : Program Word := do
  if len = 0 then return nilWord
  let first ← Code.loadByte address
  if len = 1 ∧ first = 0x74 then return trueWord
  if first = 0x23 then readHex (len - 1).toNat (address + 1) 0
  else readDecimal len.toNat address 0

def eval (d : Description) (value : Word) : Program Word :=
  match d.eval.find? fun rule => rule.input = value with
  | none => return value
  | some rule => do
    runAll d rule.actions
    return rule.output.getD value

/-! ### Exports -/

def procedure (arity : Nat) (body : List Word → Program Unit) : Func Globals where
  params := List.replicate arity .i32
  results := []
  body args := do
    body args
    return []

def function (arity : Nat) (body : List Word → Program Word) : Func Globals where
  params := List.replicate arity .i32
  results := [.i32]
  body args := do return [(← body args).toUInt64]

/-- A function that answers the same bits every time. -/
def answering (params results : List ValueType) (bits : List UInt64) : Func Globals where
  params
  results
  body _ := return bits

def misTyped : Func Globals :=
  answering [.i64] [] []

/-- A system call made available as a function; its answer does not touch the last status. -/
def forwarding (name : String) (arity : Nat) : Func Globals :=
  function arity fun args =>
    match Syscall.ofName? name args with
    | some call => Code.callHost call
    | none => .trap .unreachable

def forwardedCalls : List (String × Func Globals) :=
  ("sys_fd_write", forwarding "fd_write" 4) ::
  ("sys_proc_exit", procedure 1 fun args => do
    let _ ← Code.callHost (.procExit (args.headD 0))) ::
  StubCall.all.map fun call => ("sys_" ++ call.name, forwarding call.name call.arity)

def one {α : Type} (body : Word → Program α) : List Word → Program α
  | [x] => body x
  | _ => .trap .unreachable

def two {α : Type} (body : Word → Word → Program α) : List Word → Program α
  | [x, y] => body x y
  | _ => .trap .unreachable

def functions (d : Description) : List (String × Func Globals) :=
  [ ("_initialize", procedure 0 fun _ => initialise d),
    ("is_initialized", function 0 fun _ => do return (← Code.globals).initialized),
    ("last_errno", function 0 fun _ => do return (← Code.globals).errno),
    ("wisp_tag_of", function 1 (one (tagOf d))),
    ("wisp_row", function 2 (two (row d))),
    ("wisp_str", function 1 (one str)),
    ("set_str_base", procedure 1 (one Script.setStrBase)),
    ("wisp_cons", function 2 (two (cons d))),
    ("wisp_set_car", procedure 2 (two fun pair x => Code.storeWord (cellOf d pair) x)),
    ("wisp_set_cdr", procedure 2 (two fun pair x => Code.storeWord (cellOf d pair + 4) x)),
    ("iota", function 2 (two fun n tail => iota d n.toNat tail)),
    ("nest", function 2 (two fun n x => nest d n.toNat x)),
    ("relocate", function 0 fun _ => relocate),
    ("poke", procedure 2 (two Code.storeWord)),
    ("poke8", procedure 2 (two Code.storeByte)),
    ("peek", function 1 (one Code.loadWord)),
    ("grow", function 1 (one fun n => .grow n .done)),
    ("grow_table", function 1 (one fun n => .growTable n .done)),
    ("spin", procedure 0 fun _ => .spin),
    ("trap", procedure 0 fun _ => .trap .unreachable),
    ("div", function 2 (two divide)),
    ("recurse", function 1 (one fun x => if x = 0 then return 0 else .trap .stackExhausted)),
    ("ret_i64", answering [] [.i64] [(-5 : Int64).toUInt64]),
    ("ret_mixed", answering [] [.i32, .i64] [1, 2]),
    ("ret_pair", answering [] [.i32, .i32] [7, 0xffffffff]),
    ("id64", answering [.i64] [.i64] [0]),
    ("wisp_alloc", function 1 (one (alloc d))),
    ("wisp_read", function 2 (two read)),
    ("wisp_eval", function 1 (one (eval d))) ] ++ forwardedCalls

def functionExports (d : Description) : List (String × Export Globals) :=
  ((functions d).filter fun entry => !d.omitted.contains entry.1).map fun (name, f) =>
    ((d.renamed.lookup name).getD name, .func (if d.misTyped.contains name then misTyped else f))

def constants : List (String × Word) :=
  [ ("wisp_tag_int", 0), ("wisp_tag_sys", 1), ("wisp_tag_duo", 2), ("wisp_tag_sym", 3),
    ("wisp_sys_nil", nilWord), ("wisp_sys_t", trueWord) ]

def GlobalExport.export? : GlobalExport → Option (Export Globals)
  | absent => none
  | func => some (.func (procedure 0 fun _ => return ()))
  | value v => some (.global v)

def globalExports (d : Description) : List (String × Export Globals) :=
  (constants.filterMap fun (name, word) =>
    (((d.globals.lookup name).getD (.value (.i32 word))).export?).map fun e => (name, e)) ++
  d.extraGlobals.map fun (name, word) => (name, .global (.i32 word))

def wordSegment (offset : Nat) (words : List Word) : Nat × List UInt8 :=
  (offset, words.flatMap Word.toBytes)

/-- The usual data segments: segment tables for writes, rows and records of four symbols, text. -/
def defaultSegments : List (Nat × List UInt8) :=
  [ wordSegment 0x10 [0x2000, 2, 0x2002, 2],
    wordSegment 0x28 [0x2000, 2, 0x2000, 0, 0x2002, 2],
    wordSegment 0x40 [0x2000, 2, 0xfffc, 8],
    wordSegment 0x80 [0xdeadbeef],
    wordSegment 0x800 [0, 8, 16, 24],
    (0x1000, [3, 0, 0, 0, 0x66, 0x6f, 0x6f, 0, 3, 0, 0, 0, 0x62, 0x61, 0x72, 0,
      0xf0, 0xff, 0xff, 0xff, 0, 0, 0, 0, 2, 0, 0, 0, 0xff, 0xfe, 0, 0]),
    (0x2000, [0x41, 0x42, 0x43, 0x44]) ]

def Description.guest (d : Description) : Guest Globals where
  pages := d.pages
  maxPages := d.maxPages
  table := d.table
  maxTable := d.maxTable
  data := (if d.defaultData then defaultSegments else []) ++ d.data
  globals := ⟨0, d.strBase, 0, 0xffffffff⟩
  start := if d.start.isEmpty then none else some (runAll d d.start)
  exports := functionExports d ++ globalExports d ++
    (d.memory.map fun name => (name, Export.memory)).toList
  linkable := d.linkable

def emptyGuest : Guest Globals where
  pages := 0
  maxPages := none
  table := 0
  maxTable := none
  data := []
  globals := ⟨0, 0, 0, 0⟩
  start := none
  exports := []
  linkable := true

end LispHost.Script
