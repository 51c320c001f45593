import LispHost.Bridge
import LispHost.Proofs.Script.Calls
import LispHost.Proofs.View.Resolved
import Mathlib.Tactic.IntervalCases

/-!
The usual layout of a scripted guest.

The top four bits of a word tell its variant. A pair lies in an array of cells of eight bytes, a symbol
has a row of four bytes with the offset of its name record, and a record is a length with that many
bytes after it. The statements say what the host reads of each of them, and what a bridge is like right
after its start.
-/

set_option autoImplicit false

namespace LispHost.Script

variable {pages : Nat} {data : List (Nat × List UInt8)} {inst : Instance Globals}

/-- The usual description with this many pages, and with these data segments after the usual ones. -/
def Description.usual (pages : Nat) (data : List (Nat × List UInt8)) : Description :=
  { Description.default with pages, data }

/-! ### Words -/

def pairWord (k : Nat) : Word :=
  UInt32.ofNat k ||| 0x30000000

theorem toNat_ofNat_of_lt {k : Nat} (small : k < 2 ^ 29) : (UInt32.ofNat k).toNat = k := by
  apply UInt32.toNat_ofNat_of_lt'
  rw [UInt32.size]
  omega

theorem toNat_and_indexMask (w : Word) : (w &&& indexMask).toNat = w.toNat % 2 ^ 28 := by
  rw [UInt32.toNat_and]
  exact Nat.and_two_pow_sub_one_eq_mod w.toNat 28

/-- The next cell is given by the number of pairs, as long as it lies within the address space. -/
theorem toNat_nextCell {count : Nat} (room : 0x100 + 8 * count < wordCount) :
    (0x100 + UInt32.ofNat count * 8 : Word).toNat = 0x100 + 8 * count := by
  have base : UInt32.toNat 0x100 = 0x100 := rfl
  have width : UInt32.toNat 8 = 8 := rfl
  rw [wordCount] at room
  have own : (UInt32.ofNat count).toNat = count := toNat_ofNat_of_lt (by omega)
  rw [UInt32.toNat_add, UInt32.toNat_mul, own, base, width]
  omega

theorem toNat_cellOf (pages : Nat) (data : List (Nat × List UInt8)) (pair : Word) :
    (cellOf (.usual pages data) pair).toNat = 0x100 + 8 * (pair.toNat % 2 ^ 28) := by
  change (0x100 + (pair &&& indexMask) * 8 : Word).toNat = _
  have base : UInt32.toNat 0x100 = 0x100 := rfl
  have width : UInt32.toNat 8 = 8 := rfl
  rw [UInt32.toNat_add, UInt32.toNat_mul, toNat_and_indexMask, base, width]
  omega

private theorem or_three_mul {low : Nat} (small : low < 2 ^ 28) :
    low ||| 3 * 2 ^ 28 = low + 3 * 2 ^ 28 := by
  rw [Nat.or_comm, Nat.mul_comm 3, ← Nat.two_pow_add_eq_or_of_lt small, Nat.add_comm]

theorem toNat_pairWord {k : Nat} (small : k < 2 ^ 28) : (pairWord k).toNat = k + 3 * 2 ^ 28 := by
  have own : (UInt32.ofNat k).toNat = k := toNat_ofNat_of_lt (by omega)
  rw [pairWord, UInt32.toNat_or, own]
  exact or_three_mul small

theorem pairWord_inj {k l : Nat} (k_lt : k < 2 ^ 28) (l_lt : l < 2 ^ 28)
    (same : pairWord k = pairWord l) : k = l := by
  have numbers := congrArg UInt32.toNat same
  rw [toNat_pairWord k_lt, toNat_pairWord l_lt] at numbers
  omega

/-- After two to the power of 28 pairs the words start over, although the cells go on. -/
theorem pairWord_two_pow_add {k : Nat} (small : k < 2 ^ 28) :
    pairWord (2 ^ 28 + k) = pairWord k := by
  have own : (UInt32.ofNat k).toNat = k := toNat_ofNat_of_lt (by omega)
  have later : (UInt32.ofNat (2 ^ 28 + k)).toNat = 2 ^ 28 * 1 + k := toNat_ofNat_of_lt (by omega)
  apply UInt32.toNat_inj.mp
  rw [toNat_pairWord small, pairWord, UInt32.toNat_or, later, Nat.two_pow_add_eq_or_of_lt small,
    Nat.or_comm, ← Nat.or_assoc, Nat.or_comm]
  exact or_three_mul small

def variant (raw : Word) : Nat :=
  (raw >>> 28).toNat

theorem variant_eq_div (raw : Word) : variant raw = raw.toNat / 2 ^ 28 := by
  have shift : UInt32.toNat 28 % 32 = 28 := rfl
  rw [variant, UInt32.toNat_shiftRight, shift, Nat.shiftRight_eq_div_pow]

theorem variant_pairWord {k : Nat} (small : k < 2 ^ 28) : variant (pairWord k) = 3 := by
  rw [variant_eq_div, toNat_pairWord small]
  omega

theorem variant_lt (raw : Word) : variant raw < 16 := by
  have bound := raw.toNat_lt
  rw [variant_eq_div]
  omega

def tagOfVariant (raw : Word) : Tag :=
  match variant raw with
  | 0 => .int
  | 2 => .sys
  | 3 => .duo
  | 4 => .sym
  | _ => .unknown 7

/-! ### Symbols -/

def symbolRow (raw : Word) : Nat :=
  0x800 + 4 * (raw.toNat % 2 ^ 28)

def symbolRecord (memory : Memory) (raw : Word) : Nat :=
  (0x1000 + memory.wordAt (symbolRow raw) : Word).toNat

def symbolLength (memory : Memory) (raw : Word) : Nat :=
  (memory.wordAt (symbolRecord memory raw)).toNat

/-- A symbol has a readable name: its row and its record lie within the memory, and the name is text. -/
structure SymbolNamed (memory : Memory) (raw : Word) (name : String) : Prop where
  row_le : symbolRow raw + 4 ≤ memory.size
  record_le : symbolRecord memory raw + 4 + symbolLength memory raw ≤ memory.size
  record_lt : symbolRecord memory raw + 4 < wordCount
  decoded : Text.Utf8.decode?
    (memory.bytes (symbolRecord memory raw + 4) (symbolLength memory raw)) = some name

theorem SymbolNamed.congr {memory later : Memory} {raw : Word} {name : String}
    (named : SymbolNamed memory raw name) (size : later.size = memory.size)
    (row : ∀ x, symbolRow raw ≤ x → x < symbolRow raw + 4 → later.byte x = memory.byte x)
    (record : ∀ x, symbolRecord memory raw ≤ x →
      x < symbolRecord memory raw + 4 + symbolLength memory raw → later.byte x = memory.byte x) :
    SymbolNamed later raw name := by
  have same_record : symbolRecord later raw = symbolRecord memory raw := by
    rw [symbolRecord, Memory.wordAt_congr row, symbolRecord]
  have same_length : symbolLength later raw = symbolLength memory raw := by
    rw [symbolLength, same_record,
      Memory.wordAt_congr fun x low high => record x low (by omega), symbolLength]
  have same_bytes : later.bytes (symbolRecord memory raw + 4) (symbolLength memory raw) =
      memory.bytes (symbolRecord memory raw + 4) (symbolLength memory raw) := by
    refine List.map_congr_left fun i member => record _ (by omega) ?_
    have i_lt := List.mem_range.mp member
    omega
  exact {
    row_le := size ▸ named.row_le
    record_le := by rw [same_record, same_length, size]; exact named.record_le
    record_lt := by rw [same_record]; exact named.record_lt
    decoded := by rw [same_record, same_length, same_bytes]; exact named.decoded }

/-! ### Reads of a live instance -/

def usualContext (pages : Nat) (data : List (Nat × List UInt8)) : DecodingContext Globals where
  memory := "memory"
  tagOf := function 1 (one (tagOf (.usual pages data)))
  row := function 2 (two (row (.usual pages data)))
  string := function 1 (one str)
  tags := ⟨[(0, .int), (1, .sys), (2, .duo), (3, .sym)]⟩
  sentinels := ⟨nilWord, trueWord⟩

/-- An unmetered instance of a guest in the usual layout, with its name records where they were at
first. -/
structure Settled (pages : Nat) (data : List (Nat × List UInt8)) (inst : Instance Globals) : Prop where
  guest : inst.guest = (Description.usual pages data).guest
  unmetered : inst.fuel = none
  strBase : inst.globals.strBase = 0x1000

theorem Settled.memoryOf (settled : Settled pages data inst) :
    inst.memoryOf "memory" = .ok inst.memory := by
  have exported : inst.guest.exportsMemory "memory" = true := by
    rw [settled.guest]
    rfl
  rw [Instance.memoryOf, Instance.exportedMemory, if_pos exported]

theorem Settled.tagOfValue (settled : Settled pages data inst) (raw : Word) :
    (usualContext pages data).tagOfValue raw inst = (.ok (tagOfVariant raw), inst) := by
  have coded : ∃ code, (Description.usual pages data).tagCodes[variant raw]? = some (some code) ∧
      (usualContext pages data).tags.classify code = tagOfVariant raw := by
    have small := variant_lt raw
    rw [tagOfVariant]
    generalize variant raw = n at small
    interval_cases n <;> exact ⟨_, rfl, rfl⟩
  obtain ⟨code, coded, classified⟩ := coded
  have called : inst.callWord (usualContext pages data).tagOf [raw] = (.ok code, inst) :=
    callWord_function settled.unmetered (run_tagOf coded inst)
  rw [DecodingContext.tagOfValue, called, ← classified]
  rfl

private theorem Settled.rowOf_of_rule (settled : Settled pages data inst) (tag : Tag) (width : Nat)
    (code raw : Word) (rule : RowRule) (wide : tag.rowWidth = some width)
    (coded : (usualContext pages data).tags.codeOf tag = some code)
    (ruled : (Description.usual pages data).rowRules.find? (fun rule => rule.code = code) = some rule)
    (small : 4 * width < UInt32.size)
    (within : (rule.base + (raw &&& rule.mask) * rule.stride).toNat + 4 * width ≤ inst.memory.size) :
    (usualContext pages data).rowOf tag raw inst =
      (.ok ⟨tag, Word.listOfBytes
        (inst.memory.bytes (rule.base + (raw &&& rule.mask) * rule.stride).toNat (4 * width))⟩,
        inst) := by
  have called : inst.callWord (usualContext pages data).row [code, raw] =
      (.ok (rule.base + (raw &&& rule.mask) * rule.stride), inst) :=
    callWord_function settled.unmetered (run_row ruled inst)
  have length : (UInt32.ofNat (4 * width)).toNat = 4 * width := UInt32.toNat_ofNat_of_lt' small
  have copied : (usualContext pages data).slice inst
      (rule.base + (raw &&& rule.mask) * rule.stride) (UInt32.ofNat (4 * width)) =
        .ok (inst.memory.bytes (rule.base + (raw &&& rule.mask) * rule.stride).toNat (4 * width)) := by
    change (inst.memoryOf "memory" >>= fun memory => memory.slice _ _) = _
    rw [settled.memoryOf]
    change inst.memory.slice _ _ = _
    rw [Memory.slice, length, Memory.read?, if_pos within]
  rw [DecodingContext.rowOf, wide, coded]
  simp only [called, copied, Except.map]

theorem Settled.rowOf_duo (settled : Settled pages data inst) {raw : Word} {cell : Nat}
    (placed : 0x100 + 8 * (raw.toNat % 2 ^ 28) = cell) (within : cell + 8 ≤ inst.memory.size) :
    (usualContext pages data).rowOf .duo raw inst =
      (.ok ⟨.duo, [inst.memory.wordAt cell, inst.memory.wordAt (cell + 4)]⟩, inst) := by
  have address : (0x100 + (raw &&& indexMask) * 8 : Word).toNat = cell :=
    (toNat_cellOf pages data raw).trans placed
  have read := settled.rowOf_of_rule .duo 2 2 raw ⟨2, 0x100, indexMask, 8⟩ rfl rfl rfl (by decide)
    (by rw [address]; exact within)
  rw [read, address]
  rfl

private theorem toNat_symbolRow (raw : Word) :
    (0x800 + (raw &&& indexMask) * 4 : Word).toNat = symbolRow raw := by
  have base : UInt32.toNat 0x800 = 0x800 := rfl
  have width : UInt32.toNat 4 = 4 := rfl
  rw [UInt32.toNat_add, UInt32.toNat_mul, toNat_and_indexMask, base, width, symbolRow]
  omega

theorem Settled.rowOf_sym (settled : Settled pages data inst) {raw : Word}
    (within : symbolRow raw + 4 ≤ inst.memory.size) :
    (usualContext pages data).rowOf .sym raw inst =
      (.ok ⟨.sym, [inst.memory.wordAt (symbolRow raw)]⟩, inst) := by
  have address := toNat_symbolRow raw
  have read := settled.rowOf_of_rule .sym 1 3 raw ⟨3, 0x800, indexMask, 4⟩ rfl rfl rfl (by decide)
    (by rw [address]; exact within)
  rw [read, address]
  rfl

theorem stringAt_of_decode {memory : Memory} {address : Word} {name : String} (handle : Word)
    (unwrapped : address.toNat + 4 < wordCount)
    (within : address.toNat + 4 + (memory.wordAt address.toNat).toNat ≤ memory.size)
    (decoded : Text.Utf8.decode? (memory.bytes (address.toNat + 4)
      (memory.wordAt address.toNat).toNat) = some name) :
    DecodingContext.stringAt memory handle address = .ok name := by
  have four : UInt32.toNat 4 = 4 := rfl
  have length_le : address.toNat + 4 ≤ memory.size := by omega
  have measured : memory.word address = .ok (memory.wordAt address.toNat) := by
    rw [Memory.word, Memory.readWord?, if_pos length_le]
  have advanced : Memory.advance address 4 = some (address + 4) :=
    Memory.advance_of_lt (by rw [four]; exact unwrapped)
  have start : (address + 4).toNat = address.toNat + 4 := by
    rw [Memory.toNat_advance advanced, four]
  have copied : memory.slice (address + 4) (memory.wordAt address.toNat) =
      .ok (memory.bytes (address.toNat + 4) (memory.wordAt address.toNat).toNat) := by
    rw [Memory.slice, start, Memory.read?, if_pos within]
  rw [DecodingContext.stringAt, measured]
  simp only [Except.bind, bind, advanced, copied, decoded]

theorem Settled.stringOf (settled : Settled pages data inst) {raw : Word} {name : String}
    (named : SymbolNamed inst.memory raw name) :
    (usualContext pages data).stringOf (inst.memory.wordAt (symbolRow raw)) inst =
      (.ok name, inst) := by
  have called : inst.callWord (usualContext pages data).string
      [inst.memory.wordAt (symbolRow raw)] =
        (.ok (0x1000 + inst.memory.wordAt (symbolRow raw)), inst) :=
    callWord_function settled.unmetered (by rw [← settled.strBase]; exact run_str _ inst)
  have text := stringAt_of_decode (inst.memory.wordAt (symbolRow raw)) named.record_lt
    named.record_le named.decoded
  have read : (do
      let memory ← inst.memoryOf (usualContext pages data).memory
      DecodingContext.stringAt memory (inst.memory.wordAt (symbolRow raw))
        (0x1000 + inst.memory.wordAt (symbolRow raw))) = .ok name := by
    change (inst.memoryOf "memory" >>= fun memory => DecodingContext.stringAt memory _ _) = _
    rw [settled.memoryOf]
    exact text
  rw [DecodingContext.stringOf, called]
  simp only [read]

/-! ### Fresh bridges -/

private theorem create_eq_ok {guest : Guest Globals} (startless : guest.start = none)
    {limits : Option Limits} {fuel : Option Nat} {host : SyscallHost}
    (created : Instance.create guest limits fuel host = .ok inst) :
    inst.guest = guest ∧ inst.fuel = fuel ∧ inst.globals = guest.globals := by
  simp only [Instance.create, startless] at created
  split at created
  · cases created
  · split at created
    · cases created
    · split at created
      · cases created
      · cases created
        exact ⟨rfl, rfl, rfl⟩

private theorem createBound_eq_ok {config : Config} {guest : Guest Globals}
    (startless : guest.start = none) (bound : Bridge.createBound config guest = .ok inst) :
    inst.guest = guest ∧ inst.fuel = config.limits.maxFuel ∧ inst.globals = guest.globals := by
  rw [Bridge.createBound] at bound
  split at bound
  · cases bound
  obtain ⟨created, create_ok, bound⟩ := exists_of_bind_eq_ok bound
  obtain ⟨host, -, bound⟩ := exists_of_bind_eq_ok bound
  cases bound
  obtain ⟨same_guest, same_fuel, same_globals⟩ := create_eq_ok startless create_ok
  exact ⟨same_guest, same_fuel, same_globals⟩

theorem fresh_of_start {config : Config} {bridge : Bridge Globals} (usual : config.abi = .default)
    (started : Bridge.start config (Description.usual pages data).guest = .ok bridge) :
    Settled pages data (bridge.inst.withFuel none) ∧ bridge.inst.globals.duoCount = 0 ∧
      bridge.context = usualContext pages data ∧
      (config.limits.maxFuel = none ↔ bridge.inst.fuel = none) := by
  have resolved : DecodingContext.resolve (Description.usual pages data).guest .default =
      .ok (usualContext pages data) := rfl
  have exported : (Description.usual pages data).guest.func "_initialize" =
      .ok (procedure 0 fun _ => initialise (.usual pages data)) := rfl
  have start_exported : ((Description.usual pages data).guest.export? "_initialize").isSome := rfl
  have startless : (Description.usual pages data).guest.start = none := rfl
  rw [Bridge.start, usual, resolved] at started
  split at started
  · cases started
  · rename_i inst bound
    obtain ⟨guest, fuel, globals⟩ := createBound_eq_ok startless bound
    have found : inst.guest.func "_initialize" =
        .ok (procedure 0 fun _ => initialise (.usual pages data)) := by rw [guest]; exact exported
    simp only [Bridge.hasExport, guest, Abi.default, start_exported, if_true, Bridge.call] at started
    cases spent : Instance.spend? inst.fuel with
    | none =>
      rw [call_of_empty spent found rfl rfl] at started
      cases started
    | some rest =>
      have ran : Instance.run (initialise (.usual pages data)) (inst.withFuel rest) = (.value (),
          { inst.withFuel rest with globals := { inst.globals with initialized := 1 } }) := rfl
      rw [call_procedure spent found rfl ran] at started
      cases started
      exact ⟨⟨guest, rfl, congrArg Globals.strBase globals⟩, congrArg Globals.duoCount globals, rfl,
        fuel ▸ Instance.unmetered_iff_of_spend spent⟩

end LispHost.Script
