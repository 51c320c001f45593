import LispHost.Proofs.Bridge.Pages
import LispHost.Proofs.Script.Content

/-!
Relocation of the name records.

A scripted guest can grow its memory by a page, move its name records there and clear the place where they
were. No pair and no symbol notices: rows stay where they are, and the guest's string accessor answers the
new addresses.
-/

set_option autoImplicit false

namespace LispHost.Script

open Instance (spend?)

variable {d : Description} {inst next : Instance Globals}

/-- The state after the name records of an instance were moved to a new page. -/
structure Moved (before after : Instance Globals) : Prop where
  same_guest : after.guest = before.guest
  paid : spend? before.fuel = some after.fuel
  size : after.memory.size = before.memory.size + Memory.pageSize
  room : after.memory.size ≤ wordCount
  strBase : after.globals.strBase.toNat = before.memory.size
  /-- What lies outside the old place is as before. -/
  kept {x : Nat} (old : x < before.memory.size)
    (outside : x < before.globals.strBase.toNat ∨ before.globals.strBase.toNat + 32 ≤ x) :
    after.memory.byte x = before.memory.byte x
  /-- The new place has the bytes of the old one. -/
  moved {i : Nat} (within : i < 32) :
    after.memory.byte (before.memory.size + i) =
      before.memory.byte (before.globals.strBase.toNat + i)

private def moveRecords (old page : Word) : Program Word :=
  .load old 32 fun records => .store (page * 65536) records fun _ =>
    .store old (List.replicate 32 0) fun _ => .getGlobals fun g =>
      .setGlobals { g with strBase := page * 65536 } fun _ => .done (page * 65536)

private theorem run_moveRecords {old page new : Word}
    (ran : Instance.run (moveRecords old page) inst = (.value new, next)) :
    new = page * 65536 ∧ next = { inst with
      memory := (inst.memory.setBytes new.toNat (inst.memory.bytes old.toNat 32)).setBytes old.toNat
        (List.replicate 32 0)
      globals := { inst.globals with strBase := new } } := by
  rw [moveRecords, Instance.run] at ran
  cases read : inst.memory.read? old.toNat 32 with
  | none =>
    rw [read] at ran
    cases congrArg Prod.fst ran
  | some records =>
    obtain ⟨-, rfl⟩ := Memory.read?_eq_some_iff.mp read
    simp only [read, Instance.run] at ran
    split at ran
    · split at ran
      · cases ran
        exact ⟨rfl, rfl⟩
      · cases congrArg Prod.fst ran
    · cases congrArg Prod.fst ran

private theorem run_relocate {new : Word}
    (ran : Instance.run relocate inst = (.value new, next))
    (grown : next.memory.size = inst.memory.size + Memory.pageSize) :
    inst.memory.pages + 1 ≤ Memory.pageCeiling ∧ new = UInt32.ofNat inst.memory.pages * 65536 ∧
      next = { inst with
        memory := ((inst.memory.extend 1).setBytes new.toNat
          ((inst.memory.extend 1).bytes inst.globals.strBase.toNat 32)).setBytes
            inst.globals.strBase.toNat (List.replicate 32 0)
        globals := { inst.globals with strBase := new } } := by
  change Instance.run (.grow 1 fun page => moveRecords inst.globals.strBase page) inst = _ at ran
  rw [Instance.run] at ran
  have positive : Memory.pageSize = 65536 := rfl
  cases granted : inst.grow (1 : Word).toNat with
  | none =>
    -- A denied request leaves the size as it was, although the guest goes on.
    rw [granted] at ran
    obtain ⟨-, rfl⟩ := run_moveRecords ran
    simp only [Memory.size_setBytes] at grown
    omega
  | some result =>
    obtain ⟨old, wider⟩ := result
    rw [granted] at ran
    obtain ⟨new_eq, rfl⟩ := run_moveRecords ran
    obtain ⟨rfl, rfl | ⟨allowed, rfl⟩⟩ := Instance.eq_of_grow granted
    · simp only [Memory.size_setBytes] at grown
      omega
    · exact ⟨Instance.le_pageCeiling_of_mayHavePages allowed, new_eq, rfl⟩

private theorem toNat_page {pages : Nat} (within : pages + 1 ≤ Memory.pageCeiling) :
    (UInt32.ofNat pages * 65536).toNat = pages * Memory.pageSize := by
  rw [Memory.pageCeiling] at within
  have own : (UInt32.ofNat pages).toNat = pages :=
    UInt32.toNat_ofNat_of_lt' (by rw [UInt32.size]; omega)
  have page : UInt32.toNat 65536 = 65536 := rfl
  rw [UInt32.toNat_mul, own, page, Memory.pageSize]
  omega

/-- A successful relocation that has grown the memory moves the records, provided that the old place lay
within the memory. -/
theorem moved_of_call {name : String} {words : List Word} (paged : inst.memory.Paged)
    (found : inst.guest.func name = .ok (function 0 fun _ => relocate))
    (called : inst.call name [] = (.ok words, next))
    (grown : next.memory.size = inst.memory.size + Memory.pageSize)
    (inside : inst.globals.strBase.toNat + 32 ≤ inst.memory.size) : Moved inst next := by
  obtain ⟨fuel, new, paid, ran⟩ := exists_of_call found called
  obtain ⟨within, new_eq, rfl⟩ := run_relocate ran grown
  have size : inst.memory.size = inst.memory.pages * Memory.pageSize := paged.size_eq
  have place : new.toNat = inst.memory.size := by
    rw [size, new_eq]
    exact toNat_page within
  have room : inst.memory.size + Memory.pageSize ≤ wordCount := by
    rw [size, ← Nat.succ_mul]
    exact Nat.mul_le_mul_right Memory.pageSize within
  exact {
    same_guest := rfl
    paid
    size := grown
    room := Nat.le_trans (Nat.le_of_eq grown) room
    strBase := place
    kept := by
      intro x old outside
      refine (Memory.byte_setBytes_of_outside _ ?_).trans (Memory.byte_setBytes_of_outside _ ?_)
      · rw [List.length_replicate]
        exact outside
      · rw [place]
        exact .inl old
    moved := by
      intro i i_lt
      refine (Memory.byte_setBytes_of_outside _ ?_).trans ?_
      · rw [List.length_replicate]
        exact .inr (Nat.le_trans inside (Nat.le_add_right ..))
      · rw [← place]
        exact Memory.byte_setBytes_of_inside _ _ (Memory.getElem?_bytes _ _ i_lt) }

/-! ### Rows and records -/

section Moved

variable {ctx : DecodingContext Globals} {before after : Instance Globals}

/-- A row of the old memory that the old place does not overlap lies where it was. -/
theorem Moved.rowLies_iff (moved : Moved before after) {address : Word} {width : Nat}
    {words : List Word} (inside : address.toNat + 4 * width ≤ before.memory.size)
    (clear : address.toNat + 4 * width ≤ before.globals.strBase.toNat ∨
      before.globals.strBase.toNat + 32 ≤ address.toNat) :
    ctx.RowLies after address width words ↔ ctx.RowLies before address width words := by
  have wider : address.toNat + 4 * width ≤ after.memory.size := by
    rw [moved.size]
    omega
  have same : after.memory.bytes address.toNat (4 * width) =
      before.memory.bytes address.toNat (4 * width) :=
    Memory.bytes_eq_of_byte fun i i_lt => moved.kept (by omega) (by omega)
  rw [DecodingContext.rowLies_iff, DecodingContext.rowLies_iff, moved.same_guest, same]
  simp only [inside, wider]

/-- The name record of a handle lies within the place that is moved. -/
def RecordWithin (inst : Instance Globals) (handle : Word) : Prop :=
  inst.globals.strBase.toNat ≤ (inst.globals.strBase + handle).toNat ∧
    (inst.globals.strBase + handle).toNat + 4 +
        (inst.memory.wordAt (inst.globals.strBase + handle).toNat).toNat ≤
      inst.globals.strBase.toNat + 32

/-- Neither in the old place nor in the new one does the address of such a record wrap. -/
theorem Moved.toNat_add_handle (moved : Moved before after) {handle : Word}
    (within : RecordWithin before handle) :
    (before.globals.strBase + handle).toNat = before.globals.strBase.toNat + handle.toNat ∧
      (after.globals.strBase + handle).toNat = before.memory.size + handle.toNat := by
  obtain ⟨low, high⟩ := within
  have room := moved.room
  have small := handle.toNat_lt
  have page : Memory.pageSize = 65536 := rfl
  rw [moved.size, wordCount] at room
  -- Were the first sum to wrap, the record would lie below the place that is moved.
  rw [UInt32.toNat_add] at low high
  constructor
  · rw [UInt32.toNat_add]
    omega
  · rw [UInt32.toNat_add, moved.strBase]
    omega

theorem Moved.unwrapped (moved : Moved before after)
    (inside : before.globals.strBase.toNat + 32 ≤ before.memory.size) {handle : Word}
    (within : RecordWithin before handle) :
    (before.globals.strBase + handle).toNat + 4 < wordCount ∧
      (after.globals.strBase + handle).toNat + 4 < wordCount := by
  obtain ⟨offset, place⟩ := moved.toNat_add_handle within
  have high := within.2
  have room := moved.room
  have page : Memory.pageSize = 65536 := rfl
  rw [moved.size] at room
  omega

theorem Moved.recordLies_iff (moved : Moved before after)
    (inside : before.globals.strBase.toNat + 32 ≤ before.memory.size) {handle len : Word}
    {data : List UInt8} (within : RecordWithin before handle) :
    ctx.RecordLies after (after.globals.strBase + handle) len data ↔
      ctx.RecordLies before (before.globals.strBase + handle) len data := by
  obtain ⟨offset, place⟩ := moved.toNat_add_handle within
  obtain ⟨-, high⟩ := within
  have page : Memory.pageSize = 65536 := rfl
  have size := moved.size
  rw [DecodingContext.recordLies_iff, DecodingContext.recordLies_iff, moved.same_guest, place]
  rw [offset] at high ⊢
  have byte (i : Nat) (within : handle.toNat + i < 32) :
      after.memory.byte (before.memory.size + handle.toNat + i) =
        before.memory.byte (before.globals.strBase.toNat + handle.toNat + i) := by
    have same := moved.moved within
    rwa [← Nat.add_assoc, ← Nat.add_assoc] at same
  have length : after.memory.wordAt (before.memory.size + handle.toNat) =
      before.memory.wordAt (before.globals.strBase.toNat + handle.toNat) :=
    Memory.wordAt_eq_of_byte fun i i_lt => byte i (by omega)
  have bytes : after.memory.bytes (before.memory.size + handle.toNat + 4)
      (before.memory.wordAt (before.globals.strBase.toNat + handle.toNat)).toNat =
        before.memory.bytes (before.globals.strBase.toNat + handle.toNat + 4)
          (before.memory.wordAt (before.globals.strBase.toNat + handle.toNat)).toNat :=
    Memory.bytes_eq_of_byte fun i i_lt => by
      have same := byte (4 + i) (by omega)
      rwa [← Nat.add_assoc, ← Nat.add_assoc] at same
  constructor
  · rintro ⟨exports, -, rfl, rfl⟩
    rw [length] 
    exact ⟨exports, by omega, rfl, bytes.symm⟩
  · rintro ⟨exports, -, rfl, rfl⟩
    exact ⟨exports, by omega, length, bytes⟩

end Moved

/-! ### Decodes -/

/-- A word is met in so many steps from a pair to one of its parts. -/
inductive Met (d : Description) (ctx : DecodingContext Globals) (memory : Memory) (root : Word) :
    Nat → Word → Prop
  | root : Met d ctx memory root 0 root
  | part {steps : Nat} {raw part address : Word} (met : Met d ctx memory root steps raw)
      (pair : tag? d ctx raw = some .duo) (placed : place? d ctx .duo raw = some address)
      (inside : address.toNat + 8 ≤ memory.size)
      (member : part ∈ [memory.wordAt address.toNat, memory.wordAt (address.toNat + 4)]) :
      Met d ctx memory root (steps + 1) part

/-- The records of the symbols that are met lie within the bytes that are moved, these lie within the
memory, and no row of a word that is met overlaps them. -/
structure Movable (d : Description) (ctx : DecodingContext Globals) (inst : Instance Globals)
    (root : Word) (bound : Nat) : Prop where
  inside : inst.globals.strBase.toNat + 32 ≤ inst.memory.size
  rows {steps width : Nat} {raw address : Word} {tag : Tag} :
    Met d ctx inst.memory root steps raw → steps ≤ bound → tag? d ctx raw = some tag →
    tag.rowWidth = some width → place? d ctx tag raw = some address →
    address.toNat + 4 * width ≤ inst.globals.strBase.toNat ∨
      inst.globals.strBase.toNat + 32 ≤ address.toNat
  records {steps : Nat} {raw address : Word} :
    Met d ctx inst.memory root steps raw → steps ≤ bound → tag? d ctx raw = some .sym →
    place? d ctx .sym raw = some address → address.toNat + 4 ≤ inst.memory.size →
    RecordWithin inst (inst.memory.wordAt address.toNat)

def RowsInside (d : Description) (ctx : DecodingContext Globals) (memory : Memory) (root : Word)
    (bound : Nat) : Prop :=
  ∀ steps width raw address tag, Met d ctx memory root steps raw → steps ≤ bound →
    tag? d ctx raw = some tag → tag.rowWidth = some width → place? d ctx tag raw = some address →
    address.toNat + 4 * width ≤ memory.size

section Decodes

variable {ctx : DecodingContext Globals} {before after : Instance Globals} {root : Word} {bound : Nat}

private theorem met_of_rowLies {steps : Nat} {raw address part : Word} {words : List Word}
    (met : Met d ctx inst.memory root steps raw) (pair : tag? d ctx raw = some .duo)
    (placed : place? d ctx .duo raw = some address) (lies : ctx.RowLies inst address 2 words)
    (member : part ∈ words) : Met d ctx inst.memory root (steps + 1) part := by
  obtain ⟨-, inside, rfl⟩ := DecodingContext.rowLies_iff.mp lies
  exact .part met pair placed inside member

private theorem recordWithin_of_rowLies {steps : Nat} {raw address handle : Word}
    {words : List Word} (movable : Movable d ctx inst root bound)
    (met : Met d ctx inst.memory root steps raw) (within : steps ≤ bound)
    (symbol : tag? d ctx raw = some .sym) (placed : place? d ctx .sym raw = some address)
    (lies : ctx.RowLies inst address 1 words) (member : handle ∈ words) :
    RecordWithin inst handle := by
  obtain ⟨-, inside, rfl⟩ := DecodingContext.rowLies_iff.mp lies
  obtain rfl : handle = inst.memory.wordAt address.toNat := List.mem_singleton.mp member
  exact movable.records met within symbol placed inside

private theorem alike_after (moved : Moved before after) (movable : Movable d ctx before root bound) :
    Alike d ctx before after fun levels raw =>
      ∃ steps, Met d ctx before.memory root steps raw ∧ steps + levels = bound + 1 where
  row := by
    rintro levels width raw address tag words ⟨steps, met, within⟩ classified wide placed lies
    have clear := movable.rows met (by omega) classified wide placed
    exact (moved.rowLies_iff (DecodingContext.rowLies_iff.mp lies).2.1 clear).mpr lies
  parts := by
    rintro levels raw address words ⟨steps, met, within⟩ pair placed lies part member
    exact ⟨steps + 1, met_of_rowLies met pair placed lies member, by omega⟩
  record := by
    rintro levels raw address handle len words data ⟨steps, met, within⟩ symbol placed lies member -
      record
    have within := recordWithin_of_rowLies movable met (by omega) symbol placed lies member
    exact ⟨(moved.unwrapped movable.inside within).2,
      (moved.recordLies_iff movable.inside within).mpr record⟩

private theorem alike_before (moved : Moved before after)
    (movable : Movable d ctx before root bound) (inside : RowsInside d ctx before.memory root bound) :
    Alike d ctx after before fun levels raw =>
      ∃ steps, Met d ctx before.memory root steps raw ∧ steps + levels = bound + 1 := by
  have row_before {levels width : Nat} {raw address : Word} {tag : Tag} {words : List Word} :
      (∃ steps, Met d ctx before.memory root steps raw ∧ steps + (levels + 1) = bound + 1) →
      tag? d ctx raw = some tag → tag.rowWidth = some width → place? d ctx tag raw = some address →
      ctx.RowLies after address width words → ctx.RowLies before address width words := by
    rintro ⟨steps, met, within⟩ classified wide placed
    have clear := movable.rows met (by omega) classified wide placed
    exact (moved.rowLies_iff (inside _ _ _ _ _ met (by omega) classified wide placed) clear).mp
  refine ⟨row_before, ?_, ?_⟩
  · rintro levels raw address words asked pair placed lies part member
    obtain ⟨steps, met, within⟩ := asked
    exact ⟨steps + 1, met_of_rowLies met pair placed
      (row_before ⟨steps, met, within⟩ pair rfl placed lies) member, by omega⟩
  · rintro levels raw address handle len words data ⟨steps, met, within⟩ symbol placed lies member -
      record
    have lies := row_before ⟨steps, met, within⟩ symbol rfl placed lies
    have within := recordWithin_of_rowLies movable met (by omega) symbol placed lies member
    exact ⟨(moved.unwrapped movable.inside within).1,
      (moved.recordLies_iff movable.inside within).mp record⟩

end Decodes

/-- The second fuel is no less than the first. -/
private def Ample : Option Nat → Option Nat → Prop
  | none, none => True
  | some f, some g => f ≤ g
  | _, _ => False

private theorem paying_ample (second : Instance Globals) :
    Paying second Ample fun _ _ => False := by
  intro f g f' ample spent
  match f, g with
  | none, none =>
    cases spent
    exact .inl ⟨none, rfl, trivial⟩
  | some (m + 1), some (n + 1) =>
    cases spent
    exact .inl ⟨some n, rfl, Nat.le_of_succ_le_succ ample⟩
  | some (m + 1), some 0 => exact absurd ample (Nat.not_succ_le_zero m)
  | some 0, _ => cases spent
  | none, some n | some (m + 1), none => exact ample.elim

private theorem paying_metered (second : Instance Globals) :
    Paying second (fun _ g => g ≠ none) fun e _ => e = .execution (.trap .outOfFuel) := by
  intro f g f' metered spent
  match g with
  | none => exact absurd rfl metered
  | some 0 => exact .inr ⟨rfl, rfl⟩
  | some (n + 1) => exact .inl ⟨some n, rfl, by simp⟩

private theorem ample_of_spend {f g : Option Nat} (paid : spend? f = some g) : Ample g f := by
  match f with
  | none =>
    cases paid
    trivial
  | some (n + 1) =>
    cases paid
    exact Nat.le_succ n

private theorem decode_of_alike {ctx : DecodingContext Globals} {first second : Instance Globals}
    {root : Word} {options : DecodeOptions} {memory : Memory}
    {Fuel : Option Nat → Option Nat → Prop} {Failed : Error → Instance Globals → Prop}
    (scripted : Scripted d ctx) (paying : Paying second Fuel Failed) (fuelled : Fuel first.fuel second.fuel)
    (alike : Alike d ctx first second fun levels raw =>
      ∃ steps, Met d ctx memory root steps raw ∧ steps + levels = options.clamped.maxDepth + 1)
    {shown : Projection} (decoded : (ctx.decode options root first).1 = .ok shown) :
    (ctx.decode options root second).1 = .ok shown ∨
      ∃ e, (ctx.decode options root second).1 = .error e ∧
        Failed e (ctx.decode options root second).2 := by
  have follows : Inquiry.Follows (UpToFuel first second Fuel) Failed
      (ctx.decode options root first) (ctx.decode options root second) :=
    (alike.following scripted paying).decode ⟨0, .root, Nat.zero_add _⟩
      ⟨first.fuel, second.fuel, rfl, rfl, fuelled⟩
  rcases follows shown decoded with ⟨same, -⟩ | failed
  · exact .inl same
  · exact .inr failed

/-- What a decode shows before the relocation it shows after it, unless the fuel runs out. -/
theorem Moved.decode_after {ctx : DecodingContext Globals} {before after : Instance Globals}
    {root : Word} {options : DecodeOptions} (moved : Moved before after)
    (movable : Movable d ctx before root options.clamped.maxDepth) (scripted : Scripted d ctx)
    {shown : Projection} (decoded : (ctx.decode options root before).1 = .ok shown) :
    (ctx.decode options root after).1 = .ok shown ∨
      before.fuel ≠ none ∧
        (ctx.decode options root after).1 = .error (.execution (.trap .outOfFuel)) := by
  have alike := alike_after moved movable
  have unmetered := Instance.unmetered_iff_of_spend moved.paid
  by_cases fuel : before.fuel = none
  · have ample : Ample before.fuel after.fuel := by
      rw [fuel, unmetered.mp fuel]
      trivial
    rcases decode_of_alike scripted (paying_ample _) ample alike decoded with same | ⟨-, -, no⟩
    · exact .inl same
    · exact no.elim
  · have metered : after.fuel ≠ none := mt unmetered.mpr fuel
    rcases decode_of_alike scripted (paying_metered _) metered alike decoded with
      same | ⟨_, failed, rfl⟩
    · exact .inl same
    · exact .inr ⟨fuel, failed⟩

/-- What a decode shows after the relocation it showed before it, if the rows lay within the memory. -/
theorem Moved.decode_before {ctx : DecodingContext Globals} {before after : Instance Globals}
    {root : Word} {options : DecodeOptions} (moved : Moved before after)
    (movable : Movable d ctx before root options.clamped.maxDepth)
    (inside : RowsInside d ctx before.memory root options.clamped.maxDepth)
    (scripted : Scripted d ctx) {shown : Projection}
    (decoded : (ctx.decode options root after).1 = .ok shown) :
    (ctx.decode options root before).1 = .ok shown := by
  have alike := alike_before moved movable inside
  have ample := ample_of_spend moved.paid
  rcases decode_of_alike scripted (paying_ample _) ample alike decoded with same | ⟨-, -, no⟩
  · exact same
  · exact no.elim

end LispHost.Script
