import LispHost.Proofs.Guest.Minimal
import LispHost.Proofs.Text.WellFormed
import LispHost.Proofs.View.Content

/-!
String records.

A record is a length word and as many bytes after it. It can be read if and only if the length word and the bytes
lie within the memory, counted without wrap-around, and the bytes start within the address space. Then the text is
exact: its encoding is the bytes, zeros included, or the bytes are reported as no text. A record that cannot be
read is a memory fault. Nothing outside the record has any influence on this.
-/

set_option autoImplicit false

namespace LispHost

variable {σ : Type}

namespace Memory

variable {memory other : Memory}

/-- A string record at an address can be reached as a whole. -/
structure HoldsRecord (memory : Memory) (address : Word) : Prop where
  length_le : address.toNat + 4 ≤ memory.size
  start_lt : address.toNat + 4 < wordCount
  bytes_le : address.toNat + 4 + (memory.wordAt address.toNat).toNat ≤ memory.size

def recordBytes (memory : Memory) (address : Word) : List UInt8 :=
  memory.bytes (address.toNat + 4) (memory.wordAt address.toNat).toNat

/-- Two memories of the same size have the same bytes from one address to another, as far as they reach. -/
structure AgreeOn (memory other : Memory) (start stop : Nat) : Prop where
  size_eq : other.size = memory.size
  byte_eq : ∀ x, start ≤ x → x < stop → x < memory.size → other.byte x = memory.byte x

theorem AgreeOn.mono {start stop first last : Nat} (agree : memory.AgreeOn other start stop)
    (low : start ≤ first) (high : last ≤ stop) : memory.AgreeOn other first last where
  size_eq := agree.size_eq
  byte_eq := by
    intro x after before inside
    exact agree.byte_eq x (by omega) (by omega) inside

theorem word_congr {offset : Word} (agree : memory.AgreeOn other offset.toNat (offset.toNat + 4)) :
    other.word offset = memory.word offset := by
  have size_eq := agree.size_eq
  by_cases inside : offset.toNat + 4 ≤ memory.size
  · have same : other.wordAt offset.toNat = memory.wordAt offset.toNat := by
      apply wordAt_congr
      intro x after before
      exact agree.byte_eq x after before (by omega)
    have read : memory.word offset = .ok (memory.wordAt offset.toNat) :=
      word_eq_ok_iff.mpr ⟨inside, rfl⟩
    rw [read]
    exact word_eq_ok_iff.mpr ⟨by omega, same⟩
  · rw [word_of_outside (Nat.not_le.mp inside), word_of_outside (by omega), fault, fault, size_eq]

theorem slice_congr {offset len : Word}
    (agree : memory.AgreeOn other offset.toNat (offset.toNat + len.toNat)) :
    other.slice offset len = memory.slice offset len := by
  have size_eq := agree.size_eq
  by_cases inside : offset.toNat + len.toNat ≤ memory.size
  · have same : other.bytes offset.toNat len.toNat = memory.bytes offset.toNat len.toNat := by
      apply bytes_eq_of_byte
      intro i small
      exact agree.byte_eq (offset.toNat + i) (by omega) (by omega) (by omega)
    have copied : memory.slice offset len = .ok (memory.bytes offset.toNat len.toNat) :=
      slice_eq_ok_iff.mpr ⟨inside, rfl⟩
    rw [copied]
    exact slice_eq_ok_iff.mpr ⟨by omega, same⟩
  · rw [slice_of_outside (Nat.not_le.mp inside), slice_of_outside (by omega), fault, fault, size_eq]

end Memory

namespace DecodingContext

open Text.Utf8 (WellFormed encode decode? encode_eq decode?_eq_some_iff decode?_eq_none_iff
  wellFormed_of_decode? exists_encode_of_wellFormed)

variable {ctx : DecodingContext σ} {inst next : Instance σ} {handle address : Word}
  {memory other : Memory}

theorem stringAt_of_holds (held : memory.HoldsRecord address) :
    stringAt memory handle address =
      textOf handle (memory.wordAt address.toNat) (memory.recordBytes address) :=
  stringAt_of_record handle held.start_lt held.bytes_le rfl rfl

/-- A record that cannot be reached is a fault: its length word, or its bytes. -/
theorem stringAt_of_not_holds (handle : Word) (lost : ¬ memory.HoldsRecord address) :
    ∃ offset len, stringAt memory handle address = .error (memory.fault offset len) := by
  rw [stringAt]
  cases measured : memory.word address with
  | error e => exact ⟨address, 4, congrArg Except.error (Memory.eq_fault_of_word measured)⟩
  | ok len =>
    obtain ⟨length_le, rfl⟩ := Memory.word_eq_ok_iff.mp measured
    simp only [bind, Except.bind]
    cases advanced : Memory.advance address 4 with
    | none => exact ⟨address, 4, rfl⟩
    | some start =>
      have reached : start.toNat = address.toNat + 4 := Memory.toNat_advance advanced
      have start_lt : start.toNat < wordCount := start.toNat_lt
      simp only
      cases copied : memory.slice start (memory.wordAt address.toNat) with
      | error e => exact ⟨start, _, congrArg Except.error (Memory.eq_fault_of_slice copied)⟩
      | ok data =>
        obtain ⟨bytes_le, -⟩ := Memory.slice_eq_ok_iff.mp copied
        rw [reached] at bytes_le start_lt
        exact absurd ⟨length_le, start_lt, bytes_le⟩ lost

theorem stringAt_eq_ok_iff {text : String} :
    stringAt memory handle address = .ok text ↔
      memory.HoldsRecord address ∧ encode text = memory.recordBytes address := by
  by_cases held : memory.HoldsRecord address
  · have read : textOf handle (memory.wordAt address.toNat) (memory.recordBytes address) = .ok text ↔
        decode? (memory.recordBytes address) = some text := by
      rw [textOf]
      cases decode? (memory.recordBytes address) <;> simp
    rw [stringAt_of_holds held, read, decode?_eq_some_iff]
    exact ⟨fun same => ⟨held, same⟩, fun both => both.2⟩
  · obtain ⟨offset, len, fault⟩ := stringAt_of_not_holds handle held
    rw [fault]
    constructor
    · intro impossible
      cases impossible
    · intro both
      exact absurd both.1 held

theorem stringAt_eq_encoding_iff {given len : Word} :
    stringAt memory handle address = .error (.encoding given len) ↔
      (given = handle ∧ len = memory.wordAt address.toNat) ∧
        memory.HoldsRecord address ∧ ¬ WellFormed (memory.recordBytes address) := by
  by_cases held : memory.HoldsRecord address
  · have refused : textOf handle (memory.wordAt address.toNat) (memory.recordBytes address) =
          .error (.encoding given len) ↔
        (handle = given ∧ memory.wordAt address.toNat = len) ∧
          decode? (memory.recordBytes address) = none := by
      rw [textOf]
      cases decode? (memory.recordBytes address) <;> simp
    rw [stringAt_of_holds held, refused, decode?_eq_none_iff, eq_comm, @eq_comm _ _ len]
    exact ⟨fun both => ⟨both.1, held, both.2⟩, fun all => ⟨all.1, all.2.2⟩⟩
  · obtain ⟨offset, len, fault⟩ := stringAt_of_not_holds handle held
    rw [fault]
    constructor
    · intro impossible
      cases impossible
    · intro all
      exact absurd all.2.1 held

theorem stringAt_congr (agree : memory.AgreeOn other address.toNat
      (address.toNat + 4 + (memory.wordAt address.toNat).toNat)) :
    stringAt other handle address = stringAt memory handle address := by
  have words : other.word address = memory.word address :=
    Memory.word_congr (agree.mono (Nat.le_refl _) (Nat.le_add_right _ _))
  rw [stringAt, stringAt, words]
  cases measured : memory.word address with
  | error e => rfl
  | ok len =>
    obtain ⟨-, rfl⟩ := Memory.word_eq_ok_iff.mp measured
    simp only [bind, Except.bind]
    cases advanced : Memory.advance address 4 with
    | none =>
      show Except.error (other.fault address 4) = .error (memory.fault address 4)
      rw [Memory.fault, Memory.fault, agree.size_eq]
    | some start =>
      have reached : start.toNat = address.toNat + 4 := Memory.toNat_advance advanced
      have copies : other.slice start (memory.wordAt address.toNat) =
          memory.slice start (memory.wordAt address.toNat) := by
        apply Memory.slice_congr
        rw [reached]
        exact agree.mono (Nat.le_add_right _ _) (Nat.le_refl _)
      simp only [copies]

theorem stringOf_of_answered (answered : inst.callWord ctx.string [handle] = (.ok address, next))
    (exported : memory ∈ next.exportedMemory ctx.memory) :
    ctx.stringOf handle inst = (stringAt memory handle address, next) := by
  rw [stringOf, answered]
  simp only [bind_memoryOf exported]

/-- Wherever the guest answers that the record of a handle lies, and whatever the memory is, the string is read if
and only if the record can be reached as a whole and its bytes are well formed, and it is then encoded as these
bytes; an encoding error, with the handle and the length word, is raised if and only if the record can be reached
and its bytes are not well formed; and everything else is a memory fault. Any state in which the guest answers the
same address has the same outcome, if only the memory is as large and the bytes of the record are the same. -/
theorem stringOf_exact (answered : inst.callWord ctx.string [handle] = (.ok address, next))
    (exported : memory ∈ next.exportedMemory ctx.memory) :
    let data := memory.recordBytes address
    ((∃ text, ctx.stringOf handle inst = (.ok text, next)) ↔
      memory.HoldsRecord address ∧ WellFormed data) ∧
    (∀ text, ctx.stringOf handle inst = (.ok text, next) → text.toByteArray.data.toList = data) ∧
    (∀ given len, ctx.stringOf handle inst = (.error (.encoding given len), next) ↔
      (given = handle ∧ len = memory.wordAt address.toNat) ∧
        memory.HoldsRecord address ∧ ¬ WellFormed data) ∧
    (¬ memory.HoldsRecord address →
      ∃ offset len, ctx.stringOf handle inst = (.error (.memoryFault offset len memory.size), next)) ∧
    ∀ (inst' next' : Instance σ) (other : Memory),
      inst'.callWord ctx.string [handle] = (.ok address, next') →
      other ∈ next'.exportedMemory ctx.memory →
      memory.AgreeOn other address.toNat (address.toNat + 4 + (memory.wordAt address.toNat).toNat) →
      (ctx.stringOf handle inst').1 = (ctx.stringOf handle inst).1 := by
  intro data
  have read := stringOf_of_answered answered exported
  have outcome : ∀ result, ctx.stringOf handle inst = (result, next) ↔
      stringAt memory handle address = result := by
    intro result
    rw [read, Prod.mk.injEq]
    exact and_iff_left rfl
  refine ⟨?_, ?_, ?_, ?_, ?_⟩
  · simp only [outcome, stringAt_eq_ok_iff, exists_and_left]
    refine and_congr_right fun _ => ?_
    constructor
    · rintro ⟨text, same⟩
      exact wellFormed_of_decode? (decode?_eq_some_iff.mpr same)
    · exact exists_encode_of_wellFormed
  · intro text read
    rw [outcome, stringAt_eq_ok_iff, encode_eq] at read
    exact read.2
  · intro given len
    rw [outcome, stringAt_eq_encoding_iff]
  · intro lost
    obtain ⟨offset, len, fault⟩ := stringAt_of_not_holds handle lost
    exact ⟨offset, len, (outcome _).mpr fault⟩
  · intro inst' next' other answered' exported' agree
    rw [stringOf_of_answered answered' exported', read]
    exact stringAt_congr agree

def oneRecordGuest : Guest Unit :=
  Guest.exporting (Guest.accessors 4 0x80 0x100 ++ Guest.sentinels)

def oneRecordContext : DecodingContext Unit where
  memory := "memory"
  tagOf := Guest.constant 1 4
  row := Guest.constant 2 0x80
  string := Guest.constant 1 0x100
  tags := .empty
  sentinels := ⟨0, 1⟩

def oneRecordInstance (data : List UInt8) : Instance Unit :=
  ⟨oneRecordGuest, none, (Memory.zeroed 65536).setBytes 0x100 data, 0, (), .new .default, none⟩

/-- A zero inside the record belongs to the text and the byte after the record does not; an overlong zero is no
text. -/
theorem stringOf_exact_zeroInside :
    let whole := oneRecordInstance [4, 0, 0, 0, 0xC3, 0xA9, 0x00, 0x21, 0xFF]
    let overlong := oneRecordInstance [2, 0, 0, 0, 0xC0, 0x80]
    oneRecordContext.stringOf 7 whole = (.ok "é\x00!", whole) ∧
      oneRecordContext.stringOf 7 overlong = (.error (.encoding 7 2), overlong) := by
  intro whole overlong
  constructor
  · have answered : whole.callWord oneRecordContext.string [7] = (.ok 0x100, whole) := rfl
    have exported : whole.memory ∈ whole.exportedMemory oneRecordContext.memory := rfl
    obtain ⟨read, encoded, -⟩ := stringOf_exact answered exported
    have bytes : whole.memory.recordBytes 0x100 = [0xC3, 0xA9, 0x00, 0x21] := rfl
    have held : whole.memory.HoldsRecord 0x100 := ⟨by decide, by decide, by decide +kernel⟩
    have shown : decode? (whole.memory.recordBytes 0x100) = some "é\x00!" := by
      rw [bytes]
      decide +kernel
    obtain ⟨text, read⟩ := read.mpr ⟨held, wellFormed_of_decode? shown⟩
    have same := encoded text read
    rw [← encode_eq, ← decode?_eq_some_iff, shown] at same
    rw [read, Option.some.inj same]
  · have answered : overlong.callWord oneRecordContext.string [7] = (.ok 0x100, overlong) := rfl
    have exported : overlong.memory ∈ overlong.exportedMemory oneRecordContext.memory := rfl
    obtain ⟨-, -, refused, -⟩ := stringOf_exact answered exported
    have bytes : overlong.memory.recordBytes 0x100 = [0xC0, 0x80] := rfl
    have held : overlong.memory.HoldsRecord 0x100 := ⟨by decide, by decide, by decide +kernel⟩
    refine (refused 7 2).mpr ⟨⟨rfl, rfl⟩, held, ?_⟩
    rw [bytes]
    exact decode?_eq_none_iff.mp (by decide)

end DecodingContext

end LispHost
