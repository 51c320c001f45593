import LispHost.Memory

/-!
Memories byte by byte.

A word is the number its four bytes write, lowest first, and writing a word and reading it back
gives the word. Setting a range changes the bytes of the range to the data and no other byte, and
leaves the size alone. A range is read or written exactly when it ends within the size.
-/

set_option autoImplicit false

namespace LispHost

namespace Word

@[simp] theorem length_toBytes (w : Word) : (toBytes w).length = 4 := rfl

theorem toNat_ofBytes (b₀ b₁ b₂ b₃ : UInt8) :
    (ofBytes b₀ b₁ b₂ b₃).toNat =
      b₀.toNat + 256 * (b₁.toNat + 256 * (b₂.toNat + 256 * b₃.toNat)) := by
  have h₀ := b₀.toNat_lt
  have h₁ := b₁.toNat_lt
  have h₂ := b₂.toNat_lt
  have h₃ := b₃.toNat_lt
  exact UInt32.toNat_ofNat_of_lt' (by simp only [UInt32.size]; omega)

theorem ofBytes_toBytes (w : Word) :
    ofBytes w.toUInt8 (w >>> 8).toUInt8 (w >>> 16).toUInt8 (w >>> 24).toUInt8 = w := by
  have bound := w.toNat_lt
  apply UInt32.toNat_inj.mp
  rw [toNat_ofBytes]
  have shift₈ : UInt32.toNat 8 % 32 = 8 := rfl
  have shift₁₆ : UInt32.toNat 16 % 32 = 16 := rfl
  have shift₂₄ : UInt32.toNat 24 % 32 = 24 := rfl
  simp only [UInt32.toNat_toUInt8, UInt32.toNat_shiftRight, Nat.shiftRight_eq_div_pow,
    shift₈, shift₁₆, shift₂₄]
  omega

theorem length_listOfBytes (data : List UInt8) :
    (listOfBytes data).length = data.length / 4 := by
  fun_induction listOfBytes data with
  | case1 b₀ b₁ b₂ b₃ rest ih =>
    simp only [List.length_cons, ih]
    omega
  | case2 data short =>
    rcases data with _ | ⟨b₀, _ | ⟨b₁, _ | ⟨b₂, _ | ⟨b₃, rest⟩⟩⟩⟩
    · rfl
    · simp only [List.length_cons, List.length_nil, Nat.reduceAdd, Nat.reduceDiv]
    · simp only [List.length_cons, List.length_nil, Nat.reduceAdd, Nat.reduceDiv]
    · simp only [List.length_cons, List.length_nil, Nat.reduceAdd, Nat.reduceDiv]
    · exact absurd rfl (short b₀ b₁ b₂ b₃ rest)

end Word

namespace Memory

@[simp] theorem size_zeroed (size : Nat) : (zeroed size).size = size := rfl

@[simp] theorem byte_zeroed (size address : Nat) : (zeroed size).byte address = 0 := by
  simp [zeroed, byte]

@[simp] theorem size_setByte (m : Memory) (address : Nat) (b : UInt8) :
    (m.setByte address b).size = m.size := rfl

theorem byte_setByte (m : Memory) (address x : Nat) (b : UInt8) :
    (m.setByte address b).byte x = if x = address then b else m.byte x := by
  by_cases same : x = address
  · simp [byte, setByte, same]
  · simp [byte, setByte, Std.TreeMap.getD_insert, same, Ne.symm same]

@[simp] theorem size_setBytes (m : Memory) (address : Nat) (data : List UInt8) :
    (m.setBytes address data).size = m.size := by
  induction data generalizing m address with
  | nil => rfl
  | cons b rest ih => rw [setBytes, ih, size_setByte]

/-- The bytes of a set range are the data, and every other byte is as before. -/
theorem byte_setBytes (m : Memory) (address x : Nat) (data : List UInt8) :
    (m.setBytes address data).byte x =
      if address ≤ x then (data[x - address]?).getD (m.byte x) else m.byte x := by
  induction data generalizing m address with
  | nil => simp [setBytes]
  | cons b rest ih =>
    rw [setBytes, ih, byte_setByte]
    rcases Nat.lt_trichotomy x address with before | same | after
    · simp [show ¬ address + 1 ≤ x by omega, show ¬ address ≤ x by omega,
        show x ≠ address by omega]
    · subst same
      simp [show ¬ x + 1 ≤ x by omega]
    · have shift : x - address = x - (address + 1) + 1 := by omega
      simp [show address + 1 ≤ x by omega, show address ≤ x by omega,
        show x ≠ address by omega, shift]

theorem byte_setBytes_of_outside (m : Memory) {address x : Nat} {data : List UInt8}
    (outside : x < address ∨ address + data.length ≤ x) :
    (m.setBytes address data).byte x = m.byte x := by
  rw [byte_setBytes]
  rcases outside with before | after
  · rw [if_neg (by omega)]
  · rw [List.getElem?_eq_none (by omega)]
    simp

theorem byte_setBytes_of_inside (m : Memory) (address : Nat) {data : List UInt8} {i : Nat} {b : UInt8}
    (there : data[i]? = some b) : (m.setBytes address data).byte (address + i) = b := by
  rw [byte_setBytes, if_pos (Nat.le_add_right ..), Nat.add_sub_cancel_left, there]
  rfl

theorem wordAt_setBytes_toBytes (m : Memory) (address : Nat) (w : Word) :
    (m.setBytes address (Word.toBytes w)).wordAt address = w := by
  simp only [wordAt, byte_setBytes]
  simpa [Word.toBytes] using Word.ofBytes_toBytes w

theorem wordAt_congr {m later : Memory} {address : Nat}
    (same : ∀ x, address ≤ x → x < address + 4 → later.byte x = m.byte x) :
    later.wordAt address = m.wordAt address := by
  have first := same address (by omega) (by omega)
  have second := same (address + 1) (by omega) (by omega)
  have third := same (address + 2) (by omega) (by omega)
  have fourth := same (address + 3) (by omega) (by omega)
  simp only [wordAt, first, second, third, fourth]

@[simp] theorem length_bytes (m : Memory) (address length : Nat) :
    (m.bytes address length).length = length := by
  simp [bytes]

theorem getElem?_bytes (m : Memory) (address : Nat) {length i : Nat} (within : i < length) :
    (m.bytes address length)[i]? = some (m.byte (address + i)) := by
  simp [bytes, within]

theorem bytes_setBytes (m : Memory) (address : Nat) (data : List UInt8) :
    (m.setBytes address data).bytes address data.length = data := by
  apply List.ext_getElem?
  intro i
  by_cases within : i < data.length
  · have there : data[i]? = some data[i] := List.getElem?_eq_getElem within
    rw [getElem?_bytes _ _ within, byte_setBytes_of_inside m address there, there]
  · rw [List.getElem?_eq_none (by simpa using within), List.getElem?_eq_none (by omega)]

theorem bytes_eq_of_byte {m later : Memory} {address place length : Nat}
    (same : ∀ i < length, later.byte (place + i) = m.byte (address + i)) :
    later.bytes place length = m.bytes address length :=
  List.map_congr_left fun i member => same i (List.mem_range.mp member)

theorem wordAt_eq_of_byte {m later : Memory} {address place : Nat}
    (same : ∀ i < 4, later.byte (place + i) = m.byte (address + i)) :
    later.wordAt place = m.wordAt address := by
  have first := same 0 (by omega)
  have second := same 1 (by omega)
  have third := same 2 (by omega)
  have fourth := same 3 (by omega)
  simp only [Nat.add_zero] at first
  simp only [wordAt, first, second, third, fourth]

theorem read?_eq_some_iff {m : Memory} {address length : Nat} {data : List UInt8} :
    m.read? address length = some data ↔
      address + length ≤ m.size ∧ m.bytes address length = data := by
  simp [read?]

theorem readWord?_eq_some_iff {m : Memory} {address : Nat} {w : Word} :
    m.readWord? address = some w ↔ address + 4 ≤ m.size ∧ m.wordAt address = w := by
  simp [readWord?]

theorem write?_eq_some_iff {m next : Memory} {address : Nat} {data : List UInt8} :
    m.write? address data = some next ↔
      address + data.length ≤ m.size ∧ m.setBytes address data = next := by
  simp [write?]

theorem slice_eq_ok_iff {m : Memory} {offset len : Word} {data : List UInt8} :
    m.slice offset len = .ok data ↔
      offset.toNat + len.toNat ≤ m.size ∧ m.bytes offset.toNat len.toNat = data := by
  rw [slice, ← read?_eq_some_iff]
  cases m.read? offset.toNat len.toNat <;> simp

theorem word_eq_ok_iff {m : Memory} {offset w : Word} :
    m.word offset = .ok w ↔ offset.toNat + 4 ≤ m.size ∧ m.wordAt offset.toNat = w := by
  rw [word, ← readWord?_eq_some_iff]
  cases m.readWord? offset.toNat <;> simp

theorem eq_fault_of_slice {m : Memory} {offset len : Word} {e : Error}
    (failed : m.slice offset len = .error e) : e = m.fault offset len := by
  rw [slice] at failed
  split at failed
  · cases failed
  · exact (Except.error.inj failed).symm

theorem eq_fault_of_word {m : Memory} {offset : Word} {e : Error}
    (failed : m.word offset = .error e) : e = m.fault offset 4 := by
  rw [word] at failed
  split at failed
  · cases failed
  · exact (Except.error.inj failed).symm

theorem slice_of_outside {m : Memory} {offset len : Word}
    (outside : m.size < offset.toNat + len.toNat) :
    m.slice offset len = .error (m.fault offset len) := by
  rw [slice, read?, if_neg (by omega)]

theorem word_of_outside {m : Memory} {offset : Word} (outside : m.size < offset.toNat + 4) :
    m.word offset = .error (m.fault offset 4) := by
  rw [word, readWord?, if_neg (by omega)]

/-- A write of fewer bytes than a word can count happens if and only if its range lies within the memory. -/
theorem writeBytes_eq_ok_iff {m next : Memory} {address : Word} {data : List UInt8}
    (small : data.length < wordCount) :
    m.writeBytes address data = .ok next ↔
      address.toNat + data.length ≤ m.size ∧ m.setBytes address.toNat data = next := by
  rw [writeBytes, if_neg (Nat.not_le.mpr small), ← write?_eq_some_iff]
  cases m.write? address.toNat data <;> simp

theorem writeBytes_of_outside {m : Memory} {address : Word} {data : List UInt8}
    (small : data.length < wordCount) (outside : m.size < address.toNat + data.length) :
    m.writeBytes address data = .error (m.fault address (UInt32.ofNat data.length)) := by
  rw [writeBytes, if_neg (Nat.not_le.mpr small), write?, if_neg (Nat.not_le.mpr outside)]

/-- The bytes of a range that can be copied are as many as were asked for. -/
theorem length_of_slice {m : Memory} {offset len : Word} {data : List UInt8}
    (copied : m.slice offset len = .ok data) : data.length = len.toNat := by
  rw [slice] at copied
  split at copied
  · rename_i found
    cases copied
    obtain ⟨-, rfl⟩ := read?_eq_some_iff.mp found
    exact length_bytes m offset.toNat len.toNat
  · cases copied

theorem advance_of_lt {address distance : Word}
    (small : address.toNat + distance.toNat < wordCount) :
    advance address distance = some (address + distance) :=
  if_pos small

theorem toNat_advance {address distance next : Word}
    (advanced : advance address distance = some next) :
    next.toNat = address.toNat + distance.toNat := by
  obtain ⟨small, same⟩ := Option.ite_none_right_eq_some.mp advanced
  cases same
  rw [wordCount] at small
  rw [UInt32.toNat_add]
  omega

end Memory

end LispHost
