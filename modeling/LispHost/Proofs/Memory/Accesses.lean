import LispHost.Proofs.Memory.Bytes
import Mathlib.Tactic.IntervalCases

/-!
Accesses by the host, one after the other.

An access succeeds exactly when its range ends within the memory, counted without wrap-around; one that fails
changes nothing, and one that writes changes its range alone. So after any run of accesses a byte is what the last
successful write over it has left there, or what it was at first, and this is what reads see. A word that overlaps
a written word takes the bytes of the written one where they overlap, in the order of their weight.
-/

set_option autoImplicit false

namespace LispHost.Memory

/-- An access by the host. What it writes is no longer than a word can count. -/
inductive Access where
  | slice (offset len : Word)
  | word (offset : Word)
  | writeWord (offset value : Word)
  | writeBytes (offset : Word) (data : List UInt8) (small : data.length < wordCount)

private theorem toBytes_lt (value : Word) : (Word.toBytes value).length < wordCount :=
  (by decide : 4 < wordCount)

namespace Access

def offset : Access → Word
  | slice offset _ | word offset | writeWord offset _ | writeBytes offset _ _ => offset

def length : Access → Nat
  | slice _ len => len.toNat
  | word _ | writeWord _ _ => 4
  | writeBytes _ data _ => data.length

def data : Access → List UInt8
  | slice _ _ | word _ => []
  | writeWord _ value => Word.toBytes value
  | writeBytes _ data _ => data

theorem length_lt (access : Access) : access.length < wordCount := by
  cases access with
  | slice offset len => exact len.toNat_lt
  | word offset | writeWord offset value => exact (by decide : 4 < wordCount)
  | writeBytes offset data small => exact small

end Access

inductive Answer where
  | bytes (data : List UInt8)
  | word (w : Word)
  | written
  deriving DecidableEq, Repr

def settle (m : Memory) : Except Error Memory → Except Error Answer × Memory
  | .ok next => (.ok .written, next)
  | .error e => (.error e, m)

def perform (m : Memory) : Access → Except Error Answer × Memory
  | .slice offset len => ((m.slice offset len).map .bytes, m)
  | .word offset => ((m.word offset).map .word, m)
  | .writeWord offset value => m.settle (m.writeWord offset value)
  | .writeBytes offset data _ => m.settle (m.writeBytes offset data)

/-- Perform accesses one after the other, whether they succeed or not; each is kept with its answer. -/
def performAll (m : Memory) : List Access → List (Access × Except Error Answer) × Memory
  | [] => ([], m)
  | access :: rest =>
    let (answer, m) := m.perform access
    let (log, m) := m.performAll rest
    ((access, answer) :: log, m)

/-- The byte that an access has left at an address, if it has written there. -/
def leftBy? (x : Nat) (entry : Access × Except Error Answer) : Option UInt8 :=
  if entry.2.isOk ∧ entry.1.offset.toNat ≤ x then entry.1.data[x - entry.1.offset.toNat]? else none

/-- The byte that the last successful write over an address has left there. -/
def lastLeft? (log : List (Access × Except Error Answer)) (x : Nat) : Option UInt8 :=
  log.reverse.findSome? (leftBy? x)

variable {m : Memory} {access : Access}

/-! ### One access -/

def answer (m : Memory) : Access → Answer
  | .slice offset len => .bytes (m.bytes offset.toNat len.toNat)
  | .word offset => .word (m.wordAt offset.toNat)
  | .writeWord _ _ | .writeBytes _ _ _ => .written

theorem perform_of_inside (inside : access.offset.toNat + access.length ≤ m.size) :
    m.perform access = (.ok (m.answer access), m.setBytes access.offset.toNat access.data) := by
  cases access with
  | slice offset len =>
    have copied : m.slice offset len = .ok (m.bytes offset.toNat len.toNat) :=
      slice_eq_ok_iff.mpr ⟨inside, rfl⟩
    rw [perform, copied]
    rfl
  | word offset =>
    have read : m.word offset = .ok (m.wordAt offset.toNat) := word_eq_ok_iff.mpr ⟨inside, rfl⟩
    rw [perform, read]
    rfl
  | writeWord offset value =>
    have wrote : m.writeWord offset value = .ok (m.setBytes offset.toNat (Word.toBytes value)) :=
      (writeBytes_eq_ok_iff (toBytes_lt value)).mpr ⟨inside, rfl⟩
    rw [perform, wrote]
    rfl
  | writeBytes offset data small =>
    have wrote : m.writeBytes offset data = .ok (m.setBytes offset.toNat data) :=
      (writeBytes_eq_ok_iff small).mpr ⟨inside, rfl⟩
    rw [perform, wrote]
    rfl

theorem perform_of_outside (outside : m.size < access.offset.toNat + access.length) :
    m.perform access = (.error (m.fault access.offset (UInt32.ofNat access.length)), m) := by
  cases access with
  | slice offset len =>
    have refused : m.slice offset len = .error (m.fault offset len) := slice_of_outside outside
    rw [perform, refused]
    simp only [Access.offset, Access.length, UInt32.ofNat_toNat]
    rfl
  | word offset =>
    have refused : m.word offset = .error (m.fault offset 4) := word_of_outside outside
    rw [perform, refused]
    rfl
  | writeWord offset value =>
    have refused : m.writeWord offset value = .error (m.fault offset 4) :=
      writeBytes_of_outside (toBytes_lt value) outside
    rw [perform, refused]
    rfl
  | writeBytes offset data small =>
    have refused : m.writeBytes offset data =
        .error (m.fault offset (UInt32.ofNat data.length)) := writeBytes_of_outside small outside
    rw [perform, refused]
    rfl

theorem isOk_perform_iff :
    (m.perform access).1.isOk = true ↔ access.offset.toNat + access.length ≤ m.size := by
  by_cases inside : access.offset.toNat + access.length ≤ m.size
  · rw [perform_of_inside inside]
    exact ⟨fun _ => inside, fun _ => rfl⟩
  · rw [perform_of_outside (Nat.not_le.mp inside)]
    exact ⟨fun failed => (nomatch failed), fun impossible => absurd impossible inside⟩

theorem size_perform (m : Memory) (access : Access) : (m.perform access).2.size = m.size := by
  by_cases inside : access.offset.toNat + access.length ≤ m.size
  · rw [perform_of_inside inside, size_setBytes]
  · rw [perform_of_outside (Nat.not_le.mp inside)]

theorem byte_perform (m : Memory) (access : Access) (x : Nat) :
    (m.perform access).2.byte x =
      (leftBy? x (access, (m.perform access).1)).getD (m.byte x) := by
  by_cases inside : access.offset.toNat + access.length ≤ m.size
  · rw [perform_of_inside inside, byte_setBytes]
    by_cases after : access.offset.toNat ≤ x
    · rw [if_pos after, leftBy?, if_pos ⟨rfl, after⟩]
    · rw [if_neg after, leftBy?, if_neg fun both => after both.2]
      rfl
  · rw [perform_of_outside (Nat.not_le.mp inside), leftBy?, if_neg fun both => nomatch both.1]
    rfl

/-! ### Runs of accesses -/

theorem lastLeft?_cons (entry : Access × Except Error Answer)
    (log : List (Access × Except Error Answer)) (x : Nat) :
    lastLeft? (entry :: log) x = (lastLeft? log x).or (leftBy? x entry) := by
  rw [lastLeft?, List.reverse_cons, List.findSome?_append, List.findSome?_singleton, lastLeft?]

theorem size_performAll (m : Memory) (accesses : List Access) :
    (m.performAll accesses).2.size = m.size := by
  induction accesses generalizing m with
  | nil => rfl
  | cons access rest ih => exact (ih _).trans (size_perform m access)

theorem byte_performAll (m : Memory) (accesses : List Access) (x : Nat) :
    (m.performAll accesses).2.byte x =
      (lastLeft? (m.performAll accesses).1 x).getD (m.byte x) := by
  induction accesses generalizing m with
  | nil => rfl
  | cons access rest ih =>
    have later := ih (m.perform access).2
    rw [byte_perform] at later
    show ((m.perform access).2.performAll rest).2.byte x = _
    rw [later]
    show _ = (lastLeft? ((access, (m.perform access).1) :: ((m.perform access).2.performAll rest).1)
      x).getD (m.byte x)
    rw [lastLeft?_cons]
    cases lastLeft? ((m.perform access).2.performAll rest).1 x <;> rfl

/-! ### Words over words -/

theorem toNat_wordAt (m : Memory) (address : Nat) :
    (m.wordAt address).toNat =
      (m.byte address).toNat + 256 * ((m.byte (address + 1)).toNat +
        256 * ((m.byte (address + 2)).toNat + 256 * (m.byte (address + 3)).toNat)) :=
  Word.toNat_ofBytes ..

/-- A byte of a written word: the digit of its weight. -/
theorem toNat_byte_setBytes_toBytes (m : Memory) (address : Nat) (value : Word) {i : Nat}
    (small : i < 4) :
    ((m.setBytes address (Word.toBytes value)).byte (address + i)).toNat =
      value.toNat / 256 ^ i % 256 := by
  have written := congrArg UInt32.toNat (wordAt_setBytes_toBytes m address value)
  rw [toNat_wordAt] at written
  have first := (m.setBytes address (Word.toBytes value)).byte address |>.toNat_lt
  have second := (m.setBytes address (Word.toBytes value)).byte (address + 1) |>.toNat_lt
  have third := (m.setBytes address (Word.toBytes value)).byte (address + 2) |>.toNat_lt
  have fourth := (m.setBytes address (Word.toBytes value)).byte (address + 3) |>.toNat_lt
  interval_cases i
  · simp only [Nat.add_zero]
    omega
  · omega
  · omega
  · omega

/-- Read `shift` bytes after a written word: what it has left of that word, and above it what was there. -/
theorem toNat_wordAt_above (m : Memory) (offset : Nat) (value : Word) {shift : Nat} (near : shift ≤ 4) :
    ((m.setBytes offset (Word.toBytes value)).wordAt (offset + shift)).toNat =
      value.toNat / 256 ^ shift +
        256 ^ (4 - shift) * ((m.wordAt (offset + shift)).toNat / 256 ^ (4 - shift)) := by
  have inside (i : Nat) (small : i < 4) := toNat_byte_setBytes_toBytes m offset value small
  have beyond (i : Nat) (large : 4 ≤ i) :
      (m.setBytes offset (Word.toBytes value)).byte (offset + i) = m.byte (offset + i) :=
    byte_setBytes_of_outside m (.inr (by rw [Word.length_toBytes]; omega))
  have bound := value.toNat_lt
  have byte_lt (i : Nat) : (m.byte (offset + i)).toNat < 256 := (m.byte (offset + i)).toNat_lt
  rw [toNat_wordAt, toNat_wordAt]
  simp only [Nat.add_assoc]
  have first := byte_lt shift
  have second := byte_lt (shift + 1)
  have third := byte_lt (shift + 2)
  have fourth := byte_lt (shift + 3)
  interval_cases shift
  all_goals
    simp (disch := decide) only [inside, beyond, Nat.reduceAdd, Nat.reduceSub, Nat.reducePow] at *
    omega

/-- Read `shift` bytes before a written word: what was there, and above it the start of that word. -/
theorem toNat_wordAt_below (m : Memory) (place : Nat) (value : Word) {shift : Nat} (near : shift ≤ 4) :
    ((m.setBytes (place + shift) (Word.toBytes value)).wordAt place).toNat =
      (m.wordAt place).toNat % 256 ^ shift + 256 ^ shift * (value.toNat % 256 ^ (4 - shift)) := by
  have inside (i : Nat) (small : i < 4) :=
    toNat_byte_setBytes_toBytes m (place + shift) value small
  have before (i : Nat) (small : i < shift) :
      (m.setBytes (place + shift) (Word.toBytes value)).byte (place + i) = m.byte (place + i) :=
    byte_setBytes_of_outside m (.inl (by omega))
  have byte_lt (i : Nat) : (m.byte (place + i)).toNat < 256 := (m.byte (place + i)).toNat_lt
  have bound := value.toNat_lt
  have first := byte_lt 0
  have second := byte_lt 1
  have third := byte_lt 2
  have fourth := byte_lt 3
  have lowest (later : 0 < shift) :
      ((m.setBytes (place + shift) (Word.toBytes value)).byte place).toNat = (m.byte place).toNat :=
    congrArg UInt8.toNat (before 0 later)
  have at_first := inside 0 (by decide)
  have at_second := inside 1 (by decide)
  have at_third := inside 2 (by decide)
  have at_fourth := inside 3 (by decide)
  rw [toNat_wordAt, toNat_wordAt]
  interval_cases shift
  all_goals
    simp (disch := decide) only [before, Nat.add_assoc, Nat.add_zero, Nat.reduceAdd, Nat.reduceSub,
      Nat.reducePow] at *
    omega

theorem word_of_writeWord {offset value place old : Word} {after : Memory}
    (wrote : m.writeWord offset value = .ok after) (held : m.word place = .ok old) :
    ∃ w, after.word place = .ok w ∧
      (∀ shift ≤ 4, place.toNat = offset.toNat + shift → w.toNat =
        value.toNat / 256 ^ shift + 256 ^ (4 - shift) * (old.toNat / 256 ^ (4 - shift))) ∧
      ∀ shift ≤ 4, offset.toNat = place.toNat + shift → w.toNat =
        old.toNat % 256 ^ shift + 256 ^ shift * (value.toNat % 256 ^ (4 - shift)) := by
  obtain ⟨-, rfl⟩ := (writeBytes_eq_ok_iff (toBytes_lt value)).mp wrote
  obtain ⟨inside, rfl⟩ := word_eq_ok_iff.mp held
  refine ⟨_, word_eq_ok_iff.mpr ⟨by rwa [size_setBytes], rfl⟩, ?_, ?_⟩
  · intro shift near after
    rw [after]
    exact toNat_wordAt_above m offset.toNat value near
  · intro shift near before
    rw [before]
    exact toNat_wordAt_below m place.toNat value near

theorem le_size_iff_words (access : Access) {size : Nat} (small : size < 2 ^ 64) :
    access.offset.toUInt64 + UInt64.ofNat access.length ≤ UInt64.ofNat size ↔
      access.offset.toNat + access.length ≤ size := by
  have offset_lt : access.offset.toNat < 2 ^ 32 := access.offset.toNat_lt
  have length_lt : access.length < 2 ^ 32 := access.length_lt
  rw [UInt64.le_iff_toNat_le, UInt64.toNat_add, UInt32.toNat_toUInt64,
    UInt64.toNat_ofNat_of_lt' (show access.length < UInt64.size by rw [UInt64.size]; omega),
    UInt64.toNat_ofNat_of_lt' (show size < UInt64.size from small), Nat.mod_eq_of_lt (by omega)]

/-- In any memory and after any run of accesses, an access succeeds if and only if its range ends within the
current size in unbounded arithmetic, which is also what a check in words of 64 bits says. An access never changes
the size; one that fails changes nothing; one that succeeds changes the bytes of its range to those it writes, and
no others. Every byte is then what the last successful write over it has left, or what it was at first, and ranges
and words are read as these bytes. A word written is read back, and a word that overlaps it by some bytes takes
these from it and keeps its other bytes. -/
theorem accesses_exact (m : Memory) (earlier : List Access) (access : Access) :
    let log := (m.performAll earlier).1
    let now := (m.performAll earlier).2
    let answer := (now.perform access).1
    let next := (now.perform access).2
    let content := fun x => (lastLeft? log x).getD (m.byte x)
    (answer.isOk = true ↔ access.offset.toNat + access.length ≤ now.size) ∧
    (now.size < 2 ^ 64 → (answer.isOk = true ↔
      access.offset.toUInt64 + UInt64.ofNat access.length ≤ UInt64.ofNat now.size)) ∧
    now.size = m.size ∧ next.size = now.size ∧
    (answer.isOk = false → next = now) ∧
    (answer.isOk = true → ∀ x, next.byte x =
      if access.offset.toNat ≤ x then (access.data[x - access.offset.toNat]?).getD (now.byte x)
      else now.byte x) ∧
    (∀ x, now.byte x = content x) ∧
    (∀ offset len, access = .slice offset len → answer.isOk = true →
      answer = .ok (.bytes ((List.range len.toNat).map fun i => content (offset.toNat + i)))) ∧
    (∀ offset, access = .word offset → answer.isOk = true →
      ∃ w, answer = .ok (.word w) ∧ w.toNat = (content offset.toNat).toNat +
        256 * ((content (offset.toNat + 1)).toNat + 256 * ((content (offset.toNat + 2)).toNat +
          256 * (content (offset.toNat + 3)).toNat))) ∧
    ∀ offset value after, now.writeWord offset value = .ok after → after.word offset = .ok value ∧
      ∀ place old, now.word place = .ok old → ∃ w, after.word place = .ok w ∧
        (∀ shift ≤ 4, place.toNat = offset.toNat + shift → w.toNat =
          value.toNat / 256 ^ shift + 256 ^ (4 - shift) * (old.toNat / 256 ^ (4 - shift))) ∧
        ∀ shift ≤ 4, offset.toNat = place.toNat + shift → w.toNat =
          old.toNat % 256 ^ shift + 256 ^ shift * (value.toNat % 256 ^ (4 - shift)) := by
  intro log now answer next content
  have success : answer.isOk = true ↔ access.offset.toNat + access.length ≤ now.size :=
    isOk_perform_iff
  have performed (ok : answer.isOk = true) : now.perform access =
      (.ok (now.answer access), now.setBytes access.offset.toNat access.data) :=
    perform_of_inside (success.mp ok)
  have held : ∀ x, now.byte x = content x := byte_performAll m earlier
  refine ⟨success, ?_, size_performAll m earlier, size_perform now access, ?_, ?_, held, ?_, ?_, ?_⟩
  · intro small
    rw [success, le_size_iff_words access small]
  · intro failed
    have outside : now.size < access.offset.toNat + access.length := by
      apply Nat.not_le.mp
      intro inside
      cases failed.symm.trans (success.mpr inside)
    exact congrArg Prod.snd (perform_of_outside outside)
  · intro ok x
    show (now.perform access).2.byte x = _
    rw [performed ok, byte_setBytes]
  · rintro offset len rfl ok
    have answered : answer = .ok (.bytes (now.bytes offset.toNat len.toNat)) :=
      congrArg Prod.fst (performed ok)
    rw [answered, bytes]
    simp only [held]
  · rintro offset rfl ok
    refine ⟨now.wordAt offset.toNat, congrArg Prod.fst (performed ok), ?_⟩
    rw [toNat_wordAt, held, held, held, held]
  · intro offset value after wrote
    refine ⟨?_, fun place old => word_of_writeWord wrote⟩
    obtain ⟨inside, rfl⟩ := (writeBytes_eq_ok_iff (toBytes_lt value)).mp wrote
    exact word_eq_ok_iff.mpr ⟨by rwa [size_setBytes], wordAt_setBytes_toBytes ..⟩

/-- Two words over each other and one that is refused: the word read across them has a byte of the first and three
of the second. -/
theorem accesses_exact_overlapping :
    let earlier : List Access := [.writeWord 0 0x44332211, .writeWord 2 0x88776655, .writeWord 6 0xffffffff]
    let run := (zeroed 8).performAll earlier
    run.1.map Prod.snd = [.ok .written, .ok .written, .error (.memoryFault 6 4 8)] ∧
      (run.2.perform (.word 1)).1 = .ok (.word 0x77665522) := by
  intro earlier run
  obtain ⟨success, -, size_eq, -, -, -, -, -, words, -⟩ := accesses_exact (zeroed 8) earlier (.word 1)
  have inside : (1 : Word).toNat + 4 ≤ run.2.size := by
    rw [size_eq]
    decide
  obtain ⟨w, answered, value⟩ := words 1 rfl (success.mpr inside)
  have bytes : w.toNat = (0x77665522 : Word).toNat := value.trans (by decide)
  refine ⟨rfl, ?_⟩
  rw [answered, UInt32.toNat_inj.mp bytes]

end LispHost.Memory
