import LispHost.Guest.Instance
import LispHost.Proofs.Memory.Bytes
import Mathlib.Algebra.Ring.Nat

/-!
Vectored writes.

The guest lists segments in a table of word pairs. The host walks the table with words, and every sum
and product on the way may wrap. In a memory of at most `2 ^ 32` bytes an address that wraps would
lie outside anyway, so the walk succeeds exactly when, in unbounded arithmetic, the table and its
segments lie within the memory, and it then gathers the segments in table order. A write therefore
has three outcomes: the descriptor is refused, everything is in range and the write happens as a
whole, or it fails and only the failure is counted.
-/

set_option autoImplicit false

namespace LispHost

namespace SyscallHost

def listedAddress (memory : Memory) (table : Word) (index : Nat) : Nat :=
  (memory.wordAt (table.toNat + 8 * index)).toNat

def listedLength (memory : Memory) (table : Word) (index : Nat) : Nat :=
  (memory.wordAt (table.toNat + 8 * index + 4)).toNat

def listedBytes (memory : Memory) (table : Word) (index : Nat) : List UInt8 :=
  memory.bytes (listedAddress memory table index) (listedLength memory table index)

def lengthSum (memory : Memory) (table : Word) (n : Nat) : Nat :=
  ((List.range n).map (listedLength memory table)).sum

/-- The bytes of the first `n` segments that a table lists, in table order. -/
def listedData (memory : Memory) (table : Word) (n : Nat) : List UInt8 :=
  (List.range n).flatMap (listedBytes memory table)

/-- All that a write reads and stores lies within the memory, in unbounded arithmetic. -/
structure WriteInRange (memory : Memory) (table count nwritten : Word) : Prop where
  table_le : count.toNat = 0 ∨ table.toNat + 8 * count.toNat ≤ memory.size
  segment_le : ∀ i < count.toNat,
    listedAddress memory table i + listedLength memory table i ≤ memory.size
  total_le : nwritten.toNat + 4 ≤ memory.size

def EntryInRange (memory : Memory) (table : Word) (index : Nat) : Prop :=
  table.toNat + 8 * index + 8 ≤ memory.size ∧
    listedAddress memory table index + listedLength memory table index ≤ memory.size

private theorem entryOffset_of_lt {index : Word} (small : 8 * index.toNat < wordCount) :
    entryOffset index = some (index * 8) :=
  if_pos (by omega)

private theorem toNat_entryOffset {index offset : Word} (scaled : entryOffset index = some offset) :
    offset.toNat = 8 * index.toNat := by
  obtain ⟨small, same⟩ := Option.ite_none_right_eq_some.mp scaled
  cases same
  have eight : UInt32.toNat 8 = 8 := rfl
  rw [wordCount] at small
  rw [UInt32.toNat_mul, eight]
  omega

private theorem toNat_four : UInt32.toNat 4 = 4 := rfl

/-- The segment of an entry within the memory: no address on the way wraps. -/
theorem segment_of_entryInRange {memory : Memory} {table index : Word}
    (size_le : memory.size ≤ wordCount) (inRange : EntryInRange memory table index.toNat) :
    segment memory table index =
      some (listedBytes memory table index.toNat,
        memory.wordAt (table.toNat + 8 * index.toNat + 4)) := by
  obtain ⟨entry_le, segment_le⟩ := inRange
  have scaled : entryOffset index = some (index * 8) := entryOffset_of_lt (by omega)
  have offset := toNat_entryOffset scaled
  have entered : Memory.advance table (index * 8) = some (table + index * 8) :=
    Memory.advance_of_lt (by omega)
  have entry := Memory.toNat_advance entered
  have passed : Memory.advance (table + index * 8) 4 = some (table + index * 8 + 4) :=
    Memory.advance_of_lt (by rw [toNat_four]; omega)
  have field := Memory.toNat_advance passed
  rw [entry, offset, toNat_four] at field
  rw [offset] at entry
  have atEntry := Memory.readWord?_eq_some_iff.mpr
    ⟨show table.toNat + 8 * index.toNat + 4 ≤ memory.size by omega, rfl⟩
  have atField := Memory.readWord?_eq_some_iff.mpr
    ⟨show table.toNat + 8 * index.toNat + 4 + 4 ≤ memory.size by omega, rfl⟩
  have inside := Memory.read?_eq_some_iff.mpr ⟨segment_le, rfl⟩
  simp only [segment, scaled, entered, passed, entry, field, atEntry, atField,
    Option.bind_eq_bind, Option.bind_some]
  exact congrArg (Option.bind · _) inside

theorem eq_of_segment {memory : Memory} {table index : Word} {found : List UInt8 × Word}
    (read : segment memory table index = some found) :
    found = (listedBytes memory table index.toNat,
      memory.wordAt (table.toNat + 8 * index.toNat + 4)) := by
  simp only [segment, Option.bind_eq_bind, Option.bind_eq_some_iff] at read
  obtain ⟨offset, scaled, entry, entered, field, passed, address, atEntry, length, atField,
    data, inside, same⟩ := read
  have entry_eq := Memory.toNat_advance entered
  have field_eq := Memory.toNat_advance passed
  rw [toNat_entryOffset scaled] at entry_eq
  rw [entry_eq, toNat_four] at field_eq
  rw [entry_eq] at atEntry
  rw [field_eq] at atField
  obtain ⟨-, rfl⟩ := Memory.readWord?_eq_some_iff.mp atEntry
  obtain ⟨-, rfl⟩ := Memory.readWord?_eq_some_iff.mp atField
  obtain ⟨-, rfl⟩ := Memory.read?_eq_some_iff.mp inside
  exact (Option.some.inj same).symm

theorem entryInRange_of_segment {memory : Memory} {table index : Word}
    {found : List UInt8 × Word} (read : segment memory table index = some found) :
    EntryInRange memory table index.toNat := by
  simp only [segment, Option.bind_eq_bind, Option.bind_eq_some_iff] at read
  obtain ⟨offset, scaled, entry, entered, field, passed, address, atEntry, length, atField,
    data, inside, -⟩ := read
  have entry_eq := Memory.toNat_advance entered
  have field_eq := Memory.toNat_advance passed
  rw [toNat_entryOffset scaled] at entry_eq
  rw [entry_eq, toNat_four] at field_eq
  rw [entry_eq] at atEntry
  rw [field_eq] at atField
  obtain ⟨-, rfl⟩ := Memory.readWord?_eq_some_iff.mp atEntry
  obtain ⟨field_le, rfl⟩ := Memory.readWord?_eq_some_iff.mp atField
  exact ⟨field_le, (Memory.read?_eq_some_iff.mp inside).1⟩

private theorem toNat_next_index {index : Word} {left : Nat}
    (counted : index.toNat + (left + 1) < wordCount) :
    (index + 1).toNat = index.toNat + 1 := by
  have one : UInt32.toNat 1 = 1 := rfl
  rw [wordCount] at counted
  rw [UInt32.toNat_add, one]
  omega

private theorem toNat_next_total (memory : Memory) (table : Word) {total : Word} {index : Nat}
    (small : total.toNat + listedLength memory table index < wordCount) :
    (total + memory.wordAt (table.toNat + 8 * index + 4)).toNat =
      total.toNat + listedLength memory table index := by
  rw [wordCount] at small
  rw [UInt32.toNat_add]
  exact Nat.mod_eq_of_lt small

/-- The loop invariant of the walk: after `total` bytes and before entry `index`, it gathers the
listed segments and adds their lengths, or fails at the first one out of range. -/
theorem gather_eq_ok {memory : Memory} {table : Word} (size_le : memory.size ≤ wordCount)
    (left : Nat) (index total : Word) (counted : index.toNat + left < wordCount)
    (sum_lt : total.toNat +
      ((List.range' index.toNat left).map (listedLength memory table)).sum < wordCount)
    (inRange : ∀ i ∈ List.range' index.toNat left, EntryInRange memory table i) :
    ∃ sum : Word, gather memory table left index total =
        .ok ((List.range' index.toNat left).flatMap (listedBytes memory table), sum) ∧
      sum.toNat =
        total.toNat + ((List.range' index.toNat left).map (listedLength memory table)).sum := by
  induction left generalizing index total with
  | zero => exact ⟨total, rfl, by simp⟩
  | succ left ih =>
    have next := toNat_next_index counted
    simp only [List.range'_succ, List.map_cons, List.sum_cons, List.flatMap_cons,
      List.forall_mem_cons] at sum_lt inRange ⊢
    have read := segment_of_entryInRange size_le inRange.1
    have first_lt : total.toNat + listedLength memory table index.toNat < wordCount := by omega
    have added := toNat_next_total memory table first_lt
    obtain ⟨sum, rest, sum_eq⟩ := ih (index + 1)
      (total + memory.wordAt (table.toNat + 8 * index.toNat + 4)) (by omega)
      (by rw [added, next]; omega) (by rw [next]; exact inRange.2)
    rw [next] at rest sum_eq
    refine ⟨sum, ?_, by omega⟩
    rw [gather, read]
    change (if wordCount ≤ total.toNat + listedLength memory table index.toNat then _ else _) = _
    rw [if_neg (by omega), rest]

/-- The walk fails if an entry is out of range, provided the lengths listed within the memory never
add up to a number that is no word. -/
theorem gather_eq_fault {memory : Memory} {table : Word} (size_le : memory.size ≤ wordCount)
    (left : Nat) (index total : Word) (counted : index.toNat + left < wordCount)
    (sum_lt : ∀ n ≤ left, table.toNat + 8 * (index.toNat + n) ≤ memory.size →
      total.toNat + ((List.range' index.toNat n).map (listedLength memory table)).sum < wordCount)
    (outside : ∃ i ∈ List.range' index.toNat left, ¬ EntryInRange memory table i) :
    gather memory table left index total = .error .fault := by
  induction left generalizing index total with
  | zero => simp at outside
  | succ left ih =>
    by_cases first : EntryInRange memory table index.toNat
    · have next := toNat_next_index counted
      have first_lt := sum_lt 1 (by omega) (by have := first.1; omega)
      simp only [List.range'_one, List.map_cons, List.map_nil, List.sum_cons, List.sum_nil,
        Nat.add_zero] at first_lt
      have added := toNat_next_total memory table first_lt
      have rest : gather memory table left (index + 1)
          (total + memory.wordAt (table.toNat + 8 * index.toNat + 4)) = .error .fault := by
        apply ih
        · omega
        · intro n n_le listed
          have sum := sum_lt (n + 1) (by omega) (by omega)
          rw [List.range'_succ, List.map_cons, List.sum_cons] at sum
          rw [added, next]
          omega
        · rw [next]
          obtain ⟨i, member, out⟩ := outside
          rcases List.mem_cons.mp (List.range'_succ ▸ member) with same | later
          · exact absurd (same ▸ first) out
          · exact ⟨i, later, out⟩
      rw [gather, segment_of_entryInRange size_le first]
      change (if wordCount ≤ total.toNat + listedLength memory table index.toNat then _ else _) = _
      rw [if_neg (by omega), rest]
    · cases read : segment memory table index with
      | none => rw [gather, read]
      | some found => exact absurd (entryInRange_of_segment read) first

theorem eq_of_gather {memory : Memory} {table : Word} (left : Nat) (index total : Word)
    (counted : index.toNat + left < wordCount) {data : List UInt8} {sum : Word}
    (gathered : gather memory table left index total = .ok (data, sum)) :
    data = (List.range' index.toNat left).flatMap (listedBytes memory table) ∧
      sum.toNat =
        total.toNat + ((List.range' index.toNat left).map (listedLength memory table)).sum := by
  induction left generalizing index total data with
  | zero =>
    cases gathered
    exact ⟨rfl, by simp⟩
  | succ left ih =>
    have next := toNat_next_index counted
    cases read : segment memory table index with
    | none =>
      rw [gather, read] at gathered
      cases gathered
    | some found =>
      obtain rfl := eq_of_segment read
      rw [gather, read] at gathered
      change (if wordCount ≤ total.toNat + listedLength memory table index.toNat then _ else _) = _
        at gathered
      split at gathered
      · cases gathered
      · rename_i small
        have added := toNat_next_total memory table (Nat.lt_of_not_le small)
        split at gathered
        · cases gathered
        · rename_i rest' sum' rest
          cases gathered
          obtain ⟨rfl, sum_eq⟩ := ih (index + 1) _ (by omega) rest
          rw [next, added] at sum_eq
          rw [List.range'_succ, next]
          refine ⟨rfl, ?_⟩
          rw [List.map_cons, List.sum_cons]
          omega

theorem ne_success_of_gather {memory : Memory} {table : Word} (left : Nat) (index total : Word)
    {e : Errno} (failed : gather memory table left index total = .error e) : e ≠ .success := by
  induction left generalizing index total with
  | zero => cases failed
  | succ left ih =>
    rw [gather] at failed
    split at failed
    · cases failed
      decide
    · split at failed
      · cases failed
        decide
      · split at failed
        · rename_i e' rest
          cases failed
          exact ih _ _ rest
        · cases failed

theorem length_listedData (memory : Memory) (table : Word) (n : Nat) :
    (listedData memory table n).length = lengthSum memory table n := by
  simp only [listedData, lengthSum, List.length_flatMap, listedBytes, Memory.length_bytes]

theorem eq_of_prepareWrite {memory next : Memory} {table count nwritten sum : Word}
    {data : List UInt8}
    (prepared : prepareWrite memory table count nwritten = .ok (data, sum, next)) :
    data = listedData memory table count.toNat ∧ sum.toNat = data.length := by
  rw [prepareWrite] at prepared
  split at prepared
  · cases prepared
  · rename_i gathered
    split at prepared
    · cases prepared
    · cases prepared
      have zero : UInt32.toNat 0 = 0 := rfl
      have small := count.toNat_lt
      obtain ⟨rfl, sum_eq⟩ := eq_of_gather count.toNat 0 0 (by rw [zero, wordCount]; omega) gathered
      rw [zero, ← List.range_eq_range'] at sum_eq ⊢
      refine ⟨rfl, ?_⟩
      change sum.toNat = (listedData memory table count.toNat).length
      rw [length_listedData, lengthSum, sum_eq, Nat.zero_add]

theorem ne_success_of_prepareWrite {memory : Memory} {table count nwritten : Word} {e : Errno}
    (failed : prepareWrite memory table count nwritten = .error e) : e ≠ .success := by
  rw [prepareWrite] at failed
  split at failed
  · rename_i gathered
    cases failed
    exact ne_success_of_gather _ _ _ gathered
  · split at failed
    · cases failed
      decide
    · cases failed

private theorem entryInRange_of_writeInRange {memory : Memory} {table count nwritten : Word}
    (inRange : WriteInRange memory table count nwritten) :
    ∀ i ∈ List.range' 0 count.toNat, EntryInRange memory table i := by
  intro i member
  have i_lt : i < count.toNat := by simpa using member
  have table_le := inRange.table_le
  exact ⟨by omega, inRange.segment_le i i_lt⟩

private theorem table_le_of_entryInRange {memory : Memory} {table count : Word}
    (listed : ∀ i ∈ List.range' 0 count.toNat, EntryInRange memory table i) :
    count.toNat = 0 ∨ table.toNat + 8 * count.toNat ≤ memory.size := by
  by_cases none : count.toNat = 0
  · exact .inl none
  · have last := (listed (count.toNat - 1) (by simp; omega)).1
    exact .inr (by omega)

theorem lengthSum_lt {memory : Memory} {table count : Word}
    (sum_lt : ∀ n ≤ count.toNat, table.toNat + 8 * n ≤ memory.size →
      lengthSum memory table n < wordCount)
    (table_le : count.toNat = 0 ∨ table.toNat + 8 * count.toNat ≤ memory.size) :
    lengthSum memory table count.toNat < wordCount := by
  rcases table_le with empty | whole
  · rw [empty]
    exact Nat.zero_lt_succ _
  · exact sum_lt count.toNat (Nat.le_refl _) whole

theorem prepareWrite_of_inRange {memory : Memory} {table count nwritten : Word}
    (size_le : memory.size ≤ wordCount)
    (sum_lt : lengthSum memory table count.toNat < wordCount)
    (inRange : WriteInRange memory table count nwritten) :
    ∃ sum : Word, sum.toNat = lengthSum memory table count.toNat ∧
      prepareWrite memory table count nwritten =
        .ok (listedData memory table count.toNat, sum,
          memory.setBytes nwritten.toNat (Word.toBytes sum)) := by
  have zero : UInt32.toNat 0 = 0 := rfl
  rw [lengthSum, List.range_eq_range'] at sum_lt
  obtain ⟨sum, gathered, sum_eq⟩ := gather_eq_ok size_le count.toNat 0 0
    (by have := count.toNat_lt; rw [zero, wordCount]; omega) (by rw [zero]; omega)
    (entryInRange_of_writeInRange inRange)
  rw [zero, Nat.zero_add] at sum_eq
  have stored := Memory.write?_eq_some_iff.mpr
    ⟨show nwritten.toNat + (Word.toBytes sum).length ≤ memory.size from inRange.total_le, rfl⟩
  refine ⟨sum, by rw [sum_eq, lengthSum, List.range_eq_range'], ?_⟩
  rw [prepareWrite, gathered]
  simp only [stored, listedData, List.range_eq_range', zero]

theorem prepareWrite_of_not_inRange {memory : Memory} {table count nwritten : Word}
    (size_le : memory.size ≤ wordCount)
    (sum_lt : ∀ n ≤ count.toNat, table.toNat + 8 * n ≤ memory.size →
      lengthSum memory table n < wordCount)
    (outside : ¬ WriteInRange memory table count nwritten) :
    prepareWrite memory table count nwritten = .error .fault := by
  have zero : UInt32.toNat 0 = 0 := rfl
  have counted : UInt32.toNat 0 + count.toNat < wordCount := by
    have := count.toNat_lt
    rw [zero, wordCount]
    omega
  by_cases listed : ∀ i ∈ List.range' 0 count.toNat, EntryInRange memory table i
  · have table_le := table_le_of_entryInRange listed
    have whole := lengthSum_lt sum_lt table_le
    rw [lengthSum, List.range_eq_range'] at whole
    obtain ⟨sum, gathered, -⟩ := gather_eq_ok size_le count.toNat 0 0 counted
      (by rw [zero]; omega) listed
    have total_gt : ¬ nwritten.toNat + 4 ≤ memory.size := by
      intro total_le
      refine outside ⟨table_le, fun i i_lt => ?_, total_le⟩
      exact (listed i (by simpa using i_lt)).2
    have refused : memory.write? nwritten.toNat (Word.toBytes sum) = none := if_neg total_gt
    rw [prepareWrite, gathered]
    simp only [refused]
  · have first : ∃ i ∈ List.range' 0 count.toNat, ¬ EntryInRange memory table i := by
      simpa using listed
    have faulted : gather memory table count.toNat 0 0 = .error .fault := by
      refine gather_eq_fault size_le count.toNat 0 0 counted (fun n n_le listed_le => ?_) first
      rw [zero, Nat.zero_add] at listed_le
      have sum := sum_lt n n_le listed_le
      rw [lengthSum, List.range_eq_range'] at sum
      rw [zero]
      omega
    rw [prepareWrite, faulted]

theorem fdWrite_of_inRange (host : SyscallHost) {memory : Memory} {fd : Word} {stream : Stream}
    {table count nwritten : Word} (descriptor : Stream.ofDescriptor? fd = some stream)
    (size_le : memory.size ≤ wordCount)
    (sum_lt : lengthSum memory table count.toNat < wordCount)
    (inRange : WriteInRange memory table count nwritten) :
    ∃ sum : Word, sum.toNat = lengthSum memory table count.toNat ∧
      host.fdWrite (some memory) fd table count nwritten =
        (.success, host.finishWrite stream (listedData memory table count.toNat) sum,
          some (memory.setBytes nwritten.toNat (Word.toBytes sum))) := by
  obtain ⟨sum, sum_eq, prepared⟩ := prepareWrite_of_inRange size_le sum_lt inRange
  refine ⟨sum, sum_eq, ?_⟩
  simp only [fdWrite, descriptor, prepared]

/-- A write out of range to a stream, or one without a memory, is counted as a fault. -/
theorem fdWrite_of_not_inRange (host : SyscallHost) {exported : Option Memory} {fd : Word}
    {stream : Stream} {table count nwritten : Word}
    (descriptor : Stream.ofDescriptor? fd = some stream)
    (size_le : ∀ memory ∈ exported, memory.size ≤ wordCount)
    (sum_lt : ∀ memory ∈ exported, ∀ n ≤ count.toNat, table.toNat + 8 * n ≤ memory.size →
      lengthSum memory table n < wordCount)
    (outside : ∀ memory ∈ exported, ¬ WriteInRange memory table count nwritten) :
    host.fdWrite exported fd table count nwritten = (.fault, host.countFault, exported) := by
  cases exported with
  | none => simp only [fdWrite, descriptor]
  | some memory =>
    have prepared := prepareWrite_of_not_inRange (size_le memory rfl) (sum_lt memory rfl)
      (outside memory rfl)
    simp only [fdWrite, descriptor, prepared]

end SyscallHost

theorem ofDescriptor?_eq_none_iff {fd : Word} :
    Stream.ofDescriptor? fd = none ↔ fd ≠ 1 ∧ fd ≠ 2 := by
  by_cases one : fd = 1
  · simp [Stream.ofDescriptor?, one]
  · by_cases two : fd = 2 <;> simp [Stream.ofDescriptor?, one, two]

theorem ofDescriptor?_eq_some_iff {fd : Word} {stream : Stream} :
    Stream.ofDescriptor? fd = some stream ↔
      fd = 1 ∧ stream = .stdout ∨ fd = 2 ∧ stream = .stderr := by
  by_cases one : fd = 1
  · simp [Stream.ofDescriptor?, one, eq_comm]
  · by_cases two : fd = 2 <;> simp [Stream.ofDescriptor?, one, two, eq_comm]

namespace Instance

variable {σ : Type}

theorem mem_exportedMemory {inst : Instance σ} {name : String} {memory : Memory} :
    memory ∈ inst.exportedMemory name ↔
      inst.guest.exportsMemory name = true ∧ inst.memory = memory := by
  simp [exportedMemory]

@[simp] theorem getD_exportedMemory (inst : Instance σ) (name : String) :
    (inst.exportedMemory name).getD inst.memory = inst.memory := by
  unfold exportedMemory
  split <;> rfl

/-- A bound write has exactly one of three outcomes. A descriptor that is neither output stream is
refused and counted. Otherwise, if everything lies in range in unbounded arithmetic, the four bytes
at `nwritten` become the summed lengths, the write is counted, and the console receives the segments,
as they were before the call, as one record unless they are empty. Otherwise only the fault is
counted. -/
theorem syscall_fdWrite (inst : Instance σ) {name : String}
    (bound : inst.host.binding = some name) (size_le : inst.memory.size ≤ wordCount)
    (fd table count nwritten : Word)
    (sum_lt : ∀ n ≤ count.toNat, table.toNat + 8 * n ≤ inst.memory.size →
      SyscallHost.lengthSum inst.memory table n < wordCount) :
    (fd ≠ 1 ∧ fd ≠ 2 ∧
      inst.syscall (.fdWrite fd table count nwritten) = (.value 8, { inst with
        host := { inst.host with metrics := { inst.host.metrics with
          badDescriptors := inst.host.metrics.badDescriptors + 1 } } })) ∨
    (∃ stream memory, (fd = 1 ∧ stream = .stdout ∨ fd = 2 ∧ stream = .stderr) ∧
      inst.guest.exportsMemory name = true ∧
      SyscallHost.WriteInRange inst.memory table count nwritten ∧
      memory.size = inst.memory.size ∧
      (memory.wordAt nwritten.toNat).toNat = SyscallHost.lengthSum inst.memory table count.toNat ∧
      (∀ address, address < nwritten.toNat ∨ nwritten.toNat + 4 ≤ address →
        memory.byte address = inst.memory.byte address) ∧
      inst.syscall (.fdWrite fd table count nwritten) = (.value 0, { inst with
        memory
        host := { inst.host with
          metrics := { inst.host.metrics with
            writes := inst.host.metrics.writes + 1
            bytesWritten := inst.host.metrics.bytesWritten +
              SyscallHost.lengthSum inst.memory table count.toNat }
          console :=
            if SyscallHost.listedData inst.memory table count.toNat = [] then inst.host.console
            else ⟨inst.host.console.records ++
              [⟨stream, SyscallHost.listedData inst.memory table count.toNat⟩]⟩ } })) ∨
    ((fd = 1 ∨ fd = 2) ∧
      ¬ (inst.guest.exportsMemory name = true ∧
        SyscallHost.WriteInRange inst.memory table count nwritten) ∧
      inst.syscall (.fdWrite fd table count nwritten) = (.value 21, { inst with
        host := { inst.host with metrics := { inst.host.metrics with
          faults := inst.host.metrics.faults + 1 } } })) := by
  cases descriptor : Stream.ofDescriptor? fd with
  | none =>
    obtain ⟨one, two⟩ := ofDescriptor?_eq_none_iff.mp descriptor
    refine .inl ⟨one, two, ?_⟩
    simp only [syscall, bound, SyscallHost.fdWrite, descriptor, getD_exportedMemory, Errno.raw]
  | some stream =>
    have fd_eq := ofDescriptor?_eq_some_iff.mp descriptor
    by_cases within : inst.guest.exportsMemory name = true ∧
        SyscallHost.WriteInRange inst.memory table count nwritten
    · obtain ⟨exports, inRange⟩ := within
      obtain ⟨sum, sum_eq, written⟩ := inst.host.fdWrite_of_inRange descriptor size_le
        (SyscallHost.lengthSum_lt sum_lt inRange.table_le) inRange
      refine .inr (.inl ⟨stream, inst.memory.setBytes nwritten.toNat (Word.toBytes sum), fd_eq,
        exports, inRange, Memory.size_setBytes .., ?_, ?_, ?_⟩)
      · rw [Memory.wordAt_setBytes_toBytes, sum_eq]
      · intro address outside
        exact inst.memory.byte_setBytes_of_outside outside
      · simp only [syscall, bound, exportedMemory, exports, if_true, written,
          SyscallHost.finishWrite, sum_eq, Option.getD_some, List.isEmpty_iff, Console.emit,
          Errno.raw]
    · refine .inr (.inr ⟨fd_eq.imp And.left And.left, within, ?_⟩)
      have faulted : inst.host.fdWrite (inst.exportedMemory name) fd table count nwritten =
          (.fault, inst.host.countFault, inst.exportedMemory name) := by
        apply SyscallHost.fdWrite_of_not_inRange _ descriptor
        · intro memory exported
          obtain ⟨-, rfl⟩ := mem_exportedMemory.mp exported
          exact size_le
        · intro memory exported
          obtain ⟨-, rfl⟩ := mem_exportedMemory.mp exported
          exact sum_lt
        · intro memory exported inRange
          obtain ⟨exports, rfl⟩ := mem_exportedMemory.mp exported
          exact within ⟨exports, inRange⟩
      simp only [syscall, bound, faulted, getD_exportedMemory, SyscallHost.countFault, Errno.raw]

/-- A bound instance whose table at address 16 lists two overlapping pieces of itself. -/
def selfListing : Instance Unit where
  guest :=
    { pages := 1, maxPages := none, table := 0, maxTable := none, data := [], globals := ()
      start := none, exports := [("memory", .memory)], linkable := true }
  limits := none
  memory := (Memory.zeroed 65536).setBytes 16 [16, 0, 0, 0, 4, 0, 0, 0, 18, 0, 0, 0, 4, 0, 0, 0]
  table := 0
  globals := ()
  host := { SyscallHost.new .default with binding := some "memory" }
  fuel := none

private theorem toNat_sixteen : UInt32.toNat 16 = 16 := rfl

private theorem listed_selfListing :
    SyscallHost.listedAddress selfListing.memory 16 0 = 16 ∧
    SyscallHost.listedLength selfListing.memory 16 0 = 4 ∧
    SyscallHost.listedAddress selfListing.memory 16 1 = 18 ∧
    SyscallHost.listedLength selfListing.memory 16 1 = 4 := by
  simp [SyscallHost.listedAddress, SyscallHost.listedLength, selfListing, Memory.wordAt,
    Memory.byte_setBytes, toNat_sixteen, Word.toNat_ofBytes]

/-- The total is stored over the first listed piece, and the record holds what stood there before. -/
theorem syscall_fdWrite_selfListing :
    selfListing.host.binding = some "memory" ∧ selfListing.memory.size ≤ wordCount ∧
    (∀ n ≤ UInt32.toNat 2, UInt32.toNat 16 + 8 * n ≤ selfListing.memory.size →
      SyscallHost.lengthSum selfListing.memory 16 n < wordCount) ∧
    (selfListing.syscall (.fdWrite 1 16 2 16)).1 = .value 0 ∧
    ((selfListing.syscall (.fdWrite 1 16 2 16)).2.memory.wordAt 16).toNat = 8 ∧
    (selfListing.syscall (.fdWrite 1 16 2 16)).2.host.console.records =
      [⟨.stdout, [16, 0, 0, 0, 0, 0, 4, 0]⟩] := by
  have two : UInt32.toNat 2 = 2 := rfl
  obtain ⟨address₀, length₀, address₁, length₁⟩ := listed_selfListing
  have size : selfListing.memory.size = 65536 := Memory.size_setBytes ..
  have sum_lt : ∀ n ≤ UInt32.toNat 2, UInt32.toNat 16 + 8 * n ≤ selfListing.memory.size →
      SyscallHost.lengthSum selfListing.memory 16 n < wordCount := by
    intro n n_le _
    have cases_n : n = 0 ∨ n = 1 ∨ n = 2 := by omega
    rcases cases_n with rfl | rfl | rfl <;>
      simp [SyscallHost.lengthSum, List.range_succ, length₀, length₁, wordCount]
  have bytes₀ : selfListing.memory.bytes 16 4 = [16, 0, 0, 0] := by
    simp [selfListing, Memory.bytes, Memory.byte_setBytes, List.range_succ]
  have bytes₁ : selfListing.memory.bytes 18 4 = [0, 0, 4, 0] := by
    simp [selfListing, Memory.bytes, Memory.byte_setBytes, List.range_succ]
  have data : SyscallHost.listedData selfListing.memory 16 2 = [16, 0, 0, 0, 0, 0, 4, 0] := by
    simp [SyscallHost.listedData, SyscallHost.listedBytes, List.range_succ, address₀, length₀,
      address₁, length₁, bytes₀, bytes₁]
  have inRange : SyscallHost.WriteInRange selfListing.memory 16 2 16 := by
    refine ⟨.inr (by rw [size, two, toNat_sixteen]; omega), fun i i_lt => ?_,
      by rw [size, toNat_sixteen]; omega⟩
    have cases_i : i = 0 ∨ i = 1 := by omega
    rcases cases_i with rfl | rfl
    · rw [address₀, length₀, size]
      omega
    · rw [address₁, length₁, size]
      omega
  refine ⟨rfl, by rw [size, wordCount]; omega, sum_lt, ?_⟩
  rcases selfListing.syscall_fdWrite (show _ = some "memory" from rfl)
      (by rw [size, wordCount]; omega) 1 16 2 16 sum_lt with
    ⟨refused, -⟩ | ⟨stream, memory, descriptor, -, -, -, total, -, answer⟩ | ⟨-, outside, -⟩
  · exact absurd rfl refused
  · obtain rfl : stream = .stdout := by simpa using descriptor
    rw [toNat_sixteen, two] at total
    rw [two, data] at answer
    rw [answer]
    refine ⟨rfl, ?_, rfl⟩
    rw [total]
    simp [SyscallHost.lengthSum, List.range_succ, length₀, length₁]
  · exact absurd ⟨rfl, inRange⟩ outside

end Instance

end LispHost
