import LispHost.Proofs.Decode.Following
import LispHost.Proofs.Guest.Calls
import LispHost.Proofs.Memory.Bytes
import LispHost.Proofs.View.Resolved

/-!
Content of a live heap.

What a decode shows of a live heap is what the words reached from its root are classified as, the words of
their rows, and the lengths and bytes of their string records. Two states of a guest with the same content
may differ in everything else: how large the memory is, where rows and records lie in it, and all its other
bytes.
-/

set_option autoImplicit false

namespace LispHost

variable {σ : Type}

namespace Row

private theorem mem_of_cell {row : Row} {index : Nat} {w : Word} (read : row.cell index = .ok w) :
    w ∈ row.cells := by
  rw [cell] at read
  split at read
  · rename_i found
    cases read
    exact List.mem_of_getElem? found
  · cases read

theorem mem_of_duo {row : Row} {parts : Word × Word} (read : row.duo = .ok parts) :
    parts.1 ∈ row.cells ∧ parts.2 ∈ row.cells := by
  obtain ⟨_, -, read⟩ := exists_of_bind_eq_ok read
  obtain ⟨car, car_read, read⟩ := exists_of_bind_eq_ok read
  obtain ⟨cdr, cdr_read, read⟩ := exists_of_bind_eq_ok read
  cases read
  exact ⟨mem_of_cell car_read, mem_of_cell cdr_read⟩

theorem mem_of_sym {row : Row} {handle : Word} (read : row.sym = .ok handle) :
    handle ∈ row.cells := by
  obtain ⟨_, -, read⟩ := exists_of_bind_eq_ok read
  exact mem_of_cell read

end Row

namespace DecodingContext

/-- A row with these words lies at an address of the exported memory. -/
def RowLies (ctx : DecodingContext σ) (inst : Instance σ) (address : Word) (width : Nat)
    (words : List Word) : Prop :=
  ∃ memory ∈ inst.exportedMemory ctx.memory, address.toNat + 4 * width ≤ memory.size ∧
    Word.listOfBytes (memory.bytes address.toNat (4 * width)) = words

/-- A string record with this length and these bytes lies at an address of the exported memory. -/
def RecordLies (ctx : DecodingContext σ) (inst : Instance σ) (address len : Word)
    (data : List UInt8) : Prop :=
  ∃ memory ∈ inst.exportedMemory ctx.memory, address.toNat + 4 + len.toNat ≤ memory.size ∧
    memory.wordAt address.toNat = len ∧ memory.bytes (address.toNat + 4) len.toNat = data

variable {ctx : DecodingContext σ} {inst next : Instance σ}

theorem memoryOf_eq_ok_iff {name : String} {memory : Memory} :
    inst.memoryOf name = .ok memory ↔ memory ∈ inst.exportedMemory name := by
  rw [Instance.memoryOf]
  cases inst.exportedMemory name <;> simp

theorem bind_memoryOf {α : Type} {name : String} {memory : Memory}
    (exported : memory ∈ inst.exportedMemory name) (f : Memory → Except Error α) :
    (inst.memoryOf name >>= f) = f memory := by
  rw [memoryOf_eq_ok_iff.mpr exported]
  rfl

theorem rowLies_iff {address : Word} {width : Nat} {words : List Word} :
    ctx.RowLies inst address width words ↔
      inst.guest.exportsMemory ctx.memory = true ∧ address.toNat + 4 * width ≤ inst.memory.size ∧
        Word.listOfBytes (inst.memory.bytes address.toNat (4 * width)) = words := by
  rw [RowLies, Instance.exportedMemory]
  cases inst.guest.exportsMemory ctx.memory <;> simp

theorem recordLies_iff {address len : Word} {data : List UInt8} :
    ctx.RecordLies inst address len data ↔
      inst.guest.exportsMemory ctx.memory = true ∧
        address.toNat + 4 + len.toNat ≤ inst.memory.size ∧
        inst.memory.wordAt address.toNat = len ∧
        inst.memory.bytes (address.toNat + 4) len.toNat = data := by
  rw [RecordLies, Instance.exportedMemory]
  cases inst.guest.exportsMemory ctx.memory <;> simp

theorem toNat_rowBytes {tag : Tag} {width : Nat} (wide : tag.rowWidth = some width) :
    (UInt32.ofNat (4 * width)).toNat = 4 * width := by
  cases tag with
  | duo | sym =>
    cases wide
    rfl
  | int | sys | unknown code => cases wide

theorem exists_of_rowOf {tag : Tag} {raw : Word} {row : Row}
    (read : ctx.rowOf tag raw inst = (.ok row, next)) :
    ∃ width code address words, tag.rowWidth = some width ∧ ctx.tags.codeOf tag = some code ∧
      inst.callWord ctx.row [code, raw] = (.ok address, next) ∧
      ctx.RowLies next address width words ∧ row = ⟨tag, words⟩ := by
  rw [rowOf] at read
  cases wide : tag.rowWidth with
  | none =>
    rw [wide] at read
    cases congrArg Prod.fst read
  | some width =>
    cases coded : ctx.tags.codeOf tag with
    | none =>
      rw [wide, coded] at read
      cases congrArg Prod.fst read
    | some code =>
      rw [wide, coded] at read
      cases called : inst.callWord ctx.row [code, raw] with
      | mk answer after =>
      simp only [called] at read
      cases answer with
      | error e => cases congrArg Prod.fst read
      | ok address =>
        cases copied : ctx.slice after address (UInt32.ofNat (4 * width)) with
        | error e =>
          simp only [copied] at read
          cases congrArg Prod.fst read
        | ok data =>
          simp only [copied] at read
          cases read
          obtain ⟨memory, exported, sliced⟩ := exists_of_bind_eq_ok copied
          obtain ⟨inside, rfl⟩ := Memory.slice_eq_ok_iff.mp sliced
          rw [toNat_rowBytes wide] at inside ⊢
          exact ⟨width, code, address, _, rfl, rfl, called,
            ⟨memory, memoryOf_eq_ok_iff.mp exported, inside, rfl⟩, rfl⟩

theorem rowOf_of_lies {tag : Tag} {width : Nat} {code raw address : Word} {words : List Word}
    (wide : tag.rowWidth = some width) (coded : ctx.tags.codeOf tag = some code)
    (called : inst.callWord ctx.row [code, raw] = (.ok address, next))
    (lies : ctx.RowLies next address width words) :
    ctx.rowOf tag raw inst = (.ok ⟨tag, words⟩, next) := by
  obtain ⟨memory, exported, inside, rfl⟩ := lies
  have copied : ctx.slice next address (UInt32.ofNat (4 * width)) =
      .ok (memory.bytes address.toNat (4 * width)) := by
    rw [slice, bind_memoryOf exported, Memory.slice_eq_ok_iff, toNat_rowBytes wide]
    exact ⟨inside, rfl⟩
  rw [rowOf, wide, coded]
  simp only [called, copied, Except.map]

theorem rowOf_of_error {tag : Tag} {width : Nat} {code raw : Word} {e : Error}
    (wide : tag.rowWidth = some width) (coded : ctx.tags.codeOf tag = some code)
    (failed : inst.callWord ctx.row [code, raw] = (.error e, next)) :
    ctx.rowOf tag raw inst = (.error e, next) := by
  rw [rowOf, wide, coded]
  simp only [failed]

/-- The leaf of a symbol whose record has this length and these bytes. -/
def leafOf (raw handle len : Word) (data : List UInt8) : Survey :=
  match Text.Utf8.decode? data with
  | some text => .sym raw handle text
  | none => .undecodable raw handle len

/-- The text of a record with this length and these bytes, if it is text. -/
def textOf (handle len : Word) (data : List UInt8) : Except Error String :=
  match Text.Utf8.decode? data with
  | some text => .ok text
  | none => .error (.encoding handle len)

private theorem ofName_textOf (raw handle len : Word) (data : List UInt8) :
    Survey.ofName raw handle (textOf handle len data) = .ok (leafOf raw handle len data) := by
  rw [leafOf, textOf]
  cases Text.Utf8.decode? data <;> rfl

private theorem callWord_ne_encoding {f : Func σ} {args : List Word} {handle len : Word} :
    (inst.callWord f args).1 ≠ .error (.encoding handle len) := by
  rw [Instance.callWord]
  split
  · simp
  · simp [Error.signature]
  · rename_i e after called
    have carried := Instance.callFunc_error called
    cases carried <;> simp

private theorem eq_encoding_of_ofName {raw handle : Word} {e : Error} {leaf : Survey}
    (named : Survey.ofName raw handle (.error e) = .ok leaf) :
    ∃ given len, e = .encoding given len := by
  cases e with
  | encoding given len => exact ⟨given, len, rfl⟩
  | memoryFault | unbound | alreadyBound | guestExit | missingRow | compilation | instantiation
  | execution | exportNotFound | typeMismatch | config | file | internal => cases named

private theorem record_of_ofName {memory : Memory} {raw handle address : Word} {leaf : Survey}
    (named : Survey.ofName raw handle (stringAt memory handle address) = .ok leaf) :
    ∃ len data, address.toNat + 4 < wordCount ∧
      address.toNat + 4 + len.toNat ≤ memory.size ∧ memory.wordAt address.toNat = len ∧
      memory.bytes (address.toNat + 4) len.toNat = data ∧ leaf = leafOf raw handle len data := by
  rw [stringAt] at named
  cases measured : memory.word address with
  | error e =>
    rw [measured] at named
    obtain ⟨given, len, rfl⟩ := eq_encoding_of_ofName named
    cases Memory.eq_fault_of_word measured
  | ok len =>
    rw [measured] at named
    simp only [bind, Except.bind] at named
    obtain ⟨-, length⟩ := Memory.word_eq_ok_iff.mp measured
    cases advanced : Memory.advance address 4 with
    | none =>
      rw [advanced] at named
      cases named
    | some start =>
      have reached : start.toNat = address.toNat + 4 := Memory.toNat_advance advanced
      have unwrapped : start.toNat < wordCount := start.toNat_lt
      cases copied : memory.slice start len with
      | error e =>
        simp only [advanced, copied] at named
        obtain ⟨given, len, rfl⟩ := eq_encoding_of_ofName named
        cases Memory.eq_fault_of_slice copied
      | ok data =>
        simp only [advanced, copied] at named
        obtain ⟨inside, bytes⟩ := Memory.slice_eq_ok_iff.mp copied
        rw [reached] at inside bytes unwrapped
        have shown := (ofName_textOf raw handle len data).symm.trans named
        exact ⟨len, data, unwrapped, inside, length, bytes, (Except.ok.inj shown).symm⟩

theorem stringAt_of_record {memory : Memory} {address len : Word} {data : List UInt8}
    (handle : Word) (unwrapped : address.toNat + 4 < wordCount)
    (inside : address.toNat + 4 + len.toNat ≤ memory.size)
    (length : memory.wordAt address.toNat = len)
    (bytes : memory.bytes (address.toNat + 4) len.toNat = data) :
    stringAt memory handle address = textOf handle len data := by
  have measured : memory.word address = .ok len := Memory.word_eq_ok_iff.mpr ⟨by omega, length⟩
  have advanced : Memory.advance address 4 = some (address + 4) := Memory.advance_of_lt unwrapped
  have reached : (address + 4).toNat = address.toNat + 4 := Memory.toNat_advance advanced
  have copied : memory.slice (address + 4) len = .ok data :=
    Memory.slice_eq_ok_iff.mpr (by rw [reached]; exact ⟨inside, bytes⟩)
  rw [stringAt, measured]
  simp only [bind, Except.bind, advanced, copied]
  rfl

theorem exists_of_askName {raw handle : Word} {leaf : Survey}
    (asked : ctx.reader.askName raw handle inst = (.ok leaf, next)) :
    ∃ address len data, inst.callWord ctx.string [handle] = (.ok address, next) ∧
      address.toNat + 4 < wordCount ∧ ctx.RecordLies next address len data ∧
      leaf = leafOf raw handle len data := by
  have ne_encoding := @callWord_ne_encoding σ inst ctx.string [handle]
  rw [HeapReader.askName] at asked
  change (Survey.ofName raw handle (ctx.stringOf handle inst).1, (ctx.stringOf handle inst).2) = _
    at asked
  rw [stringOf] at asked
  cases called : inst.callWord ctx.string [handle] with
  | mk answer after =>
  rw [called] at asked ne_encoding
  cases answer with
  | error e =>
    -- The only failure that still gives a leaf comes from the bytes of a record, not from the guest.
    obtain ⟨given, len, rfl⟩ := eq_encoding_of_ofName (congrArg Prod.fst asked)
    exact absurd rfl ne_encoding
  | ok address =>
    obtain rfl : after = next := congrArg Prod.snd asked
    have named : Survey.ofName raw handle
        (after.memoryOf ctx.memory >>= fun memory => stringAt memory handle address) = .ok leaf :=
      congrArg Prod.fst asked
    cases exported : after.exportedMemory ctx.memory with
    | none =>
      rw [Instance.memoryOf, exported] at named
      cases named
    | some memory =>
      rw [bind_memoryOf exported] at named
      obtain ⟨len, data, unwrapped, inside, length, bytes, shown⟩ := record_of_ofName named
      exact ⟨address, len, data, rfl, unwrapped, ⟨memory, exported, inside, length, bytes⟩, shown⟩

theorem askName_of_error {raw handle : Word} {e : Error}
    (failed : inst.callWord ctx.string [handle] = (.error e, next)) :
    ctx.reader.askName raw handle inst = (.error e, next) := by
  have ne_encoding := @callWord_ne_encoding σ inst ctx.string [handle]
  rw [failed] at ne_encoding
  have named : ctx.stringOf handle inst = (.error e, next) := by
    rw [stringOf, failed]
  change (Survey.ofName raw handle (ctx.stringOf handle inst).1, (ctx.stringOf handle inst).2) = _
  rw [named]
  cases e with
  | encoding given len => exact absurd rfl ne_encoding
  | memoryFault | unbound | alreadyBound | guestExit | missingRow | compilation | instantiation
  | execution | exportNotFound | typeMismatch | config | file | internal => rfl

/-- A name is had from a record that lies where the guest says, provided its bytes start within the
address space. -/
theorem askName_of_lies {raw handle address len : Word} {data : List UInt8}
    (called : inst.callWord ctx.string [handle] = (.ok address, next))
    (unwrapped : address.toNat + 4 < wordCount) (lies : ctx.RecordLies next address len data) :
    ctx.reader.askName raw handle inst = (.ok (leafOf raw handle len data), next) := by
  obtain ⟨memory, exported, inside, length, bytes⟩ := lies
  have read : (next.memoryOf ctx.memory >>= fun memory => stringAt memory handle address) =
      textOf handle len data := by
    rw [bind_memoryOf exported]
    exact stringAt_of_record handle unwrapped inside length bytes
  have named : ctx.stringOf handle inst =
      (next.memoryOf ctx.memory >>= fun memory => stringAt memory handle address, next) := by
    rw [stringOf, called]
  change (Survey.ofName raw handle (ctx.stringOf handle inst).1, (ctx.stringOf handle inst).2) = _
  rw [named, read, ofName_textOf]

/-! ### Two states with the same content -/

/-- The string record of a handle in the first instance has a record of the same length and bytes in the
second, wherever it lies. -/
def StringCarried (ctx : DecodingContext σ) (Related : Instance σ → Instance σ → Prop) (handle : Word)
    (first second : Instance σ) : Prop :=
  ∀ address len data first', first.callWord ctx.string [handle] = (.ok address, first') →
    ctx.RecordLies first' address len data →
    ∃ address' second', second.callWord ctx.string [handle] = (.ok address', second') ∧
      address'.toNat + 4 < wordCount ∧ ctx.RecordLies second' address' len data ∧
      Related first' second'

/-- The row of a word in the first instance has a row of the same words in the second, wherever it lies,
and with the row of a symbol its string record is carried. -/
def RowCarried (ctx : DecodingContext σ) (Related : Instance σ → Instance σ → Prop) (tag : Tag)
    (raw : Word) (first second : Instance σ) : Prop :=
  ∀ width code address words first', tag.rowWidth = some width → ctx.tags.codeOf tag = some code →
    first.callWord ctx.row [code, raw] = (.ok address, first') →
    ctx.RowLies first' address width words →
    ∃ address' second', second.callWord ctx.row [code, raw] = (.ok address', second') ∧
      ctx.RowLies second' address' width words ∧ Related first' second' ∧
      (tag = .sym → ∀ handle ∈ words, ctx.StringCarried Related handle first' second')

/-- A word is classified in the second instance as in the first, and its row is carried. -/
def WordCarried (ctx : DecodingContext σ) (Related : Instance σ → Instance σ → Prop) (raw : Word)
    (first second : Instance σ) : Prop :=
  ∀ tag first', ctx.tagOfValue raw first = (.ok tag, first') →
    ∃ second', ctx.tagOfValue raw second = (.ok tag, second') ∧ Related first' second' ∧
      ctx.RowCarried Related tag raw first' second'

/-- A word is reached from the root in so many steps from a pair to one of its parts, read in the first
of two related instances. -/
inductive Reached (ctx : DecodingContext σ) (Related : Instance σ → Instance σ → Prop) (root : Word) :
    Nat → Word → Prop
  | root : Reached ctx Related root 0 root
  | part {steps : Nat} {raw part : Word} {row : Row} {first second first' first'' : Instance σ}
      (reached : Reached ctx Related root steps raw) (related : Related first second)
      (tagged : ctx.tagOfValue raw first = (.ok .duo, first'))
      (read : ctx.rowOf .duo raw first' = (.ok row, first'')) (member : part ∈ row.cells) :
      Reached ctx Related root (steps + 1) part

/-- Related instances have the same content at every word reached from the root within the bound. -/
def ContentCarried (ctx : DecodingContext σ) (Related : Instance σ → Instance σ → Prop) (root : Word)
    (bound : Nat) : Prop :=
  ∀ steps raw, ctx.Reached Related root steps raw → steps ≤ bound →
    ∀ first second, Related first second → ctx.WordCarried Related raw first second

variable {Related : Instance σ → Instance σ → Prop} {root : Word} {bound : Nat}

private theorem rowOf_of_carried {tag : Tag} {raw : Word} {row : Row}
    {first second first' : Instance σ} (carried : ctx.RowCarried Related tag raw first second)
    (read : ctx.rowOf tag raw first = (.ok row, first')) :
    ∃ second', ctx.rowOf tag raw second = (.ok row, second') ∧ Related first' second' ∧
      (tag = .sym → ∀ handle ∈ row.cells, ctx.StringCarried Related handle first' second') := by
  obtain ⟨width, code, address, words, wide, coded, called, lies, rfl⟩ := exists_of_rowOf read
  obtain ⟨address', second', called', lies', related, strings⟩ :=
    carried width code address words first' wide coded called lies
  exact ⟨second', rowOf_of_lies wide coded called' lies', related, strings⟩

private theorem askName_of_carried {raw handle : Word} {leaf : Survey}
    {first second first' : Instance σ} (carried : ctx.StringCarried Related handle first second)
    (asked : ctx.reader.askName raw handle first = (.ok leaf, first')) :
    ∃ second', ctx.reader.askName raw handle second = (.ok leaf, second') ∧
      Related first' second' := by
  obtain ⟨address, len, data, called, -, lies, rfl⟩ := exists_of_askName asked
  obtain ⟨address', second', called', unwrapped, lies', related⟩ :=
    carried address len data first' called lies
  exact ⟨second', askName_of_lies called' unwrapped lies', related⟩

/-- The live heap in the second of two states with the same content follows the one in the first. -/
theorem ContentCarried.following (carried : ctx.ContentCarried Related root bound) :
    HeapReader.Following ctx.reader ctx.reader
      (fun levels raw => ∃ steps, ctx.Reached Related root steps raw ∧ steps + levels = bound + 1)
      Related fun _ _ => False where
  sentinels _ := rfl
  tagOf := by
    rintro levels raw first second ⟨steps, reached, within⟩ related
    refine .of_outcomes fun tag first' tagged => .inl ?_
    obtain ⟨second', tagged', related', -⟩ :=
      carried steps raw reached (by omega) first second related tag first' tagged
    exact ⟨second', tagged', related'⟩
  row := by
    rintro levels raw tag first first' second second' ⟨steps, reached, within⟩ related tagged
      tagged' -
    obtain ⟨after, classified, -, rows⟩ :=
      carried steps raw reached (by omega) first second related tag first' tagged
    obtain rfl : after = second' := congrArg Prod.snd (classified.symm.trans tagged')
    refine .of_outcomes fun row first'' read => .inl ?_
    obtain ⟨second'', read', related', -⟩ := rowOf_of_carried rows read
    exact ⟨second'', read', related'⟩
  parts := by
    rintro levels raw car cdr first first' first'' second row ⟨steps, reached, within⟩ related
      tagged read cells
    obtain ⟨car_in, cdr_in⟩ := Row.mem_of_duo cells
    exact ⟨⟨steps + 1, .part reached related tagged read car_in, by omega⟩,
      ⟨steps + 1, .part reached related tagged read cdr_in, by omega⟩⟩
  name := by
    rintro levels raw handle first first' first'' second second' second'' row
      ⟨steps, reached, within⟩ related tagged tagged' read read' cell -
    obtain ⟨after, classified, -, rows⟩ :=
      carried steps raw reached (by omega) first second related .sym first' tagged
    obtain rfl : after = second' := congrArg Prod.snd (classified.symm.trans tagged')
    obtain ⟨after', again, -, strings⟩ := rowOf_of_carried rows read
    obtain rfl : after' = second'' := congrArg Prod.snd (again.symm.trans read')
    exact .of_outcomes fun leaf last asked =>
      .inl (askName_of_carried (strings rfl handle (Row.mem_of_sym cell)) asked)

/-- What a decode shows in one state it shows in every state with the same content. -/
theorem ContentCarried.decode {options : DecodeOptions} {value : Word} {first second : Instance σ}
    (carried : ctx.ContentCarried Related value options.clamped.maxDepth)
    (related : Related first second) {shown : Projection}
    (decoded : (ctx.decode options value first).1 = .ok shown) :
    (ctx.decode options value second).1 = .ok shown := by
  have root : ∃ steps, ctx.Reached Related value steps value ∧
      steps + (options.clamped.maxDepth + 1) = options.clamped.maxDepth + 1 :=
    ⟨0, .root, Nat.zero_add _⟩
  rcases carried.following.decode root related shown decoded with ⟨same, -⟩ | ⟨_, _, impossible⟩
  · exact same
  · exact impossible.elim

end DecodingContext

end LispHost
