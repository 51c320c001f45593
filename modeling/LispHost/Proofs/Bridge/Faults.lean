import LispHost.Proofs.Bridge.HandOff
import LispHost.Proofs.Bridge.Pages
import LispHost.Proofs.Guest.Minimal
import LispHost.Proofs.View.Content

/-!
Memory faults.

A memory fault names a range and the size of the memory. The host touches guest memory in five places: a word,
a range of bytes, a row, a string record and the buffer of a source. In each of them the range is checked
against the memory as the guest has just left it, counted without wrap-around, so what a fault names does not
lie within the memory, and what lies within it is never refused. The record in the last word of a whole address
space is the one exception: its length can be read, its bytes would start where no address is, and the fault
names the length word, which lies within the memory.
-/

set_option autoImplicit false

namespace LispHost

variable {σ α : Type}

/-- If the error is a memory fault, it names the size of this memory and a range that ends beyond it. -/
def Error.Outside (e : Error) (memory : Memory) : Prop :=
  ∀ offset len size, e = .memoryFault offset len size →
    size = memory.size ∧ size < offset.toNat + len.toNat

theorem Error.outside_of_other {e : Error} (other : e.isMemoryFault = false) (memory : Memory) :
    e.Outside memory := by
  rintro offset len size rfl
  cases other

theorem Error.Carried.isMemoryFault {e : Error} (carried : e.Carried) :
    e.isMemoryFault = false := by
  cases carried <;> rfl

namespace Memory

variable {memory : Memory}

theorem fault_outside {offset len : Word} (outside : memory.size < offset.toNat + len.toNat) :
    (memory.fault offset len).Outside memory := by
  rintro _ _ _ ⟨⟩
  exact ⟨rfl, outside⟩

theorem outside_of_slice {offset len : Word} {e : Error}
    (failed : memory.slice offset len = .error e) : e.Outside memory := by
  obtain rfl := eq_fault_of_slice failed
  apply fault_outside
  by_contra inside
  cases failed.symm.trans (slice_eq_ok_iff.mpr ⟨Nat.not_lt.mp inside, rfl⟩)

theorem outside_of_word {offset : Word} {e : Error} (failed : memory.word offset = .error e) :
    e.Outside memory := by
  obtain rfl := eq_fault_of_word failed
  apply fault_outside
  by_contra inside
  cases failed.symm.trans (word_eq_ok_iff.mpr ⟨Nat.not_lt.mp inside, rfl⟩)

theorem outside_of_writeBytes {address : Word} {data : List UInt8} {e : Error}
    (small : data.length < wordCount) (failed : memory.writeBytes address data = .error e) :
    e.Outside memory := by
  have beyond : memory.size < address.toNat + data.length := by
    by_contra inside
    cases failed.symm.trans ((writeBytes_eq_ok_iff small).mpr ⟨Nat.not_lt.mp inside, rfl⟩)
  have counted : (UInt32.ofNat data.length).toNat = data.length := UInt32.toNat_ofNat_of_lt' small
  rw [writeBytes_of_outside small beyond] at failed
  cases failed
  exact fault_outside (by rwa [counted])

end Memory

/-! ### Looking things up -/

namespace Guest

theorem isMemoryFault_of_func {guest : Guest σ} {name : String} {e : Error}
    (failed : guest.func name = .error e) : e.isMemoryFault = false := by
  rw [func] at failed
  split at failed
  · cases failed
  · cases failed
    rfl

theorem isMemoryFault_of_wordFunc {guest : Guest σ} {name : String} {arity : Nat} {e : Error}
    (failed : guest.wordFunc name arity = .error e) : e.isMemoryFault = false := by
  rw [wordFunc, typedFunc] at failed
  split at failed
  · rename_i absent
    cases failed
    exact isMemoryFault_of_func absent
  · split at failed
    · cases failed
    · cases failed
      rfl

end Guest

namespace Instance

theorem isMemoryFault_of_memoryOf {inst : Instance σ} {name : String} {e : Error}
    (failed : inst.memoryOf name = .error e) : e.isMemoryFault = false := by
  rw [memoryOf] at failed
  split at failed
  · cases failed
  · cases failed
    rfl

theorem isMemoryFault_of_wordsOf {name : String} {values : List Value} {e : Error}
    (failed : wordsOf name values = .error e) : e.isMemoryFault = false := by
  induction values with
  | nil => cases failed
  | cons value rest ih =>
    cases value with
    | i64 | f32 | f64 =>
      cases failed
      rfl
    | i32 word =>
      rw [wordsOf] at failed
      split at failed
      · cases failed
      · rename_i later
        cases failed
        exact ih later

/-- A call by name fails with what stopped the guest, or because it does not fit the function. -/
theorem isMemoryFault_of_call {inst next : Instance σ} {name : String} {args : List Word} {e : Error}
    (failed : inst.call name args = (.error e, next)) : e.isMemoryFault = false := by
  rw [call] at failed
  split at failed
  · rename_i absent
    cases failed
    exact Guest.isMemoryFault_of_func absent
  · split at failed
    · cases failed
      rfl
    · split at failed
      · cases failed
        rfl
      · split at failed
        · rename_i stopped
          cases failed
          exact (callFunc_error stopped).isMemoryFault
        · exact isMemoryFault_of_wordsOf (congrArg Prod.fst failed)

end Instance

/-! ### Accessors -/

namespace DecodingContext

/-- The guest has just answered that a string record starts in the last word of a memory that takes up the
whole address space. -/
def AtLastWord (ctx : DecodingContext σ) (inst : Instance σ) : Prop :=
  inst.memory.size = wordCount ∧
    ∃ (handle : Word) (before : Instance σ),
      before.callWord ctx.string [handle] = (.ok 0xfffffffc, inst)

/-- If the error is a memory fault, it names a range outside the memory, or the length word of such a
record. -/
def Faulted (ctx : DecodingContext σ) (e : Error) (inst : Instance σ) : Prop :=
  e.Outside inst.memory ∨ ctx.AtLastWord inst ∧ e = inst.memory.fault 0xfffffffc 4

variable {ctx : DecodingContext σ} {inst next : Instance σ}

/-- What fails on the exported memory fails because it is not exported or on the memory itself. -/
theorem failure_of_memoryOf {name : String} {f : Memory → Except Error α} {e : Error}
    (failed : (inst.memoryOf name >>= f) = .error e) :
    e.isMemoryFault = false ∨ f inst.memory = .error e := by
  rcases error_of_bind_eq_error failed with absent | ⟨memory, found, refused⟩
  · exact .inl (Instance.isMemoryFault_of_memoryOf absent)
  · obtain ⟨-, rfl⟩ := Instance.mem_exportedMemory.mp (memoryOf_eq_ok_iff.mp found)
    exact .inr refused

theorem outside_of_slice {offset len : Word} {e : Error}
    (failed : ctx.slice inst offset len = .error e) : e.Outside inst.memory := by
  rcases failure_of_memoryOf failed with other | refused
  · exact Error.outside_of_other other inst.memory
  · exact Memory.outside_of_slice refused

theorem outside_of_word {offset : Word} {e : Error} (failed : ctx.word inst offset = .error e) :
    e.Outside inst.memory := by
  rcases failure_of_memoryOf failed with other | refused
  · exact Error.outside_of_other other inst.memory
  · exact Memory.outside_of_word refused

theorem outside_of_tagOfValue (sound : ctx.Sound) {value : Word} {e : Error}
    (failed : ctx.tagOfValue value inst = (.error e, next)) : e.Outside next.memory := by
  rw [tagOfValue] at failed
  cases called : inst.callWord ctx.tagOf [value] with
  | mk answer after =>
  rw [called] at failed
  cases answer with
  | ok code => cases failed
  | error stopped =>
    cases failed
    have carried := Instance.callWord_error sound.tagOf called
    exact Error.outside_of_other carried.isMemoryFault _

theorem outside_of_rowOf (sound : ctx.Sound) {tag : Tag} {value : Word} {e : Error}
    (failed : ctx.rowOf tag value inst = (.error e, next)) : e.Outside next.memory := by
  rw [rowOf] at failed
  split at failed
  · split at failed
    · rename_i stopped
      cases failed
      have carried := Instance.callWord_error sound.row stopped
      exact Error.outside_of_other carried.isMemoryFault _
    · rename_i width _ _ _ _ address after _
      cases copied : ctx.slice after address (UInt32.ofNat (4 * width)) with
      | ok data =>
        rw [copied] at failed
        cases failed
      | error refused =>
        rw [copied] at failed
        cases failed
        exact outside_of_slice copied
  · cases failed
    exact Error.outside_of_other rfl _

/-- A record that cannot be read lies partly outside a memory of whole pages, or it starts in the last word
of the address space, or it is no text. -/
theorem stringAt_outside {memory : Memory} (paged : memory.Paged) {handle address : Word} {e : Error}
    (failed : stringAt memory handle address = .error e) :
    e.Outside memory ∨
      memory.size = wordCount ∧ address = 0xfffffffc ∧ e = memory.fault 0xfffffffc 4 := by
  rcases error_of_bind_eq_error failed with unread | ⟨len, measured, failed⟩
  · exact .inl (Memory.outside_of_word unread)
  · split at failed
    · rename_i wrapped
      -- The length word was read, so only the end of the address space is left for it.
      have inside : address.toNat + 4 ≤ memory.size := (Memory.word_eq_ok_iff.mp measured).1
      have most : memory.size ≤ 4294967296 := paged.size_le
      have beyond : ¬ address.toNat + 4 < 4294967296 := by
        intro small
        cases wrapped.symm.trans (Memory.advance_of_lt small)
      have last : address = 0xfffffffc :=
        UInt32.toNat_inj.mp (show address.toNat = 4294967292 by omega)
      subst last
      cases failed
      exact .inr ⟨show memory.size = 4294967296 by omega, rfl, rfl⟩
    · refine .inl ?_
      rcases error_of_bind_eq_error failed with unread | ⟨data, -, failed⟩
      · exact Memory.outside_of_slice unread
      · split at failed
        · cases failed
        · cases failed
          exact Error.outside_of_other rfl _

theorem faulted_of_stringOf (sound : ctx.Sound) (paged : inst.memory.Paged) {handle : Word}
    {e : Error} (failed : ctx.stringOf handle inst = (.error e, next)) : ctx.Faulted e next := by
  have next_paged := (ctx.ran_stringOf handle inst).paged paged
  rw [failed] at next_paged
  rw [stringOf] at failed
  cases called : inst.callWord ctx.string [handle] with
  | mk answer after =>
  rw [called] at failed
  cases answer with
  | error stopped =>
    cases failed
    have carried := Instance.callWord_error sound.string called
    exact .inl (Error.outside_of_other carried.isMemoryFault _)
  | ok address =>
    obtain rfl : after = next := congrArg Prod.snd failed
    have failed : (after.memoryOf ctx.memory >>= fun memory => stringAt memory handle address) =
        .error e := congrArg Prod.fst failed
    rcases failure_of_memoryOf failed with other | refused
    · exact .inl (Error.outside_of_other other _)
    · rcases stringAt_outside next_paged refused with outside | ⟨whole, rfl, last⟩
      · exact .inl outside
      · exact .inr ⟨⟨whole, handle, inst, called⟩, last⟩

/-! ### Decodes -/

private theorem ends_of_paged {answer : Except Error α} (paged : inst.memory.Paged)
    (faulted : ∀ e, answer = .error e → ctx.Faulted e inst) :
    Inquiry.Ends (fun inst => inst.memory.Paged)
      (fun e inst => inst.memory.Paged ∧ ctx.Faulted e inst) (answer, inst) := by
  cases answer with
  | ok a => exact paged
  | error e => exact ⟨paged, faulted e rfl⟩

private theorem reader_faults (sound : ctx.Sound) (detectCycles : Bool) :
    ctx.reader.Invariant detectCycles (fun inst => inst.memory.Paged)
      (fun e inst => inst.memory.Paged ∧ ctx.Faulted e inst) :=
  .of_accessors
    (fun value inst paged => ends_of_paged ((ctx.ran_tagOfValue value inst).paged paged)
      fun _ failed => .inl (outside_of_tagOfValue sound (Prod.ext failed rfl)))
    (fun tag value inst paged => ends_of_paged ((ctx.ran_rowOf tag value inst).paged paged)
      fun _ failed => .inl (outside_of_rowOf sound (Prod.ext failed rfl)))
    (fun handle inst paged => ends_of_paged ((ctx.ran_stringOf handle inst).paged paged)
      fun _ failed => faulted_of_stringOf sound paged (Prod.ext failed rfl))
    (fun _ _ _ paged => ⟨paged, .inl (Error.outside_of_other rfl _)⟩)
    (fun _ _ _ failed => failed.1)

theorem faulted_of_decode (sound : ctx.Sound) (paged : inst.memory.Paged) {options : DecodeOptions}
    {value : Word} {e : Error} (failed : ctx.decode options value inst = (.error e, next)) :
    ctx.Faulted e next := by
  have ends := (reader_faults sound options.detectCycles).decode value paged
  rw [← decode, failed] at ends
  exact ends.2

theorem stringOf_of_lies {handle address len : Word} {data : List UInt8}
    (called : inst.callWord ctx.string [handle] = (.ok address, next))
    (unwrapped : address.toNat + 4 < wordCount) (lies : ctx.RecordLies next address len data) :
    ctx.stringOf handle inst = (textOf handle len data, next) := by
  obtain ⟨memory, exported, inside, length, bytes⟩ := lies
  rw [stringOf, called]
  simp only [bind_memoryOf exported]
  rw [stringAt_of_record handle unwrapped inside length bytes]

end DecodingContext

/-! ### Operations -/

namespace Bridge

def Operation.readsText : Operation → Bool
  | .project _ | .decode _ _ | .string _ => true
  | .read _ | .eval _ | .call _ _ | .tagOf _ | .row _ _ | .memorySize | .word _ | .bytes _ _
  | .setOptions _ | .takeConsole => false

variable {bridge next : Bridge σ}

theorem outside_of_deliver {address : Word} {data : List UInt8} {e : Error}
    (small : data.length < wordCount) (failed : bridge.deliver address data = .error e) :
    e.Outside bridge.inst.memory := by
  rcases DecodingContext.failure_of_memoryOf failed with other | refused
  · exact Error.outside_of_other other _
  · rcases error_of_bind_eq_error refused with unwritten | ⟨memory, -, done⟩
    · exact Memory.outside_of_writeBytes small unwritten
    · cases done

theorem outside_of_read {source : String} {e : Error}
    (failed : bridge.read source = (.error e, next)) : e.Outside next.inst.memory := by
  simp only [read] at failed
  split at failed
  · cases failed
    exact Error.outside_of_other rfl _
  · rename_i large
    cases allocates : bridge.inst.guest.wordFunc bridge.abi.alloc 1 with
    | error absent =>
      rw [allocates] at failed
      cases failed
      exact Error.outside_of_other (Guest.isMemoryFault_of_wordFunc allocates) _
    | ok alloc =>
      cases parses : bridge.inst.guest.wordFunc bridge.abi.read 2 with
      | error absent =>
        rw [allocates, parses] at failed
        cases failed
        exact Error.outside_of_other (Guest.isMemoryFault_of_wordFunc parses) _
      | ok parse =>
        simp only [allocates, parses] at failed
        split at failed
        · rename_i called
          cases failed
          have carried := Instance.callWord_error (Guest.results_of_wordFunc allocates) called
          exact Error.outside_of_other carried.isMemoryFault _
        · split at failed
          · rename_i undelivered
            cases failed
            exact outside_of_deliver (Nat.not_le.mp large) undelivered
          · have called := congrArg Prod.fst failed
            have carried := Instance.callWord_error (Guest.results_of_wordFunc parses)
              (Prod.ext called rfl)
            exact Error.outside_of_other carried.isMemoryFault _

theorem outside_of_eval {value : Word} {e : Error} (failed : bridge.eval value = (.error e, next)) :
    e.Outside next.inst.memory := by
  rw [eval] at failed
  split at failed
  · rename_i absent
    cases failed
    exact Error.outside_of_other (Guest.isMemoryFault_of_wordFunc absent) _
  · rename_i f found
    have called := congrArg Prod.fst failed
    have carried := Instance.callWord_error (Guest.results_of_wordFunc found) (Prod.ext called rfl)
    exact Error.outside_of_other carried.isMemoryFault _

private theorem failure_of_map {β : Type} {x : Except Error α} {f : α → β} {e : Error}
    (failed : x.map f = .error e) : x = .error e := by
  cases x with
  | error e' =>
    cases failed
    rfl
  | ok a => cases failed

theorem faulted_of_perform (sound : bridge.context.Sound) (paged : bridge.inst.memory.Paged)
    (operation : Operation) {e : Error} (failed : bridge.perform operation = (.error e, next)) :
    e.Outside next.inst.memory ∨ operation.readsText = true ∧ bridge.context.AtLastWord next.inst ∧
      e = next.inst.memory.fault 0xfffffffc 4 := by
  cases operation with
  | read source =>
    obtain ⟨unread, rfl⟩ := Prod.ext_iff.mp failed
    exact .inl (outside_of_read (Prod.ext (failure_of_map unread) rfl))
  | eval value =>
    obtain ⟨unread, rfl⟩ := Prod.ext_iff.mp failed
    exact .inl (outside_of_eval (Prod.ext (failure_of_map unread) rfl))
  | call name args =>
    obtain ⟨uncalled, rfl⟩ := Prod.ext_iff.mp failed
    have stopped := failure_of_map uncalled
    exact .inl (Error.outside_of_other (Instance.isMemoryFault_of_call (Prod.ext stopped rfl)) _)
  | project value | decode options value =>
    obtain ⟨undecoded, rfl⟩ := Prod.ext_iff.mp failed
    have faulted := DecodingContext.faulted_of_decode sound paged
      (Prod.ext (failure_of_map undecoded) rfl)
    exact faulted.imp_right fun last => ⟨rfl, last⟩
  | string handle =>
    obtain ⟨unread, rfl⟩ := Prod.ext_iff.mp failed
    have faulted := DecodingContext.faulted_of_stringOf sound paged
      (Prod.ext (failure_of_map unread) rfl)
    exact faulted.imp_right fun last => ⟨rfl, last⟩
  | tagOf value =>
    obtain ⟨unread, rfl⟩ := Prod.ext_iff.mp failed
    exact .inl (DecodingContext.outside_of_tagOfValue sound (Prod.ext (failure_of_map unread) rfl))
  | row tag value =>
    obtain ⟨unread, rfl⟩ := Prod.ext_iff.mp failed
    exact .inl (DecodingContext.outside_of_rowOf sound (Prod.ext (failure_of_map unread) rfl))
  | memorySize =>
    obtain ⟨unread, rfl⟩ := Prod.ext_iff.mp failed
    rcases DecodingContext.failure_of_memoryOf (failure_of_map unread) with other | measured
    · exact .inl (Error.outside_of_other other _)
    · cases measured
  | word offset =>
    obtain ⟨unread, rfl⟩ := Prod.ext_iff.mp failed
    exact .inl (DecodingContext.outside_of_word (failure_of_map unread))
  | bytes offset len =>
    obtain ⟨unread, rfl⟩ := Prod.ext_iff.mp failed
    exact .inl (DecodingContext.outside_of_slice (failure_of_map unread))
  | setOptions options | takeConsole => cases congrArg Prod.fst failed

/-- The host's accesses to guest memory that lie wholly within it succeed: words and ranges, and, wherever the
guest has just answered that they lie, rows, string records and buffers. -/
structure ServesInside (bridge : Bridge σ) : Prop where
  word (offset : Word) : offset.toNat + 4 ≤ bridge.inst.memory.size →
    bridge.word offset = .ok (bridge.inst.memory.wordAt offset.toNat)
  bytes (offset len : Word) : offset.toNat + len.toNat ≤ bridge.inst.memory.size →
    bridge.bytes offset len = .ok (bridge.inst.memory.bytes offset.toNat len.toNat)
  row (inst next : Instance σ) (tag : Tag) (width : Nat) (code value address : Word) :
    inst.guest = bridge.inst.guest → tag.rowWidth = some width →
    bridge.context.tags.codeOf tag = some code →
    inst.callWord bridge.context.row [code, value] = (.ok address, next) →
    address.toNat + 4 * width ≤ next.memory.size →
    bridge.context.rowOf tag value inst =
      (.ok ⟨tag, Word.listOfBytes (next.memory.bytes address.toNat (4 * width))⟩, next)
  record (inst next : Instance σ) (handle address len : Word) : inst.guest = bridge.inst.guest →
    inst.callWord bridge.context.string [handle] = (.ok address, next) →
    next.memory.wordAt address.toNat = len → address.toNat + 4 + len.toNat ≤ next.memory.size →
    address.toNat + 4 < wordCount →
    bridge.context.stringOf handle inst =
      (DecodingContext.textOf handle len (next.memory.bytes (address.toNat + 4) len.toNat), next)
  buffer (inst : Instance σ) (address : Word) (data : List UInt8) :
    inst.guest = bridge.inst.guest → data.length < wordCount →
    address.toNat + data.length ≤ inst.memory.size →
    { bridge with inst }.deliver address data = .ok { bridge with
      inst := { inst with memory := inst.memory.setBytes address.toNat data } }

theorem servesInside (exported : bridge.inst.guest.exportsMemory bridge.context.memory = true) :
    bridge.ServesInside := by
  have shown : ∀ inst : Instance σ, inst.guest = bridge.inst.guest →
      inst.guest.exportsMemory bridge.context.memory = true := by
    intro inst same
    rw [same, exported]
  have answered : ∀ {inst next : Instance σ} {f : Func σ} {args : List Word} {address : Word},
      inst.guest = bridge.inst.guest → inst.callWord f args = (.ok address, next) →
      next.guest.exportsMemory bridge.context.memory = true := by
    intro inst next f args address same called
    have ran := inst.ran_callWord f args
    rw [called] at ran
    exact shown next (ran.same_host.1.1.trans same)
  have here : bridge.inst.memory ∈ bridge.inst.exportedMemory bridge.context.memory :=
    Instance.mem_exportedMemory.mpr ⟨exported, rfl⟩
  constructor
  case word =>
    intro offset inside
    rw [Bridge.word, DecodingContext.word, DecodingContext.bind_memoryOf here]
    exact Memory.word_eq_ok_iff.mpr ⟨inside, rfl⟩
  case bytes =>
    intro offset len inside
    rw [Bridge.bytes, DecodingContext.slice, DecodingContext.bind_memoryOf here]
    exact Memory.slice_eq_ok_iff.mpr ⟨inside, rfl⟩
  case row =>
    intro inst next tag width code value address same wide coded called inside
    exact DecodingContext.rowOf_of_lies wide coded called
      (DecodingContext.rowLies_iff.mpr ⟨answered same called, inside, rfl⟩)
  case record =>
    intro inst next handle address len same called length inside unwrapped
    exact DecodingContext.stringOf_of_lies called unwrapped
      (DecodingContext.recordLies_iff.mpr ⟨answered same called, inside, length, rfl⟩)
  case buffer =>
    intro inst address data same small inside
    exact deliver_of_inside small (shown inst same) inside

/-- After any run of a bridge, every operation that fails with a memory fault names the size that the memory
then has, and a range that ends beyond it in unbounded arithmetic, but for a string record that the guest
places in the last word of a whole address space: there the length word itself is named, which lies within
the memory. And every access that lies wholly within the memory, an empty one at its very end included,
succeeds, but for such a record. -/
theorem memoryFault_lies_outside {config : Config} {guest : Guest σ} {bridge : Bridge σ}
    (started : start config guest = .ok bridge) (operations : List Operation) :
    let state := (bridge.performAll operations).2
    (∀ operation offset len size next,
      state.perform operation = (.error (.memoryFault offset len size), next) →
      size = next.inst.memory.size ∧
        (size < offset.toNat + len.toNat ∨
          operation.readsText = true ∧ state.context.AtLastWord next.inst ∧
            offset = 0xfffffffc ∧ len = 4)) ∧
    (state.inst.guest.exportsMemory state.context.memory = true → state.ServesInside) := by
  intro state
  have standing := (standing_of_start started).performAll operations
  have sound := DecodingContext.sound_of_resolve standing.resolved
  refine ⟨fun operation offset len size next failed => ?_, servesInside⟩
  rcases state.faulted_of_perform sound standing.paged operation failed with
    outside | ⟨reads, last, named⟩
  · obtain ⟨measured, beyond⟩ := outside offset len size rfl
    exact ⟨measured, .inl beyond⟩
  · cases named
    exact ⟨rfl, .inr ⟨reads, last, rfl, rfl⟩⟩

/-- A guest whose string records lie in the last word of its memory, with rows that end one byte beyond it. -/
def brinkGuest (pages : Nat) : Guest Unit :=
  { Guest.exporting (Guest.accessors 2 (UInt32.ofNat (pages * Memory.pageSize - 7))
      (UInt32.ofNat (pages * Memory.pageSize - 4)) ++ Guest.sentinels ++
      [("wisp_tag_duo", .global (.i32 2))]) with pages }

/-- With one page the row is refused with its own range, while the empty record at the very end is read. -/
theorem memoryFault_lies_outside_brinkGuest :
    ∃ bridge, start Config.default (brinkGuest 1) = .ok bridge ∧
      (bridge.project 5).1 = .error (.memoryFault 65529 8 65536) ∧ 65536 < 65529 + 8 ∧
      (bridge.string 5).1 = .ok "" ∧ bridge.bytes 65536 0 = .ok [] := by
  obtain ⟨bridge, started⟩ : ∃ bridge, start Config.default (brinkGuest 1) = .ok bridge := ⟨_, rfl⟩
  obtain ⟨faults, serves⟩ := memoryFault_lies_outside started []
  have refused : (bridge.project 5).1 = .error (.memoryFault 65529 8 65536) := by
    cases started
    rfl
  obtain ⟨-, beyond⟩ := faults (.project 5) 65529 8 65536 (bridge.project 5).2
    (Prod.ext (congrArg (Except.map Answer.projection) refused) rfl)
  have named : 65536 < 65529 + 8 := by
    rcases beyond with beyond | ⟨-, -, same, -⟩
    · exact beyond
    · cases same
  refine ⟨bridge, started, refused, named, ?_⟩
  -- Only now the bridge is made explicit, so that what it answers can be computed.
  cases started
  have serves := serves rfl
  have record := serves.record _ _ 5 65532 0 rfl rfl (rfl) (by decide) (by decide)
  exact ⟨congrArg Prod.fst record, serves.bytes 65536 0 (by decide)⟩

/-- With the whole address space the length word of the record is read, and an access to it is reported as
out of bounds. -/
theorem memoryFault_names_inside :
    ∃ bridge, start { Config.default with
        limits := { Limits.default with maxMemoryPages := Memory.pageCeiling } }
        (brinkGuest Memory.pageCeiling) = .ok bridge ∧
      bridge.word 0xfffffffc = .ok 0 ∧
      (bridge.string 5).1 = .error (.memoryFault 0xfffffffc 4 wordCount) ∧
      (0xfffffffc : Word).toNat + (4 : Word).toNat = wordCount := by
  refine ⟨_, rfl, ?_, ?_, rfl⟩
  · rfl
  · rfl

end Bridge

end LispHost
