import LispHost.Proofs.Decode.Runs
import LispHost.Proofs.Guest.Minimal
import LispHost.Proofs.Memory.Bytes
import LispHost.Proofs.View.Resolved

/-!
Live decodes, call by call.

The logged heap of a context decodes as its live heap does and lists the calls of the guest's
accessors. The list shows that a row is only asked for by the code with which the guest has just
classified the word. The rows that come back have the shape their readers expect, so a live decode
fails only with the memory or with what stopped the guest.
-/

set_option autoImplicit false

namespace LispHost

variable {σ : Type}

inductive Accessor where
  | tagOf | row | string

structure AccessorCall where
  accessor : Accessor
  args : List Word
  answer : Except Error Word

namespace Row

/-- A row of the shape of its tag. -/
def Fits (row : Row) (tag : Tag) : Prop :=
  row.tag = tag ∧ tag.rowWidth = some row.cells.length

theorem Fits.exists_duo {row : Row} (fits : row.Fits .duo) : ∃ parts, row.duo = .ok parts := by
  obtain ⟨tag, cells⟩ := row
  obtain ⟨rfl, width⟩ := fits
  rcases cells with _ | ⟨car, _ | ⟨cdr, _ | ⟨more, rest⟩⟩⟩
  · cases width
  · cases width
  · exact ⟨(car, cdr), rfl⟩
  · cases width

theorem Fits.exists_sym {row : Row} (fits : row.Fits .sym) : ∃ handle, row.sym = .ok handle := by
  obtain ⟨tag, cells⟩ := row
  obtain ⟨rfl, width⟩ := fits
  rcases cells with _ | ⟨handle, rest⟩
  · cases width
  · exact ⟨handle, rfl⟩

end Row

namespace DecodingContext

def func (ctx : DecodingContext σ) : Accessor → Func σ
  | .tagOf => ctx.tagOf
  | .row => ctx.row
  | .string => ctx.string

def ask (ctx : DecodingContext σ) (accessor : Accessor) (args : List Word)
    (state : Instance σ × List AccessorCall) :
    Except Error Word × Instance σ × List AccessorCall :=
  let (answer, inst) := state.1.callWord (ctx.func accessor) args
  (answer, inst, ⟨accessor, args, answer⟩ :: state.2)

def rowAt (ctx : DecodingContext σ) (tag : Tag) (width : Nat) (address : Word)
    (inst : Instance σ) : Except Error Row :=
  ((ctx.slice inst address (UInt32.ofNat (4 * width))).map Word.listOfBytes).map (Row.mk tag)

def recordAt (ctx : DecodingContext σ) (handle address : Word) (inst : Instance σ) :
    Except Error String := do
  let memory ← inst.memoryOf ctx.memory
  stringAt memory handle address

/-- The live heap of an instance with the list of the accessor calls made, latest first. -/
def logged (ctx : DecodingContext σ) : HeapReader (Instance σ × List AccessorCall) where
  tagOf value state :=
    let (answer, state) := ctx.ask .tagOf [value] state
    (answer.map ctx.tags.classify, state)
  row tag value state :=
    match tag.rowWidth, ctx.tags.codeOf tag with
    | some width, some code =>
      match ctx.ask .row [code, value] state with
      | (.error e, state) => (.error e, state)
      | (.ok address, state) => (ctx.rowAt tag width address state.1, state)
    | _, _ => (.error (.missingRow tag.text), state)
  string handle state :=
    match ctx.ask .string [handle] state with
    | (.error e, state) => (.error e, state)
    | (.ok address, state) => (ctx.recordAt handle address state.1, state)
  sentinels _ := ctx.sentinels

theorem logged_mirrors (ctx : DecodingContext σ) :
    HeapReader.Mirrors Prod.fst ctx.logged ctx.reader where
  tagOf value state := rfl
  row tag value state := by
    simp only [reader, rowOf, logged, ask, func]
    cases tag.rowWidth with
    | none => rfl
    | some width =>
      cases ctx.tags.codeOf tag with
      | none => rfl
      | some code =>
        simp only
        cases state.1.callWord ctx.row [code, value] with
        | mk answer inst => cases answer <;> rfl
  string handle state := by
    simp only [reader, stringOf, logged, ask, func]
    cases state.1.callWord ctx.string [handle] with
    | mk answer inst => cases answer <;> rfl
  sentinels state := rfl

/-- Lists of accessor calls, latest first, in which rows follow classifications. The row accessor is
called right after the classifier, for the same word and with the code that was answered, the code of
a pair or a symbol. A classification as a symbol is always followed by this call, and so is one as a
pair unless cycles are detected. -/
inductive CodesKept (tags : TagTable) (detectCycles : Bool) : List AccessorCall → Prop
  | nil : CodesKept tags detectCycles []
  | classified {value : Word} {answer : Except Error Word} {log : List AccessorCall} :
      CodesKept tags detectCycles log →
      (∀ code, answer = .ok code → tags.classify code ≠ .sym) →
      (∀ code, answer = .ok code → tags.classify code = .duo → detectCycles = true) →
      CodesKept tags detectCycles (⟨.tagOf, [value], answer⟩ :: log)
  | row {value code : Word} {answer : Except Error Word} {log : List AccessorCall} :
      CodesKept tags detectCycles log →
      tags.classify code = .duo ∨ tags.classify code = .sym →
      CodesKept tags detectCycles
        (⟨.row, [code, value], answer⟩ :: ⟨.tagOf, [value], .ok code⟩ :: log)
  | string {handle : Word} {answer : Except Error Word} {log : List AccessorCall} :
      CodesKept tags detectCycles log →
      CodesKept tags detectCycles (⟨.string, [handle], answer⟩ :: log)

/-- What a live decode can fail with, and the instance and the list of calls it then leaves. -/
inductive LiveFault (ctx : DecodingContext σ) : Error → Instance σ × List AccessorCall → Prop
  | memoryFault {inst : Instance σ} {log : List AccessorCall} {memory : Memory} (offset len : Word) :
      inst.memoryOf ctx.memory = .ok memory → LiveFault ctx (memory.fault offset len) (inst, log)
  | unexported {inst : Instance σ} {log : List AccessorCall} :
      inst.exportedMemory ctx.memory = none → LiveFault ctx (.exportNotFound ctx.memory) (inst, log)
  | carried {inst : Instance σ} {log : List AccessorCall} {accessor : Accessor} {args : List Word}
      {e : Error} : e.Carried → LiveFault ctx e (inst, ⟨accessor, args, .error e⟩ :: log)

variable {ctx : DecodingContext σ} {detectCycles : Bool}

/-- None of the errors that a live decode can fail with is the host's misreading of the guest. -/
theorem LiveFault.ne_misreading {e : Error} {state : Instance σ × List AccessorCall}
    (fault : ctx.LiveFault e state) :
    (∀ tag, e ≠ .missingRow tag) ∧ (∀ expected actual, e ≠ .typeMismatch expected actual) ∧
      ∀ handle len, e ≠ .encoding handle len := by
  cases fault with
  | memoryFault offset len exported => simp [Memory.fault]
  | unexported absent => simp
  | carried cause => cases cause <;> simp

private theorem liveFault_of_memoryOf {inst : Instance σ} {log : List AccessorCall} {e : Error}
    (failed : inst.memoryOf ctx.memory = .error e) : ctx.LiveFault e (inst, log) := by
  rw [Instance.memoryOf] at failed
  cases exported : inst.exportedMemory ctx.memory with
  | some memory => rw [exported] at failed; cases failed
  | none =>
    rw [exported] at failed
    cases failed
    exact .unexported exported

/-- Reading the row of a tag gives a row that fits or fails with the memory. -/
theorem rowAt_cases (ctx : DecodingContext σ) {tag : Tag} {width : Nat}
    (wide : tag.rowWidth = some width) (address : Word) (inst : Instance σ) :
    (∃ row, ctx.rowAt tag width address inst = .ok row ∧ row.Fits tag) ∨
      ∃ e, ctx.rowAt tag width address inst = .error e ∧ ∀ log, ctx.LiveFault e (inst, log) := by
  have small : width ≤ 2 := by
    cases tag with
    | duo | sym => cases wide; decide
    | int | sys | unknown code => cases wide
  rw [rowAt]
  cases copied : ctx.slice inst address (UInt32.ofNat (4 * width)) with
  | error e =>
    refine .inr ⟨e, rfl, fun log => ?_⟩
    rcases error_of_bind_eq_error copied with absent | ⟨memory, found, failed⟩
    · exact liveFault_of_memoryOf absent
    · rw [Memory.eq_fault_of_slice failed]
      exact .memoryFault _ _ found
  | ok data =>
    refine .inl ⟨_, rfl, rfl, ?_⟩
    obtain ⟨memory, -, sliced⟩ := exists_of_bind_eq_ok copied
    have bound : 4 * width < 2 ^ 32 := by omega
    have length : data.length = 4 * width := by
      rw [Memory.length_of_slice sliced, UInt32.toNat_ofNat_of_lt' bound]
    rw [Word.length_listOfBytes, length, wide, Nat.mul_div_cancel_left width (by decide)]

private theorem stringAt_error {memory : Memory} {handle address : Word} {e : Error}
    (failed : stringAt memory handle address = .error e) :
    (∃ len, e = .encoding handle len) ∨ ∃ offset len, e = memory.fault offset len := by
  rcases error_of_bind_eq_error failed with unread | ⟨len, -, failed⟩
  · exact .inr ⟨_, _, Memory.eq_fault_of_word unread⟩
  · split at failed
    · cases failed
      exact .inr ⟨_, _, rfl⟩
    · rcases error_of_bind_eq_error failed with unread | ⟨data, -, failed⟩
      · exact .inr ⟨_, _, Memory.eq_fault_of_slice unread⟩
      · split at failed
        · cases failed
        · cases failed
          exact .inl ⟨len, rfl⟩

/-- A string record that cannot be read is not text, or it fails with the memory. -/
theorem recordAt_error {handle address : Word} {inst : Instance σ} {e : Error}
    (failed : ctx.recordAt handle address inst = .error e) :
    (∃ len, e = .encoding handle len) ∨ ∀ log, ctx.LiveFault e (inst, log) := by
  rcases error_of_bind_eq_error failed with absent | ⟨memory, found, failed⟩
  · exact .inr fun log => liveFault_of_memoryOf absent
  · rcases stringAt_error failed with encoding | ⟨offset, len, rfl⟩
    · exact .inl encoding
    · exact .inr fun log => .memoryFault offset len found

theorem logged_tagOf_ok {value : Word} {state next : Instance σ × List AccessorCall} {tag : Tag}
    (asked : ctx.logged.tagOf value state = (.ok tag, next)) :
    ∃ code, ctx.tags.classify code = tag ∧
      next.2 = ⟨.tagOf, [value], .ok code⟩ :: state.2 := by
  simp only [logged, ask, func] at asked
  cases called : state.1.callWord ctx.tagOf [value] with
  | mk answer inst =>
  rw [called] at asked
  cases answer with
  | error e => cases asked
  | ok code =>
    cases asked
    exact ⟨code, rfl, rfl⟩

theorem logged_tagOf_error (sound : ctx.Sound) {value : Word}
    {state next : Instance σ × List AccessorCall} {e : Error}
    (asked : ctx.logged.tagOf value state = (.error e, next)) :
    e.Carried ∧ next.2 = ⟨.tagOf, [value], .error e⟩ :: state.2 := by
  simp only [logged, ask, func] at asked
  cases called : state.1.callWord ctx.tagOf [value] with
  | mk answer inst =>
  rw [called] at asked
  cases answer with
  | error e' =>
    cases asked
    exact ⟨Instance.callWord_error sound.tagOf called, rfl⟩
  | ok code => cases asked

def Kept (ctx : DecodingContext σ) (detectCycles : Bool) (state : Instance σ × List AccessorCall) :
    Prop :=
  CodesKept ctx.tags detectCycles state.2

def Failed (ctx : DecodingContext σ) (detectCycles : Bool) (e : Error)
    (state : Instance σ × List AccessorCall) : Prop :=
  ctx.Kept detectCycles state ∧ ctx.LiveFault e state

/-- The row of a word just classified as a pair or a symbol is asked for by the code of the
classification. It fits the tag, or the asking fails with a memory fault, because the memory is not
exported, or with what stopped the guest. -/
theorem row_of_classified (sound : ctx.Sound) {value code : Word} {tag : Tag}
    (classified : ctx.tags.classify code = tag) (expanded : tag = .duo ∨ tag = .sym)
    {state : Instance σ × List AccessorCall} {log : List AccessorCall}
    (kept : CodesKept ctx.tags detectCycles log)
    (latest : state.2 = ⟨.tagOf, [value], .ok code⟩ :: log) :
    (∃ row next, ctx.logged.row tag value state = (.ok row, next) ∧ row.Fits tag ∧
        ctx.Kept detectCycles next) ∨
      ∃ e next, ctx.logged.row tag value state = (.error e, next) ∧
        ctx.Failed detectCycles e next := by
  obtain ⟨width, wide⟩ : ∃ width, tag.rowWidth = some width := by
    rcases expanded with rfl | rfl
    · exact ⟨2, rfl⟩
    · exact ⟨1, rfl⟩
  have coded : ctx.tags.codeOf tag = some code :=
    sound.tags.codeOf_classify (Tag.known_of_rowWidth wide) classified
  have next_kept : ∀ answer, CodesKept ctx.tags detectCycles
      (⟨.row, [code, value], answer⟩ :: state.2) := by
    intro answer
    rw [latest]
    exact .row kept (classified ▸ expanded)
  simp only [logged, ask, func, wide, coded]
  cases called : state.1.callWord ctx.row [code, value] with
  | mk answer inst =>
  cases answer with
  | error e =>
    have carried : e.Carried := Instance.callWord_error sound.row called
    exact .inr ⟨e, _, rfl, next_kept _, .carried carried⟩
  | ok address =>
    rcases ctx.rowAt_cases wide address inst with ⟨row, read, fits⟩ | ⟨e, unread, fault⟩
    · exact .inl ⟨row, _, congrArg (·, _) read, fits, next_kept _⟩
    · exact .inr ⟨e, _, congrArg (·, _) unread, next_kept _, fault _⟩

/-- A name that cannot be had is a leaf, or the asking fails with the memory or with what stopped the
guest. -/
theorem ends_askName (sound : ctx.Sound) {raw handle : Word}
    {state : Instance σ × List AccessorCall} (kept : ctx.Kept detectCycles state) :
    Inquiry.Ends (ctx.Kept detectCycles) (ctx.Failed detectCycles)
      (ctx.logged.askName raw handle state) := by
  have next_kept : ∀ answer, CodesKept ctx.tags detectCycles
      (⟨.string, [handle], answer⟩ :: state.2) := fun _ => .string kept
  simp only [HeapReader.askName, logged, ask, func]
  cases called : state.1.callWord ctx.string [handle] with
  | mk answer inst =>
  cases answer with
  | error e =>
    have carried : e.Carried := Instance.callWord_error sound.string called
    have failed : ctx.Failed detectCycles e (inst, ⟨.string, [handle], .error e⟩ :: state.2) :=
      ⟨next_kept _, .carried carried⟩
    cases carried <;> exact failed
  | ok address =>
    simp only
    cases read : ctx.recordAt handle address inst with
    | ok name => exact next_kept _
    | error e =>
      rcases recordAt_error read with ⟨len, rfl⟩ | fault
      · exact next_kept _
      · have readable := (fault []).ne_misreading.2.2
        cases e with
        | encoding given len => exact absurd rfl (readable given len)
        | _ => exact ⟨next_kept _, fault _⟩

/-- The questions of one position keep the codes, and fail with the memory or with what stopped the
guest. -/
theorem logged_invariant (sound : ctx.Sound) (detectCycles : Bool) :
    ctx.logged.Invariant detectCycles (ctx.Kept detectCycles) (ctx.Failed detectCycles) where
  unclassified {value state next e} kept failed := by
    obtain ⟨carried, latest⟩ := logged_tagOf_error sound failed
    obtain ⟨inst, log⟩ := next
    cases latest
    refine ⟨.classified kept (fun _ same => nomatch same) (fun _ same => nomatch same), ?_⟩
    exact .carried carried
  unexpanded {value state next tag} kept asked notSym detected := by
    obtain ⟨code, classified, latest⟩ := logged_tagOf_ok asked
    rw [Kept, latest]
    refine .classified kept ?_ ?_
    · rintro _ ⟨⟩
      exact classified ▸ notSym
    · rintro _ ⟨⟩ pair
      exact detected (classified ▸ pair)
  pair {value state next} kept asked := by
    obtain ⟨code, classified, latest⟩ := logged_tagOf_ok asked
    rw [HeapReader.askParts]
    rcases row_of_classified sound classified (.inl rfl) kept latest with
      ⟨row, after, read, fits, after_kept⟩ | ⟨e, after, unread, failed⟩
    · obtain ⟨parts, parted⟩ := fits.exists_duo
      simp only [read, parted]
      exact after_kept
    · simp only [unread]
      exact failed
  symbol {value state next} kept asked := by
    obtain ⟨code, classified, latest⟩ := logged_tagOf_ok asked
    rw [HeapReader.askSymbol, Inquiry.bind_apply, HeapReader.askHandle]
    rcases row_of_classified sound classified (.inr rfl) kept latest with
      ⟨row, after, read, fits, after_kept⟩ | ⟨e, after, unread, failed⟩
    · obtain ⟨handle, handled⟩ := fits.exists_sym
      simp only [read, handled]
      exact ends_askName sound after_kept
    · simp only [unread]
      exact failed

theorem fits_of_rowOf {tag : Tag} {value : Word} {inst next : Instance σ} {row : Row}
    (read : ctx.rowOf tag value inst = (.ok row, next)) : row.Fits tag := by
  rw [rowOf] at read
  split at read
  · rename_i width code wide _
    split at read
    · cases read
    · rename_i address after _
      rcases ctx.rowAt_cases wide address after with ⟨found, same, fits⟩ | ⟨e, failed, -⟩
      · cases (congrArg Prod.fst read).symm.trans same
        exact fits
      · cases (congrArg Prod.fst read).symm.trans failed
  · cases read

/-- Decoding over a resolved context, whatever codes the guest exports. The calls of the guest's
accessors can be listed: a row is asked for by the very code with which the guest has just classified
the word, always for symbols, and for pairs unless one is cut as a cycle. The rows that come back fit
their tags. A decode that fails does so with a memory fault, because the memory is not exported, or
with the trap, the exit or the early system call that its last accessor call ended in, and never with
a missing row, a type mismatch or a string that is not text. -/
theorem decode_of_resolve {guest : Guest σ} {abi : Abi} {ctx : DecodingContext σ}
    (resolved : resolve guest abi = .ok ctx) (options : DecodeOptions) (value : Word)
    (inst : Instance σ) :
    (∃ log, Projection.decode ctx.logged options value (inst, []) =
        ((ctx.decode options value inst).1, (ctx.decode options value inst).2, log) ∧
      CodesKept ctx.tags options.detectCycles log ∧
      ∀ e after, ctx.decode options value inst = (.error e, after) →
        ctx.LiveFault e (after, log) ∧ (∀ tag, e ≠ .missingRow tag) ∧
          (∀ expected actual, e ≠ .typeMismatch expected actual) ∧
          ∀ handle len, e ≠ .encoding handle len) ∧
    ∀ tag value before row next, ctx.rowOf tag value before = (.ok row, next) →
      row.tag = tag ∧ tag.rowWidth = some row.cells.length := by
  refine ⟨?_, fun tag value before row next read => fits_of_rowOf read⟩
  have start : ctx.Kept options.detectCycles (inst, []) := .nil
  have ends := (ctx.logged_invariant (sound_of_resolve resolved) options.detectCycles).decode value
    start
  have live := ctx.logged_mirrors.decode options value (inst, [])
  cases ran : Projection.decode ctx.logged options value (inst, []) with
  | mk answer state =>
  obtain ⟨left, log⟩ := state
  rw [ran] at ends live
  have live : ctx.decode options value inst = (answer, left) := live
  refine ⟨log, by rw [live], ?_, ?_⟩
  · cases answer with
    | ok found => exact ends
    | error e => exact ends.1
  · intro e after failed
    cases live.symm.trans failed
    exact ⟨ends.2, ends.2.ne_misreading⟩

/-- A guest with one code for everything, so that its pairs take the code of its other tags, and with
all its rows beyond its memory. -/
def oneCodeGuest : Guest Unit :=
  Guest.exporting (Guest.accessors 3 0xfffffff0 0 ++ Guest.sentinels ++
    [("wisp_tag_int", .global (.i32 3)), ("wisp_tag_sys", .global (.i32 3)),
      ("wisp_tag_duo", .global (.i32 3))])

def oneCodeContext : DecodingContext Unit where
  memory := "memory"
  tagOf := Guest.constant 1 3
  row := Guest.constant 2 0xfffffff0
  string := Guest.constant 1 0
  tags := ⟨[(3, .duo)]⟩
  sentinels := ⟨0, 1⟩

/-- The pair keeps the code, its row is asked for with it, and the row lies outside the memory. -/
theorem decode_oneCodeContext :
    resolve oneCodeGuest .default = .ok oneCodeContext ∧
    ∃ log after,
      oneCodeContext.decode .default 5
          ⟨oneCodeGuest, none, .zeroed 65536, 0, (), SyscallHost.new .default, none⟩ =
        (.error (.memoryFault 0xfffffff0 8 65536), after) ∧
      CodesKept oneCodeContext.tags true log ∧
      oneCodeContext.LiveFault (.memoryFault 0xfffffff0 8 65536) (after, log) := by
  have resolved : resolve oneCodeGuest .default = .ok oneCodeContext := rfl
  obtain ⟨log, -, kept, faults⟩ := (decode_of_resolve resolved .default 5
    ⟨oneCodeGuest, none, .zeroed 65536, 0, (), SyscallHost.new .default, none⟩).1
  exact ⟨resolved, log, _, rfl, kept, (faults _ _ rfl).1⟩

end DecodingContext

end LispHost
