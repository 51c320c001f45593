import LispHost.Proofs.Bridge.Bootstrap
import LispHost.Proofs.Guest.Minimal
import LispHost.Proofs.Text.Utf8

/-!
The hand-off of a source.

To have a source parsed the host does three things to the guest: it calls the allocator, it writes the bytes
of the source into the buffer that it was given, and it calls the parser on that buffer. Each of them is done
only if the one before it went well, and the buffer is checked against the memory as the allocator left it.
A reading that notes these deeds answers what a bridge answers, so the notes are the deeds of the bridge.
-/

set_option autoImplicit false

namespace LispHost

variable {σ α : Type}

/-- Something that the host does to a guest, and the instance to which it does it. -/
inductive Deed (σ : Type) where
  | call (f : Func σ) (args : List Word) (before : Instance σ)
  | write (address : Word) (data : List UInt8) (before : Instance σ)

namespace Bridge

/-- A computation on a bridge that notes what it does to the guest. -/
abbrev Noted (σ α : Type) : Type :=
  Inquiry (Bridge σ × List (Deed σ)) α

namespace Noted

def ask (find : Bridge σ → Except Error α) : Noted σ α := fun (bridge, deeds) =>
  (find bridge, bridge, deeds)

def enter (f : Func σ) (args : List Word) : Noted σ Word := fun (bridge, deeds) =>
  let (answer, inst) := bridge.inst.callWord f args
  (answer, { bridge with inst }, deeds ++ [.call f args bridge.inst])

def put (address : Word) (data : List UInt8) : Noted σ Unit := fun (bridge, deeds) =>
  match bridge.deliver address data with
  | .error e => (.error e, bridge, deeds)
  | .ok next => (.ok (), next, deeds ++ [.write address data bridge.inst])

def read (source : String) : Noted σ Word := do
  let data := Text.Utf8.encode source
  ask fun _ =>
    if wordCount ≤ data.length then
      .error (.internal s!"source of {data.length} bytes is too large")
    else .ok ()
  let len := UInt32.ofNat data.length
  let alloc ← ask fun bridge => bridge.inst.guest.wordFunc bridge.abi.alloc 1
  let parse ← ask fun bridge => bridge.inst.guest.wordFunc bridge.abi.read 2
  let address ← enter alloc [len]
  put address data
  enter parse [address, len]

end Noted

/-- What the host does to the guest while it has a source parsed, in order. -/
def readDeeds (bridge : Bridge σ) (source : String) : List (Deed σ) :=
  (Noted.read source (bridge, [])).2.2

theorem Noted.ask_bind_ok {β : Type} {find : Bridge σ → Except Error α} {bridge : Bridge σ} {a : α}
    (found : find bridge = .ok a) (f : α → Noted σ β) (deeds : List (Deed σ)) :
    (ask find >>= f) (bridge, deeds) = f a (bridge, deeds) := by
  rw [Inquiry.bind_apply, ask, found]

theorem Noted.ask_bind_error {β : Type} {find : Bridge σ → Except Error α} {bridge : Bridge σ}
    {e : Error} (failed : find bridge = .error e) (f : α → Noted σ β) (deeds : List (Deed σ)) :
    (ask find >>= f) (bridge, deeds) = (.error e, bridge, deeds) := by
  rw [Inquiry.bind_apply, ask, failed]

/-- The answer and the bridge that the noted reading ends with are those of the reading. -/
theorem noted_read (bridge : Bridge σ) (source : String) :
    Noted.read source (bridge, []) =
      ((bridge.read source).1, (bridge.read source).2, bridge.readDeeds source) := by
  rw [readDeeds, read, Noted.read]
  -- Both go through the same stages, and at each of them the branch that stops is closed first.
  by_cases large : wordCount ≤ (Text.Utf8.encode source).length
  · rw [Noted.ask_bind_error (if_pos large)]
    simp only [if_pos large]
  · rw [Noted.ask_bind_ok (if_neg large)]
    simp only [if_neg large]
    cases allocates : bridge.inst.guest.wordFunc bridge.abi.alloc 1 with
    | error e => rw [Noted.ask_bind_error allocates]
    | ok alloc =>
      rw [Noted.ask_bind_ok allocates]
      cases parses : bridge.inst.guest.wordFunc bridge.abi.read 2 with
      | error e => rw [Noted.ask_bind_error parses]
      | ok parse =>
        rw [Noted.ask_bind_ok parses, Inquiry.bind_apply]
        dsimp only [Noted.enter]
        cases bridge.inst.callWord alloc [UInt32.ofNat (Text.Utf8.encode source).length] with
        | mk answer inst =>
        cases answer with
        | error e => rfl
        | ok address =>
          dsimp only
          rw [Inquiry.bind_apply, Noted.put]
          dsimp only
          cases Bridge.deliver { bridge with inst } address (Text.Utf8.encode source) with
          | error e => rfl
          | ok filled => rfl

/-! ### Where it stops -/

variable {bridge : Bridge σ} {source : String}

private theorem read_eq_of_noted {answer : Except Error Word} {last : Bridge σ} {deeds : List (Deed σ)}
    (noted : Noted.read source (bridge, []) = (answer, last, deeds)) :
    bridge.readDeeds source = deeds ∧ bridge.read source = (answer, last) := by
  rw [noted_read] at noted
  cases noted
  exact ⟨rfl, rfl⟩

private theorem error_of_not_met {name : String} {arity : Nat}
    (unmet : ¬ (Requirement.accessor name arity).Met bridge.inst) :
    ∃ e, bridge.inst.guest.wordFunc name arity = .error e := by
  cases found : bridge.inst.guest.wordFunc name arity with
  | error e => exact ⟨e, rfl⟩
  | ok f => exact absurd ⟨f, Guest.wordFunc_eq_ok_iff.mp found⟩ unmet

/-- A source that is too large, or an export that is missing, stops the host before it does anything. -/
theorem read_of_refused
    (refused : wordCount ≤ (Text.Utf8.encode source).length ∨
      ¬ (Requirement.accessor bridge.abi.alloc 1).Met bridge.inst ∨
      ¬ (Requirement.accessor bridge.abi.read 2).Met bridge.inst) :
    bridge.readDeeds source = [] ∧ ∃ e, bridge.read source = (.error e, bridge) := by
  suffices stopped : ∃ e, Noted.read source (bridge, []) = (.error e, bridge, []) by
    obtain ⟨e, noted⟩ := stopped
    obtain ⟨none, answered⟩ := read_eq_of_noted noted
    exact ⟨none, e, answered⟩
  rw [Noted.read]
  by_cases large : wordCount ≤ (Text.Utf8.encode source).length
  · exact ⟨_, Noted.ask_bind_error (if_pos large) _ _⟩
  · rw [Noted.ask_bind_ok (if_neg large)]
    cases allocates : bridge.inst.guest.wordFunc bridge.abi.alloc 1 with
    | error e => exact ⟨e, Noted.ask_bind_error allocates _ _⟩
    | ok alloc =>
      rw [Noted.ask_bind_ok allocates]
      have met : (Requirement.accessor bridge.abi.alloc 1).Met bridge.inst :=
        ⟨alloc, Guest.wordFunc_eq_ok_iff.mp allocates⟩
      rcases refused with too_large | no_alloc | no_read
      · exact absurd too_large large
      · exact absurd met no_alloc
      · obtain ⟨e, failed⟩ := error_of_not_met no_read
        exact ⟨e, Noted.ask_bind_error failed _ _⟩

section Allocated

variable {alloc parse : Func σ} {len : Word} {inst : Instance σ}
  (small : (Text.Utf8.encode source).length < wordCount)
  (allocates : bridge.inst.guest.wordFunc bridge.abi.alloc 1 = .ok alloc)
  (parses : bridge.inst.guest.wordFunc bridge.abi.read 2 = .ok parse)
  (counted : len = UInt32.ofNat (Text.Utf8.encode source).length)

include small allocates parses counted

/-- With both exports in place the allocator is called, and what it answers decides how to go on. -/
private theorem noted_read_of_found :
    Noted.read source (bridge, []) =
      match bridge.inst.callWord alloc [len] with
      | (.error e, inst) => (.error e, { bridge with inst }, [.call alloc [len] bridge.inst])
      | (.ok address, inst) =>
        (Noted.put address (Text.Utf8.encode source) >>= fun _ => Noted.enter parse [address, len])
          ({ bridge with inst }, [.call alloc [len] bridge.inst]) := by
  subst counted
  rw [Noted.read, Noted.ask_bind_ok (if_neg (Nat.not_le.mpr small)),
    Noted.ask_bind_ok allocates, Noted.ask_bind_ok parses, Inquiry.bind_apply, Noted.enter]
  cases bridge.inst.callWord alloc [UInt32.ofNat (Text.Utf8.encode source).length] with
  | mk answer inst => cases answer <;> rfl

theorem read_of_stopped {e : Error} (called : bridge.inst.callWord alloc [len] = (.error e, inst)) :
    bridge.readDeeds source = [.call alloc [len] bridge.inst] ∧
      bridge.read source = (.error e, { bridge with inst }) := by
  have noted := noted_read_of_found small allocates parses counted
  rw [called] at noted
  exact read_eq_of_noted noted

/-- A buffer in which the source cannot be written stops the host, and nothing has been written. -/
theorem read_of_undelivered {address : Word} {e : Error}
    (called : bridge.inst.callWord alloc [len] = (.ok address, inst))
    (failed : Bridge.deliver { bridge with inst } address (Text.Utf8.encode source) = .error e) :
    bridge.readDeeds source = [.call alloc [len] bridge.inst] ∧
      bridge.read source = (.error e, { bridge with inst }) := by
  have noted := noted_read_of_found small allocates parses counted
  rw [called] at noted
  dsimp only at noted
  rw [Inquiry.bind_apply, Noted.put, failed] at noted
  exact read_eq_of_noted noted

theorem read_of_delivered {address : Word} {filled : Bridge σ}
    (called : bridge.inst.callWord alloc [len] = (.ok address, inst))
    (delivered :
      Bridge.deliver { bridge with inst } address (Text.Utf8.encode source) = .ok filled) :
    bridge.readDeeds source = [.call alloc [len] bridge.inst,
        .write address (Text.Utf8.encode source) inst, .call parse [address, len] filled.inst] ∧
      bridge.read source = ((filled.inst.callWord parse [address, len]).1,
        { filled with inst := (filled.inst.callWord parse [address, len]).2 }) := by
  have noted := noted_read_of_found small allocates parses counted
  rw [called] at noted
  dsimp only at noted
  rw [Inquiry.bind_apply, Noted.put, delivered] at noted
  exact read_eq_of_noted noted

end Allocated

section Delivery

variable {address : Word} {data : List UInt8}

theorem deliver_of_unexported
    (hidden : bridge.inst.guest.exportsMemory bridge.context.memory = false) :
    bridge.deliver address data = .error (.exportNotFound bridge.context.memory) := by
  rw [deliver, Instance.memoryOf, Instance.exportedMemory, hidden]
  rfl

private theorem deliver_of_exported
    (exported : bridge.inst.guest.exportsMemory bridge.context.memory = true) :
    bridge.deliver address data = (bridge.inst.memory.writeBytes address data).map fun memory =>
      { bridge with inst := { bridge.inst with memory } } := by
  rw [deliver, Instance.memoryOf, Instance.exportedMemory, exported]
  change (bridge.inst.memory.writeBytes address data >>= _) = _
  cases bridge.inst.memory.writeBytes address data <;> rfl

theorem deliver_of_outside (small : data.length < wordCount)
    (exported : bridge.inst.guest.exportsMemory bridge.context.memory = true)
    (outside : bridge.inst.memory.size < address.toNat + data.length) :
    bridge.deliver address data =
      .error (.memoryFault address (UInt32.ofNat data.length) bridge.inst.memory.size) := by
  rw [deliver_of_exported exported, Memory.writeBytes, if_neg (Nat.not_le.mpr small),
    Memory.write?, if_neg (Nat.not_le.mpr outside)]
  rfl

theorem deliver_of_inside (small : data.length < wordCount)
    (exported : bridge.inst.guest.exportsMemory bridge.context.memory = true)
    (inside : address.toNat + data.length ≤ bridge.inst.memory.size) :
    bridge.deliver address data = .ok { bridge with inst := { bridge.inst with
      memory := bridge.inst.memory.setBytes address.toNat data } } := by
  rw [deliver_of_exported exported, Memory.writeBytes, if_neg (Nat.not_le.mpr small),
    Memory.write?, if_pos inside]
  rfl

end Delivery

/-- The hand-off of a source is confined. A source that is too large for a length word, or an allocator or a
parser that is missing or of another signature, stops the host before it has done anything. Otherwise the
allocator is called. If it is stopped, or if the memory is not exported, or if the source does not fit between
the address that it answers and the end of the memory as it has left it, then nothing has been written and the
parser is not called. Otherwise the parser is called on a memory that holds the bytes of the source at that
address and is elsewhere as the allocator has left it. -/
theorem read_confined (bridge : Bridge σ) (source : String) :
    let data := source.toByteArray.data.toList
    let len := UInt32.ofNat data.length
    (wordCount ≤ data.length ∨
        ¬ (Requirement.accessor bridge.abi.alloc 1).Met bridge.inst ∨
        ¬ (Requirement.accessor bridge.abi.read 2).Met bridge.inst →
      bridge.readDeeds source = [] ∧ ∃ e, bridge.read source = (.error e, bridge)) ∧
    ∀ alloc parse inst answer, data.length < wordCount →
      bridge.inst.guest.wordFunc bridge.abi.alloc 1 = .ok alloc →
      bridge.inst.guest.wordFunc bridge.abi.read 2 = .ok parse →
      bridge.inst.callWord alloc [len] = (answer, inst) →
      (∀ e, answer = .error e →
        bridge.readDeeds source = [.call alloc [len] bridge.inst] ∧
        bridge.read source = (.error e, { bridge with inst })) ∧
      ∀ address, answer = .ok address →
        (inst.guest.exportsMemory bridge.context.memory = false →
          bridge.readDeeds source = [.call alloc [len] bridge.inst] ∧
          bridge.read source =
            (.error (.exportNotFound bridge.context.memory), { bridge with inst })) ∧
        (inst.guest.exportsMemory bridge.context.memory = true →
          inst.memory.size < address.toNat + data.length →
          bridge.readDeeds source = [.call alloc [len] bridge.inst] ∧
          bridge.read source =
            (.error (.memoryFault address len inst.memory.size), { bridge with inst })) ∧
        (inst.guest.exportsMemory bridge.context.memory = true →
          address.toNat + data.length ≤ inst.memory.size →
          ∃ memory : Memory, memory.size = inst.memory.size ∧
            memory.bytes address.toNat data.length = data ∧
            (∀ place, place < address.toNat ∨ address.toNat + data.length ≤ place →
              memory.byte place = inst.memory.byte place) ∧
            bridge.readDeeds source = [.call alloc [len] bridge.inst, .write address data inst,
              .call parse [address, len] { inst with memory }] ∧
            bridge.read source = (({ inst with memory }.callWord parse [address, len]).1,
              { bridge with inst := ({ inst with memory }.callWord parse [address, len]).2 })) := by
  intro data len
  have same : Text.Utf8.encode source = data := Text.Utf8.encode_eq source
  have counted : len = UInt32.ofNat (Text.Utf8.encode source).length := by rw [same]
  constructor
  · intro refused
    rw [← same] at refused
    exact read_of_refused refused
  · intro alloc parse inst answer small allocates parses called
    rw [← same] at small ⊢
    constructor
    · rintro e rfl
      exact read_of_stopped small allocates parses counted called
    · rintro address rfl
      refine ⟨fun hidden => ?_, fun exported outside => ?_, fun exported inside => ?_⟩
      · exact read_of_undelivered small allocates parses counted called
          (deliver_of_unexported hidden)
      · rw [counted]
        exact read_of_undelivered small allocates parses rfl (counted ▸ called)
          (deliver_of_outside small exported outside)
      · refine ⟨inst.memory.setBytes address.toNat (Text.Utf8.encode source),
          Memory.size_setBytes .., Memory.bytes_setBytes .., fun place outside => ?_, ?_⟩
        · exact Memory.byte_setBytes_of_outside _ outside
        · exact read_of_delivered small allocates parses counted called
            (deliver_of_inside small exported inside)

/-- A guest whose allocator adds a page and answers an address just before the old end of the memory, or one
past the end for an empty source, and whose parser answers the last byte of the buffer. -/
def lendingGuest : Guest Unit :=
  Guest.exporting (Guest.accessors 0 0 0 ++ Guest.sentinels ++
    [("wisp_alloc", .func ⟨[.i32], [.i32], fun args =>
        if args = [0] then .done [65537] else .grow 1 fun _ => .done [65532]⟩),
      ("wisp_read", .func ⟨[.i32, .i32], [.i32], fun args =>
        .load (args.headD 0) (args.getLastD 0).toNat fun data =>
          .done [(data.getLastD 0).toUInt64]⟩)])

/-- Five bytes are handed over across the old end of the memory; none are handed over past its end. -/
theorem read_confined_lendingGuest :
    ∃ bridge, start Config.default lendingGuest = .ok bridge ∧
      (bridge.read "é€").1 = .ok 0xac ∧
      (bridge.read "é€").2.inst.memory.bytes 65532 5 = [0xc3, 0xa9, 0xe2, 0x82, 0xac] ∧
      (bridge.readDeeds "é€").length = 3 ∧
      (bridge.read "").1 = .error (.memoryFault 65537 0 65536) ∧
      (bridge.readDeeds "").length = 1 := by
  obtain ⟨bridge, started⟩ : ∃ bridge, start Config.default lendingGuest = .ok bridge := ⟨_, rfl⟩
  refine ⟨bridge, started, ?_⟩
  have five : ("é€" : String).toByteArray.data.toList = [0xc3, 0xa9, 0xe2, 0x82, 0xac] := by
    decide +kernel
  have zero : ("" : String).toByteArray.data.toList = [] := by decide +kernel
  obtain ⟨-, filled⟩ := read_confined bridge "é€"
  obtain ⟨-, empty⟩ := read_confined bridge ""
  rw [five] at filled
  rw [zero] at empty
  -- Only now the bridge is made explicit, so that what it finds and calls can be computed.
  cases started
  obtain ⟨-, lent⟩ := filled _ _ _ _ (by decide) rfl rfl rfl
  obtain ⟨-, -, inside⟩ := lent _ rfl
  obtain ⟨memory, -, -, -, three, -⟩ := inside rfl (by decide)
  obtain ⟨-, refused⟩ := empty _ _ _ _ (by decide) rfl rfl rfl
  obtain ⟨-, outside, -⟩ := refused _ rfl
  obtain ⟨one, faulted⟩ := outside rfl (by decide)
  refine ⟨rfl, rfl, ?_, ?_, ?_⟩
  · rw [three]
    rfl
  · rw [faulted]
    rfl
  · rw [one]
    rfl

end Bridge

end LispHost
