import LispHost.Bridge
import LispHost.Proofs.Decode.Runs

/-!
Bridges that answer alike.

A disguise changes an instance in a way that shows in none of its calls: a call on the changed instance
answers what it answers on the unchanged one, and leaves that one changed in the same way. Reading a source
and projecting a value do nothing but call the guest and use its memory, so they cannot tell a disguised
bridge either.
-/

set_option autoImplicit false

namespace LispHost

variable {σ : Type}

/-- A change of instances that does not show in their calls. -/
structure Instance.Disguise (g : Instance σ → Instance σ) : Prop where
  guest (inst : Instance σ) : (g inst).guest = inst.guest
  memory (inst : Instance σ) : (g inst).memory = inst.memory
  refill (inst : Instance σ) (memory : Memory) :
    { g inst with memory := memory } = g { inst with memory := memory }
  callWord (inst : Instance σ) (f : Func σ) (args : List Word) :
    (g inst).callWord f args = ((inst.callWord f args).1, g (inst.callWord f args).2)

namespace Instance.Disguise

variable {g : Instance σ → Instance σ}

theorem memoryOf (disguise : Disguise g) (inst : Instance σ) (name : String) :
    (g inst).memoryOf name = inst.memoryOf name := by
  unfold Instance.memoryOf exportedMemory
  rw [disguise.guest, disguise.memory]

theorem mirrors (disguise : Disguise g) (ctx : DecodingContext σ) :
    HeapReader.Mirrors g ctx.reader ctx.reader where
  tagOf value inst := by
    change ctx.tagOfValue value (g inst) = _
    unfold DecodingContext.tagOfValue
    rw [disguise.callWord]
    rfl
  row tag value inst := by
    change ctx.rowOf tag value (g inst) =
      ((ctx.rowOf tag value inst).1, g (ctx.rowOf tag value inst).2)
    unfold DecodingContext.rowOf
    cases tag.rowWidth with
    | none => rfl
    | some width =>
      cases ctx.tags.codeOf tag with
      | none => rfl
      | some code =>
        simp only [disguise.callWord]
        cases inst.callWord ctx.row [code, value] with
        | mk answer after =>
        cases answer with
        | error e => rfl
        | ok address => simp only [DecodingContext.slice, disguise.memoryOf]
  string handle inst := by
    change ctx.stringOf handle (g inst) =
      ((ctx.stringOf handle inst).1, g (ctx.stringOf handle inst).2)
    unfold DecodingContext.stringOf
    rw [disguise.callWord]
    cases inst.callWord ctx.string [handle] with
    | mk answer after =>
    cases answer with
    | error e => rfl
    | ok address => simp only [disguise.memoryOf]
  sentinels _ := rfl

end Instance.Disguise

/-- A change of bridges to which reading and projecting are blind, with the change of their instances. -/
structure Bridge.Disguise (f : Bridge σ → Bridge σ) (g : Instance σ → Instance σ) : Prop
    extends Instance.Disguise g where
  inst (bridge : Bridge σ) : (f bridge).inst = g bridge.inst
  context (bridge : Bridge σ) : (f bridge).context = bridge.context
  options (bridge : Bridge σ) : (f bridge).options = bridge.options
  alloc (bridge : Bridge σ) : (f bridge).abi.alloc = bridge.abi.alloc
  parser (bridge : Bridge σ) : (f bridge).abi.read = bridge.abi.read
  exchange (bridge : Bridge σ) (inst : Instance σ) :
    { f bridge with inst := g inst } = f { bridge with inst := inst }

namespace Bridge.Disguise

variable {f : Bridge σ → Bridge σ} {g : Instance σ → Instance σ}

theorem deliver (disguise : Disguise f g) (bridge : Bridge σ) (address : Word)
    (data : List UInt8) :
    (f bridge).deliver address data = (bridge.deliver address data).map f := by
  have name : (f bridge).context.memory = bridge.context.memory :=
    congrArg DecodingContext.memory (disguise.context bridge)
  unfold Bridge.deliver
  rw [disguise.inst, name, disguise.memoryOf]
  cases bridge.inst.memoryOf bridge.context.memory with
  | error e => rfl
  | ok memory =>
    change (memory.writeBytes address data >>= fun memory =>
        pure { f bridge with inst := { g bridge.inst with memory } }) =
      (memory.writeBytes address data >>= fun memory =>
        pure { bridge with inst := { bridge.inst with memory } }).map f
    cases memory.writeBytes address data with
    | error e => rfl
    | ok filled =>
      have refilled := disguise.exchange bridge { bridge.inst with memory := filled }
      rw [← disguise.refill] at refilled
      exact congrArg Except.ok refilled

theorem read (disguise : Disguise f g) (bridge : Bridge σ) (source : String) :
    (f bridge).read source = ((bridge.read source).1, f (bridge.read source).2) := by
  unfold Bridge.read
  rw [disguise.inst, disguise.guest, disguise.alloc, disguise.parser]
  by_cases large : wordCount ≤ (Text.Utf8.encode source).length
  · simp only [if_pos large]
  · simp only [if_neg large]
    cases bridge.inst.guest.wordFunc bridge.abi.alloc 1 with
    | error e => rfl
    | ok alloc =>
      cases bridge.inst.guest.wordFunc bridge.abi.read 2 with
      | error e => rfl
      | ok parse =>
        simp only [disguise.callWord]
        cases bridge.inst.callWord alloc [UInt32.ofNat (Text.Utf8.encode source).length] with
        | mk answer inst =>
        cases answer with
        | error e => exact congrArg (Prod.mk _) (disguise.exchange bridge inst)
        | ok address =>
          simp only [disguise.exchange, disguise.deliver]
          cases Bridge.deliver { bridge with inst } address (Text.Utf8.encode source) with
          | error e => rfl
          | ok filled =>
            simp only [Except.map, disguise.inst, disguise.callWord, disguise.exchange]

theorem project (disguise : Disguise f g) (bridge : Bridge σ) (value : Word) :
    (f bridge).project value = ((bridge.project value).1, f (bridge.project value).2) := by
  have decoded := (disguise.mirrors bridge.context).decode bridge.options value bridge.inst
  have same : (f bridge).context.decode (f bridge).options value (f bridge).inst =
      ((bridge.context.decode bridge.options value bridge.inst).1,
        g (bridge.context.decode bridge.options value bridge.inst).2) := by
    rw [disguise.context, disguise.options, disguise.inst]
    exact decoded
  unfold Bridge.project Bridge.decode
  rw [same]
  exact congrArg (Prod.mk _) (disguise.exchange bridge _)

end Bridge.Disguise

end LispHost
