import LispHost.Proofs.Bridge.Effects

/-!
Visits to the guest.

Guest code runs only when the host calls a function of the guest. Each operation of a bridge has its list of
such visits, in order, also when the operation fails on the way; for a decode they are the calls of the
accessors. Every visit begins in an instance that the ones before it have left, so what every step keeps holds
at the beginning of every visit of a run.
-/

set_option autoImplicit false

namespace LispHost

variable {σ : Type}

/-- A call of a guest function by the host, and the instance in which it begins. -/
structure Visit (σ : Type) where
  f : Func σ
  args : List Word
  before : Instance σ

namespace Instance

def visitsNamed (inst : Instance σ) (name : String) (args : List Word) : List (Visit σ) :=
  match inst.guest.func name with
  | .error _ => []
  | .ok f =>
    if f.params.length ≠ args.length then []
    else
      match foreignParam? f with
      | some _ => []
      | none => [⟨f, args, inst⟩]

theorem before_of_visitsNamed {inst : Instance σ} {name : String} {args : List Word} :
    ∀ visit ∈ inst.visitsNamed name args, visit.before = inst := by
  rw [visitsNamed]
  split
  · simp
  · split
    · simp
    · split <;> simp

end Instance

namespace DecodingContext

def rowVisits (ctx : DecodingContext σ) (tag : Tag) (value : Word) (inst : Instance σ) :
    List (Visit σ) :=
  match tag.rowWidth, ctx.tags.codeOf tag with
  | some _, some code => [⟨ctx.row, [code, value], inst⟩]
  | _, _ => []

def visited (ctx : DecodingContext σ) : HeapReader (Instance σ × List (Visit σ)) where
  tagOf value state :=
    let (answer, inst) := ctx.tagOfValue value state.1
    (answer, inst, state.2 ++ [⟨ctx.tagOf, [value], state.1⟩])
  row tag value state :=
    let (answer, inst) := ctx.rowOf tag value state.1
    (answer, inst, state.2 ++ ctx.rowVisits tag value state.1)
  string handle state :=
    let (answer, inst) := ctx.stringOf handle state.1
    (answer, inst, state.2 ++ [⟨ctx.string, [handle], state.1⟩])
  sentinels _ := ctx.sentinels

def decodeVisits (ctx : DecodingContext σ) (options : DecodeOptions) (value : Word)
    (inst : Instance σ) : List (Visit σ) :=
  (Projection.decode ctx.visited options value (inst, [])).2.2

end DecodingContext

namespace Bridge

/-- The visits made while a source is parsed: for a buffer, then for the parse. -/
def readVisits (bridge : Bridge σ) (source : String) : List (Visit σ) :=
  let data := Text.Utf8.encode source
  if wordCount ≤ data.length then []
  else
    let len := UInt32.ofNat data.length
    match bridge.inst.guest.wordFunc bridge.abi.alloc 1,
        bridge.inst.guest.wordFunc bridge.abi.read 2 with
    | .ok alloc, .ok read =>
      ⟨alloc, [len], bridge.inst⟩ ::
        match bridge.inst.callWord alloc [len] with
        | (.error _, _) => []
        | (.ok address, inst) =>
          match { bridge with inst }.deliver address data with
          | .error _ => []
          | .ok bridge => [⟨read, [address, len], bridge.inst⟩]
    | _, _ => []

def evalVisits (bridge : Bridge σ) (value : Word) : List (Visit σ) :=
  match bridge.inst.guest.wordFunc bridge.abi.eval 1 with
  | .error _ => []
  | .ok eval => [⟨eval, [value], bridge.inst⟩]

def visits (bridge : Bridge σ) : Operation → List (Visit σ)
  | .read source => bridge.readVisits source
  | .eval value => bridge.evalVisits value
  | .call name args => bridge.inst.visitsNamed name args
  | .project value => bridge.context.decodeVisits bridge.options value bridge.inst
  | .decode options value => bridge.context.decodeVisits options value bridge.inst
  | .tagOf value => [⟨bridge.context.tagOf, [value], bridge.inst⟩]
  | .row tag value => bridge.context.rowVisits tag value bridge.inst
  | .string handle => [⟨bridge.context.string, [handle], bridge.inst⟩]
  | .memorySize | .word _ | .bytes _ _ | .setOptions _ | .takeConsole => []

def visitsAll (bridge : Bridge σ) : List Operation → List (Visit σ)
  | [] => []
  | operation :: rest =>
    bridge.visits operation ++ (bridge.perform operation).2.visitsAll rest

def startVisits (config : Config) (guest : Guest σ) : List (Visit σ) :=
  match createBound config guest, DecodingContext.resolve guest config.abi with
  | .ok inst, .ok _ => inst.visitsNamed config.abi.start []
  | _, _ => []

end Bridge

/-! ### What every step keeps -/

theorem DecodingContext.before_of_rowVisits {ctx : DecodingContext σ} {tag : Tag} {value : Word}
    {inst : Instance σ} : ∀ visit ∈ ctx.rowVisits tag value inst, visit.before = inst := by
  rw [rowVisits]
  split <;> simp

/-- What is kept of an instance and of the visits made so far. -/
private def KeptSoFar (Kept : Instance σ → Prop) (state : Instance σ × List (Visit σ)) : Prop :=
  Kept state.1 ∧ ∀ visit ∈ state.2, Kept visit.before

private theorem ends_of_visits {α : Type} {Kept : Instance σ → Prop} {answer : Except Error α}
    {inst next : Instance σ} {earlier later : List (Visit σ)}
    (kept : KeptSoFar Kept (inst, earlier)) (here : ∀ visit ∈ later, visit.before = inst)
    (kept_next : Kept next) :
    Inquiry.Ends (KeptSoFar Kept) (fun _ => KeptSoFar Kept) (answer, next, earlier ++ later) := by
  have both : KeptSoFar Kept (next, earlier ++ later) := by
    refine ⟨kept_next, List.forall_mem_append.mpr ⟨kept.2, fun visit member => ?_⟩⟩
    rw [here visit member]
    exact kept.1
  cases answer <;> exact both

section Kept

variable {Kept : Instance σ → Prop}
  (quietly : ∀ inst next, Instance.Quiet inst next → Kept inst → Kept next)
  (calling : ∀ inst call, Kept inst → Kept (inst.syscall call).2)

include quietly calling

private theorem visited_invariant (ctx : DecodingContext σ) (detectCycles : Bool) :
    ctx.visited.Invariant detectCycles (KeptSoFar Kept) (fun _ => KeptSoFar Kept) :=
  .of_accessors
    (fun value state kept => ends_of_visits kept (by simp)
      ((ctx.ran_tagOfValue value state.1).keeps quietly calling kept.1).1)
    (fun tag value state kept => ends_of_visits kept DecodingContext.before_of_rowVisits
      ((ctx.ran_rowOf tag value state.1).keeps quietly calling kept.1).1)
    (fun handle state kept => ends_of_visits kept (by simp)
      ((ctx.ran_stringOf handle state.1).keeps quietly calling kept.1).1)
    (fun _ _ _ kept => kept) (fun _ _ _ kept => kept)

theorem DecodingContext.decodeVisits_keep (ctx : DecodingContext σ) (options : DecodeOptions)
    (value : Word) {inst : Instance σ} (kept : Kept inst) :
    ∀ visit ∈ ctx.decodeVisits options value inst, Kept visit.before := by
  have begun : KeptSoFar Kept (inst, []) := ⟨kept, by simp⟩
  have ends := (visited_invariant quietly calling ctx options.detectCycles).decode value begun
  rw [decodeVisits]
  cases ran : Projection.decode ctx.visited options value (inst, []) with
  | mk answer state =>
  rw [ran] at ends
  cases answer <;> exact ends.2

namespace Bridge

private theorem readVisits_keep (bridge : Bridge σ) (source : String) (kept : Kept bridge.inst) :
    ∀ visit ∈ bridge.readVisits source, Kept visit.before := by
  simp only [readVisits]
  split
  · simp
  · split
    · rename_i alloc parse _ _
      have allocated := (bridge.inst.ran_callWord alloc
        [UInt32.ofNat (Text.Utf8.encode source).length]).keeps quietly calling kept
      refine List.forall_mem_cons.mpr ⟨kept, ?_⟩
      split
      · simp
      · rename_i address inst called
        rw [called] at allocated
        split
        · simp
        · rename_i filled delivered
          obtain ⟨inside, rfl⟩ := eq_of_deliver delivered
          simpa using quietly _ _ (.store inst inside) allocated.1
    · simp

theorem visits_keep (bridge : Bridge σ) (operation : Operation) (kept : Kept bridge.inst) :
    ∀ visit ∈ bridge.visits operation, Kept visit.before := by
  cases operation with
  | read source => exact bridge.readVisits_keep quietly calling source kept
  | eval value =>
    rw [visits, evalVisits]
    split
    · simp
    · simpa using kept
  | call name args =>
    intro visit member
    rw [Instance.before_of_visitsNamed visit member]
    exact kept
  | project value =>
    exact bridge.context.decodeVisits_keep quietly calling bridge.options value kept
  | decode options value =>
    exact bridge.context.decodeVisits_keep quietly calling options value kept
  | tagOf value | string handle => simpa [visits] using kept
  | row tag value =>
    intro visit member
    rw [DecodingContext.before_of_rowVisits visit member]
    exact kept
  | memorySize | word offset | bytes offset len | setOptions options | takeConsole => simp [visits]

/-- What every step keeps, and another console too, holds at the beginning of every visit of a run. -/
theorem visitsAll_keep
    (taking : ∀ inst console, Kept inst → Kept (inst.withConsole console))
    (bridge : Bridge σ) (operations : List Operation) (kept : Kept bridge.inst) :
    ∀ visit ∈ bridge.visitsAll operations, Kept visit.before := by
  induction operations generalizing bridge with
  | nil => simp [visitsAll]
  | cons operation rest ih =>
    refine List.forall_mem_append.mpr ⟨bridge.visits_keep quietly calling operation kept, ?_⟩
    exact ih _ (bridge.perform_keeps quietly calling taking operation kept)

end Bridge

end Kept

end LispHost
