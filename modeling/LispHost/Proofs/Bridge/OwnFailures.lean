import LispHost.Bridge

/-!
Failures of the host's own.

An operation of a bridge fails either because guest code was stopped, by a trap, an exit or a call before the
binding, or because the host itself finds something missing, of another type or outside the memory. The
lookups and copies of the host run no guest code, so all their failures are of the second kind.
-/

set_option autoImplicit false

namespace LispHost

variable {σ α β : Type}

/-- What the host finds wrong without the guest having been stopped. -/
inductive Error.Own : Error → Prop
  | memoryFault (offset len : Word) (size : Nat) : Own (.memoryFault offset len size)
  | encoding (handle len : Word) : Own (.encoding handle len)
  | missingRow (tag : String) : Own (.missingRow tag)
  | argumentCount (expected given : Nat) : Own (.execution (.argumentCount expected given))
  | argumentType (expected given : ValueType) : Own (.execution (.argumentType expected given))
  | exportNotFound (name : String) : Own (.exportNotFound name)
  | typeMismatch (expected actual : String) : Own (.typeMismatch expected actual)
  | internal (detail : String) : Own (.internal detail)

/-- An answer that fails, if it does, with an error of the host's own. -/
def OwnFailure (answer : Except Error α) : Prop :=
  ∀ e, answer = .error e → e.Own

namespace OwnFailure

theorem ok (a : α) : OwnFailure (.ok a : Except Error α) := by
  intro e failed
  cases failed

theorem error {e : Error} (own : e.Own) : OwnFailure (.error e : Except Error α) := by
  intro e' failed
  cases failed
  exact own

theorem map {answer : Except Error α} (own : OwnFailure answer) (f : α → β) :
    OwnFailure (answer.map f) := by
  cases answer with
  | ok a => exact ok (f a)
  | error e => exact error (own e rfl)

theorem bind {answer : Except Error α} {f : α → Except Error β} (own : OwnFailure answer)
    (rest : ∀ a, OwnFailure (f a)) : OwnFailure (answer >>= f) := by
  cases answer with
  | ok a => exact rest a
  | error e => exact error (own e rfl)

end OwnFailure

open OwnFailure (error)

namespace Guest

theorem func_ownFailure (guest : Guest σ) (name : String) : OwnFailure (guest.func name) := by
  rw [func]
  split
  · exact .ok _
  · exact error (.exportNotFound name)

theorem wordFunc_ownFailure (guest : Guest σ) (name : String) (arity : Nat) :
    OwnFailure (guest.wordFunc name arity) := by
  have found := guest.func_ownFailure name
  rw [wordFunc, typedFunc]
  split
  · rename_i missing
    exact error (found _ missing)
  · split
    · exact .ok _
    · exact error (.typeMismatch ..)

theorem globalWord_ownFailure (guest : Guest σ) (name : String) :
    OwnFailure (guest.globalWord name) := by
  rw [globalWord]
  split
  · exact .ok _
  · exact error (.typeMismatch ..)
  · exact error (.exportNotFound name)

end Guest

namespace Memory

theorem slice_ownFailure (memory : Memory) (offset len : Word) :
    OwnFailure (memory.slice offset len) := by
  rw [slice]
  split
  · exact .ok _
  · exact error (.memoryFault ..)

theorem word_ownFailure (memory : Memory) (offset : Word) : OwnFailure (memory.word offset) := by
  rw [word]
  split
  · exact .ok _
  · exact error (.memoryFault ..)

theorem writeBytes_ownFailure (memory : Memory) (offset : Word) (data : List UInt8) :
    OwnFailure (memory.writeBytes offset data) := by
  rw [writeBytes]
  split
  · exact error (.memoryFault ..)
  · split
    · exact .ok _
    · exact error (.memoryFault ..)

end Memory

namespace Instance

theorem memoryOf_ownFailure (inst : Instance σ) (name : String) :
    OwnFailure (inst.memoryOf name) := by
  rw [memoryOf]
  split
  · exact .ok _
  · exact error (.exportNotFound name)

theorem wordsOf_ownFailure (name : String) (values : List Value) :
    OwnFailure (wordsOf name values) := by
  fun_induction wordsOf name values with
  | case1 => exact .ok _
  | case2 word rest words counted ih => exact .ok _
  | case3 word rest e failed ih => exact error (ih e failed)
  | case4 => exact error (.typeMismatch ..)

end Instance

namespace DecodingContext

theorem resolveTags_ownFailure (guest : Guest σ) (table : TagTable)
    (names : List (Tag × String)) : OwnFailure (resolveTags guest table names) := by
  induction names generalizing table with
  | nil => exact .ok table
  | cons entry rest ih =>
    obtain ⟨tag, name⟩ := entry
    have found := guest.globalWord_ownFailure name
    rw [resolveTags]
    split
    · exact ih _
    · exact ih table
    · rename_i failed
      exact error (found _ failed)

theorem resolve_ownFailure (guest : Guest σ) (abi : Abi) : OwnFailure (resolve guest abi) := by
  rw [resolve]
  refine (guest.wordFunc_ownFailure _ _).bind fun tagOf => ?_
  refine (guest.wordFunc_ownFailure _ _).bind fun row => ?_
  refine (guest.wordFunc_ownFailure _ _).bind fun string => ?_
  refine (resolveTags_ownFailure guest _ _).bind fun tags => ?_
  refine (guest.globalWord_ownFailure _).bind fun nil => ?_
  exact (guest.globalWord_ownFailure _).bind fun t => .ok _

theorem slice_ownFailure (ctx : DecodingContext σ) (inst : Instance σ) (offset len : Word) :
    OwnFailure (ctx.slice inst offset len) :=
  (inst.memoryOf_ownFailure ctx.memory).bind fun memory => memory.slice_ownFailure offset len

theorem word_ownFailure (ctx : DecodingContext σ) (inst : Instance σ) (offset : Word) :
    OwnFailure (ctx.word inst offset) :=
  (inst.memoryOf_ownFailure ctx.memory).bind fun memory => memory.word_ownFailure offset

theorem memorySize_ownFailure (ctx : DecodingContext σ) (inst : Instance σ) :
    OwnFailure (ctx.memorySize inst) :=
  (inst.memoryOf_ownFailure ctx.memory).bind fun memory => .ok memory.size

theorem stringAt_ownFailure (memory : Memory) (handle address : Word) :
    OwnFailure (stringAt memory handle address) := by
  refine (memory.word_ownFailure address).bind fun len => ?_
  split
  · exact error (.memoryFault ..)
  · refine (memory.slice_ownFailure _ _).bind fun data => ?_
    split
    · exact .ok _
    · exact error (.encoding ..)

end DecodingContext

theorem Bridge.deliver_ownFailure (bridge : Bridge σ) (address : Word) (data : List UInt8) :
    OwnFailure (bridge.deliver address data) :=
  (bridge.inst.memoryOf_ownFailure bridge.context.memory).bind fun memory =>
    (memory.writeBytes_ownFailure address data).bind fun _ => .ok _

end LispHost
