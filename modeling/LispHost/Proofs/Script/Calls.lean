import LispHost.Guest.Script
import LispHost.Proofs.Guest.Calls
import LispHost.Proofs.Guest.Fuel
import LispHost.Proofs.Memory.Bytes

/-!
Calls of scripted guests.

A call that is paid for runs the body of the function and does nothing else. The classifier, the row
accessor and the string accessor compute an answer and leave the instance as it is; making a pair writes
its two words to the next cell and counts it.
-/

set_option autoImplicit false

namespace LispHost.Script

open Instance (spend?)

variable {inst next : Instance Globals} {fuel : Option Nat} {args : List Word} {arity : Nat}

private theorem run_function (body : List Word → Program Word) (args : List Word)
    (inst : Instance Globals) :
    Instance.run ((function arity body).run args) inst =
      ((Instance.run (body args) inst).1.map fun answer => [.i32 answer],
        (Instance.run (body args) inst).2) := by
  change Instance.run (((body args).bind fun word => .done [word.toUInt64]).bind fun bits =>
    .done (valuesOfBits [.i32] bits)) inst = _
  rw [Instance.run_bind, Instance.run_bind]
  cases Instance.run (body args) inst with
  | mk ending after =>
  cases ending with
  | value answer =>
    simp only [Instance.run, valuesOfBits, Value.ofBits, UInt32.toUInt32_toUInt64, Ending.map]
  | trap cause | exit code | unbound => rfl

private theorem run_procedure {body : List Word → Program Unit}
    (ran : Instance.run (body args) inst = (.value (), next)) :
    Instance.run ((procedure arity body).run args) inst = (.value [], next) := by
  change Instance.run (((body args).bind fun _ => .done []).bind fun bits =>
    .done (valuesOfBits [] bits)) inst = _
  rw [Instance.run_bind, Instance.run_bind, ran]
  rfl

theorem callWord_of_spend (spent : spend? inst.fuel = some fuel) {body : List Word → Program Word}
    {ending : Ending Word}
    (ran : Instance.run (body args) (inst.withFuel fuel) = (ending, next)) :
    inst.callWord (function arity body) args = (ending.toExcept, next) := by
  rw [Instance.callWord, Instance.callFunc, Instance.enter_of_spend spent, run_function, ran]
  cases ending <;> rfl

theorem callWord_function (unmetered : inst.fuel = none) {body : List Word → Program Word}
    {answer : Word} (ran : Instance.run (body args) inst = (.value answer, next)) :
    inst.callWord (function arity body) args = (.ok answer, next) := by
  have free : spend? inst.fuel = some inst.fuel := by rw [unmetered, spend?]
  exact callWord_of_spend free ran

private theorem foreignParam?_replicate (f : Func Globals)
    (params : f.params = List.replicate arity .i32) : Instance.foreignParam? f = none := by
  rw [Instance.foreignParam?, params]
  simp

private theorem call_of_words {f : Func Globals} {name : String}
    (found : inst.guest.func name = .ok f) (params : f.params = List.replicate arity .i32)
    (count : args.length = arity) :
    inst.call name args = ((inst.callFunc f args).1.bind (Instance.wordsOf name),
      (inst.callFunc f args).2) := by
  rw [Instance.call, found]
  simp only [params, List.length_replicate, count, ne_eq, not_true_eq_false, if_false,
    foreignParam?_replicate f params]
  cases inst.callFunc f args with
  | mk answer next => cases answer <;> rfl

theorem call_of_empty (empty : spend? inst.fuel = none) {f : Func Globals} {name : String}
    (found : inst.guest.func name = .ok f) (params : f.params = List.replicate arity .i32)
    (count : args.length = arity) :
    inst.call name args = (.error (.execution (.trap .outOfFuel)), inst) := by
  rw [call_of_words found params count, Instance.callFunc_of_empty empty]
  rfl

theorem call_function (spent : spend? inst.fuel = some fuel) {name : String}
    {body : List Word → Program Word} (found : inst.guest.func name = .ok (function arity body))
    (count : args.length = arity) {answer : Word}
    (ran : Instance.run (body args) (inst.withFuel fuel) = (.value answer, next)) :
    inst.call name args = (.ok [answer], next) := by
  rw [call_of_words found rfl count, Instance.callFunc, Instance.enter_of_spend spent, run_function,
    ran]
  rfl

theorem call_procedure (spent : spend? inst.fuel = some fuel) {name : String}
    {body : List Word → Program Unit} (found : inst.guest.func name = .ok (procedure arity body))
    (count : args.length = arity)
    (ran : Instance.run (body args) (inst.withFuel fuel) = (.value (), next)) :
    inst.call name args = (.ok [], next) := by
  rw [call_of_words found rfl count, Instance.callFunc, Instance.enter_of_spend spent,
    run_procedure ran]
  rfl

/-- A call by name that succeeds has been paid for, and the body of the function has run to its end. -/
theorem exists_of_call {name : String} {body : List Word → Program Word} {words : List Word}
    (found : inst.guest.func name = .ok (function arity body))
    (called : inst.call name args = (.ok words, next)) :
    ∃ fuel answer, spend? inst.fuel = some fuel ∧
      Instance.run (body args) (inst.withFuel fuel) = (.value answer, next) := by
  simp only [Instance.call, found] at called
  split at called
  · cases congrArg Prod.fst called
  · split at called
    · cases congrArg Prod.fst called
    · cases spent : spend? inst.fuel with
      | none =>
        rw [Instance.callFunc_of_empty spent] at called
        cases congrArg Prod.fst called
      | some fuel =>
        rw [Instance.callFunc, Instance.enter_of_spend spent, run_function] at called
        cases ran : Instance.run (body args) (inst.withFuel fuel) with
        | mk ending after =>
        rw [ran] at called
        cases ending with
        | value answer =>
          obtain rfl : after = next := congrArg Prod.snd called
          exact ⟨fuel, answer, rfl, ran⟩
        | trap cause | exit code | unbound => cases congrArg Prod.fst called

theorem run_tagOf {d : Description} {value code : Word}
    (coded : d.tagCodes[(value >>> 28).toNat]? = some (some code)) (inst : Instance Globals) :
    Instance.run (tagOf d value) inst = (.value code, inst) := by
  rw [tagOf, coded]
  rfl

theorem run_row {d : Description} {code value : Word} {rule : RowRule}
    (ruled : d.rowRules.find? (fun rule => rule.code = code) = some rule)
    (inst : Instance Globals) :
    Instance.run (row d code value) inst =
      (.value (rule.base + (value &&& rule.mask) * rule.stride), inst) := by
  rw [row, ruled]
  rfl

theorem run_str (handle : Word) (inst : Instance Globals) :
    Instance.run (str handle) inst = (.value (inst.globals.strBase + handle), inst) :=
  rfl

def withPair (memory : Memory) (cell : Nat) (car cdr : Word) : Memory :=
  (memory.setBytes cell (Word.toBytes car)).setBytes (cell + 4) (Word.toBytes cdr)

@[simp] theorem size_withPair (memory : Memory) (cell : Nat) (car cdr : Word) :
    (withPair memory cell car cdr).size = memory.size := by
  simp only [withPair, Memory.size_setBytes]

theorem byte_withPair_of_outside (memory : Memory) {cell x : Nat} (car cdr : Word)
    (outside : x < cell ∨ cell + 8 ≤ x) :
    (withPair memory cell car cdr).byte x = memory.byte x := by
  rw [withPair, Memory.byte_setBytes_of_outside _ (by rw [Word.length_toBytes]; omega),
    Memory.byte_setBytes_of_outside _ (by rw [Word.length_toBytes]; omega)]

theorem wordAt_withPair_car (memory : Memory) (cell : Nat) (car cdr : Word) :
    (withPair memory cell car cdr).wordAt cell = car := by
  have kept : ∀ x, cell ≤ x → x < cell + 4 → (withPair memory cell car cdr).byte x =
      (memory.setBytes cell (Word.toBytes car)).byte x :=
    fun x _ high => Memory.byte_setBytes_of_outside _ (.inl high)
  rw [Memory.wordAt_congr kept, Memory.wordAt_setBytes_toBytes]

theorem wordAt_withPair_cdr (memory : Memory) (cell : Nat) (car cdr : Word) :
    (withPair memory cell car cdr).wordAt (cell + 4) = cdr :=
  Memory.wordAt_setBytes_toBytes _ _ _

theorem run_cons {d : Description} {car cdr : Word} {cell : Nat}
    (placed : (d.duoBase + inst.globals.duoCount * 8).toNat = cell)
    (within : cell + 8 ≤ inst.memory.size) (unwrapped : cell + 4 < wordCount) :
    Instance.run (cons d car cdr) inst =
      (.value (inst.globals.duoCount ||| 0x30000000),
        { inst with
          memory := withPair inst.memory cell car cdr
          globals := { inst.globals with duoCount := inst.globals.duoCount + 1 } }) := by
  have second : (d.duoBase + inst.globals.duoCount * 8 + 4).toNat = cell + 4 := by
    rw [wordCount] at unwrapped
    rw [UInt32.toNat_add, placed]
    exact Nat.mod_eq_of_lt unwrapped
  have first_fits : cell + (Word.toBytes car).length ≤ inst.memory.size := by
    rw [Word.length_toBytes]
    omega
  have second_fits : cell + 4 + (Word.toBytes cdr).length ≤
      (inst.memory.setBytes cell (Word.toBytes car)).size := by
    rw [Word.length_toBytes, Memory.size_setBytes]
    omega
  change Instance.run (.store (d.duoBase + inst.globals.duoCount * 8) (Word.toBytes car) fun _ =>
    .store (d.duoBase + inst.globals.duoCount * 8 + 4) (Word.toBytes cdr) fun _ =>
      .getGlobals fun g => .setGlobals { g with duoCount := g.duoCount + 1 } fun _ =>
        .done (inst.globals.duoCount ||| 0x30000000)) inst = _
  simp only [Instance.run, placed, second, if_pos first_fits, if_pos second_fits, withPair]

end LispHost.Script
