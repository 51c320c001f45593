import LispHost.Proofs.Script.Relocation
import LispHost.Proofs.Script.Trees
import Mathlib.Control.Monad.Basic

/-!
Content of a bridge.

A bridge keeps nothing of a guest but the instance itself: no size, no address and no bytes. So what it shows
of a value in one state it shows in every state with the same content, and a guest may grow its memory and
move its name records between two projections of a value.
-/

set_option autoImplicit false

namespace LispHost.Bridge

open Script

private theorem exists_of_call_ok {bridge after : Bridge Globals} {name : String}
    {args words : List Word} (called : bridge.call name args = (.ok words, after)) :
    ∃ next, bridge.inst.call name args = (.ok words, next) ∧ after = { bridge with inst := next } := by
  rw [Bridge.call] at called
  cases ran : bridge.inst.call name args with
  | mk answer next =>
  rw [ran] at called
  cases called
  exact ⟨next, rfl, rfl⟩

/-- What is shown of a value depends on its content alone: on the tags, row words and string records of the
words reached from it within the bound, as long as the bytes of each record start within the address space.
A relocation of the name records keeps that content, provided that the bytes that are moved lie within the
memory, the records of the symbols that are met lie within them, and no row of a word that is met overlaps
them; what was shown before is shown after it, unless the fuel runs out, and if also the rows lie within the
memory, what is shown after was shown before. -/
theorem project_eq_of_same_content :
    (∀ (σ : Type) (bridge : Bridge σ) (second : Instance σ)
      (Related : Instance σ → Instance σ → Prop) (value : Word) (shown : Projection),
      Related bridge.inst second →
      bridge.context.ContentCarried Related value bridge.options.clamped.maxDepth →
      (bridge.project value).1 = .ok shown →
      ({ bridge with inst := second }.project value).1 = .ok shown) ∧
    ∀ (d : Description) (config : Config) (fresh : Bridge Globals)
      (operations : List Operation) (name : String) (words : List Word)
      (after : Bridge Globals) (value : Word),
      start config d.guest = .ok fresh → OwnAccessors d config.abi →
      d.guest.func name = .ok (function 0 fun _ => relocate) →
      let before := (fresh.performAll operations).2
      before.call name [] = (.ok words, after) →
      after.inst.memory.size = before.inst.memory.size + Memory.pageSize →
      Movable d before.context before.inst value before.options.clamped.maxDepth →
      (∀ shown, (before.project value).1 = .ok shown →
        (after.project value).1 = .ok shown ∨
          before.inst.fuel ≠ none ∧
            (after.project value).1 = .error (.execution (.trap .outOfFuel))) ∧
      (RowsInside d before.context before.inst.memory value before.options.clamped.maxDepth →
        ∀ shown, (after.project value).1 = .ok shown → (before.project value).1 = .ok shown) := by
  constructor
  · intro σ bridge second Related value shown related carried projected
    exact carried.decode related projected
  · intro d config fresh operations name words after value started own relocating before called grown
      movable
    have standing := (standing_of_start started).performAll operations
    have scripted := own.scripted standing.resolved
    obtain ⟨next, ran, rfl⟩ := exists_of_call_ok called
    have moved : Moved before.inst next :=
      moved_of_call standing.paged (by rw [standing.same_guest]; exact relocating) ran grown
        movable.inside
    exact ⟨fun shown projected => moved.decode_after movable scripted projected,
      fun inside shown projected => moved.decode_before movable inside scripted projected⟩

def pairedBridge : Bridge Globals :=
  (onePageBridge.performAll [.call "wisp_cons" [0x40000000, 0x40000001]]).2

def relocatedBridge : Bridge Globals :=
  (pairedBridge.call "relocate" []).2

private theorem moved_pairedBridge : Moved pairedBridge.inst relocatedBridge.inst := by
  have paged : pairedBridge.inst.memory.Paged := ⟨1, by decide, rfl⟩
  have found : pairedBridge.inst.guest.func "relocate" = .ok (function 0 fun _ => relocate) := rfl
  have called : pairedBridge.inst.call "relocate" [] = (.ok [65536], relocatedBridge.inst) := rfl
  exact moved_of_call paged found called rfl (by decide)

private theorem met_pairedBridge {steps : Nat} {raw : Word}
    (met : Met (.usual 1 []) (usualContext 1 []) pairedBridge.inst.memory 0x30000000 steps raw) :
    raw = 0x30000000 ∨ raw = 0x40000000 ∨ raw = 0x40000001 := by
  induction met with
  | root => exact .inl rfl
  | @part steps raw part address met pair placed inside member ih =>
    rcases ih with rfl | rfl | rfl
    · obtain rfl : 0x100 = address := Option.some.inj placed
      have car : pairedBridge.inst.memory.wordAt (UInt32.toNat 0x100) = 0x40000000 := by decide +kernel
      have cdr : pairedBridge.inst.memory.wordAt (UInt32.toNat 0x100 + 4) = 0x40000001 := by decide +kernel
      rw [car, cdr] at member
      simpa using Or.inr member
    · cases pair
    · cases pair

private theorem rows_pairedBridge {raw address : Word} {tag : Tag} {width : Nat}
    (met : raw = 0x30000000 ∨ raw = 0x40000000 ∨ raw = 0x40000001)
    (classified : tag? (.usual 1 []) (usualContext 1 []) raw = some tag)
    (wide : tag.rowWidth = some width)
    (placed : place? (.usual 1 []) (usualContext 1 []) tag raw = some address) :
    address.toNat + 4 * width ≤ 0x1000 := by
  rcases met with rfl | rfl | rfl <;> cases classified <;> cases wide <;> cases placed <;> decide

private theorem movable_pairedBridge :
    Movable (.usual 1 []) (usualContext 1 []) pairedBridge.inst 0x30000000 1024 where
  inside := by decide
  rows met _ classified wide placed :=
    .inl (rows_pairedBridge (met_pairedBridge met) classified wide placed)
  records := by
    intro steps raw address met _ symbol placed _
    rcases met_pairedBridge met with rfl | rfl | rfl
    · cases symbol
    · cases placed
      constructor <;> decide +kernel
    · cases placed
      constructor <;> decide +kernel

private theorem content_pairedBridge :
    (usualContext 1 []).ContentCarried
      (fun first second => first = pairedBridge.inst ∧ second = relocatedBridge.inst)
      0x40000000 1024 := by
  have symbol : (usualContext 1 []).tagOfValue 0x40000000 pairedBridge.inst =
      (.ok .sym, pairedBridge.inst) := rfl
  have only_root : ∀ steps raw, (usualContext 1 []).Reached
      (fun first second => first = pairedBridge.inst ∧ second = relocatedBridge.inst)
      0x40000000 steps raw → raw = 0x40000000 := by
    intro steps raw reached
    induction reached with
    | root => rfl
    | part reached related tagged read member ih =>
      obtain ⟨rfl, rfl⟩ := related
      subst ih
      cases symbol.symm.trans tagged
  rintro steps raw reached - _ _ ⟨rfl, rfl⟩ tag first' tagged
  obtain rfl := only_root steps raw reached
  cases symbol.symm.trans tagged
  refine ⟨relocatedBridge.inst, rfl, ⟨rfl, rfl⟩, ?_⟩
  intro width code address words first' wide coded called lies
  cases wide
  cases coded
  have asked : pairedBridge.inst.callWord (usualContext 1 []).row [3, 0x40000000] =
      (.ok 0x800, pairedBridge.inst) := rfl
  cases asked.symm.trans called
  refine ⟨0x800, relocatedBridge.inst, rfl, ?_, ⟨rfl, rfl⟩, fun _ handle member => ?_⟩
  · exact (moved_pairedBridge.rowLies_iff (by decide) (.inl (by decide))).mpr lies
  · obtain ⟨-, -, rfl⟩ := DecodingContext.rowLies_iff.mp lies
    have cell : pairedBridge.inst.memory.wordAt (UInt32.toNat 0x800) = 0 := by decide +kernel
    obtain rfl : handle = 0 := (List.mem_singleton.mp member).trans cell
    intro address len data first' called record
    have named : pairedBridge.inst.callWord (usualContext 1 []).string [0] =
        (.ok 0x1000, pairedBridge.inst) := rfl
    cases named.symm.trans called
    have within : RecordWithin pairedBridge.inst 0 := by constructor <;> decide +kernel
    exact ⟨65536, relocatedBridge.inst, rfl, by decide,
      (moved_pairedBridge.recordLies_iff (by decide) within).mpr record, ⟨rfl, rfl⟩⟩

/-- A symbol and a pair of two symbols are shown alike before and after the relocation. -/
theorem project_eq_of_same_content_pairedBridge :
    start Config.default (Description.usual 1 []).guest = .ok onePageBridge ∧
    Movable (.usual 1 []) (usualContext 1 []) pairedBridge.inst 0x30000000 1024 ∧
    RowsInside (.usual 1 []) (usualContext 1 []) pairedBridge.inst.memory 0x30000000 1024 ∧
    pairedBridge.call "relocate" [] = (.ok [65536], relocatedBridge) ∧
    pairedBridge.inst.globals.strBase = 0x1000 ∧ relocatedBridge.inst.globals.strBase = 0x10000 ∧
    relocatedBridge.inst.memory.wordAt 0x1000 = 0 ∧
    (pairedBridge.project 0x40000000).1 = .ok (.sym "foo") ∧
    (relocatedBridge.project 0x40000000).1 = .ok (.sym "foo") ∧
    (pairedBridge.project 0x30000000).1 = .ok (.duo (.sym "foo") (.sym "bar")) ∧
    (relocatedBridge.project 0x30000000).1 = .ok (.duo (.sym "foo") (.sym "bar")) := by
  have started : start Config.default (Description.usual 1 []).guest = .ok onePageBridge := rfl
  have own : OwnAccessors (.usual 1 []) Config.default.abi := ⟨rfl, rfl, rfl⟩
  have foo : (pairedBridge.project 0x40000000).1 = .ok (.sym "foo") := by decide +kernel
  have pair : (pairedBridge.project 0x30000000).1 = .ok (.duo (.sym "foo") (.sym "bar")) := by decide +kernel
  have foo_after := project_eq_of_same_content.1 Globals pairedBridge relocatedBridge.inst
    (fun first second => first = pairedBridge.inst ∧ second = relocatedBridge.inst) 0x40000000
    (.sym "foo") ⟨rfl, rfl⟩ content_pairedBridge foo
  obtain ⟨forth, back⟩ := project_eq_of_same_content.2 (.usual 1 []) .default onePageBridge
    [.call "wisp_cons" [0x40000000, 0x40000001]] "relocate" [65536] relocatedBridge 0x30000000
    started own rfl rfl rfl movable_pairedBridge
  have pair_after : (relocatedBridge.project 0x30000000).1 =
      .ok (.duo (.sym "foo") (.sym "bar")) := by
    rcases forth _ pair with same | ⟨metered, -⟩
    · exact same
    · exact absurd rfl metered
  have inside : RowsInside (.usual 1 []) (usualContext 1 []) pairedBridge.inst.memory 0x30000000
      1024 := fun steps width raw address tag met _ classified wide placed =>
    Nat.le_trans (rows_pairedBridge (met_pairedBridge met) classified wide placed) (by decide)
  exact ⟨started, movable_pairedBridge, inside, rfl, rfl, rfl, by decide +kernel, foo, foo_after,
    back inside _ pair_after, pair_after⟩

def emptyPage : Description :=
  { Description.usual 1 [] with defaultData := false }

def emptyBridge : Bridge Globals :=
  { onePageBridge with
    inst := { onePageBridge.inst with guest := emptyPage.guest, memory := .zeroed 65536 } }

def limitedTo (limits : Limits) : Config :=
  { Config.default with limits }

def wideLimits : Limits :=
  { Limits.default with maxMemoryPages := Memory.pageCeiling }

def wideBridge : Bridge Globals :=
  { emptyBridge with inst := { emptyBridge.inst with limits := some wideLimits } }

/-- That bridge with the whole address space for its memory; the name of the first symbol is an empty
record. -/
def recordLow : Bridge Globals :=
  (wideBridge.performAll [.call "grow" [65535], .call "set_str_base" [0x5000]]).2

/-- The same bridge, but the empty record lies in the last four bytes. -/
def recordHigh : Bridge Globals :=
  (recordLow.performAll [.call "set_str_base" [0xfffffffc]]).2

/-- A bridge where the name of the first symbol lies in the last sixteen bytes of the memory. -/
def recordLate : Bridge Globals :=
  (emptyBridge.performAll [.call "poke" [65520, 3], .call "poke" [65524, 0x6f6f66],
    .call "set_str_base" [65520]]).2

def scarceLimits : Limits :=
  { Limits.default with maxFuel := some 4 }

/-- A fresh bridge with these limits; the initialiser has been called. -/
def scarceBridge : Bridge Globals :=
  { emptyBridge with
    inst := { emptyBridge.inst with limits := some scarceLimits, fuel := some 3 } }

/-- Four ways in which the content is not enough. An empty record in the last four bytes of the address space
has its length and its bytes, but they start where no address is. A row beyond the memory can be read when
the memory has grown. Records are cleared that were copied to a new place next to the old one. And the call
that moves the records may have used up the fuel. -/
theorem project_ne_of_same_content :
    (start (limitedTo wideLimits) emptyPage.guest = .ok wideBridge ∧
      (∀ state ∈ [(recordLow, (0x5000 : Word)), (recordHigh, 0xfffffffc)],
        (state.1.tagOf 0x40000000).1 = .ok .sym ∧
        (state.1.row .sym 0x40000000).1 = .ok ⟨.sym, [0]⟩ ∧
        (state.1.call "wisp_str" [0]).1 = .ok [state.2] ∧
        state.1.context.RecordLies state.1.inst state.2 0 []) ∧
      (recordLow.project 0x40000000).1 = .ok (.sym "") ∧
      (recordHigh.project 0x40000000).1 = .error (.memoryFault 0xfffffffc 4 wordCount)) ∧
    (start Config.default emptyPage.guest = .ok emptyBridge ∧
      (emptyBridge.call "relocate" []).1 = .ok [0x10000] ∧
      (emptyBridge.project 0x30002000).1 = .error (.memoryFault 0x10100 8 0x10000) ∧
      ((emptyBridge.call "relocate" []).2.project 0x30002000).1 = .ok (.duo (.int 0) (.int 0))) ∧
    (RecordWithin recordLate.inst 0 ∧ (recordLate.call "relocate" []).1 = .ok [0x10000] ∧
      (recordLate.project 0x40000000).1 = .ok (.sym "foo") ∧
      ((recordLate.call "relocate" []).2.project 0x40000000).1 = .ok (.sym "")) ∧
    start (limitedTo scarceLimits) emptyPage.guest = .ok scarceBridge ∧
      (scarceBridge.call "relocate" []).1 = .ok [0x10000] ∧
      (scarceBridge.project 0x40000000).1 = .ok (.sym "") ∧
      ((scarceBridge.call "relocate" []).2.project 0x40000000).1 =
        .error (.execution (.trap .outOfFuel)) := by
  have low : recordLow.context.RecordLies recordLow.inst 0x5000 0 [] :=
    DecodingContext.recordLies_iff.mpr ⟨rfl, by decide, by decide +kernel, rfl⟩
  have high : recordHigh.context.RecordLies recordHigh.inst 0xfffffffc 0 [] :=
    DecodingContext.recordLies_iff.mpr ⟨rfl, by decide, rfl, rfl⟩
  have within : RecordWithin recordLate.inst 0 := by constructor <;> decide +kernel
  refine ⟨⟨rfl, ?_, rfl, rfl⟩, ⟨rfl, rfl, rfl, rfl⟩, ⟨within, rfl, rfl, rfl⟩,
    rfl, rfl, rfl, rfl⟩
  rintro state member
  obtain rfl | rfl : state = (recordLow, 0x5000) ∨ state = (recordHigh, 0xfffffffc) := by
    simpa using member
  · exact ⟨rfl, rfl, rfl, low⟩
  · exact ⟨rfl, rfl, rfl, high⟩

end LispHost.Bridge
