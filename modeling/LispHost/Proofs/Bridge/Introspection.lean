import LispHost.Proofs.Bridge.Pages
import LispHost.Proofs.Guest.Still
import LispHost.Proofs.Script.Content
import Mathlib.Control.Monad.Basic

/-!
Looking at a bridge.

Projecting a value and reading through the view call the accessors of the guest, and nothing else of it. Where
these only look, and calls cost no fuel, looking leaves the whole bridge as it was, also when a decode fails in
the middle. So what is looked at in a run, when and how often makes no difference to anything else in it. The
accessors are whatever functions the names of the host lead to; those of a scripted guest only look.
-/

set_option autoImplicit false

namespace LispHost

variable {σ : Type}

namespace DecodingContext

/-- A context whose accessors only look. -/
structure Still (ctx : DecodingContext σ) : Prop where
  tagOf : ctx.tagOf.Still
  row : ctx.row.Still
  string : ctx.string.Still

namespace Still

variable {ctx : DecodingContext σ} {inst : Instance σ}

theorem tagOfValue (still : ctx.Still) (unmetered : inst.fuel = none) (value : Word) :
    (ctx.tagOfValue value inst).2 = inst :=
  Instance.callWord_of_still still.tagOf unmetered [value]

theorem rowOf (still : ctx.Still) (unmetered : inst.fuel = none) (tag : Tag) (value : Word) :
    (ctx.rowOf tag value inst).2 = inst := by
  rw [DecodingContext.rowOf]
  split
  · rename_i width code _ _
    have called := Instance.callWord_of_still still.row unmetered [code, value]
    split <;> rename_i answered <;> rwa [answered] at called
  · rfl

theorem stringOf (still : ctx.Still) (unmetered : inst.fuel = none) (handle : Word) :
    (ctx.stringOf handle inst).2 = inst := by
  have called := Instance.callWord_of_still still.string unmetered [handle]
  rw [DecodingContext.stringOf]
  split <;> rename_i answered <;> rwa [answered] at called

private theorem ends_of_same {α : Type} {answer : Except Error α} {next : Instance σ}
    (same : next = inst) :
    Inquiry.Ends (fun state => state = inst) (fun _ state => state = inst) (answer, next) := by
  cases answer <;> exact same

theorem decode (still : ctx.Still) (unmetered : inst.fuel = none) (options : DecodeOptions)
    (value : Word) : (ctx.decode options value inst).2 = inst := by
  have invariant : ctx.reader.Invariant options.detectCycles (fun state => state = inst)
      (fun _ state => state = inst) := by
    refine .of_accessors ?_ ?_ ?_ (fun _ _ _ same => same) (fun _ _ _ same => same)
    · rintro raw state rfl
      exact ends_of_same (still.tagOfValue unmetered raw)
    · rintro tag raw state rfl
      exact ends_of_same (still.rowOf unmetered tag raw)
    · rintro handle state rfl
      exact ends_of_same (still.stringOf unmetered handle)
  have ends := invariant.decode value rfl
  rw [DecodingContext.decode]
  cases decoded : Projection.decode ctx.reader options value inst with
  | mk answer next =>
  rw [decoded] at ends
  cases answer <;> exact ends

end Still

/-- The accessors of a context are functions that the guest exports under the names of the host. -/
theorem still_of_resolve {guest : Guest σ} {abi : Abi} {ctx : DecodingContext σ}
    (resolved : resolve guest abi = .ok ctx)
    (looks : ∀ name ∈ [abi.tagOf, abi.row, abi.string], ∀ f, guest.func name = .ok f → f.Still) :
    ctx.Still := by
  have found : ∀ {name : String} {arity : Nat} {f : Func σ},
      guest.wordFunc name arity = .ok f → guest.func name = .ok f := by
    intro name arity f lookup
    rw [Guest.func, (Guest.wordFunc_eq_ok_iff.mp lookup).1]
  obtain ⟨tagOf, tagOf_found, resolved⟩ := exists_of_bind_eq_ok resolved
  obtain ⟨row, row_found, resolved⟩ := exists_of_bind_eq_ok resolved
  obtain ⟨string, string_found, resolved⟩ := exists_of_bind_eq_ok resolved
  obtain ⟨tags, -, resolved⟩ := exists_of_bind_eq_ok resolved
  obtain ⟨nil, -, resolved⟩ := exists_of_bind_eq_ok resolved
  obtain ⟨t, -, resolved⟩ := exists_of_bind_eq_ok resolved
  cases resolved
  exact {
    tagOf := looks abi.tagOf (by simp) tagOf (found tagOf_found)
    row := looks abi.row (by simp) row (found row_found)
    string := looks abi.string (by simp) string (found string_found) }

end DecodingContext

/-! ### Scripted guests -/

namespace Script

private theorem function_still {arity : Nat} {body : List Word → Program Word}
    (still : ∀ args, (body args).Still) : (function arity body).Still :=
  fun args => (still args).bind fun word => .done [word.toUInt64]

private theorem one_still {body : Word → Program Word} (still : ∀ x, (body x).Still) :
    (function 1 (one body)).Still := by
  refine function_still fun args => ?_
  rw [one.eq_def]
  split
  · exact still _
  · exact .trap .unreachable

private theorem two_still {body : Word → Word → Program Word} (still : ∀ x y, (body x y).Still) :
    (function 2 (two body)).Still := by
  refine function_still fun args => ?_
  rw [two.eq_def]
  split
  · exact still _ _
  · exact .trap .unreachable

theorem OwnAccessors.still {d : Description} {abi : Abi} (own : OwnAccessors d abi) :
    ∀ name ∈ [abi.tagOf, abi.row, abi.string], ∀ f, d.guest.func name = .ok f → f.Still := by
  have tagOf_still : ∀ x, (Script.tagOf d x).Still := by
    intro x
    rw [Script.tagOf]
    split
    · exact .done _
    · exact .trap .unreachable
  have row_still : ∀ x y, (Script.row d x y).Still := by
    intro x y
    rw [Script.row]
    split
    · exact .done _
    · exact .trap .unreachable
  have str_still : ∀ x, (str x).Still := fun x => .getGlobals fun globals => .done _
  intro name member f found
  simp only [List.mem_cons, List.not_mem_nil, or_false] at member
  rcases member with rfl | rfl | rfl
  · obtain rfl := Except.ok.inj (own.tagOf.symm.trans found)
    exact one_still tagOf_still
  · obtain rfl := Except.ok.inj (own.row.symm.trans found)
    exact two_still row_still
  · obtain rfl := Except.ok.inj (own.string.symm.trans found)
    exact one_still str_still

end Script

namespace Bridge

open Script (Description Globals OwnAccessors)

def Operation.looks : Operation → Bool
  | project _ | decode .. | tagOf _ | row .. | string _ | memorySize | word _ | bytes .. => true
  | read _ | eval _ | call .. | setOptions _ | takeConsole => false

/-- A bridge at which looking changes nothing: its accessors only look, and calls cost no fuel. -/
structure Calm (bridge : Bridge σ) : Prop where
  still : bridge.context.Still
  unmetered : bridge.inst.fuel = none

namespace Calm

variable {bridge : Bridge σ}

/-- Looking leaves the bridge as it was, whatever is looked at and whether it succeeds or not. -/
theorem perform_looks (calm : bridge.Calm) {operation : Operation}
    (looks : operation.looks = true) : (bridge.perform operation).2 = bridge := by
  have unchanged : ∀ {inst : Instance σ}, inst = bridge.inst → { bridge with inst } = bridge := by
    rintro inst rfl
    rfl
  cases operation with
  | project value => exact unchanged (calm.still.decode calm.unmetered bridge.options value)
  | decode options value => exact unchanged (calm.still.decode calm.unmetered options value)
  | tagOf value => exact unchanged (calm.still.tagOfValue calm.unmetered value)
  | row tag value => exact unchanged (calm.still.rowOf calm.unmetered tag value)
  | string handle => exact unchanged (calm.still.stringOf calm.unmetered handle)
  | memorySize | word offset | bytes offset len => rfl
  | read | eval | call | setOptions | takeConsole => cases looks

theorem perform (calm : bridge.Calm) (operation : Operation) :
    (bridge.perform operation).2.Calm where
  still := by
    rw [bridge.context_perform operation]
    exact calm.still
  unmetered := by
    by_cases take : operation = .takeConsole
    · subst take
      exact calm.unmetered
    · exact (bridge.ran_perform take).unmetered calm.unmetered

theorem performAll (calm : bridge.Calm) (operations : List Operation) :
    (bridge.performAll operations).2.Calm := by
  induction operations generalizing bridge with
  | nil => exact calm
  | cons operation rest ih => exact ih (calm.perform operation)

/-- A run in which some of the looks are left out ends in the same bridge, and the other operations answer
the same. -/
theorem performAll_filter (calm : bridge.Calm) {plan : List (Operation × Bool)}
    (looks : ∀ step ∈ plan, step.2 = false → step.1.looks = true) :
    (bridge.performAll (plan.map Prod.fst)).2 =
        (bridge.performAll ((plan.filter Prod.snd).map Prod.fst)).2 ∧
      (((bridge.performAll (plan.map Prod.fst)).1.zip (plan.map Prod.snd)).filter
          Prod.snd).map Prod.fst =
        (bridge.performAll ((plan.filter Prod.snd).map Prod.fst)).1 := by
  induction plan generalizing bridge with
  | nil => exact ⟨rfl, rfl⟩
  | cons step rest ih =>
    obtain ⟨operation, kept⟩ := step
    obtain ⟨first, later⟩ := List.forall_mem_cons.mp looks
    obtain ⟨same, answers⟩ := ih (calm.perform operation) later
    cases kept with
    | true =>
      refine ⟨same, ?_⟩
      simpa only [List.map_cons, Bridge.performAll, List.zip_cons_cons, List.filter_cons_of_pos,
        List.cons.injEq, true_and] using answers
    | false =>
      -- The look that is left out would have left the bridge as it is.
      have unchanged := calm.perform_looks (first rfl)
      rw [unchanged] at same answers
      constructor
      · change ((bridge.perform operation).2.performAll (rest.map Prod.fst)).2 = _
        rw [unchanged]
        exact same
      · simp only [List.map_cons, Bridge.performAll, unchanged, List.zip_cons_cons]
        exact answers

end Calm

theorem unmetered_of_start {config : Config} {guest : Guest σ} {bridge : Bridge σ}
    (started : start config guest = .ok bridge) (unmetered : config.limits.maxFuel = none) :
    bridge.inst.fuel = none := by
  obtain ⟨inst, ok, -, -, ran⟩ := exists_of_start started
  obtain ⟨-, bare, created, rfl⟩ := created_of_createBound ok
  obtain ⟨before, prepared, begun⟩ := Instance.started_of_create created
  have fresh : before.fuel = none := (Instance.fuel_of_prepare prepared).trans unmetered
  have still : bare.fuel = none := by
    rcases begun with rfl | ⟨code, entered⟩
    · exact fresh
    · have begins := (before.ends_enter code).ran.unmetered fresh
      rwa [entered] at begins
  exact ran.unmetered still

theorem calm_of_start {config : Config} {guest : Guest σ} {bridge : Bridge σ}
    (started : start config guest = .ok bridge) (unmetered : config.limits.maxFuel = none)
    (looks : ∀ name ∈ [config.abi.tagOf, config.abi.row, config.abi.string], ∀ f,
      guest.func name = .ok f → f.Still) : bridge.Calm where
  still := DecodingContext.still_of_resolve (standing_of_start started).resolved looks
  unmetered := unmetered_of_start started unmetered

/-- Without metering, and where the functions that the host asks as accessors only look, neither a projection
nor a read of the view changes anything in any state that a bridge can reach. So a value is projected twice to
the same answer, and looks can be put into a run or left out of it at any places without another operation
answering differently. A scripted guest has such accessors. -/
theorem looking_changes_nothing :
    (∀ (σ : Type) (config : Config) (guest : Guest σ) (fresh : Bridge σ)
      (operations : List Operation),
      start config guest = .ok fresh → config.limits.maxFuel = none →
      (∀ name ∈ [config.abi.tagOf, config.abi.row, config.abi.string], ∀ f,
        guest.func name = .ok f → f.Still) →
      let bridge := (fresh.performAll operations).2
      (∀ operation : Operation, operation.looks = true →
        (bridge.perform operation).2 = bridge) ∧
      (∀ value, (bridge.performAll [.project value, .project value]).1 =
        [(bridge.perform (.project value)).1, (bridge.perform (.project value)).1]) ∧
      ∀ plan : List (Operation × Bool), (∀ step ∈ plan, step.2 = false → step.1.looks = true) →
        let whole := bridge.performAll (plan.map Prod.fst)
        let kept := bridge.performAll ((plan.filter Prod.snd).map Prod.fst)
        whole.2 = kept.2 ∧
          ((whole.1.zip (plan.map Prod.snd)).filter Prod.snd).map Prod.fst = kept.1) ∧
    ∀ (d : Description) (abi : Abi), OwnAccessors d abi →
      ∀ name ∈ [abi.tagOf, abi.row, abi.string], ∀ f, d.guest.func name = .ok f → f.Still := by
  constructor
  · intro σ config guest fresh operations started unmetered looks bridge
    have calm : bridge.Calm := (calm_of_start started unmetered looks).performAll operations
    refine ⟨fun operation => calm.perform_looks, fun value => ?_, fun plan => calm.performAll_filter⟩
    have unchanged : (bridge.perform (.project value)).2 = bridge := calm.perform_looks rfl
    change [(bridge.perform (.project value)).1,
      ((bridge.perform (.project value)).2.perform (.project value)).1] = _
    rw [unchanged]
  · intro d abi own
    exact own.still

/-- A run on a scripted guest, with the looks that can be left out marked by `false`: two projections of a
pair, one of a name that is no text, and one read of a name. -/
def lookedAt : List (Operation × Bool) :=
  [(.call "wisp_cons" [1, 0x40000001], true), (.project 0x30000000, false),
    (.read "#30000000", true), (.project 0x40000002, false), (.eval 0x20000001, true),
    (.string 0, false), (.project 0x30000000, true)]

/-- The pair is shown in the end, whether or not anything is looked at before. -/
theorem looking_changes_nothing_lookedAt :
    ∃ fresh, start Config.default Description.default.guest = .ok fresh ∧
      Config.default.limits.maxFuel = none ∧
      OwnAccessors Description.default Config.default.abi ∧
      (fresh.performAll (lookedAt.map Prod.fst)).1 =
        [.ok (.words [0x30000000]), .ok (.projection (.duo (.int 1) (.sym "bar"))),
          .ok (.word 0x30000000), .error (.memoryFault 0x1014 0xfffffff0 65536),
          .ok (.word 0x20000001), .ok (.text "foo"),
          .ok (.projection (.duo (.int 1) (.sym "bar")))] ∧
      (fresh.performAll ((lookedAt.filter Prod.snd).map Prod.fst)).1 =
        [.ok (.words [0x30000000]), .ok (.word 0x30000000), .ok (.word 0x20000001),
          .ok (.projection (.duo (.int 1) (.sym "bar")))] := by
  have own : OwnAccessors Description.default Config.default.abi := ⟨rfl, rfl, rfl⟩
  obtain ⟨fresh, started⟩ : ∃ fresh, start Config.default Description.default.guest = .ok fresh :=
    ⟨_, rfl⟩
  have answers : (fresh.performAll (lookedAt.map Prod.fst)).1 =
      [.ok (.words [0x30000000]), .ok (.projection (.duo (.int 1) (.sym "bar"))),
        .ok (.word 0x30000000), .error (.memoryFault 0x1014 0xfffffff0 65536),
        .ok (.word 0x20000001), .ok (.text "foo"),
        .ok (.projection (.duo (.int 1) (.sym "bar")))] := by
    cases started
    decide +kernel
  refine ⟨fresh, started, rfl, own, answers, ?_⟩
  obtain ⟨general, scripted⟩ := looking_changes_nothing
  obtain ⟨-, -, leave_out⟩ := general Globals .default Description.default.guest fresh [] started rfl
    (scripted _ _ own)
  have marked : ∀ step ∈ lookedAt, step.2 = false → step.1.looks = true := by decide
  obtain ⟨-, same⟩ := leave_out lookedAt marked
  change ((((fresh.performAll (lookedAt.map Prod.fst)).1.zip (lookedAt.map Prod.snd)).filter
    Prod.snd).map Prod.fst) = _ at same
  rw [answers] at same
  exact same.symm

/-- The usual settings, but with the maker of pairs in place of the row accessor. -/
def cellMaking : Config :=
  { Config.default with abi := { Abi.default with row := "wisp_cons" } }

/-- Under these settings a projection makes a pair, so that a word of the memory is another one after it. -/
theorem looking_makes_a_cell :
    ∃ fresh, start cellMaking Description.default.guest = .ok fresh ∧
      cellMaking.limits.maxFuel = none ∧
      (fresh.performAll [.call "peek" [0x100], .call "peek" [0x100]]).1 =
        [.ok (.words [0]), .ok (.words [0])] ∧
      (fresh.performAll [.call "peek" [0x100], .project 0x30000000, .call "peek" [0x100]]).1 =
        [.ok (.words [0]), .error (.memoryFault 0x30000000 8 65536), .ok (.words [2])] := by
  refine ⟨_, rfl, rfl, ?_, ?_⟩
  · decide +kernel
  · decide +kernel

end Bridge

end LispHost
