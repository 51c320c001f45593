import LispHost.Heap.Table
import LispHost.Proofs.Decode.Rules

/-!
The ancestors of a decode.

A decode makes one call for each position it visits, and all of its calls share one set of ancestors.
In each of them the set holds exactly the pair words above the position, or nothing if detection is
off, and a call that succeeds hands the set back as it got it. So a cycle leaf stands exactly where a
pair repeats a pair above it, and a pair shared by siblings is expanded under each of them.
-/

set_option autoImplicit false

namespace LispHost

variable {σ : Type}

namespace Survey

/-- The variant of the root; an elided word has none. -/
def tag? : Survey → Option Tag
  | int _ => some .int
  | nil _ | true _ => some .sys
  | duo .. | cycle _ => some .duo
  | sym .. | undecodable .. => some .sym
  | unknown tag _ => some tag
  | elided _ => none

/-- The parts of a survey, each with the pair words above it, nearest first. -/
inductive Below (root : Survey) : List Word → Survey → Prop
  | root : Below root [] root
  | car {path : List Word} {raw : Word} {car cdr : Survey} :
      Below root path (.duo raw car cdr) → Below root (raw :: path) car
  | cdr {path : List Word} {raw : Word} {car cdr : Survey} :
      Below root path (.duo raw car cdr) → Below root (raw :: path) cdr

end Survey

namespace HeapReader

variable {heap : HeapReader σ} {detectCycles : Bool}

theorem Surveyed.of_below {levels : Nat} {raw : Word} {state next : σ} {found : Survey}
    (rules : Surveyed heap detectCycles levels [] raw state found next)
    {path : List Word} {part : Survey} (below : found.Below path part) :
    ∃ levels raw state next, Surveyed heap detectCycles levels path raw state part next := by
  induction below with
  | root => exact ⟨levels, raw, state, next, rules⟩
  | car _ ih =>
    obtain ⟨_, _, _, _, whole⟩ := ih
    cases whole with
    | leaf _ leaf => cases leaf
    | duo _ _ _ first _ => exact ⟨_, _, _, _, first⟩
  | cdr _ ih =>
    obtain ⟨_, _, _, _, whole⟩ := ih
    cases whole with
    | leaf _ leaf => cases leaf
    | duo _ _ _ _ second => exact ⟨_, _, _, _, second⟩

theorem Surveyed.tagOf_raw {levels : Nat} {path : List Word} {raw : Word} {state next : σ}
    {found : Survey} (rules : Surveyed heap detectCycles levels path raw state found next) {tag : Tag}
    (named : found.tag? = some tag) : ∃ tagged, heap.tagOf found.raw state = (.ok tag, tagged) := by
  cases rules with
  | elided => cases named
  | cycle asked | duo asked =>
    cases named
    exact ⟨_, asked⟩
  | leaf _ leaf =>
    cases leaf with
    | int asked | nil asked | true asked | stray asked | unknown asked | sym asked
    | undecodable asked =>
      cases named
      exact ⟨_, asked⟩

/-- The root of a survey is a cycle leaf exactly if it is a pair that repeats one above it. -/
theorem shown_eq_cycle_iff {levels : Nat} {path : List Word} {raw cut : Word}
    {state next : σ} {found : Survey}
    (rules : Surveyed heap detectCycles levels path raw state found next) :
    found.shown = .cycle cut ↔
      cut = found.raw ∧ found.tag? = some .duo ∧ detectCycles = true ∧ found.raw ∈ path := by
  cases rules with
  | cycle _ repeated => simp [Survey.shown, Survey.raw, Survey.tag?, repeated, eq_comm]
  | duo _ fresh =>
    simp only [Survey.shown, Survey.raw, reduceCtorEq, false_iff]
    exact fun cut => fresh cut.2.2
  | leaf _ leaf => cases leaf <;> simp [Survey.shown, Survey.tag?]
  | elided => simp [Survey.shown, Survey.tag?]

end HeapReader

structure DecodeCall (σ : Type) where
  levels : Nat
  raw : Word
  ancestors : List Word
  state : σ

namespace DecodeCall

def run (call : DecodeCall σ) (heap : HeapReader σ) (detectCycles : Bool) :
    Except Error (Projection × List Word) × σ :=
  Projection.decodeAt heap detectCycles call.levels call.raw call.ancestors call.state

/-- The calls that a call leads to, each with the pair words above it, nearest first: a pair that is
not cut has a call for its first part and, if that one succeeds, a call for its second part with the
set and the state that the first one left. -/
inductive Reached (heap : HeapReader σ) (detectCycles : Bool) (root : DecodeCall σ) :
    List Word → DecodeCall σ → Prop
  | root : Reached heap detectCycles root [] root
  | car {path ancestors : List Word} {levels : Nat} {raw car cdr : Word} {state tagged read : σ} :
      Reached heap detectCycles root path ⟨levels + 1, raw, ancestors, state⟩ →
      heap.tagOf raw state = (.ok .duo, tagged) →
      ¬ (detectCycles && ancestors.contains raw) = true →
      heap.askParts raw tagged = (.ok (car, cdr), read) →
      Reached heap detectCycles root (raw :: path)
        ⟨levels, car, if detectCycles then raw :: ancestors else ancestors, read⟩
  | cdr {path ancestors within : List Word} {levels : Nat} {raw car cdr : Word}
      {first : Projection} {state tagged read middle : σ} :
      Reached heap detectCycles root path ⟨levels + 1, raw, ancestors, state⟩ →
      heap.tagOf raw state = (.ok .duo, tagged) →
      ¬ (detectCycles && ancestors.contains raw) = true →
      heap.askParts raw tagged = (.ok (car, cdr), read) →
      Projection.decodeAt heap detectCycles levels car
        (if detectCycles then raw :: ancestors else ancestors) read =
          (.ok (first, within), middle) →
      Reached heap detectCycles root (raw :: path) ⟨levels, cdr, within, middle⟩

variable {heap : HeapReader σ} {detectCycles : Bool} {path : List Word}

theorem left_eq_of_run (call : DecodeCall σ) {left : List Word} {found : Projection} {next : σ}
    (held : call.ancestors = HeapReader.ancestorsOf detectCycles path)
    (ok : call.run heap detectCycles = (.ok (found, left), next)) :
    left = call.ancestors := by
  rw [run, held, HeapReader.decodeAt_eq_surveyAt] at ok
  cases answer : (heap.surveyAt detectCycles call.levels path call.raw call.state).1 with
  | error e =>
    rw [answer] at ok
    cases congrArg Prod.fst ok
  | ok survey =>
    rw [answer] at ok
    cases congrArg Prod.fst ok
    exact held.symm

/-- The invariant of a decode: the set holds the pair words above the position, if anything. -/
theorem Reached.ancestors_eq {root call : DecodeCall σ} (empty : root.ancestors = [])
    (reached : Reached heap detectCycles root path call) :
    call.ancestors = HeapReader.ancestorsOf detectCycles path := by
  induction reached with
  | root => rw [empty, HeapReader.ancestorsOf, ite_self]
  | car _ _ _ _ held =>
    simp only at held
    rw [held, HeapReader.ancestorsOf_cons]
  | @cdr path ancestors within levels raw car cdr first state tagged read middle _ _ _ _ ran held =>
    simp only at held
    rw [held, HeapReader.ancestorsOf_cons] at ran
    exact left_eq_of_run ⟨levels, car, _, read⟩ rfl ran

end DecodeCall

/-- A decode with its one set of ancestors is the survey, in which every recursive call is given the
pair words above it. Every call that succeeds leaves the set as it found it, and a cycle leaf stands
exactly where a word classified as a pair is a pair word above itself and detection is on. -/
theorem decode_eq_survey_and_restores (heap : HeapReader σ) (options : DecodeOptions) (raw : Word)
    (state : σ) :
    Projection.decode heap options raw state =
      ((heap.survey options raw state).1.map Survey.shown, (heap.survey options raw state).2) ∧
    (∀ path call, DecodeCall.Reached heap options.detectCycles
        ⟨options.clamped.maxDepth + 1, raw, [], state⟩ path call →
      ∀ found left next, call.run heap options.detectCycles = (.ok (found, left), next) →
        left = call.ancestors) ∧
    (∀ found next, heap.survey options raw state = (.ok found, next) →
      ∀ path part, found.Below path part →
        (∀ tag, part.tag? = some tag →
          ∃ before after, heap.tagOf part.raw before = (.ok tag, after)) ∧
        ∀ cut, part.shown = .cycle cut ↔
          cut = part.raw ∧ part.tag? = some .duo ∧ options.detectCycles = true ∧
            part.raw ∈ path) := by
  refine ⟨heap.decode_eq_survey options raw state, ?_, ?_⟩
  · intro path call reached found left next ok
    exact call.left_eq_of_run (reached.ancestors_eq rfl) ok
  · intro found next ok path part below
    obtain ⟨_, _, before, _, rules⟩ := (HeapReader.surveyAt_eq_ok_iff.mp ok).of_below below
    exact ⟨fun tag named => ⟨before, rules.tagOf_raw named⟩,
      fun cut => HeapReader.shown_eq_cycle_iff rules⟩

/-- Both parts of the first pair are the second pair, whose tail is the first one again. -/
def sharedCyclicHeap : HeapReader Unit :=
  HeapTable.reader
    { tags := []
      rows := [(0x30000000, fun tag => .ok ⟨tag, [0x30000001, 0x30000001]⟩),
        (0x30000001, fun tag => .ok ⟨tag, [7, 0x30000000]⟩)]
      strings := []
      sentinels := HeapTable.usualSentinels }

/-- The shared pair is expanded twice, and the way back to the root is cut twice. The call for the
first of the two leaves the root alone in the set, as it found it. -/
theorem decode_sharedCyclicHeap :
    Projection.decode sharedCyclicHeap .default 0x30000000 () =
      (.ok (.duo (.duo (.int 7) (.cycle 0x30000000)) (.duo (.int 7) (.cycle 0x30000000))), ()) ∧
    (∃ found left next, (DecodeCall.mk 1024 0x30000001 [0x30000000] ()).run sharedCyclicHeap true =
      (.ok (found, left), next) ∧ left = [0x30000000]) ∧
    (Survey.cycle 0x30000000).raw ∈ [(0x30000001 : Word), 0x30000000] := by
  obtain ⟨decoded, restored, marked⟩ :=
    decode_eq_survey_and_restores sharedCyclicHeap .default 0x30000000 ()
  refine ⟨?_, ⟨_, _, _, rfl, ?_⟩, ?_⟩
  · rw [decoded]
    rfl
  · have reached : DecodeCall.Reached sharedCyclicHeap true ⟨1025, 0x30000000, [], ()⟩
        [0x30000000] ⟨1024, 0x30000001, [0x30000000], ()⟩ := .car .root rfl (by decide) rfl
    exact restored _ _ reached _ _ _ rfl
  · have below : (Survey.duo 0x30000000 (.duo 0x30000001 (.int 7) (.cycle 0x30000000))
        (.duo 0x30000001 (.int 7) (.cycle 0x30000000))).Below [0x30000001, 0x30000000]
          (.cycle 0x30000000) := .cdr (.car .root)
    exact (((marked _ _ rfl _ _ below).2 0x30000000).mp rfl).2.2.2

end LispHost
