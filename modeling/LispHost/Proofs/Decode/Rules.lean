import LispHost.Proofs.Decode.Survey
import Mathlib.Tactic.SplitIfs

/-!
The rules of a survey.

Each rule says what was asked at a position, what was answered and what the survey keeps of it. The
rules hold of exactly the surveys that succeed, so a fact about all successful decodes is an
induction on them.
-/

set_option autoImplicit false

namespace LispHost

variable {σ : Type}

namespace HeapReader

/-- A survey that ends at its root, with the states of the heap before and after it. -/
inductive SurveyedLeaf (heap : HeapReader σ) : Word → σ → Survey → σ → Prop
  | int {raw : Word} {state next : σ} :
      heap.tagOf raw state = (.ok .int, next) → SurveyedLeaf heap raw state (.int raw) next
  | nil {raw : Word} {state next : σ} :
      heap.tagOf raw state = (.ok .sys, next) → raw = (heap.sentinels next).nil →
      SurveyedLeaf heap raw state (.nil raw) next
  | true {raw : Word} {state next : σ} :
      heap.tagOf raw state = (.ok .sys, next) → raw ≠ (heap.sentinels next).nil →
      raw = (heap.sentinels next).t → SurveyedLeaf heap raw state (.true raw) next
  | stray {raw : Word} {state next : σ} :
      heap.tagOf raw state = (.ok .sys, next) → raw ≠ (heap.sentinels next).nil →
      raw ≠ (heap.sentinels next).t → SurveyedLeaf heap raw state (.unknown .sys raw) next
  | unknown {raw code : Word} {state next : σ} :
      heap.tagOf raw state = (.ok (.unknown code), next) →
      SurveyedLeaf heap raw state (.unknown (.unknown code) raw) next
  | sym {raw handle : Word} {name : String} {state tagged read next : σ} :
      heap.tagOf raw state = (.ok .sym, tagged) →
      heap.askHandle raw tagged = (.ok handle, read) →
      heap.string handle read = (.ok name, next) →
      SurveyedLeaf heap raw state (.sym raw handle name) next
  | undecodable {raw handle given len : Word} {state tagged read next : σ} :
      heap.tagOf raw state = (.ok .sym, tagged) →
      heap.askHandle raw tagged = (.ok handle, read) →
      heap.string handle read = (.error (.encoding given len), next) →
      SurveyedLeaf heap raw state (.undecodable raw handle len) next

/-- A survey that succeeds, with the states of the heap before and after it. -/
inductive Surveyed (heap : HeapReader σ) (detectCycles : Bool) :
    Nat → List Word → Word → σ → Survey → σ → Prop
  | elided (path : List Word) (raw : Word) (state : σ) :
      Surveyed heap detectCycles 0 path raw state (.elided raw) state
  | leaf {levels : Nat} (path : List Word) {raw : Word} {state next : σ} {found : Survey} :
      SurveyedLeaf heap raw state found next →
      Surveyed heap detectCycles (levels + 1) path raw state found next
  | cycle {levels : Nat} {path : List Word} {raw : Word} {state next : σ} :
      heap.tagOf raw state = (.ok .duo, next) →
      detectCycles = true ∧ raw ∈ path →
      Surveyed heap detectCycles (levels + 1) path raw state (.cycle raw) next
  | duo {levels : Nat} {path : List Word} {raw car cdr : Word} {first second : Survey}
      {state tagged read middle next : σ} :
      heap.tagOf raw state = (.ok .duo, tagged) →
      ¬ (detectCycles = true ∧ raw ∈ path) →
      heap.askParts raw tagged = (.ok (car, cdr), read) →
      Surveyed heap detectCycles levels (raw :: path) car read first middle →
      Surveyed heap detectCycles levels (raw :: path) cdr middle second next →
      Surveyed heap detectCycles (levels + 1) path raw state (.duo raw first second) next

variable {heap : HeapReader σ} {detectCycles : Bool} {levels : Nat} {path : List Word} {raw : Word}
  {state next : σ} {found : Survey}

theorem SurveyedLeaf.tagOf_ne_duo (leaf : SurveyedLeaf heap raw state found next) (tagged : σ) :
    heap.tagOf raw state ≠ (.ok .duo, tagged) := by
  intro pair
  cases leaf with
  | int asked | nil asked | true asked | stray asked | unknown asked | sym asked
  | undecodable asked => cases pair.symm.trans asked

private theorem surveyedLeaf_of_sys (asked : heap.tagOf raw state = (.ok .sys, next))
    (named : Survey.ofSystem (heap.sentinels next) raw = found) :
    SurveyedLeaf heap raw state found next := by
  subst named
  unfold Survey.ofSystem
  split_ifs with isNil isTrue
  · exact .nil asked isNil
  · exact .true asked isNil isTrue
  · exact .stray asked isNil isTrue

private theorem surveyedLeaf_of_name {handle : Word} {tagged read : σ}
    (asked : heap.tagOf raw state = (.ok .sym, tagged))
    (handled : heap.askHandle raw tagged = (.ok handle, read))
    (named : Survey.ofName raw handle (heap.string handle read).1 = .ok found) :
    SurveyedLeaf heap raw state found (heap.string handle read).2 := by
  cases answered : heap.string handle read with
  | mk answer next =>
  rw [answered] at named
  cases answer with
  | ok name =>
    cases named
    exact .sym asked handled answered
  | error e =>
    cases e <;> cases named
    exact .undecodable asked handled answered

theorem surveyed_of_surveyAt (ok : heap.surveyAt detectCycles levels path raw state =
    (.ok found, next)) : Surveyed heap detectCycles levels path raw state found next := by
  induction levels generalizing path raw state found next with
  | zero =>
    cases ok
    exact .elided path raw state
  | succ levels ih =>
    cases asked : heap.askTag raw state with
    | mk answer tagged =>
    simp only [surveyAt, Inquiry.bind_apply, asked] at ok
    cases answer with
    | error e => cases ok
    | ok tag =>
      cases tag with
      | int =>
        cases ok
        exact .leaf path (.int asked)
      | unknown code =>
        cases ok
        exact .leaf path (.unknown asked)
      | sys =>
        have after : tagged = next := congrArg Prod.snd ok
        have named : Survey.ofSystem (heap.sentinels tagged) raw = found :=
          Except.ok.inj (congrArg Prod.fst ok)
        subst after
        exact .leaf path (surveyedLeaf_of_sys asked named)
      | sym =>
        simp only [Inquiry.bind_apply] at ok
        cases handled : heap.askHandle raw tagged with
        | mk answer read =>
        rw [handled] at ok
        cases answer with
        | error e => cases ok
        | ok handle =>
          have named : Survey.ofName raw handle (heap.string handle read).1 = .ok found :=
            congrArg Prod.fst ok
          have after : (heap.string handle read).2 = next := congrArg Prod.snd ok
          subst after
          exact .leaf path (surveyedLeaf_of_name asked handled named)
      | duo =>
        by_cases repeated : detectCycles = true ∧ raw ∈ path
        · simp only [if_pos repeated] at ok
          cases ok
          exact .cycle asked repeated
        · simp only [if_neg repeated, Inquiry.bind_apply] at ok
          cases parted : heap.askParts raw tagged with
          | mk answer read =>
          rw [parted] at ok
          cases answer with
          | error e => cases ok
          | ok parts =>
            cases first : heap.surveyAt detectCycles levels (raw :: path) parts.1 read with
            | mk answer middle =>
            simp only [first] at ok
            cases answer with
            | error e => cases ok
            | ok car =>
              cases second : heap.surveyAt detectCycles levels (raw :: path) parts.2 middle with
              | mk answer after =>
              simp only [second] at ok
              cases answer with
              | error e => cases ok
              | ok cdr =>
                cases ok
                exact .duo asked repeated parted (ih first) (ih second)

private theorem surveyAt_of_sys (asked : heap.tagOf raw state = (.ok .sys, next)) :
    heap.surveyAt detectCycles (levels + 1) path raw state =
      (.ok (.ofSystem (heap.sentinels next) raw), next) := by
  simp only [surveyAt, Inquiry.bind_apply, askTag, asked]
  rfl

theorem SurveyedLeaf.surveyAt_eq (leaf : SurveyedLeaf heap raw state found next) :
    heap.surveyAt detectCycles (levels + 1) path raw state = (.ok found, next) := by
  cases leaf with
  | int asked | unknown asked =>
    simp only [surveyAt, Inquiry.bind_apply, askTag, asked]
    rfl
  | nil asked isNil =>
    rw [surveyAt_of_sys asked, Survey.ofSystem, if_pos isNil]
  | true asked isNil isTrue =>
    rw [surveyAt_of_sys asked, Survey.ofSystem, if_neg isNil, if_pos isTrue]
  | stray asked isNil isTrue =>
    rw [surveyAt_of_sys asked, Survey.ofSystem, if_neg isNil, if_neg isTrue]
  | sym asked handled read | undecodable asked handled read =>
    simp only [surveyAt, Inquiry.bind_apply, askTag, asked, handled, askName, read, Survey.ofName]

theorem Surveyed.surveyAt_eq (rules : Surveyed heap detectCycles levels path raw state found next) :
    heap.surveyAt detectCycles levels path raw state = (.ok found, next) := by
  induction rules with
  | elided path raw state => rfl
  | leaf path leaf => exact leaf.surveyAt_eq
  | cycle asked repeated =>
    simp only [surveyAt, Inquiry.bind_apply, askTag, asked, if_pos repeated]
    rfl
  | duo asked fresh parted _ _ first second =>
    simp only [surveyAt, Inquiry.bind_apply, askTag, asked, if_neg fresh, parted, first, second]
    rfl

theorem surveyAt_eq_ok_iff : heap.surveyAt detectCycles levels path raw state = (.ok found, next) ↔
    Surveyed heap detectCycles levels path raw state found next :=
  ⟨surveyed_of_surveyAt, Surveyed.surveyAt_eq⟩

end HeapReader

end LispHost
