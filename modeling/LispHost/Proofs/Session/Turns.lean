import LispHost.Proofs.Bridge.Disguise
import LispHost.Proofs.Bridge.Runs
import LispHost.Session

/-!
Turns as operations of a bridge.

A turn performs at most four operations: it reads a source, projects what was read, evaluates it and
projects the value. It stops at the first of them that fails, so what it leaves behind is what the
operations up to that one leave behind. A turn that stops before the evaluation has nothing to do with the
evaluator at all, whatever the guest exports for it.
-/

set_option autoImplicit false

namespace LispHost.Bridge

variable {σ : Type}

/-- The operations that a turn performs, up to the first that fails, and what comes of it. -/
inductive Takes (bridge : Bridge σ) (source : String) :
    List Operation → Except Error Turn → Prop
  | unread {e : Error} :
      (bridge.performAll [.read source]).1 = [.error e] →
      Takes bridge source [.read source] (.error e)
  | unshown {exp : Word} {e : Error} :
      (bridge.performAll [.read source, .project exp]).1 = [.ok (.word exp), .error e] →
      Takes bridge source [.read source, .project exp] (.error e)
  | unevaluated {exp : Word} {expression : Projection} {e : Error} :
      (bridge.performAll [.read source, .project exp, .eval exp]).1 =
        [.ok (.word exp), .ok (.projection expression), .error e] →
      Takes bridge source [.read source, .project exp, .eval exp] (.error e)
  | undecoded {exp raw : Word} {expression : Projection} {e : Error} :
      (bridge.performAll [.read source, .project exp, .eval exp, .project raw]).1 =
        [.ok (.word exp), .ok (.projection expression), .ok (.word raw), .error e] →
      Takes bridge source [.read source, .project exp, .eval exp, .project raw] (.error e)
  | done {exp raw : Word} {expression value : Projection} :
      (bridge.performAll [.read source, .project exp, .eval exp, .project raw]).1 =
        [.ok (.word exp), .ok (.projection expression), .ok (.word raw),
          .ok (.projection value)] →
      Takes bridge source [.read source, .project exp, .eval exp, .project raw]
        (.ok ⟨source, exp, expression, raw, value⟩)

theorem exists_takes (bridge : Bridge σ) (source : String) :
    ∃ operations, bridge.Takes source operations (bridge.turn source).1 ∧
      (bridge.turn source).2 = (bridge.performAll operations).2 := by
  unfold turn
  cases reading : bridge.read source with
  | mk answer afterRead =>
  cases answer with
  | error e =>
    have answers : (bridge.performAll [.read source]).1 = [.error e] := by
      simp only [performAll, perform, reading, Except.map]
    refine ⟨_, .unread answers, ?_⟩
    simp only [performAll, perform, reading]
  | ok exp =>
    cases showing : afterRead.project exp with
    | mk answer afterShown =>
    cases answer with
    | error e =>
      have answers : (bridge.performAll [.read source, .project exp]).1 =
          [.ok (.word exp), .error e] := by
        simp only [performAll, perform, reading, showing, Except.map]
      simp only [showing]
      refine ⟨_, .unshown answers, ?_⟩
      simp only [performAll, perform, reading, showing]
    | ok expression =>
      cases evaluating : afterShown.eval exp with
      | mk answer afterEval =>
      cases answer with
      | error e =>
        have answers : (bridge.performAll [.read source, .project exp, .eval exp]).1 =
            [.ok (.word exp), .ok (.projection expression), .error e] := by
          simp only [performAll, perform, reading, showing, evaluating, Except.map]
        simp only [showing, evaluating]
        refine ⟨_, .unevaluated answers, ?_⟩
        simp only [performAll, perform, reading, showing, evaluating]
      | ok raw =>
        cases decoding : afterEval.project raw with
        | mk answer afterDecoded =>
        have answers : (bridge.performAll
            [.read source, .project exp, .eval exp, .project raw]).1 =
            [.ok (.word exp), .ok (.projection expression), .ok (.word raw),
              answer.map .projection] := by
          simp only [performAll, perform, reading, showing, evaluating, decoding, Except.map]
        simp only [showing, evaluating, decoding]
        cases answer with
        | error e =>
          refine ⟨_, .undecoded answers, ?_⟩
          simp only [performAll, perform, reading, showing, evaluating, decoding]
        | ok value =>
          refine ⟨_, .done answers, ?_⟩
          simp only [performAll, perform, reading, showing, evaluating, decoding]

theorem fst_turn (bridge : Bridge σ) (source : String) :
    (bridge.turn source).1 =
      let read := bridge.read source
      read.1.bind fun exp =>
        let shown := read.2.project exp
        shown.1.bind fun expression =>
          let evaluated := shown.2.eval exp
          evaluated.1.bind fun raw =>
            (evaluated.2.project raw).1.map fun value => ⟨source, exp, expression, raw, value⟩ := by
  rw [turn]
  cases bridge.read source with
  | mk answer afterRead =>
  cases answer with
  | error e => rfl
  | ok exp =>
    simp only [Except.bind]
    cases afterRead.project exp with
    | mk answer afterShown =>
    cases answer with
    | error e => rfl
    | ok expression =>
      simp only
      cases afterShown.eval exp with
      | mk answer afterEval =>
      cases answer with
      | error e => rfl
      | ok raw =>
        simp only
        cases afterEval.project raw with
        | mk answer afterDecoded => cases answer <;> rfl

private theorem eq_ok_of_map {α β : Type} {f : α → β} (injective : ∀ {a b}, f a = f b → a = b)
    {answer : Except Error α} {a : α} (mapped : answer.map f = .ok (f a)) : answer = .ok a := by
  cases answer with
  | error e => cases mapped
  | ok b => rw [injective (Except.ok.inj mapped)]

private theorem eq_error_of_map {α β : Type} {f : α → β} {answer : Except Error α} {e : Error}
    (mapped : answer.map f = .error e) : answer = .error e := by
  cases answer with
  | error e' =>
    cases mapped
    rfl
  | ok a => cases mapped

theorem turn_of_takes {bridge : Bridge σ} {source : String} {operations : List Operation}
    {outcome : Except Error Turn} (takes : bridge.Takes source operations outcome) :
    (bridge.turn source).1 = outcome := by
  have word {answer : Except Error Word} {value : Word} :
      answer.map Answer.word = .ok (.word value) → answer = .ok value :=
    eq_ok_of_map Answer.word.inj
  have projection {answer : Except Error Projection} {shown : Projection} :
      answer.map Answer.projection = .ok (.projection shown) → answer = .ok shown :=
    eq_ok_of_map Answer.projection.inj
  rw [fst_turn]
  cases takes with
  | unread answers =>
    simp only [performAll, perform, List.cons.injEq, and_true] at answers
    simp only [eq_error_of_map answers, Except.bind]
  | unshown answers =>
    simp only [performAll, perform, List.cons.injEq, and_true] at answers
    obtain ⟨read, shown⟩ := answers
    simp only [word read, eq_error_of_map shown, Except.bind]
  | unevaluated answers =>
    simp only [performAll, perform, List.cons.injEq, and_true] at answers
    obtain ⟨read, shown, evaluated⟩ := answers
    simp only [word read, projection shown, eq_error_of_map evaluated, Except.bind]
  | undecoded answers =>
    simp only [performAll, perform, List.cons.injEq, and_true] at answers
    obtain ⟨read, shown, evaluated, decoded⟩ := answers
    simp only [word read, projection shown, word evaluated, eq_error_of_map decoded, Except.bind,
      Except.map]
  | done answers =>
    simp only [performAll, perform, List.cons.injEq, and_true] at answers
    obtain ⟨read, shown, evaluated, decoded⟩ := answers
    simp only [word read, projection shown, word evaluated, projection decoded, Except.bind,
      Except.map]

theorem source_of_turn {bridge : Bridge σ} {source : String} {turn : Turn}
    (turned : (bridge.turn source).1 = .ok turn) : turn.source = source := by
  obtain ⟨operations, takes, -⟩ := bridge.exists_takes source
  rw [turned] at takes
  cases takes
  rfl

/-! ### Turns without an evaluation -/

def withEval (bridge : Bridge σ) (name : String) : Bridge σ :=
  { bridge with abi := { bridge.abi with eval := name } }

theorem disguise_withEval (name : String) :
    Disguise (fun bridge : Bridge σ => bridge.withEval name) id where
  guest _ := rfl
  memory _ := rfl
  refill _ _ := rfl
  callWord _ _ _ := rfl
  inst _ := rfl
  context _ := rfl
  options _ := rfl
  alloc _ := rfl
  parser _ := rfl
  exchange _ _ := rfl

/-- A turn that stops before it evaluates goes the same way with any evaluator, or with none. -/
theorem Takes.withEval {bridge : Bridge σ} {source : String} {operations : List Operation} {e : Error}
    (takes : bridge.Takes source operations (.error e))
    (never : ∀ value, .eval value ∉ operations) (name : String) :
    (bridge.withEval name).turn source =
      (.error e, (bridge.performAll operations).2.withEval name) := by
  have disguise := @disguise_withEval σ name
  unfold turn
  rw [disguise.read]
  cases reading : bridge.read source with
  | mk answer afterRead =>
  cases takes with
  | unread answers =>
    simp only [performAll, perform, reading, List.cons.injEq, and_true] at answers ⊢
    cases answer with
    | error e' => cases answers; rfl
    | ok exp => cases answers
  | @unshown exp e answers =>
    simp only [performAll, perform, reading, List.cons.injEq, and_true] at answers ⊢
    obtain ⟨read_ok, shown⟩ := answers
    cases answer with
    | error e' => cases read_ok
    | ok exp' =>
      cases read_ok
      simp only [disguise.project]
      cases showing : afterRead.project exp with
      | mk answer afterShown =>
      rw [showing] at shown
      cases answer with
      | error e' => cases shown; rfl
      | ok expression => cases shown
  | @unevaluated exp | @undecoded exp =>
    exact absurd (by simp) (never exp)

end LispHost.Bridge
