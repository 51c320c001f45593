import LispHost.Guest.Script
import LispHost.Proofs.Session.Exchanges
import LispHost.Proofs.Session.Turns
import Mathlib.Control.Monad.Basic

/-!
What a session says and remembers.

The history of a session is the list of the turns that have succeeded, at every point. A turn is numbered
by how many are before it when it is printed, and by its place in the history when the history is printed;
the two numbers are the same because nothing is ever taken out of the history or put in between. A line
that is no source leaves the whole session as it is, the guest included.
-/

set_option autoImplicit false

namespace LispHost

variable {σ : Type}

def Bridge.Drained (bridge : Bridge σ) : Prop :=
  bridge.inst.host.console = .empty

theorem Bridge.Drained.takeConsole {bridge : Bridge σ} (drained : bridge.Drained) :
    bridge.takeConsole = ([], bridge) := by
  obtain ⟨⟨_, _, _, _, _, ⟨_, _, _, _, console⟩, _⟩, _, _, _⟩ := bridge
  cases (drained : console = .empty)
  rfl

theorem Bridge.drained_takeConsole (bridge : Bridge σ) : bridge.takeConsole.2.Drained :=
  rfl

namespace Cli

def turnsOf (run : List (Exchange σ)) : List Turn :=
  run.filterMap Exchange.turn?

def turnLines (run : List (Exchange σ)) : List String :=
  (run.filter fun x => x.turn?.isSome).flatMap Exchange.printed

inductive Exchange.Answered (format : OutputFormat) (colour : Bool) (past : List (Exchange σ))
    (x : Exchange σ) : Prop
  | unreadable :
      x.request? = none → x.after = x.before → x.printed = [] →
      Answered format colour past x
  | blank :
      x.request? = some .nothing → x.after = x.before → x.printed = [] →
      Answered format colour past x
  | quit :
      x.request? = some .quit → x.after = x.before → x.printed = [] →
      Answered format colour past x
  | history :
      x.request? = some .history → x.after = x.before →
      x.printed = (turnsOf past).mapIdx (fun index turn => turn.line colour index) →
      (format = .text → x.printed = turnLines past) →
      Answered format colour past x
  | turn {text : String} {operations : List Bridge.Operation} {turn : Turn} :
      x.request? = some (.source text) →
      x.before.bridge.Takes text operations (.ok turn) → x.outcome? = some (.ok turn) →
      x.after.bridge = (x.before.bridge.performAll operations).2.takeConsole.2 →
      x.after.history = x.before.history ++ [turn] →
      (format = .text → x.printed = [turn.line colour (turnsOf past).length]) →
      (format = .json → x.printed = [turn.report.toJson.compact]) →
      Answered format colour past x
  | failure {text : String} {operations : List Bridge.Operation} {e : Error} :
      x.request? = some (.source text) →
      x.before.bridge.Takes text operations (.error e) → x.outcome? = some (.error e) →
      x.after.bridge = (x.before.bridge.performAll operations).2.takeConsole.2 →
      x.after.history = x.before.history → x.printed = [] →
      -- Where the evaluation is not reached, the turn is the same whatever the evaluator is.
      ((∀ value, .eval value ∉ operations) → ∀ name,
        (x.before.bridge.withEval name).turn text =
          (.error e, (x.before.bridge.performAll operations).2.withEval name)) →
      Answered format colour past x

variable {config : Config} {format : OutputFormat} {colour : Bool}

theorem turnsOf_concat (past : List (Exchange σ)) (x : Exchange σ) :
    turnsOf (past ++ [x]) = turnsOf past ++ x.turn?.toList := by
  unfold turnsOf
  exact List.filterMap_append

theorem turnLines_concat_of_none (past : List (Exchange σ)) {x : Exchange σ}
    (none : x.turn? = none) : turnLines (past ++ [x]) = turnLines past := by
  simp [turnLines, none]

theorem turnLines_concat_of_some (past : List (Exchange σ)) {x : Exchange σ} {turn : Turn}
    (some : x.turn? = some turn) : turnLines (past ++ [x]) = turnLines past ++ x.printed := by
  simp [turnLines, some]

/-- A session between two lines: its history is the turns so far, and as text they were printed with their
places in it. -/
structure Settled (format : OutputFormat) (colour : Bool) (past : List (Exchange σ))
    (session : Session σ) : Prop where
  drained : session.bridge.Drained
  history : session.history = turnsOf past
  numbered : format = .text →
    turnLines past = (turnsOf past).mapIdx fun index turn => turn.line colour index

namespace Settled

variable {past : List (Exchange σ)} {session : Session σ}

theorem begin (config : Config) (bridge : Bridge σ) :
    Settled format colour [] (beginSession config bridge).2 :=
  ⟨rfl, rfl, fun _ => rfl⟩

private theorem after_of_still (settled : Settled format colour past session) {line : List UInt8}
    {text : String} {reply : Reply} (decoded : Text.Utf8.decode? line = some text)
    (answered : session.answer (.ofLine text) = (reply, session)) :
    (exchange config format colour line session).after = session := by
  obtain ⟨-, after, -⟩ := exchange_of_reply config format colour decoded answered
  rw [after, settled.drained.takeConsole]

private theorem answered_source (settled : Settled format colour past session)
    {line : List UInt8} {text source : String} (decoded : Text.Utf8.decode? line = some text)
    (asked : Request.ofLine text = .source source) :
    (exchange config format colour line session).Answered format colour past := by
  have requested : (exchange config format colour line session).request? =
      some (.source source) := by
    rw [← asked]
    exact congrArg (Option.map Request.ofLine) decoded
  have outcome : (exchange config format colour line session).outcome? =
      some (session.bridge.turn source).1 := outcome?_of_source requested
  obtain ⟨operations, takes, left⟩ := session.bridge.exists_takes source
  have evaluates := evaluates_answer session source
  rw [← asked] at evaluates
  cases answered : session.answer (.ofLine text) with
  | mk reply next =>
  rw [answered] at evaluates
  obtain ⟨-, after, -⟩ := exchange_of_reply config format colour decoded answered
  have printed := printed_of_reply config format colour decoded answered
  have drained : (exchange config format colour line session).after.bridge =
      (session.bridge.performAll operations).2.takeConsole.2 := by
    rw [after, evaluates.bridge_eq, left]
  have history : (exchange config format colour line session).after.history = next.history := by
    rw [after]
  generalize (session.bridge.turn source).1 = result at takes outcome evaluates
  cases evaluates with
  | turn turn =>
    rw [settled.history] at printed
    apply Exchange.Answered.turn requested takes outcome drained history
    · rintro rfl
      exact printed
    · rintro rfl
      exact printed
  | exited | failed =>
    exact .failure requested takes outcome drained history printed
      fun never name => takes.withEval never name

theorem answered (settled : Settled format colour past session) (config : Config)
    (line : List UInt8) :
    (exchange config format colour line session).Answered format colour past := by
  cases decoded : Text.Utf8.decode? line with
  | none =>
    obtain ⟨request, after, printed, -⟩ :=
      exchange_of_unreadable config format colour session decoded
    exact .unreadable request after printed
  | some text =>
    cases asked : Request.ofLine text with
    | source source => exact settled.answered_source decoded asked
    | nothing =>
      have answer : session.answer (.ofLine text) = (.nothing, session) := by rw [asked]; rfl
      obtain ⟨request, -⟩ := exchange_of_reply config format colour decoded answer
      have printed := printed_of_reply config format colour decoded answer
      rw [asked] at request
      exact .blank request (settled.after_of_still decoded answer) printed
    | quit =>
      have answer : session.answer (.ofLine text) = (.quit, session) := by rw [asked]; rfl
      obtain ⟨request, -⟩ := exchange_of_reply config format colour decoded answer
      have printed := printed_of_reply config format colour decoded answer
      rw [asked] at request
      exact .quit request (settled.after_of_still decoded answer) printed
    | history =>
      have answer : session.answer (.ofLine text) = (.history session.history, session) := by
        rw [asked]; rfl
      obtain ⟨request, -⟩ := exchange_of_reply config format colour decoded answer
      have printed := printed_of_reply config format colour decoded answer
      rw [asked] at request
      have lines : (exchange config format colour line session).printed =
          (turnsOf past).mapIdx fun index turn => turn.line colour index := by
        rw [printed, settled.history, List.mapIdx_eq_zipIdx_map]
        rfl
      refine .history request (settled.after_of_still decoded answer) lines fun text_format => ?_
      rw [lines, settled.numbered text_format]

private theorem step_of_none {x : Exchange σ} (settled : Settled format colour past x.before)
    (none : x.turn? = none) (drained : x.after.bridge.Drained)
    (history : x.after.history = x.before.history) :
    Settled format colour (past ++ [x]) x.after := by
  have turns : turnsOf (past ++ [x]) = turnsOf past := by
    rw [turnsOf_concat, none]
    exact List.append_nil _
  refine ⟨drained, ?_, ?_⟩
  · rw [turns, history, settled.history]
  · rw [turns, turnLines_concat_of_none past none]
    exact settled.numbered

theorem step {x : Exchange σ} (settled : Settled format colour past x.before)
    (answered : x.Answered format colour past) :
    Settled format colour (past ++ [x]) x.after := by
  have still (no_source : ∀ text, x.request? ≠ some (.source text))
      (after : x.after = x.before) : Settled format colour (past ++ [x]) x.after := by
    have none : x.turn? = none := by
      unfold Exchange.turn? Exchange.outcome?
      cases requested : x.request? with
      | none => rfl
      | some request =>
        cases request with
        | source text => exact absurd requested (no_source text)
        | nothing | quit | history => rfl
    apply settled.step_of_none none
    · rw [after]
      exact settled.drained
    · rw [after]
  cases answered with
  | unreadable request after | blank request after | quit request after
  | history request after =>
    apply still _ after
    intro text asked
    rw [request] at asked
    cases asked
  | failure _ _ outcome bridge history =>
    have none : x.turn? = none := by simp only [Exchange.turn?, outcome]
    apply settled.step_of_none none _ history
    rw [bridge]
    exact Bridge.drained_takeConsole _
  | @turn _ _ turn _ _ outcome bridge history line _ =>
    have some : x.turn? = some turn := by simp only [Exchange.turn?, outcome]
    have turns := turnsOf_concat past x
    rw [some] at turns
    refine ⟨?_, ?_, ?_⟩
    · rw [bridge]
      exact Bridge.drained_takeConsole _
    · rw [history, turns, settled.history]
      rfl
    · intro text_format
      rw [turns, turnLines_concat_of_some past some, settled.numbered text_format,
        line text_format]
      exact List.mapIdx_concat.symm

theorem run (settled : Settled format colour past session) (lines : List (List UInt8))
    {more : List (Exchange σ)} {x : Exchange σ} {future : List (Exchange σ)}
    (split : exchanges config format colour lines session = more ++ x :: future) :
    Settled format colour (past ++ more) x.before ∧
      x.Answered format colour (past ++ more) ∧
      Settled format colour (past ++ more ++ [x]) x.after := by
  induction lines generalizing past session more with
  | nil => cases more <;> cases split
  | cons line rest ih =>
    have answered := settled.answered config line
    have next := step settled answered
    obtain ⟨rfl, rfl, -⟩ | ⟨later, rfl, others⟩ := first_or_later split
    · rw [List.append_nil]
      exact ⟨settled, answered, next⟩
    · rw [List.append_cons]
      exact ih next others

end Settled

/-- A line that is no source is answered alike in all sessions with one history, whatever their guests are. -/
theorem exchange_of_no_source {τ : Type} (config : Config) (format : OutputFormat) (colour : Bool)
    {line : List UInt8} {session : Session σ} {other : Session τ}
    (no_source : ∀ text,
      (exchange config format colour line session).request? ≠ some (.source text))
    (drained : session.bridge.Drained) (other_drained : other.bridge.Drained)
    (same : other.history = session.history) :
    (exchange config format colour line other).after = other ∧
      (exchange config format colour line other).emitted =
        (exchange config format colour line session).emitted ∧
      (exchange config format colour line other).progress =
        (exchange config format colour line session).progress := by
  cases decoded : Text.Utf8.decode? line with
  | none =>
    simp only [exchange, answerLine, decoded]
    exact ⟨trivial, trivial, trivial⟩
  | some text =>
    have nothing_logged {υ : Type} {bridge : Bridge υ} (drained : bridge.Drained) :
        logged config bridge = [] := by
      unfold logged
      rw [(drained : bridge.inst.host.console = .empty)]
      rfl
    obtain ⟨reply, answered, other_answered⟩ : ∃ reply,
        session.answer (.ofLine text) = (reply, session) ∧
          other.answer (.ofLine text) = (reply, other) := by
      cases asked : Request.ofLine text with
      | nothing => exact ⟨_, rfl, rfl⟩
      | quit => exact ⟨_, rfl, rfl⟩
      | history => exact ⟨_, rfl, by rw [← same]; rfl⟩
      | source source =>
        refine absurd ?_ (no_source source)
        rw [← asked]
        exact congrArg (Option.map Request.ofLine) decoded
    obtain ⟨-, -, emitted, progress⟩ :=
      exchange_of_reply config format colour decoded answered
    obtain ⟨-, after, other_emitted, other_progress⟩ :=
      exchange_of_reply config format colour decoded other_answered
    refine ⟨?_, ?_, ?_⟩
    · rw [after, other_drained.takeConsole]
    · rw [emitted, other_emitted, nothing_logged drained, nothing_logged other_drained]
    · rw [progress, other_progress]

/-- A scripted guest that writes another letter into the first name when it evaluates it, and that exits when
it evaluates seven. -/
def renamingGuest : Script.Description :=
  { Script.Description.default with
    eval := [⟨0x40000000, [.storeByte 0x1004 0x67], none⟩, ⟨7, [.syscall (.procExit 3)], none⟩] }

/-- A number, a name, nothing, the history, the number at which that guest exits, and another number. -/
def renamingLines : List (List UInt8) :=
  ["1\n", " x\n", "\n", ":history\n", "7\n", "1\n"].map Text.Utf8.encode

end Cli

end LispHost
