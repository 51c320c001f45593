import LispHost.Bridge
import LispHost.Proofs.View.Resolved

/-!
Runs of a bridge.

After its start a bridge changes only by the operations of its host, in any order and number. What every
operation keeps holds after every run. The options of a bridge are changed by one operation alone, so
they are always the last ones asked for, clamped.
-/

set_option autoImplicit false

namespace LispHost

theorem DecodeOptions.clamped_clamped (options : DecodeOptions) :
    options.clamped.clamped = options.clamped := by
  simp [clamped]

namespace Bridge

variable {σ : Type}

inductive Operation where
  | read (source : String)
  | eval (value : Word)
  | call (name : String) (args : List Word)
  | project (value : Word)
  | decode (options : DecodeOptions) (value : Word)
  | tagOf (value : Word)
  | row (tag : Tag) (value : Word)
  | string (handle : Word)
  | memorySize
  | word (offset : Word)
  | bytes (offset len : Word)
  | setOptions (options : DecodeOptions)
  | takeConsole
  deriving DecidableEq, Repr

inductive Answer where
  | done
  | word (w : Word)
  | words (ws : List Word)
  | projection (shown : Projection)
  | tag (tag : Tag)
  | row (row : Row)
  | text (text : String)
  | size (bytes : Nat)
  | data (bytes : List UInt8)
  | records (records : List Record)
  deriving DecidableEq, Repr

def perform (bridge : Bridge σ) : Operation → Except Error Answer × Bridge σ
  | .read source => ((bridge.read source).1.map .word, (bridge.read source).2)
  | .eval value => ((bridge.eval value).1.map .word, (bridge.eval value).2)
  | .call name args => ((bridge.call name args).1.map .words, (bridge.call name args).2)
  | .project value => ((bridge.project value).1.map .projection, (bridge.project value).2)
  | .decode options value =>
    ((bridge.decode options value).1.map .projection, (bridge.decode options value).2)
  | .tagOf value => ((bridge.tagOf value).1.map .tag, (bridge.tagOf value).2)
  | .row tag value => ((bridge.row tag value).1.map .row, (bridge.row tag value).2)
  | .string handle => ((bridge.string handle).1.map .text, (bridge.string handle).2)
  | .memorySize => (bridge.memorySize.map .size, bridge)
  | .word offset => ((bridge.word offset).map .word, bridge)
  | .bytes offset len => ((bridge.bytes offset len).map .data, bridge)
  | .setOptions options => (.ok .done, bridge.setOptions options)
  | .takeConsole => (.ok (.records bridge.takeConsole.1), bridge.takeConsole.2)

/-- Perform operations one after the other, whether they succeed or not. -/
def performAll (bridge : Bridge σ) : List Operation → List (Except Error Answer) × Bridge σ
  | [] => ([], bridge)
  | operation :: rest =>
    let (answer, bridge) := bridge.perform operation
    let (answers, bridge) := bridge.performAll rest
    (answer :: answers, bridge)

/-- The options that were asked for last, if at first there were these. -/
def lastOptions (asked : DecodeOptions) : List Operation → DecodeOptions
  | [] => asked
  | .setOptions options :: rest => lastOptions options rest
  | _ :: rest => lastOptions asked rest

@[simp] theorem options_eval (bridge : Bridge σ) (value : Word) :
    (bridge.eval value).2.options = bridge.options := by
  rw [eval]
  split <;> rfl

theorem options_deliver {bridge next : Bridge σ} {address : Word} {data : List UInt8}
    (delivered : bridge.deliver address data = .ok next) : next.options = bridge.options := by
  obtain ⟨memory, -, delivered⟩ := exists_of_bind_eq_ok delivered
  obtain ⟨written, -, delivered⟩ := exists_of_bind_eq_ok delivered
  cases delivered
  rfl

@[simp] theorem options_read (bridge : Bridge σ) (source : String) :
    (bridge.read source).2.options = bridge.options := by
  simp only [read]
  split
  · rfl
  · split
    · rfl
    · rfl
    · split
      · rfl
      · split
        · rfl
        · rename_i delivered
          have kept := options_deliver delivered
          exact kept

theorem options_perform (bridge : Bridge σ) {asked : DecodeOptions}
    (held : bridge.options = asked.clamped) (operation : Operation) :
    (bridge.perform operation).2.options = (lastOptions asked [operation]).clamped := by
  cases operation with
  | setOptions options => rfl
  | read source => exact (bridge.options_read source).trans held
  | eval value => exact (bridge.options_eval value).trans held
  | call | project | decode | tagOf | row | string | memorySize | word | bytes | takeConsole =>
    exact held

theorem lastOptions_cons (asked : DecodeOptions) (operation : Operation) (rest : List Operation) :
    lastOptions asked (operation :: rest) = lastOptions (lastOptions asked [operation]) rest := by
  cases operation <;> rfl

theorem options_performAll (bridge : Bridge σ) {asked : DecodeOptions}
    (held : bridge.options = asked.clamped) (operations : List Operation) :
    (bridge.performAll operations).2.options = (lastOptions asked operations).clamped := by
  induction operations generalizing bridge asked with
  | nil => exact held
  | cons operation rest ih =>
    rw [lastOptions_cons]
    exact ih (bridge.perform operation).2 (bridge.options_perform held operation)

theorem options_of_start {config : Config} {guest : Guest σ} {bridge : Bridge σ}
    (started : start config guest = .ok bridge) : bridge.options = config.decode.clamped := by
  rw [start] at started
  split at started
  · cases started
  · split at started
    · cases started
    · simp only at started
      split at started
      · split at started
        · rename_i called
          cases started
          exact congrArg (fun result => result.2.options) called.symm
        · cases started
      · cases started
        rfl

theorem project_of_decode {bridge : Bridge σ} {value : Word} {answer : Except Error Projection}
    {inst : Instance σ}
    (decoded : bridge.context.decode bridge.options value bridge.inst = (answer, inst)) :
    bridge.project value = (answer, { bridge with inst }) := by
  rw [project, decode, decoded]

theorem decode_of_project {bridge after : Bridge σ} {value : Word} {answer : Except Error Projection}
    (projected : bridge.project value = (answer, after)) :
    bridge.context.decode bridge.options value bridge.inst = (answer, after.inst) := by
  cases projected
  rfl

end Bridge

end LispHost
