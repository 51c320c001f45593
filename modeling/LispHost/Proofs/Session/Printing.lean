import LispHost.Proofs.Session.Input
import LispHost.Proofs.Session.Law
import Mathlib.Data.List.Forall2

/-!
What runs show on the standard output.

A run shows reports: the one of a command that makes a single report, or those of a session's turns, between
which the session may be asked for its history. The printed lines are computed from what is shown, in its
order, and from nothing else. A session on a text never fails, whatever comes of its lines.
-/

set_option autoImplicit false

namespace LispHost.Cli

variable {σ : Type}

/-- One thing that a run shows on the standard output. -/
inductive Shown where
  | report (report : Report)
  | turn (turn : Turn)
  /-- The turns of the session so far, because it was asked for them. -/
  | history
  deriving DecidableEq, Repr

namespace Shown

def lines (format : OutputFormat) (colour : Bool) (turns : List Turn) : Shown → List String
  | report r => [r.print format colour]
  | turn t => (Reply.turn turns.length t).lines format colour
  | history => (Reply.history turns).lines format colour

def remember (turns : List Turn) : Shown → List Turn
  | turn t => turns ++ [t]
  | report _ | history => turns

/-- Two runs show the same at a place: the same report, or the history of either. -/
inductive Agrees : Shown → Shown → Prop
  | report (report : Report) : Agrees (.report report) (.report report)
  | turn {first second : Turn} : first.report = second.report → Agrees (.turn first) (.turn second)
  | history : Agrees .history .history

end Shown

def shownLines (format : OutputFormat) (colour : Bool) : List Turn → List Shown → List String
  | _, [] => []
  | turns, shown :: rest =>
    shown.lines format colour turns ++ shownLines format colour (shown.remember turns) rest

def shownText (format : OutputFormat) (colour : Bool) (shown : List Shown) : String :=
  String.join ((shownLines format colour [] shown).map fun line => line ++ "\n")

variable {config : Config} {format : OutputFormat} {colour : Bool}

/-! ### Equal reports -/

theorem line_congr {first second : Turn} (same : first.report = second.report) (colour : Bool)
    (index : Nat) : first.line colour index = second.line colour index := by
  have expression : first.expression = second.expression :=
    Option.some.inj (congrArg Report.expression same)
  have value : first.value = second.value := congrArg Report.value same
  rw [Turn.line, Turn.line, expression, value]

private theorem history_congr {first second : List Turn}
    (same : List.Forall₂ (fun a b => a.report = b.report) first second) (colour : Bool) (n : Nat) :
    (first.zipIdx n).map (fun (turn, index) => turn.line colour index) =
      (second.zipIdx n).map fun (turn, index) => turn.line colour index := by
  induction same generalizing n with
  | nil => rfl
  | cons head _ ih =>
    rw [List.zipIdx_cons, List.zipIdx_cons, List.map_cons, List.map_cons, ih]
    exact congrArg (· :: _) (line_congr head colour n)

/-- The lines at a place are equal where the reports are, and so are the reports of the turns after it. -/
theorem Shown.Agrees.lines_eq {first second : Shown} {turns others : List Turn}
    (agrees : first.Agrees second)
    (same : List.Forall₂ (fun a b => a.report = b.report) turns others) (format : OutputFormat)
    (colour : Bool) :
    first.lines format colour turns = second.lines format colour others ∧
      List.Forall₂ (fun a b => a.report = b.report) (first.remember turns)
        (second.remember others) := by
  cases agrees with
  | report report => exact ⟨rfl, same⟩
  | history => exact ⟨history_congr same colour 0, same⟩
  | turn reports =>
    refine ⟨?_, List.rel_append same (.cons reports .nil)⟩
    rw [lines, lines, same.length_eq]
    cases format with
    | text => exact congrArg ([·]) (line_congr reports colour _)
    | json => exact congrArg (fun report => [report.toJson.compact]) reports

theorem shownLines_congr {first second : List Shown} {turns others : List Turn}
    (agree : List.Forall₂ Shown.Agrees first second)
    (same : List.Forall₂ (fun a b => a.report = b.report) turns others) (format : OutputFormat)
    (colour : Bool) :
    shownLines format colour turns first = shownLines format colour others second := by
  induction agree generalizing turns others with
  | nil => rfl
  | cons head _ ih =>
    obtain ⟨lines, later⟩ := head.lines_eq same format colour
    rw [shownLines, shownLines, lines, ih later]

/-! ### Sessions -/

namespace Exchange

def shown? (x : Exchange σ) : Option Shown :=
  match x.request? with
  | some .history => some .history
  | some (.source _) => x.turn?.map .turn
  | _ => none

end Exchange

theorem printed_exchange (config : Config) (format : OutputFormat) (colour : Bool)
    (line : List UInt8) (session : Session σ) :
    let x := exchange config format colour line session
    x.printed = shownLines format colour session.history x.shown?.toList ∧
      x.after.history = (x.shown?.map (Shown.remember session.history)).getD session.history := by
  intro x
  cases decoded : Text.Utf8.decode? line with
  | none =>
    obtain ⟨request, after, printed, -⟩ :=
      exchange_of_unreadable config format colour session decoded
    have silent : x.shown? = none := by simp only [Exchange.shown?, x, request]
    rw [silent]
    exact ⟨printed, congrArg Session.history after⟩
  | some text =>
    have requested : x.request? = some (.ofLine text) :=
      congrArg (Option.map Request.ofLine) decoded
    cases answered : session.answer (.ofLine text) with
    | mk reply next =>
    obtain ⟨-, after, -⟩ := exchange_of_reply config format colour decoded answered
    have printed := printed_of_reply config format colour decoded answered
    have history : x.after.history = next.history := by rw [after]
    rw [printed, history]
    cases asked : Request.ofLine text with
    | nothing | quit =>
      rw [asked] at requested answered
      cases answered
      simp only [Exchange.shown?, requested]
      exact ⟨rfl, rfl⟩
    | history =>
      rw [asked] at requested answered
      cases answered
      simp only [Exchange.shown?, requested]
      exact ⟨(List.append_nil _).symm, rfl⟩
    | source source =>
      rw [asked] at requested answered
      have outcome : x.outcome? = some (session.bridge.turn source).1 :=
        outcome?_of_source requested
      have evaluates := evaluates_answer session source
      rw [answered] at evaluates
      simp only [Exchange.shown?, requested, Exchange.turn?, outcome]
      generalize (session.bridge.turn source).1 = result at evaluates
      cases evaluates with
      | turn turn => exact ⟨(List.append_nil _).symm, rfl⟩
      | exited | failed => exact ⟨rfl, rfl⟩

theorem printed_exchanges (lines : List (List UInt8)) (session : Session σ) :
    (exchanges config format colour lines session).flatMap Exchange.printed =
      shownLines format colour session.history
        ((exchanges config format colour lines session).filterMap Exchange.shown?) := by
  induction lines generalizing session with
  | nil => rfl
  | cons line rest ih =>
    obtain ⟨printed, history⟩ := printed_exchange config format colour line session
    by_cases on : (exchange config format colour line session).progress = .goesOn
    · rw [exchanges_of_goesOn rest on, List.flatMap_cons, ih, printed, history]
      cases shows : (exchange config format colour line session).shown? with
      | none => rw [List.filterMap_cons_none shows]; rfl
      | some shown =>
        rw [List.filterMap_cons_some shows]
        simp [shownLines]
    · rw [exchanges_of_not_goesOn rest on, List.flatMap_singleton, printed]
      cases shows : (exchange config format colour line session).shown? with
      | none => rw [List.filterMap_cons_none shows]; rfl
      | some shown => rw [List.filterMap_cons_some shows]; rfl

/-! ### Sessions on a text -/

theorem inputLines_append {data : List UInt8} (single : 10 ∉ data) (nonempty : data ≠ [])
    (rest : List UInt8) :
    inputLines (data ++ rest) = match inputLines rest with
      | line :: lines => (data ++ line) :: lines
      | [] => [data] := by
  induction data with
  | nil => exact absurd rfl nonempty
  | cons b data ih =>
    have other : b ≠ 10 := fun same => single (same ▸ List.mem_cons_self)
    have later : 10 ∉ data := fun member => single (List.mem_cons_of_mem b member)
    rw [List.cons_append, inputLines, if_neg other]
    by_cases last : data = []
    · subst last
      rfl
    · rw [ih later last]
      cases inputLines rest <;> rfl

theorem encode_cons (c : Char) (cs : List Char) :
    Text.Utf8.encode (String.ofList (c :: cs)) =
      Text.Utf8.encodeChar c ++ Text.Utf8.encode (String.ofList cs) := by
  rw [Text.Utf8.encode, Text.Utf8.encode, String.toList_ofList, String.toList_ofList,
    List.flatMap_cons]

theorem exists_encode_of_mem_inputLines (text : String) :
    ∀ line ∈ inputLines (Text.Utf8.encode text), ∃ s, line = Text.Utf8.encode s := by
  suffices chars : ∀ cs : List Char, ∀ line ∈ inputLines (Text.Utf8.encode (String.ofList cs)),
      ∃ s, line = Text.Utf8.encode (String.ofList s) by
    intro line member
    obtain ⟨s, same⟩ := chars text.toList line (by rwa [String.ofList_toList])
    exact ⟨_, same⟩
  intro cs
  induction cs with
  | nil => exact fun line member => absurd member List.not_mem_nil
  | cons c cs ih =>
    rw [encode_cons]
    by_cases ends : c = '\n'
    · subst ends
      refine List.forall_mem_cons.mpr ⟨⟨['\n'], rfl⟩, ih⟩
    · have single : 10 ∉ Text.Utf8.encodeChar c :=
        fun member => ends (Text.Utf8.eq_of_mem_encodeChar member)
      have alone : Text.Utf8.encodeChar c = Text.Utf8.encode (String.ofList [c]) := by
        rw [encode_cons]
        exact (List.append_nil _).symm
      have nonempty : Text.Utf8.encodeChar c ≠ [] := by
        rw [Text.Utf8.encodeChar_eq]
        exact String.utf8EncodeChar_ne_nil
      rw [inputLines_append single nonempty]
      cases lines : inputLines (Text.Utf8.encode (String.ofList cs)) with
      | nil => simpa using ⟨[c], alone⟩
      | cons line rest =>
        rw [lines] at ih
        obtain ⟨⟨s, same⟩, others⟩ := List.forall_mem_cons.mp ih
        exact List.forall_mem_cons.mpr ⟨⟨c :: s, by rw [encode_cons, same]⟩, others⟩

theorem code_answerLines {lines : List (List UInt8)}
    (texts : ∀ line ∈ lines, ∃ s, line = Text.Utf8.encode s) (session : Session σ) :
    (answerLines config format colour lines session).code = 0 := by
  induction lines generalizing session with
  | nil => rfl
  | cons line rest ih =>
    obtain ⟨⟨s, rfl⟩, others⟩ := List.forall_mem_cons.mp texts
    cases answered : session.answer (.ofLine s) with
    | mk reply next =>
    cases goes : reply.goesOn with
    | true =>
      simp only [answerLines, answerLine, Text.Utf8.decode?_encode, answered, goes, if_true]
      exact ih others _
    | false =>
      simp only [answerLines, answerLine, Text.Utf8.decode?_encode, answered, goes,
        Bool.false_eq_true, if_false]

end LispHost.Cli
