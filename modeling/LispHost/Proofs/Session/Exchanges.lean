import LispHost.Cli.Run

/-!
The exchanges of a session.

A session answers line after line until its input or the session itself ends. An exchange is one line
with the session as the line found it, what was emitted and the session as the line left it. What a
session emits is what its exchanges emit, one after the other, so lines without an exchange have no part
in it.
-/

set_option autoImplicit false

namespace LispHost.Cli

variable {σ : Type}

/-- One line of a session, and what came of it. -/
structure Exchange (σ : Type) where
  line : List UInt8
  before : Session σ
  emitted : List Emission
  progress : Progress
  after : Session σ

def outLines (emissions : List Emission) : List String :=
  emissions.filterMap fun
    | .out line => some line
    | _ => none

theorem outLines_append (first second : List Emission) :
    outLines (first ++ second) = outLines first ++ outLines second :=
  List.filterMap_append

theorem outLines_out (lines : List String) : outLines (lines.map .out) = lines := by
  induction lines with
  | nil => rfl
  | cons line rest ih => exact congrArg (line :: ·) ih

theorem outLines_log (events : List LogEvent) : outLines (events.map .log) = [] := by
  induction events with
  | nil => rfl
  | cons event rest ih => exact ih

theorem stdout_eq (emissions : List Emission) :
    stdout emissions = String.join ((outLines emissions).map fun line => line ++ "\n") := by
  unfold stdout
  induction emissions with
  | nil => rfl
  | cons emission rest ih =>
    cases emission with
    | out line =>
      change String.join ((line ++ "\n") :: _) = String.join ((line ++ "\n") :: _)
      rw [String.join_cons, String.join_cons, ih]
      rfl
    | err | log =>
      change String.join ("" :: _) = _
      rw [String.join_cons, String.empty_append, ih]
      rfl

namespace Exchange

def request? (x : Exchange σ) : Option Request :=
  (Text.Utf8.decode? x.line).map Request.ofLine

def outcome? (x : Exchange σ) : Option (Except Error Turn) :=
  match x.request? with
  | some (.source text) => some (x.before.bridge.turn text).1
  | _ => none

def turn? (x : Exchange σ) : Option Turn :=
  match x.outcome? with
  | some (.ok turn) => some turn
  | _ => none

/-- Whether a line is the last of its session: it is not UTF-8, it asks to quit, or the guest exits. -/
def Ends (x : Exchange σ) : Prop :=
  x.request? = none ∨ x.request? = some .quit ∨ ∃ code, x.outcome? = some (.error (.guestExit code))

def printed (x : Exchange σ) : List String :=
  outLines x.emitted

/-- Everything emitted; a failure of the session itself is reported at its end. -/
def emissions (x : Exchange σ) : List Emission :=
  match x.progress with
  | .failed failure => x.emitted ++ [.err failure.text]
  | _ => x.emitted

theorem outLines_emissions (x : Exchange σ) : outLines x.emissions = x.printed := by
  unfold emissions
  split
  · rw [outLines_append]
    exact List.append_nil _
  · rfl

end Exchange

variable (config : Config) (format : OutputFormat) (colour : Bool)

def exchange (line : List UInt8) (session : Session σ) : Exchange σ :=
  let (emitted, progress, after) := answerLine config format colour line session
  ⟨line, session, emitted, progress, after⟩

def exchanges : List (List UInt8) → Session σ → List (Exchange σ)
  | [], _ => []
  | line :: rest, session =>
    let x := exchange config format colour line session
    match x.progress with
    | .goesOn => x :: exchanges rest x.after
    | _ => [x]

variable {config format colour}

theorem exchanges_of_goesOn {line : List UInt8} {session : Session σ} (rest : List (List UInt8))
    (on : (exchange config format colour line session).progress = .goesOn) :
    exchanges config format colour (line :: rest) session =
      exchange config format colour line session ::
        exchanges config format colour rest (exchange config format colour line session).after := by
  simp only [exchanges, on]

theorem exchanges_of_not_goesOn {line : List UInt8} {session : Session σ}
    (rest : List (List UInt8))
    (off : (exchange config format colour line session).progress ≠ .goesOn) :
    exchanges config format colour (line :: rest) session =
      [exchange config format colour line session] := by
  unfold exchanges
  cases progress : (exchange config format colour line session).progress with
  | goesOn => exact absurd progress off
  | ended | failed => simp only [progress]

theorem exists_exchanges_cons (config : Config) (format : OutputFormat) (colour : Bool)
    (line : List UInt8) (later : List (List UInt8)) (session : Session σ) :
    ∃ rest, exchanges config format colour (line :: later) session =
        exchange config format colour line session :: rest ∧
      ((exchange config format colour line session).progress ≠ .goesOn → rest = []) := by
  by_cases on : (exchange config format colour line session).progress = .goesOn
  · exact ⟨_, exchanges_of_goesOn later on, fun off => absurd on off⟩
  · exact ⟨[], exchanges_of_not_goesOn later on, fun _ => rfl⟩

theorem emissions_answerLines (lines : List (List UInt8)) (session : Session σ) :
    (answerLines config format colour lines session).emissions =
      (exchanges config format colour lines session).flatMap Exchange.emissions := by
  induction lines generalizing session with
  | nil => rfl
  | cons line rest ih =>
    unfold answerLines exchanges exchange
    cases answered : answerLine config format colour line session with
    | mk emitted ending =>
    obtain ⟨progress, after⟩ := ending
    cases progress with
    | goesOn =>
      simp only [List.flatMap_cons, ih]
      rfl
    | ended => exact (List.append_nil _).symm
    | failed failure => exact (List.append_nil _).symm

theorem stdout_answerLines (lines : List (List UInt8)) (session : Session σ) :
    stdout (answerLines config format colour lines session).emissions =
      String.join (((exchanges config format colour lines session).flatMap
        Exchange.printed).map fun line => line ++ "\n") := by
  rw [stdout_eq, emissions_answerLines]
  congr 2
  induction exchanges config format colour lines session with
  | nil => rfl
  | cons x rest ih =>
    rw [List.flatMap_cons, List.flatMap_cons, outLines_append, ih, x.outLines_emissions]

/-! ### Single exchanges -/

theorem exchange_of_unreadable (config : Config) (format : OutputFormat) (colour : Bool)
    {line : List UInt8} (session : Session σ) (unreadable : Text.Utf8.decode? line = none) :
    let x := exchange config format colour line session
    x.request? = none ∧ x.after = session ∧ x.printed = [] ∧ x.progress ≠ .goesOn := by
  intro x
  have made : x.after = session ∧ x.printed = [] ∧ ∃ failure, x.progress = .failed failure := by
    simp only [x, exchange, answerLine, unreadable]
    exact ⟨trivial, rfl, _, rfl⟩
  obtain ⟨after, printed, failure, progress⟩ := made
  refine ⟨?_, after, printed, ?_⟩
  · exact congrArg (Option.map Request.ofLine) unreadable
  · rw [progress]
    intro on
    cases on

/-- What the guest has written while a line was answered, as log events. -/
def logged (config : Config) (bridge : Bridge σ) : List Emission :=
  (logsOf config bridge.inst.host.console).map .log

theorem exchange_of_reply (config : Config) (format : OutputFormat) (colour : Bool)
    {line : List UInt8} {text : String} {session next : Session σ} {reply : Reply}
    (decoded : Text.Utf8.decode? line = some text)
    (answered : session.answer (.ofLine text) = (reply, next)) :
    let x := exchange config format colour line session
    x.request? = some (.ofLine text) ∧
      x.after = ⟨next.bridge.takeConsole.2, next.history⟩ ∧
      x.emitted = logged config next.bridge ++ (reply.lines format colour).map .out ++
        ((reply.complaint? colour).map fun s => Emission.err (s ++ "\n")).toList ∧
      x.progress = if reply.goesOn then .goesOn else .ended := by
  intro x
  refine ⟨?_, ?_, ?_, ?_⟩
  · exact congrArg (Option.map Request.ofLine) decoded
  · simp only [x, exchange, answerLine, decoded, answered]
  · have logs : next.bridge.takeConsole.1.map (fun record =>
        Emission.log (record.event config.syscalls.consoleEncoding)) =
        logged config next.bridge := by
      unfold logged logsOf
      rw [List.map_map]
      rfl
    simp only [x, exchange, answerLine, decoded, answered, logs]
  · simp only [x, exchange, answerLine, decoded, answered]

theorem printed_of_reply (config : Config) (format : OutputFormat) (colour : Bool)
    {line : List UInt8} {text : String} {session next : Session σ} {reply : Reply}
    (decoded : Text.Utf8.decode? line = some text)
    (answered : session.answer (.ofLine text) = (reply, next)) :
    (exchange config format colour line session).printed = reply.lines format colour := by
  obtain ⟨-, -, emitted, -⟩ := exchange_of_reply config format colour decoded answered
  have complaint : outLines (((reply.complaint? colour).map fun s =>
      Emission.err (s ++ "\n")).toList) = [] := by
    cases reply.complaint? colour <;> rfl
  unfold Exchange.printed
  rw [emitted, outLines_append, outLines_append, logged, outLines_log, outLines_out, complaint,
    List.nil_append, List.append_nil]

theorem outcome?_of_source {x : Exchange σ} {source : String}
    (requested : x.request? = some (.source source)) :
    x.outcome? = some (x.before.bridge.turn source).1 := by
  unfold Exchange.outcome?
  rw [requested]

/-- How a session answers a source whose turn has left `bridge`: a success is remembered, an exit ends the
session and any other error is reported. -/
inductive Evaluates (session : Session σ) (bridge : Bridge σ) :
    Except Error Turn → Reply → Session σ → Prop
  | turn (turn : Turn) :
      Evaluates session bridge (.ok turn) (.turn session.history.length turn)
        ⟨bridge, session.history ++ [turn]⟩
  | exited (code : Int32) :
      Evaluates session bridge (.error (.guestExit code)) (.exited code) ⟨bridge, session.history⟩
  | failed {e : Error} :
      (∀ code, e ≠ .guestExit code) →
      Evaluates session bridge (.error e) (.failed e) ⟨bridge, session.history⟩

namespace Evaluates

variable {session next : Session σ} {bridge : Bridge σ} {outcome : Except Error Turn} {reply : Reply}

theorem bridge_eq (evaluates : Evaluates session bridge outcome reply next) :
    next.bridge = bridge := by
  cases evaluates <;> rfl

theorem goesOn_iff (evaluates : Evaluates session bridge outcome reply next) :
    reply.goesOn = false ↔ ∃ code, outcome = .error (.guestExit code) := by
  cases evaluates with
  | turn =>
    constructor
    · intro stops
      cases stops
    · rintro ⟨code, exit⟩
      cases exit
  | exited code => exact ⟨fun _ => ⟨code, rfl⟩, fun _ => rfl⟩
  | failed no_exit =>
    constructor
    · intro stops
      cases stops
    · rintro ⟨code, exit⟩
      exact absurd (Except.error.inj exit) (no_exit code)

end Evaluates

theorem evaluates_answer (session : Session σ) (source : String) :
    Evaluates session (session.bridge.turn source).2 (session.bridge.turn source).1
      (session.answer (.source source)).1 (session.answer (.source source)).2 := by
  simp only [Session.answer, Session.evaluate]
  cases session.bridge.turn source with
  | mk outcome bridge =>
  cases outcome with
  | ok turn => exact .turn turn
  | error e =>
    cases e with
    | guestExit code => exact .exited code
    | memoryFault | unbound | alreadyBound | missingRow | compilation | instantiation | execution
    | exportNotFound | typeMismatch | encoding | config | file | internal =>
      refine .failed fun code exit => ?_
      cases exit

theorem progress_exchange (config : Config) (format : OutputFormat) (colour : Bool)
    (line : List UInt8) (session : Session σ) :
    (exchange config format colour line session).progress ≠ .goesOn ↔
      (exchange config format colour line session).Ends := by
  unfold Exchange.Ends
  cases decoded : Text.Utf8.decode? line with
  | none =>
    obtain ⟨request, -, -, off⟩ := exchange_of_unreadable config format colour session decoded
    exact ⟨fun _ => .inl request, fun _ => off⟩
  | some text =>
    have stops (reply : Reply) : (if reply.goesOn then Progress.goesOn else .ended) ≠ .goesOn ↔
        reply.goesOn = false := by
      cases reply.goesOn <;> decide
    cases answered : session.answer (.ofLine text) with
    | mk reply next =>
    obtain ⟨request, -, -, progress⟩ := exchange_of_reply config format colour decoded answered
    rw [progress, stops]
    cases asked : Request.ofLine text with
    | source source =>
      rw [asked] at request answered
      have evaluates := evaluates_answer session source
      have outcome := outcome?_of_source request
      change _ = some (session.bridge.turn source).1 at outcome
      rw [answered] at evaluates
      simp [request, outcome, evaluates.goesOn_iff]
    | nothing | quit | history =>
      rw [asked] at request answered
      obtain ⟨rfl, -⟩ := Prod.mk.inj answered
      simp [request, Exchange.outcome?, Reply.goesOn]

/-! ### Where a session ends -/

theorem lines_exchanges (lines : List (List UInt8)) (session : Session σ) :
    ∃ unread, lines =
        (exchanges config format colour lines session).map Exchange.line ++ unread ∧
      (unread ≠ [] → ∃ past x,
        exchanges config format colour lines session = past ++ [x] ∧ x.Ends) := by
  induction lines generalizing session with
  | nil => exact ⟨[], rfl, fun more => absurd rfl more⟩
  | cons line rest ih =>
    by_cases on : (exchange config format colour line session).progress = .goesOn
    · obtain ⟨unread, whole, ended⟩ := ih (exchange config format colour line session).after
      rw [exchanges_of_goesOn rest on]
      refine ⟨unread, ?_, ?_⟩
      · exact congrArg (line :: ·) whole
      · intro more
        obtain ⟨past, x, last, ends⟩ := ended more
        exact ⟨_ :: past, x, congrArg _ last, ends⟩
    · rw [exchanges_of_not_goesOn rest on]
      have ends := (progress_exchange config format colour line session).mp on
      exact ⟨rest, rfl, fun _ => ⟨[], _, rfl, ends⟩⟩

/-- An exchange of a session is the first, or one of the session that the first leaves. -/
theorem first_or_later {line : List UInt8} {rest : List (List UInt8)} {session : Session σ}
    {past future : List (Exchange σ)} {x : Exchange σ}
    (split : exchanges config format colour (line :: rest) session = past ++ x :: future) :
    (past = [] ∧ x = exchange config format colour line session ∧
      (x.progress ≠ .goesOn → future = [])) ∨
    ∃ later, past = exchange config format colour line session :: later ∧
      exchanges config format colour rest (exchange config format colour line session).after =
        later ++ x :: future := by
  by_cases on : (exchange config format colour line session).progress = .goesOn
  · rw [exchanges_of_goesOn rest on] at split
    cases past with
    | nil =>
      obtain ⟨rfl, -⟩ := List.cons.inj split
      exact .inl ⟨rfl, rfl, fun off => absurd on off⟩
    | cons y later =>
      obtain ⟨rfl, others⟩ := List.cons.inj split
      exact .inr ⟨later, rfl, others⟩
  · rw [exchanges_of_not_goesOn rest on] at split
    cases past with
    | nil =>
      obtain ⟨rfl, nothing⟩ := List.cons.inj split
      exact .inl ⟨rfl, rfl, fun _ => nothing.symm⟩
    | cons y later => cases later <;> cases (List.cons.inj split).2

theorem before_of_split {lines : List (List UInt8)} {session : Session σ}
    {past future : List (Exchange σ)} {x : Exchange σ}
    (split : exchanges config format colour lines session = past ++ x :: future) :
    x.before = (past.getLast?.map Exchange.after).getD session := by
  induction lines generalizing session past with
  | nil => cases past <;> cases split
  | cons line rest ih =>
    obtain ⟨rfl, rfl, -⟩ | ⟨later, rfl, others⟩ := first_or_later split
    · rfl
    · rw [ih others, List.getLast?_cons]
      cases later.getLast? <;> rfl

theorem eq_exchange_of_split {lines : List (List UInt8)} {session : Session σ}
    {past future : List (Exchange σ)} {x : Exchange σ}
    (split : exchanges config format colour lines session = past ++ x :: future) :
    x = exchange config format colour x.line x.before := by
  induction lines generalizing session past with
  | nil => cases past <;> cases split
  | cons line rest ih =>
    obtain ⟨rfl, rfl, -⟩ | ⟨later, rfl, others⟩ := first_or_later split
    · rfl
    · exact ih others

theorem last_of_ends {lines : List (List UInt8)} {session : Session σ}
    {past future : List (Exchange σ)} {x : Exchange σ}
    (split : exchanges config format colour lines session = past ++ x :: future)
    (ends : x.Ends) : future = [] := by
  induction lines generalizing session past with
  | nil => cases past <;> cases split
  | cons line rest ih =>
    obtain ⟨rfl, rfl, last⟩ | ⟨later, rfl, others⟩ := first_or_later split
    · exact last ((progress_exchange config format colour line session).mpr ends)
    · exact ih others

end LispHost.Cli
