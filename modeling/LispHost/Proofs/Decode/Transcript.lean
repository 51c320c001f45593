import LispHost.Heap.Table
import LispHost.Proofs.Decode.Runs

/-!
Transcripts of decodes.

A transcript lists the calls of a decode with their answers, in order. The transcript of a decode that
succeeds is the preorder reading of its projection: each node is classified, a pair goes on with its
row and then with its two parts, and a symbol with its row and its name. The transcript of a decode
that fails stops at the call that raised the error.
-/

set_option autoImplicit false

namespace LispHost

variable {σ α β : Type}

namespace Row

/-- The errors of a row that is read under a tag: it is the row of another tag, or its first column
that is missing is one that the tag needs. -/
inductive Misfit (row : Row) (tag : Tag) : Error → Prop
  | tag : row.tag ≠ tag → Misfit row tag (.typeMismatch tag.label row.tag.text)
  | column {width : Nat} : row.tag = tag → tag.rowWidth = some width → row.cells.length < width →
      Misfit row tag (.typeMismatch (tag.text ++ s!" row with column {row.cells.length}")
        (toString row.cells.length ++ " columns"))

theorem misfit_of_duo {row : Row} {e : Error} (failed : row.duo = .error e) : row.Misfit .duo e := by
  obtain ⟨tag, cells⟩ := row
  by_cases same : tag = .duo
  · subst same
    rcases cells with _ | ⟨car, _ | ⟨cdr, rest⟩⟩
    · cases failed
      exact .column rfl rfl (Nat.zero_lt_two)
    · cases failed
      exact .column rfl rfl (Nat.lt_succ_self 1)
    · cases failed
  · have unfit : Row.duo ⟨tag, cells⟩ = .error (.typeMismatch Tag.duo.label tag.text) := by
      simp only [duo, expect, if_neg same]
      rfl
    rw [unfit] at failed
    cases failed
    exact .tag same

theorem misfit_of_sym {row : Row} {e : Error} (failed : row.sym = .error e) : row.Misfit .sym e := by
  obtain ⟨tag, cells⟩ := row
  by_cases same : tag = .sym
  · subst same
    cases cells with
    | nil =>
      cases failed
      exact .column rfl rfl (by decide)
    | cons handle rest => cases failed
  · have unfit : Row.sym ⟨tag, cells⟩ = .error (.typeMismatch Tag.sym.label tag.text) := by
      simp only [sym, expect, if_neg same]
      rfl
    rw [unfit] at failed
    cases failed
    exact .tag same

end Row

inductive HeapEvent where
  | tagOf (value : Word) (answer : Except Error Tag)
  | row (tag : Tag) (value : Word) (answer : Except Error Row)
  | string (handle : Word) (answer : Except Error String)

namespace HeapEvent

def call : HeapEvent → HeapCall
  | tagOf value _ => .tagOf value
  | row tag value _ => .row tag value
  | string handle _ => .string handle

/-- The calls after which a decode goes on: those that succeed, with a row that can be read, and those
for a name that turns out not to be text. -/
inductive Passed : HeapEvent → Prop
  | tagOf (value : Word) (tag : Tag) : Passed (.tagOf value (.ok tag))
  | pair (value : Word) {row : Row} {parts : Word × Word} :
      row.duo = .ok parts → Passed (.row .duo value (.ok row))
  | symbol (value : Word) {row : Row} {handle : Word} :
      row.sym = .ok handle → Passed (.row .sym value (.ok row))
  | string (handle : Word) (name : String) : Passed (.string handle (.ok name))
  | recovered (handle given len : Word) : Passed (.string handle (.error (.encoding given len)))

/-- The calls at which a decode stops, with its error: the call's own, or that of a row that cannot
be read. -/
inductive Raises : HeapEvent → Error → Prop
  | tagOf (value : Word) (e : Error) : Raises (.tagOf value (.error e)) e
  | row (tag : Tag) (value : Word) (e : Error) : Raises (.row tag value (.error e)) e
  | misfit {tag : Tag} (value : Word) {row : Row} {e : Error} :
      row.Misfit tag e → Raises (.row tag value (.ok row)) e
  | string (handle : Word) {e : Error} :
      (∀ given len, e ≠ .encoding given len) → Raises (.string handle (.error e)) e

end HeapEvent

/-- The transcript of a successful decode of a word that may open so many levels is the preorder
reading of its projection. -/
inductive Reads : Nat → Word → Projection → List HeapEvent → Prop
  | elided (raw : Word) : Reads 0 raw (.elided raw) []
  | int {levels : Nat} (raw : Word) : Reads (levels + 1) raw (.int raw) [.tagOf raw (.ok .int)]
  | nil {levels : Nat} (raw : Word) : Reads (levels + 1) raw .nil [.tagOf raw (.ok .sys)]
  | true {levels : Nat} (raw : Word) : Reads (levels + 1) raw .true [.tagOf raw (.ok .sys)]
  | stray {levels : Nat} (raw : Word) :
      Reads (levels + 1) raw (.unknown .sys raw) [.tagOf raw (.ok .sys)]
  | unknown {levels : Nat} (raw code : Word) :
      Reads (levels + 1) raw (.unknown (.unknown code) raw) [.tagOf raw (.ok (.unknown code))]
  | cycle {levels : Nat} (raw : Word) :
      Reads (levels + 1) raw (.cycle raw) [.tagOf raw (.ok .duo)]
  | sym {levels : Nat} (raw : Word) {row : Row} {handle : Word} (name : String) :
      row.sym = .ok handle →
      Reads (levels + 1) raw (.sym name)
        [.tagOf raw (.ok .sym), .row .sym raw (.ok row), .string handle (.ok name)]
  | undecodable {levels : Nat} (raw : Word) {row : Row} {handle : Word} (given len : Word) :
      row.sym = .ok handle →
      Reads (levels + 1) raw (.undecodable raw len)
        [.tagOf raw (.ok .sym), .row .sym raw (.ok row), .string handle (.error (.encoding given len))]
  | duo {levels : Nat} (raw : Word) {row : Row} {car cdr : Word} {first second : Projection}
      {calls more : List HeapEvent} :
      row.duo = .ok (car, cdr) → Reads levels car first calls → Reads levels cdr second more →
      Reads (levels + 1) raw (.duo first second)
        (.tagOf raw (.ok .duo) :: .row .duo raw (.ok row) :: (calls ++ more))

/-- The transcript of a decode that fails: on the way down to the failure, what lies to the left of it
has been read. -/
inductive Aborts : Nat → Word → Error → List HeapEvent → Prop
  | tagOf {levels : Nat} (raw : Word) (e : Error) :
      Aborts (levels + 1) raw e [.tagOf raw (.error e)]
  | row {levels width : Nat} (raw : Word) {tag : Tag} (e : Error) : tag.rowWidth = some width →
      Aborts (levels + 1) raw e [.tagOf raw (.ok tag), .row tag raw (.error e)]
  | misfit {levels width : Nat} (raw : Word) {tag : Tag} {row : Row} {e : Error} :
      tag.rowWidth = some width → row.Misfit tag e →
      Aborts (levels + 1) raw e [.tagOf raw (.ok tag), .row tag raw (.ok row)]
  | string {levels : Nat} (raw : Word) {row : Row} {handle : Word} {e : Error} :
      row.sym = .ok handle → (∀ given len, e ≠ .encoding given len) →
      Aborts (levels + 1) raw e
        [.tagOf raw (.ok .sym), .row .sym raw (.ok row), .string handle (.error e)]
  | car {levels : Nat} (raw : Word) {row : Row} {car cdr : Word} {e : Error}
      {calls : List HeapEvent} :
      row.duo = .ok (car, cdr) → Aborts levels car e calls →
      Aborts (levels + 1) raw e (.tagOf raw (.ok .duo) :: .row .duo raw (.ok row) :: calls)
  | cdr {levels : Nat} (raw : Word) {row : Row} {car cdr : Word} {first : Projection} {e : Error}
      {calls more : List HeapEvent} :
      row.duo = .ok (car, cdr) → Reads levels car first calls → Aborts levels cdr e more →
      Aborts (levels + 1) raw e (.tagOf raw (.ok .duo) :: .row .duo raw (.ok row) :: (calls ++ more))

theorem Reads.passed {levels : Nat} {raw : Word} {shown : Projection} {events : List HeapEvent}
    (reads : Reads levels raw shown events) : ∀ event ∈ events, event.Passed := by
  induction reads with
  | elided raw => simp
  | int raw | nil raw | true raw | stray raw | unknown raw | cycle raw =>
    simp [HeapEvent.Passed.tagOf]
  | sym raw name read => simp [HeapEvent.Passed.tagOf, HeapEvent.Passed.symbol raw read,
      HeapEvent.Passed.string]
  | undecodable raw given len read => simp [HeapEvent.Passed.tagOf,
      HeapEvent.Passed.symbol raw read, HeapEvent.Passed.recovered]
  | duo raw parted _ _ first second =>
    intro event member
    simp only [List.mem_cons, List.mem_append] at member
    rcases member with rfl | rfl | earlier | later
    · exact .tagOf raw .duo
    · exact .pair raw parted
    · exact first event earlier
    · exact second event later

/-- A decode that fails stops at the call that raised the error, and went on after each one before. -/
theorem Aborts.exists_last {levels : Nat} {raw : Word} {e : Error} {events : List HeapEvent}
    (aborts : Aborts levels raw e events) :
    ∃ before last, events = before ++ [last] ∧ last.Raises e ∧ ∀ event ∈ before, event.Passed := by
  induction aborts with
  | tagOf raw e => exact ⟨[], _, rfl, .tagOf raw e, by simp⟩
  | @row _ _ raw tag e _ =>
    exact ⟨[_], _, rfl, .row tag raw e, by simp [HeapEvent.Passed.tagOf]⟩
  | misfit raw _ unfit => exact ⟨[_], _, rfl, .misfit raw unfit, by simp [HeapEvent.Passed.tagOf]⟩
  | @string _ raw row handle e read readable =>
    refine ⟨[_, _], _, rfl, .string handle readable, ?_⟩
    simp [HeapEvent.Passed.tagOf, HeapEvent.Passed.symbol raw read]
  | @car _ raw row _ _ e calls parted _ ih =>
    obtain ⟨before, last, rfl, raises, passed⟩ := ih
    refine ⟨.tagOf raw (.ok .duo) :: .row .duo raw (.ok row) :: before, last, rfl, raises, ?_⟩
    simp only [List.mem_cons, forall_eq_or_imp]
    exact ⟨.tagOf raw .duo, .pair raw parted, passed⟩
  | @cdr _ raw row _ _ _ e calls more parted reads _ ih =>
    obtain ⟨before, last, rfl, raises, passed⟩ := ih
    refine ⟨.tagOf raw (.ok .duo) :: .row .duo raw (.ok row) :: (calls ++ before), last, ?_, raises, ?_⟩
    · simp only [List.cons_append, List.append_assoc]
    · simp only [List.mem_cons, List.mem_append, forall_eq_or_imp]
      refine ⟨.tagOf raw .duo, .pair raw parted, fun event member => ?_⟩
      rcases member with earlier | later
      · exact reads.passed event earlier
      · exact passed event later

namespace Inquiry

/-- A result after which the list of events has grown by some events, which are `Good` for an answer
and `Bad` for an error. -/
def Written (Good : α → List HeapEvent → Prop) (Bad : Error → List HeapEvent → Prop)
    (log : List HeapEvent) : Except Error α × σ × List HeapEvent → Prop
  | (.ok a, _, after) => ∃ events, after = events.reverse ++ log ∧ Good a events
  | (.error e, _, after) => ∃ events, after = events.reverse ++ log ∧ Bad e events

/-- An inquiry that, wherever it starts, adds events that are `Good` for its answer or `Bad` for its
error. -/
def Writes (Good : α → List HeapEvent → Prop) (Bad : Error → List HeapEvent → Prop)
    (x : Inquiry (σ × List HeapEvent) α) : Prop :=
  ∀ state log, Written Good Bad log (x (state, log))

theorem Writes.pure {Good : α → List HeapEvent → Prop} {Bad : Error → List HeapEvent → Prop} {a : α}
    (good : Good a []) : Writes Good Bad (Pure.pure a : Inquiry (σ × List HeapEvent) α) :=
  fun _ _ => ⟨[], rfl, good⟩

theorem Writes.mono {First Good : α → List HeapEvent → Prop}
    {Failed Bad : Error → List HeapEvent → Prop} {x : Inquiry (σ × List HeapEvent) α}
    (writes : Writes First Failed x) (good : ∀ a events, First a events → Good a events)
    (bad : ∀ e events, Failed e events → Bad e events) : Writes Good Bad x := by
  intro state log
  have written := writes state log
  cases ran : x (state, log) with
  | mk answer next =>
  rw [ran] at written
  cases answer with
  | ok a =>
    obtain ⟨events, grown, first⟩ := written
    exact ⟨events, grown, good a events first⟩
  | error e =>
    obtain ⟨events, grown, failed⟩ := written
    exact ⟨events, grown, bad e events failed⟩

/-- The events of a sequence are those of its first part, followed by those of its second part if the
first one answered. -/
theorem Writes.bind {First : α → List HeapEvent → Prop} {Failed : Error → List HeapEvent → Prop}
    {Good : β → List HeapEvent → Prop} {Bad : Error → List HeapEvent → Prop}
    {x : Inquiry (σ × List HeapEvent) α} {f : α → Inquiry (σ × List HeapEvent) β}
    (first : Writes First Failed x) (failed : ∀ e events, Failed e events → Bad e events)
    (second : ∀ a events, First a events →
      Writes (fun b more => Good b (events ++ more)) (fun e more => Bad e (events ++ more)) (f a)) :
    Writes Good Bad (x >>= f) := by
  intro state log
  have before := first state log
  rw [bind_apply]
  cases ran : x (state, log) with
  | mk answer next =>
  rw [ran] at before
  obtain ⟨middle, grown⟩ := next
  cases answer with
  | error e =>
    obtain ⟨events, same, bad⟩ := before
    exact ⟨events, same, failed e events bad⟩
  | ok a =>
    obtain ⟨events, rfl, good⟩ := before
    have after := second a events good middle (events.reverse ++ log)
    simp only
    cases ended : f a (middle, events.reverse ++ log) with
    | mk answer last =>
    rw [ended] at after
    cases answer with
    | ok b =>
      obtain ⟨more, same, good⟩ := after
      exact ⟨events ++ more, by simp [same], good⟩
    | error e =>
      obtain ⟨more, same, bad⟩ := after
      exact ⟨events ++ more, by simp [same], bad⟩

end Inquiry

namespace HeapReader

/-- The heap together with the list of calls made and their answers, latest first. -/
def transcribed (heap : HeapReader σ) : HeapReader (σ × List HeapEvent) where
  tagOf value state :=
    let (answer, next) := heap.tagOf value state.1
    (answer, next, .tagOf value answer :: state.2)
  row tag value state :=
    let (answer, next) := heap.row tag value state.1
    (answer, next, .row tag value answer :: state.2)
  string handle state :=
    let (answer, next) := heap.string handle state.1
    (answer, next, .string handle answer :: state.2)
  sentinels state := heap.sentinels state.1

theorem transcribed_mirrors (heap : HeapReader σ) : Mirrors Prod.fst heap.transcribed heap where
  tagOf _ _ := rfl
  row _ _ _ := rfl
  string _ _ := rfl
  sentinels _ := rfl

theorem transcribed_mirrors_recorded (heap : HeapReader σ) :
    Mirrors (fun state => (state.1, state.2.map HeapEvent.call)) heap.transcribed heap.recorded where
  tagOf _ _ := rfl
  row _ _ _ := rfl
  string _ _ := rfl
  sentinels _ := rfl

variable {heap : HeapReader σ} {detectCycles : Bool} {raw : Word}

theorem writes_askTag : Inquiry.Writes (fun tag events => events = [.tagOf raw (.ok tag)])
    (fun e events => events = [.tagOf raw (.error e)]) (heap.transcribed.askTag raw) := by
  intro state log
  cases answered : heap.tagOf raw state with
  | mk answer next =>
  simp only [askTag, transcribed, answered]
  cases answer <;> exact ⟨[_], rfl, rfl⟩

def askRow (heap : HeapReader σ) (tag : Tag) (read : Row → Except Error α) (raw : Word) :
    Inquiry σ α :=
  fun state =>
    match heap.row tag raw state with
    | (.ok row, state) => (read row, state)
    | (.error e, state) => (.error e, state)

theorem askParts_eq_askRow (heap : HeapReader σ) (raw : Word) :
    heap.askParts raw = heap.askRow .duo Row.duo raw :=
  rfl

theorem askHandle_eq_askRow (heap : HeapReader σ) (raw : Word) :
    heap.askHandle raw = heap.askRow .sym Row.sym raw :=
  rfl

/-- Reading the row of a tag adds the call for the row, whether the row is there and fits or not. -/
theorem writes_askRow {tag : Tag} {read : Row → Except Error α}
    (misfit : ∀ {row : Row} {e : Error}, read row = .error e → row.Misfit tag e) :
    Inquiry.Writes (fun a events => ∃ row, read row = .ok a ∧ events = [.row tag raw (.ok row)])
      (fun e events => events = [.row tag raw (.error e)] ∨
        ∃ row : Row, row.Misfit tag e ∧ events = [.row tag raw (.ok row)])
      (heap.transcribed.askRow tag read raw) := by
  intro state log
  cases answered : heap.row tag raw state with
  | mk answer next =>
  simp only [askRow, transcribed, answered]
  cases answer with
  | error e => exact ⟨[_], rfl, .inl rfl⟩
  | ok row =>
    simp only
    cases found : read row with
    | ok a => exact ⟨[_], rfl, row, found, rfl⟩
    | error e => exact ⟨[_], rfl, .inr ⟨row, misfit found, rfl⟩⟩

theorem writes_askName {handle : Word} : Inquiry.Writes
    (fun found events => ∃ answer, Survey.ofName raw handle answer = .ok found ∧
      events = [.string handle answer])
    (fun e events => (∀ given len, e ≠ .encoding given len) ∧ events = [.string handle (.error e)])
    (heap.transcribed.askName raw handle) := by
  intro state log
  cases answered : heap.string handle state with
  | mk answer next =>
  simp only [askName, transcribed, answered]
  cases answer with
  | ok name => exact ⟨[_], rfl, _, rfl, rfl⟩
  | error e =>
    cases e with
    | encoding given len => exact ⟨[_], rfl, _, rfl, rfl⟩
    | _ => exact ⟨[_], rfl, by simp, rfl⟩

private theorem reads_of_name {levels : Nat} {handle : Word} {row : Row} (read : row.sym = .ok handle)
    {answer : Except Error String} {found : Survey}
    (named : Survey.ofName raw handle answer = .ok found) :
    Reads (levels + 1) raw found.shown
      [.tagOf raw (.ok .sym), .row .sym raw (.ok row), .string handle answer] := by
  cases answer with
  | ok name =>
    cases named
    exact .sym raw name read
  | error e =>
    cases e <;> cases named
    exact .undecodable raw _ _ read

private theorem reads_of_system {levels : Nat} (sentinels : Sentinels) :
    Reads (levels + 1) raw (Projection.ofSystem sentinels raw) [.tagOf raw (.ok .sys)] := by
  rw [Projection.ofSystem]
  split
  · exact .nil raw
  · split
    · exact .true raw
    · exact .stray raw

/-- A survey of the transcribed heap writes the reading of what it shows, or the transcript of its
failure. -/
theorem writes_surveyAt (heap : HeapReader σ) (detectCycles : Bool) (levels : Nat)
    (path : List Word) (raw : Word) :
    Inquiry.Writes (fun found events => Reads levels raw found.shown events)
      (fun e events => Aborts levels raw e events)
      (heap.transcribed.surveyAt detectCycles levels path raw) := by
  induction levels generalizing path raw with
  | zero => exact .pure (.elided raw)
  | succ levels ih =>
    apply Inquiry.Writes.bind writes_askTag
    · rintro e _ rfl
      exact .tagOf raw e
    rintro tag _ rfl
    cases tag with
    | int => exact .pure (.int raw)
    | unknown code => exact .pure (.unknown raw code)
    | sys =>
      intro state log
      refine ⟨[], rfl, ?_⟩
      change Reads (levels + 1) raw (Survey.ofSystem _ raw).shown [.tagOf raw (.ok .sys)]
      rw [Survey.shown_ofSystem]
      exact reads_of_system _
    | sym =>
      rw [askHandle_eq_askRow]
      apply Inquiry.Writes.bind (writes_askRow Row.misfit_of_sym)
      · rintro e _ (rfl | ⟨row, unfit, rfl⟩)
        · exact .row raw e (show Tag.sym.rowWidth = some 1 from rfl)
        · exact .misfit raw (show Tag.sym.rowWidth = some 1 from rfl) unfit
      rintro handle _ ⟨row, read, rfl⟩
      apply writes_askName.mono
      · rintro found _ ⟨answer, named, rfl⟩
        exact reads_of_name read named
      · rintro e _ ⟨readable, rfl⟩
        exact .string raw read readable
    | duo =>
      by_cases repeated : detectCycles = true ∧ raw ∈ path
      · simp only [if_pos repeated]
        exact .pure (.cycle raw)
      · simp only [if_neg repeated]
        rw [askParts_eq_askRow]
        apply Inquiry.Writes.bind (writes_askRow Row.misfit_of_duo)
        · rintro e _ (rfl | ⟨row, unfit, rfl⟩)
          · exact .row raw e (show Tag.duo.rowWidth = some 2 from rfl)
          · exact .misfit raw (show Tag.duo.rowWidth = some 2 from rfl) unfit
        rintro ⟨car, cdr⟩ _ ⟨row, parted, rfl⟩
        apply Inquiry.Writes.bind (ih (raw :: path) car)
        · intro e calls aborts
          exact .car raw parted aborts
        intro first calls car_reads
        apply Inquiry.Writes.bind (ih (raw :: path) cdr)
        · intro e more aborts
          show Aborts (levels + 1) raw e
            (.tagOf raw (.ok .duo) :: .row .duo raw (.ok row) :: (calls ++ more))
          exact .cdr raw parted car_reads aborts
        intro second more cdr_reads
        apply Inquiry.Writes.pure
        rw [List.append_nil]
        show Reads (levels + 1) raw (.duo first.shown second.shown)
          (.tagOf raw (.ok .duo) :: .row .duo raw (.ok row) :: (calls ++ more))
        exact .duo raw parted car_reads cdr_reads

end HeapReader

/-- A decode of the transcribed heap is that of the heap, it makes the calls that the recorded heap
lists, and its transcript is a reading or ends in a failure. -/
theorem HeapReader.exists_transcript (heap : HeapReader σ) (options : DecodeOptions) (raw : Word)
    (state : σ) :
    ∃ events : List HeapEvent,
      Projection.decode heap.transcribed options raw (state, []) =
        ((Projection.decode heap options raw state).1, (Projection.decode heap options raw state).2,
          events.reverse) ∧
      Projection.decode heap.recorded options raw (state, []) =
        ((Projection.decode heap options raw state).1, (Projection.decode heap options raw state).2,
          (events.map HeapEvent.call).reverse) ∧
      (∀ shown, (Projection.decode heap options raw state).1 = .ok shown →
        Reads (options.clamped.maxDepth + 1) raw shown events) ∧
      ∀ e, (Projection.decode heap options raw state).1 = .error e →
        Aborts (options.clamped.maxDepth + 1) raw e events := by
  have written := heap.writes_surveyAt options.detectCycles (options.clamped.maxDepth + 1) [] raw
    state []
  have plain := heap.transcribed_mirrors.decode options raw (state, [])
  have recorded := heap.transcribed_mirrors_recorded.decode options raw (state, [])
  have decoded := heap.transcribed.decode_eq_survey options raw (state, [])
  simp only [List.map_nil] at plain recorded
  rw [survey] at decoded
  cases surveyed : heap.transcribed.surveyAt options.detectCycles (options.clamped.maxDepth + 1) []
      raw (state, []) with
  | mk answer next =>
  obtain ⟨after, log⟩ := next
  rw [surveyed] at written decoded
  rw [decoded] at plain recorded
  cases answer with
  | ok found =>
    obtain ⟨events, rfl, reads⟩ := written
    refine ⟨events, ?_, ?_, ?_, ?_⟩
    · rw [decoded, plain, List.append_nil]
    · rw [recorded, plain, List.append_nil, List.map_reverse]
    · intro shown ok
      rw [plain] at ok
      cases ok
      exact reads
    · intro e failed
      rw [plain] at failed
      cases failed
  | error e =>
    obtain ⟨events, rfl, aborts⟩ := written
    refine ⟨events, ?_, ?_, ?_, ?_⟩
    · rw [decoded, plain, List.append_nil]
    · rw [recorded, plain, List.append_nil, List.map_reverse]
    · intro shown ok
      rw [plain] at ok
      cases ok
    · intro e' failed
      rw [plain] at failed
      cases failed
      exact aborts

/-- The accessor calls of a decode, with their answers and in order. If the decode succeeds they are
the preorder reading of its projection. If it fails, the last of them is the one that raised the error,
and after each one before it the decode went on. -/
theorem decode_transcript (heap : HeapReader σ) (options : DecodeOptions) (raw : Word) (state : σ) :
    ∃ events : List HeapEvent,
      Projection.decode heap.transcribed options raw (state, []) =
        ((Projection.decode heap options raw state).1, (Projection.decode heap options raw state).2,
          events.reverse) ∧
      Projection.decode heap.recorded options raw (state, []) =
        ((Projection.decode heap options raw state).1, (Projection.decode heap options raw state).2,
          (events.map HeapEvent.call).reverse) ∧
      (∀ shown, (Projection.decode heap options raw state).1 = .ok shown →
        Reads (options.clamped.maxDepth + 1) raw shown events) ∧
      ∀ e, (Projection.decode heap options raw state).1 = .error e →
        Aborts (options.clamped.maxDepth + 1) raw e events ∧
          ∃ before last, events = before ++ [last] ∧ last.Raises e ∧
            ∀ event ∈ before, event.Passed := by
  obtain ⟨events, plain, recorded, reads, aborts⟩ := heap.exists_transcript options raw state
  refine ⟨events, plain, recorded, reads, ?_⟩
  intro e failed
  exact ⟨aborts e failed, (aborts e failed).exists_last⟩

/-- A pair of a symbol whose name is not text and a pair that is nowhere. -/
def brokenListHeap : HeapReader Unit :=
  HeapTable.reader
    { tags := []
      rows := [(0x30000000, fun tag => .ok ⟨tag, [0x40000005, 0x30000fff]⟩)]
      strings := [(5, .error (.encoding 5 3))]
      sentinels := HeapTable.usualSentinels }

/-- The name is passed over and the decode stops at the row of the second pair, which is the last of
seven calls. The symbol alone decodes to a leaf with its own word and the length of its name. -/
theorem decode_transcript_brokenListHeap :
    (∃ events before last,
      Projection.decode brokenListHeap.recorded .default 0x30000000 ((), []) =
        (.error (.memoryFault 0x30000fff 8 0), (), (events.map HeapEvent.call).reverse) ∧
      events = before ++ [last] ∧ last.Raises (.memoryFault 0x30000fff 8 0) ∧
      (∀ event ∈ before, event.Passed) ∧
      events.map HeapEvent.call =
        [.tagOf 0x30000000, .row .duo 0x30000000, .tagOf 0x40000005, .row .sym 0x40000005, .string 5,
          .tagOf 0x30000fff, .row .duo 0x30000fff]) ∧
    ∃ events, Reads 1025 0x40000005 (.undecodable 0x40000005 3) events := by
  constructor
  · obtain ⟨events, -, recorded, -, failed⟩ :=
      decode_transcript brokenListHeap .default 0x30000000 ()
    obtain ⟨-, before, last, split, raises, passed⟩ := failed _ rfl
    refine ⟨events, before, last, recorded, split, raises, passed, ?_⟩
    have calls : (events.map HeapEvent.call).reverse = _ :=
      (congrArg (fun result => result.2.2) recorded).symm
    rw [List.reverse_eq_iff] at calls
    rw [calls]
    rfl
  · obtain ⟨events, -, -, reads, -⟩ := decode_transcript brokenListHeap .default 0x40000005 ()
    exact ⟨events, reads _ rfl⟩

end LispHost
