import LispHost.Decode

/-!
Surveys: decoding with the path in hand.

A survey is a projection that also keeps the word found at each position. It is taken by the
reference decoder, which has no set of ancestors to put words into and take them out of: every
recursive call is given the list of the pair words between the root and itself. The main statement
is that the decoder of the host shows exactly what the survey shows and leaves its set of ancestors
as it found it.
-/

set_option autoImplicit false

namespace LispHost

/-- A projection with the word found at each position. -/
inductive Survey where
  | int (raw : Word)
  | nil (raw : Word)
  | true (raw : Word)
  | duo (raw : Word) (car cdr : Survey)
  | sym (raw handle : Word) (name : String)
  | unknown (tag : Tag) (raw : Word)
  | undecodable (raw handle len : Word)
  | cycle (raw : Word)
  | elided (raw : Word)
  deriving DecidableEq, Repr

namespace Survey

def raw : Survey → Word
  | int raw | nil raw | true raw | duo raw _ _ | sym raw _ _ | unknown _ raw
  | undecodable raw _ _ | cycle raw | elided raw => raw

def shown : Survey → Projection
  | int raw => .int raw
  | nil _ => .nil
  | true _ => .true
  | duo _ car cdr => .duo car.shown cdr.shown
  | sym _ _ name => .sym name
  | unknown tag raw => .unknown tag raw
  | undecodable raw _ len => .undecodable raw len
  | cycle raw => .cycle raw
  | elided raw => .elided raw

def ofSystem (sentinels : Sentinels) (raw : Word) : Survey :=
  if raw = sentinels.nil then nil raw
  else if raw = sentinels.t then true raw
  else unknown .sys raw

def ofName (raw handle : Word) : Except Error String → Except Error Survey
  | .ok name => .ok (sym raw handle name)
  | .error (.encoding _ len) => .ok (undecodable raw handle len)
  | .error e => .error e

@[simp] theorem shown_ofSystem (sentinels : Sentinels) (raw : Word) :
    (ofSystem sentinels raw).shown = Projection.ofSystem sentinels raw := by
  unfold ofSystem Projection.ofSystem
  split
  · rfl
  · split <;> rfl

theorem map_shown_ofName (raw handle : Word) (answer : Except Error String) :
    (ofName raw handle answer).map shown = Projection.ofName raw answer := by
  cases answer with
  | ok name => rfl
  | error e => cases e <;> rfl

end Survey

/-- A computation that asks a heap and may fail; what was asked before a failure stays asked. -/
abbrev Inquiry (σ α : Type) : Type := ExceptT Error (StateM σ) α

/-- A computation goes on from the state in which the one before it ended, unless that one failed. -/
theorem Inquiry.bind_apply {σ α β : Type} (x : Inquiry σ α) (f : α → Inquiry σ β) (state : σ) :
    (x >>= f) state =
      match x state with
      | (.ok a, state) => f a state
      | (.error e, state) => (.error e, state) := by
  cases asked : x state with
  | mk answer next =>
    simp only [bind, ExceptT.bind, ExceptT.mk, StateT.bind, asked]
    cases answer <;> rfl

namespace HeapReader

variable {σ : Type}

def askTag (heap : HeapReader σ) (raw : Word) : Inquiry σ Tag :=
  heap.tagOf raw

def askSentinels (heap : HeapReader σ) : Inquiry σ Sentinels :=
  fun state => (.ok (heap.sentinels state), state)

def askParts (heap : HeapReader σ) (raw : Word) : Inquiry σ (Word × Word) :=
  fun state =>
    match heap.row .duo raw state with
    | (.ok row, state) => (row.duo, state)
    | (.error e, state) => (.error e, state)

def askHandle (heap : HeapReader σ) (raw : Word) : Inquiry σ Word :=
  fun state =>
    match heap.row .sym raw state with
    | (.ok row, state) => (row.sym, state)
    | (.error e, state) => (.error e, state)

def askName (heap : HeapReader σ) (raw handle : Word) : Inquiry σ Survey :=
  fun state =>
    let (answer, state) := heap.string handle state
    (Survey.ofName raw handle answer, state)

/-- Survey a word that may open `levels` more levels, below the pairs of `path`. -/
def surveyAt (heap : HeapReader σ) (detectCycles : Bool) :
    Nat → List Word → Word → Inquiry σ Survey
  | 0, _, raw => return .elided raw
  | levels + 1, path, raw => do
    match ← heap.askTag raw with
    | .int => return .int raw
    | .sys => return .ofSystem (← heap.askSentinels) raw
    | .duo =>
      if detectCycles = true ∧ raw ∈ path then return .cycle raw
      else
        let (car, cdr) ← heap.askParts raw
        return .duo raw (← surveyAt heap detectCycles levels (raw :: path) car)
          (← surveyAt heap detectCycles levels (raw :: path) cdr)
    | .sym => heap.askName raw (← heap.askHandle raw)
    | .unknown code => return .unknown (.unknown code) raw

def survey (heap : HeapReader σ) (options : DecodeOptions) (raw : Word) : Inquiry σ Survey :=
  heap.surveyAt options.detectCycles (options.clamped.maxDepth + 1) [] raw

/-- The set of ancestors that the decoder holds below the pairs of a path. -/
def ancestorsOf (detectCycles : Bool) (path : List Word) : List Word :=
  if detectCycles then path else []

theorem contains_ancestorsOf {detectCycles : Bool} {path : List Word} {raw : Word} :
    (detectCycles && (ancestorsOf detectCycles path).contains raw) = true ↔
      detectCycles = true ∧ raw ∈ path := by
  cases detectCycles <;> simp [ancestorsOf]

theorem ancestorsOf_cons (detectCycles : Bool) (path : List Word) (raw : Word) :
    (if detectCycles then raw :: ancestorsOf detectCycles path
      else ancestorsOf detectCycles path) = ancestorsOf detectCycles (raw :: path) := by
  cases detectCycles <;> rfl

theorem erase_ancestorsOf_cons (detectCycles : Bool) (path : List Word) (raw : Word) :
    (ancestorsOf detectCycles (raw :: path)).erase raw = ancestorsOf detectCycles path := by
  cases detectCycles
  · rfl
  · exact List.erase_cons_head ..

/-- The decoder on a symbol: its row, then its string. -/
theorem decodeAt_sym {heap : HeapReader σ} {detectCycles : Bool} {levels : Nat} {raw : Word}
    {state next : σ} (tagged : heap.tagOf raw state = (.ok .sym, next)) (ancestors : List Word) :
    Projection.decodeAt heap detectCycles (levels + 1) raw ancestors state =
      match heap.askHandle raw next with
      | (.error e, state) => (.error e, state)
      | (.ok handle, state) =>
        ((Projection.ofName raw (heap.string handle state).1).map fun leaf => (leaf, ancestors),
          (heap.string handle state).2) := by
  rw [Projection.decodeAt, tagged]
  simp only [askHandle]
  cases read : heap.row .sym raw next with
  | mk answer after =>
    cases answer with
    | error e => rfl
    | ok row => cases named : row.sym <;> simp only [named]

theorem decodeAt_repeated {heap : HeapReader σ} {detectCycles : Bool} {levels : Nat} {raw : Word}
    {state next : σ} (tagged : heap.tagOf raw state = (.ok .duo, next)) {ancestors : List Word}
    (repeated : (detectCycles && ancestors.contains raw) = true) :
    Projection.decodeAt heap detectCycles (levels + 1) raw ancestors state =
      (.ok (.cycle raw, ancestors), next) := by
  rw [Projection.decodeAt, tagged]
  simp only [repeated, if_true]

/-- The decoder on any other pair: its row, then its parts. -/
theorem decodeAt_duo {heap : HeapReader σ} {detectCycles : Bool} {levels : Nat} {raw : Word}
    {state next : σ} (tagged : heap.tagOf raw state = (.ok .duo, next)) {ancestors : List Word}
    (fresh : ¬ (detectCycles && ancestors.contains raw) = true) :
    Projection.decodeAt heap detectCycles (levels + 1) raw ancestors state =
      match heap.askParts raw next with
      | (.error e, state) => (.error e, state)
      | (.ok (car, cdr), state) =>
        match Projection.decodeAt heap detectCycles levels car
            (if detectCycles then raw :: ancestors else ancestors) state with
        | (.error e, state) => (.error e, state)
        | (.ok (car, within), state) =>
          match Projection.decodeAt heap detectCycles levels cdr within state with
          | (.error e, state) => (.error e, state)
          | (.ok (cdr, within), state) => (.ok (.duo car cdr, within.erase raw), state) := by
  rw [Projection.decodeAt, tagged]
  simp only [fresh, askParts]
  cases read : heap.row .duo raw next with
  | mk answer after =>
    cases answer with
    | error e => rfl
    | ok row => cases parts : row.duo <;> simp only [parts] <;> rfl

/-- Below the pairs of a path the decoder shows what the survey shows, and it leaves its set of
ancestors as it found it. -/
theorem decodeAt_eq_surveyAt (heap : HeapReader σ) (detectCycles : Bool) (levels : Nat)
    (path : List Word) (raw : Word) (state : σ) :
    Projection.decodeAt heap detectCycles levels raw (ancestorsOf detectCycles path) state =
      ((heap.surveyAt detectCycles levels path raw state).1.map
          fun found => (found.shown, ancestorsOf detectCycles path),
        (heap.surveyAt detectCycles levels path raw state).2) := by
  induction levels generalizing path raw state with
  | zero => rfl
  | succ levels ih =>
    cases asked : heap.tagOf raw state with
    | mk answer next =>
    have tagged : heap.askTag raw state = (answer, next) := asked
    simp only [surveyAt, Inquiry.bind_apply, tagged]
    cases answer with
    | error e => rw [Projection.decodeAt, asked]; rfl
    | ok tag =>
      cases tag with
      | int => rw [Projection.decodeAt, asked]; rfl
      | unknown code => rw [Projection.decodeAt, asked]; rfl
      | sys =>
        rw [Projection.decodeAt, asked]
        change _ = (Except.ok ((Survey.ofSystem (heap.sentinels next) raw).shown, _), next)
        rw [Survey.shown_ofSystem]
      | sym =>
        rw [decodeAt_sym asked]
        simp only [Inquiry.bind_apply]
        cases named : heap.askHandle raw next with
        | mk answer next =>
        cases answer with
        | error e => rfl
        | ok handle =>
          simp only [askName, ← Survey.map_shown_ofName raw handle]
          cases Survey.ofName raw handle (heap.string handle next).1 <;> rfl
      | duo =>
        by_cases repeated : detectCycles = true ∧ raw ∈ path
        · rw [decodeAt_repeated asked (contains_ancestorsOf.mpr repeated)]
          simp only [if_pos repeated]
          rfl
        · rw [decodeAt_duo asked (mt contains_ancestorsOf.mp repeated)]
          simp only [if_neg repeated, Inquiry.bind_apply, ancestorsOf_cons]
          cases read : heap.askParts raw next with
          | mk answer next =>
          cases answer with
          | error e => rfl
          | ok parts =>
            simp only [ih]
            cases first : heap.surveyAt detectCycles levels (raw :: path) parts.1 next with
            | mk answer next =>
            cases answer with
            | error e => rfl
            | ok car =>
              simp only [Except.map, ih]
              cases second : heap.surveyAt detectCycles levels (raw :: path) parts.2 next with
              | mk answer next =>
              cases answer with
              | error e => rfl
              | ok cdr =>
                simp only [erase_ancestorsOf_cons]
                rfl

theorem decode_eq_survey (heap : HeapReader σ) (options : DecodeOptions) (raw : Word) (state : σ) :
    Projection.decode heap options raw state =
      ((heap.survey options raw state).1.map Survey.shown, (heap.survey options raw state).2) := by
  have root : ancestorsOf options.detectCycles [] = [] := ite_self _
  have whole := heap.decodeAt_eq_surveyAt options.detectCycles (options.clamped.maxDepth + 1) []
    raw state
  rw [root] at whole
  simp only [Projection.decode, whole, survey]
  cases (heap.surveyAt options.detectCycles (options.clamped.maxDepth + 1) [] raw state).1 <;> rfl

end HeapReader

end LispHost
