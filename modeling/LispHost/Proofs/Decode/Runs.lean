import LispHost.Proofs.Decode.Survey

/-!
Whole decodes from single questions.

A decode asks its heap at most three questions at each position. What is kept by the questions of one
position is kept by a decode, however deep, and where a question fails the decode fails there. And a
heap that answers as another one does, while it keeps more in its states, decodes to the same result.
-/

set_option autoImplicit false

namespace LispHost

variable {σ τ : Type}

/-- An answer that leaves a state in `Kept`, or an error and a state related by `Failed`. -/
def Inquiry.Ends {α : Type} (Kept : σ → Prop) (Failed : Error → σ → Prop) :
    Except Error α × σ → Prop
  | (.ok _, state) => Kept state
  | (.error e, state) => Failed e state

theorem Inquiry.Ends.bind {α β : Type} {Kept : σ → Prop} {Failed : Error → σ → Prop}
    {x : Inquiry σ α} {f : α → Inquiry σ β} {state : σ} (first : Inquiry.Ends Kept Failed (x state))
    (second : ∀ a next, Kept next → Inquiry.Ends Kept Failed (f a next)) :
    Inquiry.Ends Kept Failed ((x >>= f) state) := by
  rw [Inquiry.bind_apply]
  cases taken : x state with
  | mk answer next =>
  rw [taken] at first
  cases answer with
  | error e => exact first
  | ok a => exact second a next first

namespace Row

private theorem error_of_expect {row : Row} {tag : Tag} {e : Error}
    (failed : row.expect tag = .error e) : ∃ expected actual, e = .typeMismatch expected actual := by
  rw [expect] at failed
  split at failed
  · cases failed
  · cases failed
    exact ⟨_, _, rfl⟩

private theorem error_of_cell {row : Row} {index : Nat} {e : Error}
    (failed : row.cell index = .error e) : ∃ expected actual, e = .typeMismatch expected actual := by
  rw [cell] at failed
  split at failed
  · cases failed
  · cases failed
    exact ⟨_, _, rfl⟩

theorem error_of_sym {row : Row} {e : Error} (failed : row.sym = .error e) :
    ∃ expected actual, e = .typeMismatch expected actual := by
  rw [sym] at failed
  cases checked : row.expect .sym with
  | error first =>
    rw [checked] at failed
    cases failed
    exact error_of_expect checked
  | ok _ =>
    rw [checked] at failed
    exact error_of_cell failed

theorem error_of_duo {row : Row} {e : Error} (failed : row.duo = .error e) :
    ∃ expected actual, e = .typeMismatch expected actual := by
  rw [duo] at failed
  cases checked : row.expect .duo with
  | error first =>
    rw [checked] at failed
    cases failed
    exact error_of_expect checked
  | ok _ =>
    rw [checked] at failed
    cases first : row.cell 0 with
    | error e' =>
      rw [first] at failed
      cases failed
      exact error_of_cell first
    | ok car =>
      rw [first] at failed
      cases second : row.cell 1 with
      | error e' =>
        rw [second] at failed
        cases failed
        exact error_of_cell second
      | ok cdr =>
        rw [second] at failed
        cases failed

end Row

namespace HeapReader

def askSymbol (heap : HeapReader σ) (raw : Word) : Inquiry σ Survey :=
  heap.askHandle raw >>= heap.askName raw

/-- The questions of one position keep `Kept` and fail only as `Failed` says. A word is classified
first, and in between its classification and its other questions nothing need be kept. -/
structure Invariant (heap : HeapReader σ) (detectCycles : Bool) (Kept : σ → Prop)
    (Failed : Error → σ → Prop) : Prop where
  unclassified {raw : Word} {state next : σ} {e : Error} :
    Kept state → heap.tagOf raw state = (.error e, next) → Failed e next
  unexpanded {raw : Word} {state next : σ} {tag : Tag} :
    Kept state → heap.tagOf raw state = (.ok tag, next) →
    tag ≠ .sym → (tag = .duo → detectCycles = true) → Kept next
  pair {raw : Word} {state next : σ} :
    Kept state → heap.tagOf raw state = (.ok .duo, next) →
    Inquiry.Ends Kept Failed (heap.askParts raw next)
  symbol {raw : Word} {state next : σ} :
    Kept state → heap.tagOf raw state = (.ok .sym, next) →
    Inquiry.Ends Kept Failed (heap.askSymbol raw next)

namespace Invariant

variable {heap : HeapReader σ} {detectCycles : Bool} {Kept : σ → Prop} {Failed : Error → σ → Prop}

private theorem ends_of_row {α : Type} {answer : Except Error α} {state : σ}
    (malformed : ∀ expected actual state, Kept state → Failed (.typeMismatch expected actual) state)
    (misfit : ∀ e, answer = .error e → ∃ expected actual, e = .typeMismatch expected actual)
    (kept : Kept state) : Inquiry.Ends Kept Failed (answer, state) := by
  cases answer with
  | ok a => exact kept
  | error e =>
    obtain ⟨expected, actual, rfl⟩ := misfit e rfl
    exact malformed expected actual state kept

/-- What each accessor keeps is kept at each position, provided that a row of the wrong shape may fail
and that a string that is no text leaves the state in order. -/
theorem of_accessors
    (tagOf : ∀ raw state, Kept state → Inquiry.Ends Kept Failed (heap.tagOf raw state))
    (row : ∀ tag raw state, Kept state → Inquiry.Ends Kept Failed (heap.row tag raw state))
    (string : ∀ handle state, Kept state → Inquiry.Ends Kept Failed (heap.string handle state))
    (malformed : ∀ expected actual state, Kept state → Failed (.typeMismatch expected actual) state)
    (unreadable : ∀ handle len state, Failed (.encoding handle len) state → Kept state) :
    heap.Invariant detectCycles Kept Failed where
  unclassified := by
    intro raw state next e kept asked
    have ends := tagOf raw state kept
    rwa [asked] at ends
  unexpanded := by
    intro raw state next tag kept asked _ _
    have ends := tagOf raw state kept
    rwa [asked] at ends
  pair := by
    intro raw state next kept asked
    have classified := tagOf raw state kept
    rw [asked] at classified
    have ends := row .duo raw next classified
    rw [askParts]
    cases read : heap.row .duo raw next with
    | mk answer after =>
    rw [read] at ends
    cases answer with
    | error e => exact ends
    | ok cells =>
      exact ends_of_row malformed (fun e => Row.error_of_duo) ends
  symbol := by
    intro raw state next kept asked
    have classified := tagOf raw state kept
    rw [asked] at classified
    refine Inquiry.Ends.bind ?_ fun handle after kept => ?_
    · have ends := row .sym raw next classified
      rw [askHandle]
      cases read : heap.row .sym raw next with
      | mk answer after =>
      rw [read] at ends
      cases answer with
      | error e => exact ends
      | ok cells => exact ends_of_row malformed (fun e => Row.error_of_sym) ends
    · have ends := string handle after kept
      rw [askName]
      cases read : heap.string handle after with
      | mk answer last =>
      rw [read] at ends
      cases answer with
      | ok name => exact ends
      | error e =>
        cases e with
        | encoding handle len => exact unreadable handle len last ends
        | memoryFault | unbound | alreadyBound | guestExit | missingRow | compilation
        | instantiation | execution | exportNotFound | typeMismatch | config | file | internal =>
          exact ends

theorem surveyAt (invariant : heap.Invariant detectCycles Kept Failed) (levels : Nat)
    (path : List Word) (raw : Word) {state : σ} (kept : Kept state) :
    Inquiry.Ends Kept Failed (heap.surveyAt detectCycles levels path raw state) := by
  induction levels generalizing path raw state with
  | zero => exact kept
  | succ levels ih =>
    cases asked : heap.tagOf raw state with
    | mk answer next =>
    have tagged : heap.askTag raw state = (answer, next) := asked
    simp only [HeapReader.surveyAt, Inquiry.bind_apply, tagged]
    cases answer with
    | error e => exact invariant.unclassified kept asked
    | ok tag =>
      cases tag with
      | int | sys | unknown code =>
        exact invariant.unexpanded kept asked (by simp) (by simp)
      | sym => exact invariant.symbol kept asked
      | duo =>
        by_cases repeated : detectCycles = true ∧ raw ∈ path
        · simp only [if_pos repeated]
          exact invariant.unexpanded kept asked (by simp) fun _ => repeated.1
        · simp only [if_neg repeated]
          refine Inquiry.Ends.bind (invariant.pair kept asked) fun parts _ kept => ?_
          refine Inquiry.Ends.bind (ih (raw :: path) parts.1 kept) fun car _ kept => ?_
          exact Inquiry.Ends.bind (ih (raw :: path) parts.2 kept) fun cdr _ kept => kept

theorem decode {options : DecodeOptions}
    (invariant : heap.Invariant options.detectCycles Kept Failed) (raw : Word) {state : σ}
    (kept : Kept state) : Inquiry.Ends Kept Failed (Projection.decode heap options raw state) := by
  have ends := invariant.surveyAt (options.clamped.maxDepth + 1) [] raw kept
  rw [heap.decode_eq_survey, survey]
  cases taken : heap.surveyAt options.detectCycles (options.clamped.maxDepth + 1) [] raw state with
  | mk answer next =>
  rw [taken] at ends
  cases answer <;> exact ends

end Invariant

end HeapReader

/-- The second computation is the first one, seen through a map of its states. -/
def Inquiry.Mirrors {α : Type} (view : τ → σ) (fine : Inquiry τ α) (coarse : Inquiry σ α) : Prop :=
  ∀ state, coarse (view state) = ((fine state).1, view (fine state).2)

theorem Inquiry.Mirrors.bind {α β : Type} {view : τ → σ} {fine : Inquiry τ α}
    {coarse : Inquiry σ α} {f : α → Inquiry τ β} {g : α → Inquiry σ β}
    (first : Inquiry.Mirrors view fine coarse)
    (second : ∀ a, Inquiry.Mirrors view (f a) (g a)) :
    Inquiry.Mirrors view (fine >>= f) (coarse >>= g) := by
  intro state
  rw [Inquiry.bind_apply, Inquiry.bind_apply, first state]
  cases taken : fine state with
  | mk answer next =>
  cases answer with
  | error e => rfl
  | ok a => exact second a next

namespace HeapReader

/-- The second heap is the first one, seen through a map of its states. -/
structure Mirrors (view : τ → σ) (fine : HeapReader τ) (coarse : HeapReader σ) : Prop where
  tagOf (value : Word) (state : τ) :
    coarse.tagOf value (view state) = ((fine.tagOf value state).1, view (fine.tagOf value state).2)
  row (tag : Tag) (value : Word) (state : τ) :
    coarse.row tag value (view state) =
      ((fine.row tag value state).1, view (fine.row tag value state).2)
  string (handle : Word) (state : τ) :
    coarse.string handle (view state) =
      ((fine.string handle state).1, view (fine.string handle state).2)
  sentinels (state : τ) : coarse.sentinels (view state) = fine.sentinels state

namespace Mirrors

variable {view : τ → σ} {fine : HeapReader τ} {coarse : HeapReader σ}

private theorem askParts (mirrors : Mirrors view fine coarse) (raw : Word) :
    Inquiry.Mirrors view (fine.askParts raw) (coarse.askParts raw) := by
  intro state
  rw [HeapReader.askParts, HeapReader.askParts, mirrors.row]
  cases read : fine.row .duo raw state with
  | mk answer next => cases answer <;> rfl

private theorem askHandle (mirrors : Mirrors view fine coarse) (raw : Word) :
    Inquiry.Mirrors view (fine.askHandle raw) (coarse.askHandle raw) := by
  intro state
  rw [HeapReader.askHandle, HeapReader.askHandle, mirrors.row]
  cases read : fine.row .sym raw state with
  | mk answer next => cases answer <;> rfl

private theorem askName (mirrors : Mirrors view fine coarse) (raw handle : Word) :
    Inquiry.Mirrors view (fine.askName raw handle) (coarse.askName raw handle) := by
  intro state
  simp only [HeapReader.askName, mirrors.string]

theorem surveyAt (mirrors : Mirrors view fine coarse) (detectCycles : Bool) (levels : Nat)
    (path : List Word) (raw : Word) :
    Inquiry.Mirrors view (fine.surveyAt detectCycles levels path raw)
      (coarse.surveyAt detectCycles levels path raw) := by
  induction levels generalizing path raw with
  | zero => exact fun _ => rfl
  | succ levels ih =>
    refine Inquiry.Mirrors.bind (mirrors.tagOf raw) fun tag => ?_
    cases tag with
    | int | unknown code => exact fun _ => rfl
    | sys =>
      refine Inquiry.Mirrors.bind (fun state => ?_) fun _ _ => rfl
      exact Prod.ext (congrArg Except.ok (mirrors.sentinels state)) rfl
    | sym => exact Inquiry.Mirrors.bind (mirrors.askHandle raw) (mirrors.askName raw)
    | duo =>
      by_cases repeated : detectCycles = true ∧ raw ∈ path
      · simp only [if_pos repeated]
        exact fun _ => rfl
      · simp only [if_neg repeated]
        refine Inquiry.Mirrors.bind (mirrors.askParts raw) fun parts => ?_
        refine Inquiry.Mirrors.bind (ih (raw :: path) parts.1) fun car => ?_
        exact Inquiry.Mirrors.bind (ih (raw :: path) parts.2) fun cdr _ => rfl

theorem decode (mirrors : Mirrors view fine coarse) (options : DecodeOptions) (raw : Word)
    (state : τ) :
    Projection.decode coarse options raw (view state) =
      ((Projection.decode fine options raw state).1,
        view (Projection.decode fine options raw state).2) := by
  rw [coarse.decode_eq_survey, fine.decode_eq_survey, survey, survey,
    mirrors.surveyAt options.detectCycles (options.clamped.maxDepth + 1) [] raw state]

end Mirrors

end HeapReader

end LispHost
