import LispHost.Proofs.Decode.Runs

/-!
Two decodes side by side.

The second of two heaps follows the first if it gives the same answers wherever the first is asked in a
decode of the first; where it cannot, it may fail with errors of a given kind. Then whatever the first
decodes, the second decodes to the same, or it fails with such an error.
-/

set_option autoImplicit false

namespace LispHost

variable {σ τ α β : Type} {Related : σ → τ → Prop} {Failed : Error → τ → Prop}

/-- Where the first computation answers, the second gives the same answer and leaves a related state, or
it fails in a way that is allowed. -/
def Inquiry.Follows (Related : σ → τ → Prop) (Failed : Error → τ → Prop) (first : Except Error α × σ)
    (second : Except Error α × τ) : Prop :=
  ∀ a, first.1 = .ok a →
    second.1 = .ok a ∧ Related first.2 second.2 ∨ ∃ e, second.1 = .error e ∧ Failed e second.2

namespace Inquiry.Follows

theorem of_ok {a : α} {s : σ} {t : τ} (related : Related s t) :
    Follows Related Failed (.ok a, s) (.ok a, t) := by
  rintro b ⟨⟩
  exact .inl ⟨rfl, related⟩

theorem of_error {e : Error} {s : σ} {second : Except Error α × τ} :
    Follows Related Failed (.error e, s) second := by
  rintro a ⟨⟩

theorem of_outcomes {first : Except Error α × σ} {second : Except Error α × τ}
    (outcomes : ∀ a s, first = (.ok a, s) →
      (∃ t, second = (.ok a, t) ∧ Related s t) ∨ ∃ e t, second = (.error e, t) ∧ Failed e t) :
    Follows Related Failed first second := by
  intro a answered
  rcases outcomes a first.2 (Prod.ext answered rfl) with ⟨t, rfl, related⟩ | ⟨e, t, rfl, allowed⟩
  · exact .inl ⟨rfl, related⟩
  · exact .inr ⟨e, rfl, allowed⟩

theorem bind {x : Inquiry σ α} {y : Inquiry τ α} {f : α → Inquiry σ β} {g : α → Inquiry τ β}
    {s : σ} {t : τ} (first : Follows Related Failed (x s) (y t))
    (second : ∀ a s' t', x s = (.ok a, s') → y t = (.ok a, t') → Related s' t' →
      Follows Related Failed (f a s') (g a t')) :
    Follows Related Failed ((x >>= f) s) ((y >>= g) t) := by
  rw [bind_apply, bind_apply]
  cases asked : x s with
  | mk answer s' =>
  cases answer with
  | error e => exact of_error
  | ok a =>
    rw [asked] at first
    rcases first a rfl with ⟨same, related⟩ | ⟨e, failed, allowed⟩
    · cases followed : y t with
      | mk answer' t' =>
      rw [followed] at same related
      obtain rfl : answer' = .ok a := same
      exact second a s' t' asked followed related
    · cases followed : y t with
      | mk answer' t' =>
      rw [followed] at failed allowed
      obtain rfl : answer' = .error e := failed
      intro b _
      exact .inr ⟨e, rfl, allowed⟩

end Inquiry.Follows

namespace HeapReader

open Inquiry (Follows)

/-- The second heap follows the first on the words of a decode. `Asked levels raw` says that a word may
be met with so many levels left to open. -/
structure Following (first : HeapReader σ) (second : HeapReader τ) (Asked : Nat → Word → Prop)
    (Related : σ → τ → Prop) (Failed : Error → τ → Prop) : Prop where
  sentinels {s : σ} {t : τ} : Related s t → first.sentinels s = second.sentinels t
  tagOf {levels : Nat} {raw : Word} {s : σ} {t : τ} : Asked (levels + 1) raw → Related s t →
    Follows Related Failed (first.tagOf raw s) (second.tagOf raw t)
  row {levels : Nat} {raw : Word} {tag : Tag} {s s' : σ} {t t' : τ} : Asked (levels + 1) raw →
    Related s t → first.tagOf raw s = (.ok tag, s') → second.tagOf raw t = (.ok tag, t') →
    Related s' t' → Follows Related Failed (first.row tag raw s') (second.row tag raw t')
  /-- The parts of a pair are met with one level less. -/
  parts {levels : Nat} {raw car cdr : Word} {s s' s'' : σ} {t : τ} {row : Row} :
    Asked (levels + 1) raw → Related s t → first.tagOf raw s = (.ok .duo, s') →
    first.row .duo raw s' = (.ok row, s'') → row.duo = .ok (car, cdr) →
    Asked levels car ∧ Asked levels cdr
  name {levels : Nat} {raw handle : Word} {s s' s'' : σ} {t t' t'' : τ} {row : Row} :
    Asked (levels + 1) raw → Related s t → first.tagOf raw s = (.ok .sym, s') →
    second.tagOf raw t = (.ok .sym, t') → first.row .sym raw s' = (.ok row, s'') →
    second.row .sym raw t' = (.ok row, t'') → row.sym = .ok handle → Related s'' t'' →
    Follows Related Failed (first.askName raw handle s'') (second.askName raw handle t'')

namespace Following

variable {first : HeapReader σ} {second : HeapReader τ} {Asked : Nat → Word → Prop}

private def onRow {ρ : Type} (read : Row → Except Error α) :
    Except Error Row × ρ → Except Error α × ρ
  | (.ok row, state) => (read row, state)
  | (.error e, state) => (.error e, state)

private theorem follows_onRow (read : Row → Except Error α) {x : Except Error Row × σ}
    {y : Except Error Row × τ} (rows : Follows Related Failed x y) :
    Follows Related Failed (onRow read x) (onRow read y) := by
  obtain ⟨answer, s⟩ := x
  obtain ⟨answer', t⟩ := y
  cases answer with
  | error e => exact .of_error
  | ok row =>
    intro a answered
    rcases rows row rfl with ⟨same, related⟩ | ⟨e, failed, allowed⟩
    · obtain rfl : answer' = .ok row := same
      exact .inl ⟨answered, related⟩
    · obtain rfl : answer' = .error e := failed
      exact .inr ⟨e, rfl, allowed⟩

private theorem exists_of_onRow {ρ : Type} {read : Row → Except Error α} {x : Except Error Row × ρ}
    {a : α} {s : ρ} (asked : onRow read x = (.ok a, s)) :
    ∃ row, x = (.ok row, s) ∧ read row = .ok a := by
  obtain ⟨answer, state⟩ := x
  cases answer with
  | error e => cases asked
  | ok row =>
    obtain rfl : state = s := congrArg Prod.snd asked
    exact ⟨row, rfl, congrArg Prod.fst asked⟩

theorem surveyAt (following : Following first second Asked Related Failed) (detectCycles : Bool)
    {levels : Nat} {raw : Word} (asked : Asked levels raw) (path : List Word) {s : σ} {t : τ}
    (related : Related s t) :
    Follows Related Failed (first.surveyAt detectCycles levels path raw s)
      (second.surveyAt detectCycles levels path raw t) := by
  induction levels generalizing raw path s t with
  | zero => exact .of_ok related
  | succ levels ih =>
    -- The path is that of the first heap and of the second: both have met the same words.
    refine Follows.bind (following.tagOf asked related) fun tag s' t' tagged tagged' related' => ?_
    cases tag with
    | int | unknown code => exact .of_ok related'
    | sys =>
      change Follows Related Failed
        (.ok (Survey.ofSystem (first.sentinels s') raw), s')
        (.ok (Survey.ofSystem (second.sentinels t') raw), t')
      rw [following.sentinels related']
      exact .of_ok related'
    | sym =>
      have rows := following.row asked related tagged tagged' related'
      refine Follows.bind (follows_onRow Row.sym rows) fun handle _ _ handled handled' kept => ?_
      obtain ⟨row, read, cell⟩ := exists_of_onRow handled
      obtain ⟨row', read', -⟩ := exists_of_onRow handled'
      obtain rfl : row' = row := by
        rcases rows row (congrArg Prod.fst read) with ⟨same, -⟩ | ⟨e, failed, -⟩
        · exact Except.ok.inj ((congrArg Prod.fst read').symm.trans same)
        · cases (congrArg Prod.fst read').symm.trans failed
      exact following.name asked related tagged tagged' read read' cell kept
    | duo =>
      by_cases repeated : detectCycles = true ∧ raw ∈ path
      · simp only [if_pos repeated]
        exact .of_ok related'
      · simp only [if_neg repeated]
        have rows := following.row asked related tagged tagged' related'
        refine Follows.bind (follows_onRow Row.duo rows) fun parts _ _ expanded _ kept => ?_
        obtain ⟨row, read, cells⟩ := exists_of_onRow expanded
        obtain ⟨car_asked, cdr_asked⟩ := following.parts asked related tagged read cells
        refine Follows.bind (ih car_asked (raw :: path) kept) fun car _ _ _ _ kept => ?_
        refine Follows.bind (ih cdr_asked (raw :: path) kept) fun cdr _ _ _ _ kept => ?_
        exact .of_ok kept

theorem decode (following : Following first second Asked Related Failed) {options : DecodeOptions}
    {raw : Word} (asked : Asked (options.clamped.maxDepth + 1) raw) {s : σ} {t : τ}
    (related : Related s t) :
    Follows Related Failed (Projection.decode first options raw s)
      (Projection.decode second options raw t) := by
  have surveys := following.surveyAt options.detectCycles asked [] related
  rw [first.decode_eq_survey, second.decode_eq_survey, survey, survey]
  intro shown ok
  cases taken : first.surveyAt options.detectCycles (options.clamped.maxDepth + 1) [] raw s with
  | mk answer s' =>
  rw [taken] at surveys ok
  cases answer with
  | error e => cases ok
  | ok found =>
    cases ok
    rcases surveys found rfl with ⟨same, related'⟩ | ⟨e, failed, allowed⟩
    · rw [same]
      exact .inl ⟨rfl, related'⟩
    · rw [failed]
      exact .inr ⟨e, rfl, allowed⟩

end Following

end HeapReader

end LispHost
