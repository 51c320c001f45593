import LispHost.Config.Substitution
import Mathlib.Data.List.TakeWhile

/-!
Texts as the substitution of references reads them.

A reference is read only where it stands at the front of what is left, so every text falls in one way only into
references and other characters. The substitution writes the value of each reference that is set and all other
pieces as they stood, and looks at no value again. No reference has a dollar sign after its own, so one that
begins at a dollar sign is read there whatever stands before it, and the texts around it are replaced apart.
-/

set_option autoImplicit false

namespace LispHost.Config

namespace Substitution

/-! ### The grammar of references -/

/-- A letter of English, or the underscore. -/
def IsHead (c : Char) : Prop :=
  ('A' ≤ c ∧ c ≤ 'Z') ∨ ('a' ≤ c ∧ c ≤ 'z') ∨ c = '_'

def IsTail (c : Char) : Prop :=
  IsHead c ∨ ('0' ≤ c ∧ c ≤ '9')

/-- The names of variables that a text can refer to. -/
def IsName : List Char → Prop
  | [] => False
  | c :: rest => IsHead c ∧ ∀ d ∈ rest, IsTail d

instance (c : Char) : Decidable (IsHead c) :=
  inferInstanceAs (Decidable (_ ∨ _ ∨ _))

instance (c : Char) : Decidable (IsTail c) :=
  inferInstanceAs (Decidable (_ ∨ _))

instance : DecidablePred IsName
  | [] => .isFalse id
  | c :: rest =>
    have _tails : Decidable (∀ d ∈ rest, IsTail d) := List.decidableBAll IsTail rest
    inferInstanceAs (Decidable (IsHead c ∧ ∀ d ∈ rest, IsTail d))

structure Reference where
  name : List Char
  braced : Bool

def Reference.written (r : Reference) : List Char :=
  if r.braced then '$' :: '\x7b' :: r.name ++ ['\x7d'] else '$' :: r.name

/-- A text starts with a reference, and what is after it allows it to end there: any text after a brace, but no
word character after a bare name, which is therefore as long as it can be. -/
structure StartsWith (s : List Char) (r : Reference) (after : List Char) : Prop where
  split : s = r.written ++ after
  name : IsName r.name
  ended : r.braced = false → ∀ c ∈ after.head?, Text.isWordChar c = false

inductive Piece where
  | reference (r : Reference)
  | plain (c : Char)

/-- The pieces of a text, read from the left. A character is plain when no reference starts with it. -/
inductive Reads : List Char → List Piece → Prop where
  | nil : Reads [] []
  | reference {s r after pieces} :
      StartsWith s r after → Reads after pieces → Reads s (.reference r :: pieces)
  | plain {c s pieces} :
      (∀ r after, ¬ StartsWith (c :: s) r after) → Reads s pieces → Reads (c :: s) (.plain c :: pieces)

namespace Piece

def written : Piece → List Char
  | reference r => r.written
  | plain c => [c]

def shown (value? : String → Option String) : Piece → List Char
  | reference r => ((value? (String.ofList r.name)).map String.toList).getD r.written
  | plain c => [c]

end Piece

variable {value? : String → Option String} {s name after : List Char} {c : Char} {r : Reference}

/-! ### Names -/

theorem startsName_eq_true_iff : startsName c = true ↔ IsHead c := by
  have upper : c.isUpper = true ↔ 'A' ≤ c ∧ c ≤ 'Z' := decide_eq_true_iff
  have lower : c.isLower = true ↔ 'a' ≤ c ∧ c ≤ 'z' :=
    Bool.and_eq_true_iff.trans (and_congr decide_eq_true_iff decide_eq_true_iff)
  have letter : c.isAlpha = true ↔ c.isUpper = true ∨ c.isLower = true := Bool.or_eq_true_iff
  rw [startsName, IsHead, Bool.or_eq_true, letter, upper, lower, decide_eq_true_eq, or_assoc]

theorem continuesName_eq_true_iff : continuesName c = true ↔ IsTail c := by
  have alphanum : continuesName c = (startsName c || c.isDigit) := by
    rw [continuesName, startsName, Char.isAlphanum, Bool.or_assoc, Bool.or_assoc, Bool.or_comm c.isDigit]
  rw [alphanum, Bool.or_eq_true, startsName_eq_true_iff, IsTail, Char.isDigit, Bool.and_eq_true,
    decide_eq_true_eq, decide_eq_true_eq]
  rfl

theorem IsTail.isWordChar (tail : IsTail c) : Text.isWordChar c = true := by
  have continues : continuesName c = true := continuesName_eq_true_iff.mpr tail
  rw [Text.isWordChar, ← continuesName, continues, Bool.true_or]

theorem IsName.isTail (isName : IsName name) : ∀ c ∈ name, IsTail c := by
  intro c member
  cases name with
  | nil => exact absurd member List.not_mem_nil
  | cons d rest =>
    obtain rfl | member := List.mem_cons.mp member
    · exact .inl isName.1
    · exact isName.2 c member

theorem IsName.exists_cons (isName : IsName name) :
    ∃ c rest, name = c :: rest ∧ IsHead c ∧ ∀ d ∈ rest, IsTail d := by
  cases name with
  | nil => exact isName.elim
  | cons c rest => exact ⟨c, rest, rfl, isName⟩

private theorem takeWhile_append_of_not {p : Char → Bool} (all : ∀ c ∈ name, p c = true)
    (stops : ∀ c ∈ after.head?, p c = false) :
    (name ++ after).takeWhile p = name ∧ (name ++ after).dropWhile p = after := by
  rw [List.takeWhile_append_of_pos all, List.dropWhile_append_of_pos all]
  cases after with
  | nil => exact ⟨List.append_nil name, rfl⟩
  | cons c rest =>
    have stop := stops c rfl
    rw [List.takeWhile_cons_of_neg (by simp [stop]), List.dropWhile_cons_of_neg (by simp [stop])]
    exact ⟨List.append_nil name, rfl⟩

theorem name?_eq_some_iff : name? s = some (name, after) ↔
    s = name ++ after ∧ IsName name ∧ ∀ c ∈ after.head?, ¬ IsTail c := by
  constructor
  · intro found
    cases s with
    | nil => exact absurd found (by simp [name?])
    | cons c rest =>
      rw [name?, Option.ite_none_right_eq_some, Option.some.injEq, Prod.mk.injEq] at found
      obtain ⟨head, rfl, rfl⟩ := found
      refine ⟨?_, ⟨startsName_eq_true_iff.mp head, ?_⟩, ?_⟩
      · rw [List.cons_append, List.takeWhile_append_dropWhile]
      · intro d member
        exact continuesName_eq_true_iff.mp (List.mem_takeWhile_imp member)
      · intro d first tail
        have stop := List.head?_dropWhile_not continuesName rest
        rw [Option.mem_def.mp first] at stop
        exact absurd (continuesName_eq_true_iff.mpr tail) (Bool.eq_false_iff.mp stop)
  · rintro ⟨rfl, isName, stops⟩
    obtain ⟨c, rest, rfl, head, tails⟩ := isName.exists_cons
    have cut := takeWhile_append_of_not (p := continuesName)
      (fun d member => continuesName_eq_true_iff.mpr (tails d member))
      (fun d first => Bool.eq_false_iff.mpr fun continues =>
        stops d first (continuesName_eq_true_iff.mp continues))
    rw [List.cons_append, name?, if_pos (startsName_eq_true_iff.mpr head), cut.1, cut.2]

/-! ### References -/

theorem braced?_eq_some_iff :
    braced? s = some (name, after) ↔ s = name ++ '\x7d' :: after ∧ IsName name := by
  constructor
  · intro found
    unfold braced? at found
    split at found
    · rename_i read rest front
      obtain ⟨rfl, rfl⟩ := Prod.mk.inj (Option.some.inj found)
      obtain ⟨split, isName, -⟩ := name?_eq_some_iff.mp front
      exact ⟨split, isName⟩
    · exact absurd found (by simp)
  · rintro ⟨rfl, isName⟩
    have front : name? (name ++ '\x7d' :: after) = some (name, '\x7d' :: after) := by
      apply name?_eq_some_iff.mpr
      refine ⟨rfl, isName, ?_⟩
      intro c first
      obtain rfl := Option.some.inj first
      decide
    simp [braced?, front]

theorem bare?_eq_some_iff : bare? s = some (name, after) ↔
    s = name ++ after ∧ IsName name ∧ ∀ c ∈ after.head?, Text.isWordChar c = false := by
  have stops_iff (rest : List Char) : ¬ rest.head?.any Text.isWordChar = true ↔
      ∀ c ∈ rest.head?, Text.isWordChar c = false := by
    cases rest <;> simp
  constructor
  · intro found
    unfold bare? at found
    split at found
    · rename_i read rest front
      obtain ⟨split, isName, -⟩ := name?_eq_some_iff.mp front
      rw [Option.ite_none_left_eq_some, stops_iff] at found
      obtain ⟨rfl, rfl⟩ := Prod.mk.inj (Option.some.inj found.2)
      exact ⟨split, isName, found.1⟩
    · exact absurd found (by simp)
  · rintro ⟨rfl, isName, ended⟩
    have front : name? (name ++ after) = some (name, after) := by
      apply name?_eq_some_iff.mpr
      refine ⟨rfl, isName, ?_⟩
      intro c first tail
      exact absurd tail.isWordChar (Bool.eq_false_iff.mp (ended c first))
    rw [bare?, front]
    exact if_neg ((stops_iff after).mpr ended)

theorem IsName.ne_brace (isName : IsName name) {s : List Char} : '\x7b' :: s ≠ name ++ after := by
  obtain ⟨c, rest, rfl, head, -⟩ := isName.exists_cons
  intro same
  obtain ⟨rfl, -⟩ := List.cons.inj same
  exact absurd head (by decide)

theorem reference?_eq_some_iff : reference? s = some (name, after) ↔
    ∃ braced, StartsWith ('$' :: s) ⟨name, braced⟩ after := by
  constructor
  · intro found
    unfold reference? at found
    split at found
    · rename_i rest
      obtain ⟨rfl, isName⟩ := braced?_eq_some_iff.mp found
      exact ⟨true, by simp [Reference.written], isName, fun bare => absurd bare (by simp)⟩
    · obtain ⟨rfl, isName, ended⟩ := bare?_eq_some_iff.mp found
      exact ⟨false, by simp [Reference.written], isName, fun _ => ended⟩
  · rintro ⟨braced, split, isName, ended⟩
    cases braced with
    | true =>
      obtain rfl : s = '\x7b' :: (name ++ '\x7d' :: after) := by
        simpa [Reference.written] using split
      exact braced?_eq_some_iff.mpr ⟨rfl, isName⟩
    | false =>
      obtain rfl : s = name ++ after := by simpa [Reference.written] using split
      have bare : reference? (name ++ after) = bare? (name ++ after) := by
        unfold reference?
        split
        · rename_i rest same
          exact absurd same.symm isName.ne_brace
        · rfl
      rw [bare]
      exact bare?_eq_some_iff.mpr ⟨rfl, isName, ended rfl⟩

theorem StartsWith.exists_tail (starts : StartsWith s r after) :
    ∃ tail, r.written = '$' :: tail ∧ '$' ∉ tail := by
  have no_dollar : '$' ∉ r.name := by
    intro member
    exact absurd (starts.name.isTail _ member) (by decide)
  cases braced : r.braced with
  | true => exact ⟨'\x7b' :: r.name ++ ['\x7d'], by simp [Reference.written, braced], by simp [no_dollar]⟩
  | false => exact ⟨r.name, by simp [Reference.written, braced], no_dollar⟩

theorem StartsWith.exists_dollar (starts : StartsWith s r after) : ∃ rest, s = '$' :: rest := by
  obtain ⟨tail, written, -⟩ := starts.exists_tail
  exact ⟨tail ++ after, by rw [starts.split, written, List.cons_append]⟩

theorem StartsWith.length_lt (starts : StartsWith s r after) : after.length < s.length := by
  obtain ⟨tail, written, -⟩ := starts.exists_tail
  rw [starts.split, written, List.length_append, List.length_cons]
  omega

theorem StartsWith.unique {r' : Reference} {after' : List Char} (starts : StartsWith s r after)
    (starts' : StartsWith s r' after') : r = r' ∧ after = after' := by
  obtain ⟨rest, rfl⟩ := starts.exists_dollar
  have found : reference? rest = some (r.name, after) := reference?_eq_some_iff.mpr ⟨_, starts⟩
  have found' : reference? rest = some (r'.name, after') := reference?_eq_some_iff.mpr ⟨_, starts'⟩
  obtain ⟨name, rfl⟩ := Prod.mk.inj (Option.some.inj (found.symm.trans found'))
  have written : r.written = r'.written :=
    List.append_cancel_right (starts.split.symm.trans starts'.split)
  refine ⟨?_, rfl⟩
  obtain ⟨name, braced⟩ := r
  obtain ⟨_, braced'⟩ := r'
  subst name
  -- braces make a text two characters longer, so the forms agree as well
  have lengths := congrArg List.length written
  cases braced <;> cases braced' <;> simp [Reference.written] at lengths ⊢
  omega

/-! ### Pieces -/

theorem exists_reads (s : List Char) : ∃ pieces, Reads s pieces := by
  by_cases starts : ∃ r after, StartsWith s r after
  · obtain ⟨r, after, starts⟩ := starts
    have shorter : after.length < s.length := starts.length_lt
    obtain ⟨pieces, reads⟩ := exists_reads after
    exact ⟨_, .reference starts reads⟩
  · cases s with
    | nil => exact ⟨[], .nil⟩
    | cons c rest =>
      obtain ⟨pieces, reads⟩ := exists_reads rest
      exact ⟨_, .plain (fun r after found => starts ⟨r, after, found⟩) reads⟩
termination_by s.length
decreasing_by
  · exact shorter
  · exact Nat.lt_succ_self _

theorem StartsWith.ne_nil (starts : StartsWith s r after) : s ≠ [] := by
  obtain ⟨rest, rfl⟩ := starts.exists_dollar
  exact List.cons_ne_nil _ _

theorem Reads.unique {pieces other : List Piece} (reads : Reads s pieces) (reads' : Reads s other) :
    pieces = other := by
  induction reads generalizing other with
  | nil =>
    cases reads' with
    | nil => rfl
    | reference starts _ => exact absurd rfl starts.ne_nil
  | reference starts _ ih =>
    cases reads' with
    | nil => exact absurd rfl starts.ne_nil
    | reference starts' rest =>
      obtain ⟨rfl, rfl⟩ := starts.unique starts'
      rw [ih rest]
    | plain no_reference _ => exact absurd starts (no_reference _ _)
  | plain no_reference _ ih =>
    cases reads' with
    | reference starts _ => exact absurd starts (no_reference _ _)
    | plain _ rest => rw [ih rest]

theorem Reads.flatMap_written {pieces : List Piece} (reads : Reads s pieces) :
    pieces.flatMap Piece.written = s := by
  induction reads with
  | nil => rfl
  | reference starts _ ih => rw [List.flatMap_cons, ih, Piece.written, ← starts.split]
  | plain _ _ ih => rw [List.flatMap_cons, ih, Piece.written, List.singleton_append]

/-! ### What precedes a dollar sign -/

/-- A dollar sign is no word character, so it cuts no reference off that could end before it. -/
theorem StartsWith.append (starts : StartsWith s r after) (next : List Char) :
    StartsWith (s ++ '$' :: next) r (after ++ '$' :: next) where
  split := by rw [starts.split, List.append_assoc]
  name := starts.name
  ended bare c first := by
    cases after with
    | nil =>
      obtain rfl := Option.some.inj first
      decide +kernel
    | cons d rest => exact starts.ended bare c first

theorem StartsWith.of_append {next : List Char} (start : s ≠ [])
    (starts : StartsWith (s ++ '$' :: next) r after) : ∃ kept, StartsWith s r kept := by
  obtain ⟨tail, written, no_dollar⟩ := starts.exists_tail
  obtain ⟨kept, rfl, ends⟩ | ⟨excess, written_eq, next_eq⟩ := List.append_eq_append_iff.mp starts.split.symm
  · refine ⟨kept, rfl, starts.name, ?_⟩
    intro bare c first
    apply starts.ended bare
    rw [ends, List.head?_append, Option.mem_def.mp first]
    rfl
  · obtain ⟨d, rest, rfl⟩ := List.exists_cons_of_ne_nil start
    rw [written, List.cons_append, List.cons.injEq] at written_eq
    obtain ⟨rfl, rfl⟩ := written_eq
    cases excess with
    | nil =>
      exact ⟨[], by rw [written, List.append_nil, List.append_nil], starts.name,
        fun _ _ first => nomatch first⟩
    | cons e excess =>
      obtain ⟨rfl, -⟩ := List.cons.inj next_eq
      exact absurd (List.mem_append_right rest (List.mem_cons_self ..)) no_dollar

theorem Reads.append {next : List Char} {pieces more : List Piece} (reads : Reads s pieces)
    (rest : Reads ('$' :: next) more) : Reads (s ++ '$' :: next) (pieces ++ more) := by
  induction reads with
  | nil => exact rest
  | reference starts _ ih => exact .reference (starts.append next) ih
  | plain no_reference _ ih =>
    refine .plain ?_ ih
    intro r after starts
    obtain ⟨kept, starts⟩ := StartsWith.of_append (List.cons_ne_nil _ _) starts
    exact no_reference r kept starts

/-- A reference is read wherever it stands, and the texts before and after it are read apart. -/
theorem Reads.reference_at {before : List Char} {pieces more : List Piece} (reads : Reads before pieces)
    (starts : StartsWith s r after) (rest : Reads after more) :
    Reads (before ++ s) (pieces ++ .reference r :: more) := by
  obtain ⟨next, rfl⟩ := starts.exists_dollar
  exact reads.append (.reference starts rest)

theorem Reads.exists_startsWith {pieces more : List Piece}
    (reads : Reads s (pieces ++ .reference r :: more)) :
    ∃ rest after, s = pieces.flatMap Piece.written ++ rest ∧ StartsWith rest r after := by
  induction pieces generalizing s with
  | nil =>
    cases reads with
    | reference starts _ => exact ⟨s, _, rfl, starts⟩
  | cons piece pieces ih =>
    cases reads with
    | reference starts reads =>
      obtain ⟨rest, after, rfl, found⟩ := ih reads
      exact ⟨rest, after, by rw [starts.split, List.flatMap_cons, List.append_assoc, Piece.written], found⟩
    | plain _ reads =>
      obtain ⟨rest, after, rfl, found⟩ := ih reads
      exact ⟨rest, after, rfl, found⟩

theorem Reads.reference_iff {before : List Char} {pieces : List Piece} (reads : Reads (before ++ s) pieces) :
    (∃ after, StartsWith s r after) ↔
      ∃ front more, pieces = front ++ .reference r :: more ∧ front.flatMap Piece.written = before := by
  constructor
  · rintro ⟨after, starts⟩
    obtain ⟨front, front_reads⟩ := exists_reads before
    obtain ⟨more, more_reads⟩ := exists_reads after
    exact ⟨front, more, reads.unique (front_reads.reference_at starts more_reads),
      front_reads.flatMap_written⟩
  · rintro ⟨front, more, rfl, rfl⟩
    obtain ⟨rest, after, split, starts⟩ := reads.exists_startsWith
    obtain rfl : s = rest := List.append_cancel_left split
    exact ⟨after, starts⟩

/-! ### The substitution -/

theorem replace_cons_of_ne (other : c ≠ '$') : replace value? (c :: s) = c :: replace value? s := by
  rw [replace]
  intro same
  exact absurd same other

theorem replace_append_of_no_dollar {front : List Char} (no_dollar : '$' ∉ front) :
    replace value? (front ++ s) = front ++ replace value? s := by
  induction front with
  | nil => rfl
  | cons c front ih =>
    have other : c ≠ '$' := fun same => no_dollar (same ▸ List.mem_cons_self ..)
    rw [List.cons_append, replace_cons_of_ne other, ih fun member => no_dollar (List.mem_cons_of_mem c member)]
    rfl

theorem replace_of_startsWith (starts : StartsWith s r after) :
    replace value? s = (Piece.reference r).shown value? ++ replace value? after := by
  obtain ⟨tail, written, no_dollar⟩ := starts.exists_tail
  obtain rfl : s = '$' :: (tail ++ after) := by rw [starts.split, written, List.cons_append]
  have found : reference? (tail ++ after) = some (r.name, after) := reference?_eq_some_iff.mpr ⟨_, starts⟩
  rw [replace, Piece.shown]
  split
  · rename_i name rest front
    obtain ⟨rfl, rfl⟩ := Prod.mk.inj (Option.some.inj (front.symm.trans found))
    cases value? (String.ofList r.name) with
    | some value => rfl
    | none =>
      show '$' :: replace value? (tail ++ rest) = r.written ++ replace value? rest
      rw [replace_append_of_no_dollar no_dollar, written, List.cons_append]
  · rename_i missing
    exact absurd (missing.symm.trans found) (by simp)

theorem replace_of_plain (no_reference : ∀ r after, ¬ StartsWith (c :: s) r after) :
    replace value? (c :: s) = c :: replace value? s := by
  by_cases dollar : c = '$'
  · subst dollar
    rw [replace]
    split
    · rename_i name after found
      obtain ⟨braced, starts⟩ := reference?_eq_some_iff.mp found
      exact absurd starts (no_reference _ _)
    · rfl
  · exact replace_cons_of_ne dollar

theorem Reads.replace_eq {pieces : List Piece} (reads : Reads s pieces) :
    replace value? s = pieces.flatMap (Piece.shown value?) := by
  induction reads with
  | nil => rw [replace, List.flatMap_nil]
  | reference starts _ ih => rw [replace_of_startsWith starts, ih, List.flatMap_cons]
  | plain no_reference _ ih =>
    rw [replace_of_plain no_reference, ih, List.flatMap_cons, Piece.shown, List.singleton_append]

theorem Reads.replace_of_unset {pieces : List Piece} (reads : Reads s pieces)
    (unset : ∀ r, Piece.reference r ∈ pieces → value? (String.ofList r.name) = none) :
    replace value? s = s := by
  have shown_eq : ∀ piece ∈ pieces, piece.shown value? = piece.written := by
    intro piece member
    cases piece with
    | plain c => rfl
    | reference r => rw [Piece.shown, unset r member]; rfl
  rw [reads.replace_eq, List.flatMap_def, List.map_congr_left shown_eq, ← List.flatMap_def,
    reads.flatMap_written]

theorem replace_around {before : List Char} {value : String} (starts : StartsWith s r after)
    (set : value? (String.ofList r.name) = some value) :
    replace value? (before ++ s) = replace value? before ++ value.toList ++ replace value? after := by
  obtain ⟨front, front_reads⟩ := exists_reads before
  obtain ⟨more, more_reads⟩ := exists_reads after
  have shown_eq : (Piece.reference r).shown value? = value.toList := by rw [Piece.shown, set]; rfl
  rw [(front_reads.reference_at starts more_reads).replace_eq, List.flatMap_append, List.flatMap_cons, shown_eq,
    front_reads.replace_eq, more_reads.replace_eq, List.append_assoc]

end Substitution

open Substitution

/-- Every text falls into its references and its other characters in one way, whatever the environment is. The
substitution puts the value of each variable that is set in the place of its references, as it stands, and keeps
the rest; a text with no such reference stays as it is. Texts around a reference in braces, whatever they end or
start with, are replaced apart from it and from each other. -/
theorem substitute_exact (env : Environment) :
    (∀ text : String, ∃ pieces,
      (∀ other, Reads text.toList other ↔ other = pieces) ∧
      pieces.flatMap Piece.written = text.toList ∧
      (∀ before rest r, text.toList = before ++ rest →
        ((∃ after, StartsWith rest r after) ↔
          ∃ front more, pieces = front ++ .reference r :: more ∧ front.flatMap Piece.written = before)) ∧
      (substitute env text).toList = pieces.flatMap (Piece.shown env.value?) ∧
      ((∀ r, Piece.reference r ∈ pieces → env.value? (String.ofList r.name) = none) →
        substitute env text = text)) ∧
    ∀ before after name value : String, IsName name.toList → env.value? name = some value →
      substitute env (before ++ "$\x7b" ++ name ++ "\x7d" ++ after) =
        substitute env before ++ value ++ substitute env after := by
  constructor
  · intro text
    obtain ⟨pieces, reads⟩ := exists_reads text.toList
    refine ⟨pieces, ?_, reads.flatMap_written, ?_, ?_, ?_⟩
    · intro other
      exact ⟨fun reads' => reads'.unique reads, fun same => same ▸ reads⟩
    · intro before rest r split
      exact (split ▸ reads).reference_iff
    · rw [substitute, String.toList_ofList, reads.replace_eq]
    · intro unset
      rw [substitute, reads.replace_of_unset unset, String.ofList_toList]
  · intro before after name value isName set
    have starts : StartsWith ('$' :: '\x7b' :: name.toList ++ '\x7d' :: after.toList)
        ⟨name.toList, true⟩ after.toList :=
      ⟨by simp [Reference.written], isName, fun bare => nomatch bare⟩
    have split : (before ++ "$\x7b" ++ name ++ "\x7d" ++ after).toList =
        before.toList ++ ('$' :: '\x7b' :: name.toList ++ '\x7d' :: after.toList) := by
      simp [String.toList_append]
    have found : env.value? (String.ofList name.toList) = some value := by rwa [String.ofList_toList]
    apply String.toList_injective
    rw [substitute, String.toList_ofList, split, replace_around starts found]
    simp [substitute, String.toList_append]

/-- A variable whose value looks like a reference to another one that is set, and like the start of a third. -/
def nestedEnv : Environment :=
  [("DIR", "$\x7bHOME\x7d$\x7bDIR"), ("HOME", "/root")]

theorem substitute_exact_nested :
    IsName "DIR".toList ∧ nestedEnv.value? "DIR" = some "$\x7bHOME\x7d$\x7bDIR" ∧
      substitute nestedEnv ("$\x7bDIR" ++ "$\x7b" ++ "DIR" ++ "\x7d" ++ "\x7d$HOME") =
        "$\x7bDIR" ++ "$\x7bHOME\x7d$\x7bDIR" ++ "\x7d/root" := by
  have isName : IsName "DIR".toList := by decide
  have set : nestedEnv.value? "DIR" = some "$\x7bHOME\x7d$\x7bDIR" := by decide
  have half : substitute nestedEnv "$\x7bDIR" = "$\x7bDIR" := by decide +kernel
  have bare : substitute nestedEnv "\x7d$HOME" = "\x7d/root" := by decide +kernel
  refine ⟨isName, set, ?_⟩
  rw [(substitute_exact nestedEnv).2 "$\x7bDIR" "\x7d$HOME" "DIR" _ isName set, half, bare]

end LispHost.Config
