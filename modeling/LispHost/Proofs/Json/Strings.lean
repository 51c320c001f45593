import LispHost.Json.Reader
import Mathlib.Data.Option.Basic

/-!
Strings in JSON text.

A character of a string is written as itself or by an escape, and both are read back as the character. Blanks
count only outside strings, so removing the others has to follow where strings begin and end: neither the
backslash of an escape nor an escaped quote ends a string.
-/

set_option autoImplicit false

namespace LispHost.Json

open Reader (Piece pieces joinPieces ofHalves stringBody escaped? isBlank isHighHalf isLowHalf)

/-- How a character can be written inside a string. -/
inductive Spells (c : Char) : List Char → Prop
  | itself (no_quote : c ≠ '"') (no_backslash : c ≠ '\\') (visible : 0x20 ≤ c.toNat) : Spells c [c]
  | letter {l : Char} (other : l ≠ 'u') (escapes : escaped? l = some c) : Spells c ['\\', l]
  | unit {x y z w : Char} (control : c.toNat < 0x20)
    (number : Text.radixNumber? 16 [x, y, z, w] = some c.toNat)
    (digits : ∀ d ∈ [x, y, z, w], d ≠ '"' ∧ d ≠ '\\') : Spells c ['\\', 'u', x, y, z, w]

private theorem spells_unit {c : Char} (control : c.toNat < 0x20) {digits : List Char}
    (written : digits =
      List.replicate (4 - (hexDigits c.toNat).length) '0' ++ hexDigits c.toNat) :
    Spells c ('\\' :: 'u' :: digits) := by
  have table : ∀ n < 0x20,
      let digits := List.replicate (4 - (hexDigits n).length) '0' ++ hexDigits n
      digits.length = 4 ∧ Text.radixNumber? 16 digits = some n ∧
        digits.all (fun d => d != '"' && d != '\\') = true := by
    decide +kernel
  obtain ⟨four, number, plain⟩ := table c.toNat control
  rw [← written] at four number plain
  have digits_plain : ∀ d ∈ digits, d ≠ '"' ∧ d ≠ '\\' := by
    intro d member
    have checked := List.all_eq_true.mp plain d member
    simpa only [Bool.and_eq_true, bne_iff_ne] using checked
  match digits, four with
  | [x, y, z, w], _ => exact .unit control number digits_plain

theorem spells_escapeChar (c : Char) : Spells c (escapeChar c) := by
  unfold escapeChar
  split
  · rename_i quote
    subst quote
    exact .letter (by decide) rfl
  split
  · rename_i backslash
    subst backslash
    exact .letter (by decide) rfl
  split
  · rename_i backspace
    subst backspace
    exact .letter (by decide) rfl
  split
  · rename_i tab
    subst tab
    exact .letter (by decide) rfl
  split
  · rename_i feed
    subst feed
    exact .letter (by decide) rfl
  split
  · rename_i page
    subst page
    exact .letter (by decide) rfl
  split
  · rename_i carriage
    subst carriage
    exact .letter (by decide) rfl
  split
  · rename_i control
    exact spells_unit control rfl
  · rename_i no_quote no_backslash _ _ _ _ _ visible
    exact .itself no_quote no_backslash (by omega)

/-! ### Reading -/

private theorem joinPieces_control {n : Nat} (control : n < 0x20) (parts : List Piece) :
    joinPieces ofHalves (.unit n :: parts) =
      (joinPieces ofHalves parts).map (Char.ofNat n :: ·) := by
  have no_high : isHighHalf n = false := by
    simp only [isHighHalf, Bool.and_eq_false_iff, decide_eq_false_iff_not]
    omega
  have no_low : isLowHalf n = false := by
    simp only [isLowHalf, Bool.and_eq_false_iff, decide_eq_false_iff_not]
    omega
  cases parts with
  | nil => simp [joinPieces, no_high, no_low]
  | cons part parts => cases part <;> simp [joinPieces, no_high, no_low]

theorem pieces_of_spells {c : Char} {text : List Char} (spells : Spells c text)
    {rest more after : List Char} {parts : List Piece} (read : pieces rest = some (parts, after))
    (joined : joinPieces ofHalves parts = some more) :
    ∃ part, pieces (text ++ rest) = some (part :: parts, after) ∧
      joinPieces ofHalves (part :: parts) = some (c :: more) := by
  cases spells with
  | itself no_quote no_backslash visible =>
    refine ⟨.char c, ?_, ?_⟩
    · rw [List.singleton_append, pieces]
      · simp [no_backslash, visible, read, guard]
      · exact no_quote
      · rintro x y z w tail rfl
        exact absurd rfl no_backslash
      · rintro l tail rfl
        exact absurd rfl no_backslash
    · rw [joinPieces, joined, Option.map_some]
  | @letter l other escapes =>
    refine ⟨.char c, ?_, ?_⟩
    · rw [List.cons_append, List.singleton_append, pieces]
      · simp [escapes, read]
      · rintro x y z w tail rfl
        exact absurd rfl other
    · rw [joinPieces, joined, Option.map_some]
  | unit control number digits =>
    refine ⟨.unit c.toNat, ?_, ?_⟩
    · simp [pieces, number, read]
    · rw [joinPieces_control control, joined, Option.map_some, Char.ofNat_toNat]

theorem exists_pieces_flatMap (chars rest : List Char) :
    ∃ parts, pieces (chars.flatMap escapeChar ++ '"' :: rest) = some (parts, rest) ∧
      joinPieces ofHalves parts = some chars := by
  induction chars with
  | nil => exact ⟨[], by simp [pieces], rfl⟩
  | cons c chars ih =>
    obtain ⟨parts, read, joined⟩ := ih
    obtain ⟨part, read_first, joined_first⟩ :=
      pieces_of_spells (spells_escapeChar c) read joined
    exact ⟨part :: parts, by rwa [List.flatMap_cons, List.append_assoc], joined_first⟩

theorem stringBody_quote (s : String) (rest : List Char) :
    ∃ body, quote s rest = '"' :: body ∧ stringBody body = some (s, rest) := by
  obtain ⟨parts, read, joined⟩ := exists_pieces_flatMap s.toList rest
  refine ⟨_, rfl, ?_⟩
  unfold stringBody
  rw [read]
  simp [joined]

/-! ### Blanks -/

inductive Place where
  | outside
  | inside
  | escaped
  deriving DecidableEq, Repr

def Place.next : Place → Char → Place
  | .outside, c => if c = '"' then .inside else .outside
  | .inside, c => if c = '"' then .outside else if c = '\\' then .escaped else .inside
  | .escaped, _ => .inside

def squeezeFrom (place : Place) : List Char → List Char
  | [] => []
  | c :: rest =>
    if place = .outside ∧ isBlank c = true then squeezeFrom place rest
    else c :: squeezeFrom (place.next c) rest

def squeeze (text : String) : String :=
  String.ofList (squeezeFrom .outside text.toList)

theorem squeezeFrom_blanks {blanks : List Char} (all : ∀ c ∈ blanks, isBlank c = true)
    (rest : List Char) : squeezeFrom .outside (blanks ++ rest) = squeezeFrom .outside rest := by
  induction blanks with
  | nil => rfl
  | cons c blanks ih =>
    obtain ⟨first, later⟩ := List.forall_mem_cons.mp all
    rw [List.cons_append, squeezeFrom, if_pos ⟨rfl, first⟩, ih later]

theorem squeezeFrom_solid {solid : List Char} (all : ∀ c ∈ solid, isBlank c = false ∧ c ≠ '"')
    (rest : List Char) :
    squeezeFrom .outside (solid ++ rest) = solid ++ squeezeFrom .outside rest := by
  induction solid with
  | nil => rfl
  | cons c solid ih =>
    obtain ⟨⟨visible, no_quote⟩, later⟩ := List.forall_mem_cons.mp all
    have kept : ¬ (Place.outside = .outside ∧ isBlank c = true) := by simp [visible]
    have outside : Place.outside.next c = .outside := if_neg no_quote
    rw [List.cons_append, squeezeFrom, if_neg kept, outside, ih later, List.cons_append]

private theorem squeezeFrom_kept {place : Place} (within : place ≠ .outside) (c : Char)
    (rest : List Char) :
    squeezeFrom place (c :: rest) = c :: squeezeFrom (place.next c) rest := by
  rw [squeezeFrom, if_neg (by simp [within])]

private theorem squeezeFrom_inside {c : Char} (no_quote : c ≠ '"') (no_backslash : c ≠ '\\')
    (rest : List Char) :
    squeezeFrom .inside (c :: rest) = c :: squeezeFrom .inside rest := by
  rw [squeezeFrom_kept (by decide), Place.next, if_neg no_quote, if_neg no_backslash]

theorem squeezeFrom_of_spells {c : Char} {text : List Char} (spells : Spells c text)
    (rest : List Char) :
    squeezeFrom .inside (text ++ rest) = text ++ squeezeFrom .inside rest := by
  have escape (l : Char) (after : List Char) :
      squeezeFrom .inside ('\\' :: l :: after) = '\\' :: l :: squeezeFrom .inside after := by
    rw [squeezeFrom_kept (by decide)]
    exact congrArg _ (squeezeFrom_kept (by decide) l after)
  cases spells with
  | itself no_quote no_backslash visible => exact squeezeFrom_inside no_quote no_backslash rest
  | @letter l other escapes => exact escape l rest
  | @unit x y z w control number digits =>
    simp only [List.mem_cons, List.not_mem_nil, or_false, forall_eq_or_imp, forall_eq] at digits
    obtain ⟨first, second, third, fourth⟩ := digits
    simp only [List.cons_append, List.nil_append, escape, squeezeFrom_inside first.1 first.2,
      squeezeFrom_inside second.1 second.2, squeezeFrom_inside third.1 third.2,
      squeezeFrom_inside fourth.1 fourth.2]

theorem squeezeFrom_quote (s : String) (rest : List Char) :
    squeezeFrom .outside (quote s rest) = quote s (squeezeFrom .outside rest) := by
  have body (chars : List Char) :
      squeezeFrom .inside (chars.flatMap escapeChar ++ '"' :: rest) =
        chars.flatMap escapeChar ++ '"' :: squeezeFrom .outside rest := by
    induction chars with
    | nil => exact squeezeFrom_kept (by decide) '"' rest
    | cons c chars ih =>
      rw [List.flatMap_cons, List.append_assoc, squeezeFrom_of_spells (spells_escapeChar c), ih,
        List.append_assoc]
  have opened : squeezeFrom .outside (quote s rest) =
      '"' :: squeezeFrom .inside (s.toList.flatMap escapeChar ++ '"' :: rest) := by
    rw [quote, squeezeFrom, if_neg (by decide)]
    rfl
  rw [opened, body, quote]

end LispHost.Json
