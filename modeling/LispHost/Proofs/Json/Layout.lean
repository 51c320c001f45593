import LispHost.Proofs.Json.Strings
import LispHost.Proofs.Text.Digits

/-!
Printed JSON trees and their blanks.

The two printed forms of a tree differ only in the blanks around its items. A layout says which blanks these are,
and both forms are layouts. Outside strings every blank of a layout can be removed, and what is left is the form
without blanks. Numbers are taken to be natural, as they are in all that the program prints.
-/

set_option autoImplicit false

namespace LispHost.Json

open Reader (isBlank)

/-- Induction on trees, where a list of items and a list of fields are taken as a whole. -/
@[elab_as_elim]
theorem tree_induction {motive : Json → Prop} (null : motive .null)
    (bool : ∀ b, motive (.bool b)) (number : ∀ d, motive (.number d))
    (string : ∀ s, motive (.string s))
    (array : ∀ items, (∀ item ∈ items, motive item) → motive (.array items))
    (object : ∀ fields, (∀ entry ∈ fields, motive entry.2) → motive (.object fields)) (j : Json) :
    motive j := by
  refine @Json.rec motive (fun items => ∀ item ∈ items, motive item)
    (fun fields => ∀ entry ∈ fields, motive entry.2) (fun entry => motive entry.2)
    null bool number string array object ?_ ?_ ?_ ?_ ?_ j
  · simp
  · intro item items first later
    exact List.forall_mem_cons.mpr ⟨first, later⟩
  · simp
  · intro entry fields first later
    exact List.forall_mem_cons.mpr ⟨first, later⟩
  · intro name value kept
    exact kept

/-- Every number in the tree is a natural number. -/
inductive Natural : Json → Prop
  | null : Natural null
  | bool (b : Bool) : Natural (bool b)
  | nat (n : Nat) : Natural (nat n)
  | string (s : String) : Natural (string s)
  | array {items : List Json} (natural : ∀ item ∈ items, Natural item) : Natural (array items)
  | object {fields : List (String × Json)} (natural : ∀ entry ∈ fields, Natural entry.2) :
    Natural (object fields)

/-- The blanks of a printed tree. -/
structure Layout where
  /-- What stands before each item of a level, and before the bracket that closes a level. -/
  gap : Nat → List Char
  space : List Char
  blank_gap : ∀ level, ∀ c ∈ gap level, isBlank c = true
  blank_space : ∀ c ∈ space, isBlank c = true

namespace Layout

def none : Layout where
  gap _ := []
  space := []
  blank_gap := by simp
  blank_space := by simp

def indented : Layout where
  gap level := newline level []
  space := [' ']
  blank_gap := by
    intro level c member
    simp only [newline, List.append_nil, List.mem_cons] at member
    rcases member with rfl | spaces
    · rfl
    · rw [List.eq_of_mem_replicate spaces]
      rfl
  blank_space := by simp [isBlank]

mutual

/-- The tree in a layout, in front of the rest of a text. -/
def onto (layout : Layout) (level : Nat) : Json → List Char → List Char
  | .null, rest => 'n' :: 'u' :: 'l' :: 'l' :: rest
  | .bool true, rest => 't' :: 'r' :: 'u' :: 'e' :: rest
  | .bool false, rest => 'f' :: 'a' :: 'l' :: 's' :: 'e' :: rest
  | .number d, rest => d.text.toList ++ rest
  | .string s, rest => quote s rest
  | .array [], rest => '[' :: ']' :: rest
  | .array (item :: items), rest =>
    '[' :: itemsOnto layout (level + 1) (item :: items) (layout.gap level ++ ']' :: rest)
  | .object [], rest => '\x7b' :: '\x7d' :: rest
  | .object (entry :: fields), rest =>
    '\x7b' :: fieldsOnto layout (level + 1) (entry :: fields) (layout.gap level ++ '\x7d' :: rest)

def itemsOnto (layout : Layout) (level : Nat) : List Json → List Char → List Char
  | [], rest => rest
  | [item], rest => layout.gap level ++ onto layout level item rest
  | item :: items, rest =>
    layout.gap level ++ onto layout level item (',' :: itemsOnto layout level items rest)

def fieldsOnto (layout : Layout) (level : Nat) : List (String × Json) → List Char → List Char
  | [], rest => rest
  | [(name, value)], rest =>
    layout.gap level ++ quote name (':' :: (layout.space ++ onto layout level value rest))
  | (name, value) :: fields, rest =>
    layout.gap level ++ quote name (':' :: (layout.space ++
      onto layout level value (',' :: fieldsOnto layout level fields rest)))

end

theorem itemsOnto_cons_cons (layout : Layout) (level : Nat) (item next : Json)
    (items : List Json) (rest : List Char) :
    layout.itemsOnto level (item :: next :: items) rest = layout.gap level ++
      layout.onto level item (',' :: layout.itemsOnto level (next :: items) rest) := by
  conv => lhs; unfold itemsOnto

theorem fieldsOnto_cons_cons (layout : Layout) (level : Nat) (name : String) (value : Json)
    (next : String × Json) (fields : List (String × Json)) (rest : List Char) :
    layout.fieldsOnto level ((name, value) :: next :: fields) rest = layout.gap level ++
      quote name (':' :: (layout.space ++
        layout.onto level value (',' :: layout.fieldsOnto level (next :: fields) rest))) := by
  conv => lhs; unfold fieldsOnto

/-! ### The printed forms -/

private theorem compactItems_cons_cons (item next : Json) (items : List Json) (rest : List Char) :
    compactItems (item :: next :: items) rest =
      compactOnto item (',' :: compactItems (next :: items) rest) := by
  conv => lhs; unfold compactItems

private theorem compactFields_cons_cons (name : String) (value : Json) (next : String × Json)
    (fields : List (String × Json)) (rest : List Char) :
    compactFields ((name, value) :: next :: fields) rest =
      quote name (':' :: compactOnto value (',' :: compactFields (next :: fields) rest)) := by
  conv => lhs; unfold compactFields

private theorem compactItems_eq (items : List Json) (level : Nat)
    (same : ∀ item ∈ items, ∀ rest, compactOnto item rest = none.onto level item rest)
    (rest : List Char) : compactItems items rest = none.itemsOnto level items rest := by
  induction items with
  | nil => rw [compactItems, itemsOnto]
  | cons item items ih =>
    obtain ⟨first, later⟩ := List.forall_mem_cons.mp same
    cases items with
    | nil => simp [compactItems, itemsOnto, first, none]
    | cons next items =>
      rw [compactItems_cons_cons, itemsOnto_cons_cons, first, ih later]
      rfl

private theorem compactFields_eq (fields : List (String × Json)) (level : Nat)
    (same : ∀ entry ∈ fields, ∀ rest, compactOnto entry.2 rest = none.onto level entry.2 rest)
    (rest : List Char) : compactFields fields rest = none.fieldsOnto level fields rest := by
  induction fields with
  | nil => rw [compactFields, fieldsOnto]
  | cons entry fields ih =>
    obtain ⟨first, later⟩ := List.forall_mem_cons.mp same
    cases fields with
    | nil => simp [compactFields, fieldsOnto, first, none]
    | cons next fields =>
      rw [compactFields_cons_cons, fieldsOnto_cons_cons, first, ih later]
      rfl

theorem compactOnto_eq (j : Json) (level : Nat) (rest : List Char) :
    compactOnto j rest = none.onto level j rest := by
  induction j using tree_induction generalizing level rest with
  | null => rw [compactOnto, onto]
  | bool b => cases b <;> rw [compactOnto, onto]
  | number d => rw [compactOnto, onto]
  | string s => rw [compactOnto, onto]
  | array items same =>
    have written := compactItems_eq items (level + 1) (fun item member => same item member _)
    cases items with
    | nil => rw [compactOnto, onto, compactItems]
    | cons item items =>
      rw [compactOnto, onto, written]
      rfl
  | object fields same =>
    have written := compactFields_eq fields (level + 1) (fun entry member => same entry member _)
    cases fields with
    | nil => rw [compactOnto, onto, compactFields]
    | cons entry fields =>
      rw [compactOnto, onto, written]
      rfl

private theorem newline_eq (level : Nat) (rest : List Char) :
    newline level rest = indented.gap level ++ rest := by
  simp [newline, indented]

private theorem prettyItems_eq (items : List Json) (level : Nat)
    (same : ∀ item ∈ items, ∀ rest, prettyOnto level item rest = indented.onto level item rest)
    (rest : List Char) : prettyItems level items rest = indented.itemsOnto level items rest := by
  induction items with
  | nil => rw [prettyItems, itemsOnto]
  | cons item items ih =>
    obtain ⟨first, later⟩ := List.forall_mem_cons.mp same
    cases items with
    | nil => simp [prettyItems, itemsOnto, first, newline_eq]
    | cons next items => simp [prettyItems, itemsOnto, first, ih later, newline_eq]

private theorem prettyFields_eq (fields : List (String × Json)) (level : Nat)
    (same : ∀ entry ∈ fields, ∀ rest,
      prettyOnto level entry.2 rest = indented.onto level entry.2 rest)
    (rest : List Char) : prettyFields level fields rest = indented.fieldsOnto level fields rest := by
  have space : indented.space = [' '] := rfl
  induction fields with
  | nil => rw [prettyFields, fieldsOnto]
  | cons entry fields ih =>
    obtain ⟨first, later⟩ := List.forall_mem_cons.mp same
    cases fields with
    | nil => simp [prettyFields, fieldsOnto, first, newline_eq, space]
    | cons next fields => simp [prettyFields, fieldsOnto, first, ih later, newline_eq, space]

theorem prettyOnto_eq (j : Json) (level : Nat) (rest : List Char) :
    prettyOnto level j rest = indented.onto level j rest := by
  induction j using tree_induction generalizing level rest with
  | null => rw [prettyOnto, onto]
  | bool b => cases b <;> rw [prettyOnto, onto]
  | number d => rw [prettyOnto, onto]
  | string s => rw [prettyOnto, onto]
  | array items same =>
    have written := prettyItems_eq items (level + 1) (fun item member => same item member _)
    cases items with
    | nil => rw [prettyOnto, onto]
    | cons item items => rw [prettyOnto, onto, written, newline_eq]
  | object fields same =>
    have written := prettyFields_eq fields (level + 1) (fun entry member => same entry member _)
    cases fields with
    | nil => rw [prettyOnto, onto]
    | cons entry fields => rw [prettyOnto, onto, written, newline_eq]

/-! ### Blanks -/

theorem text_ofNat (n : Nat) : (Decimal.ofNat n).text.toList = Nat.toDigits 10 n := by
  simp [Decimal.text, Decimal.ofNat, decimalText]

private theorem solid_toDigits (n : Nat) :
    ∀ c ∈ Nat.toDigits 10 n, isBlank c = false ∧ c ≠ '"' := by
  intro c member
  have digits : ∀ d < 10, isBlank d.digitChar = false ∧ d.digitChar ≠ '"' := by decide
  obtain ⟨d, digit, rfl⟩ := Text.exists_digit_of_mem_toDigits (by decide) member
  exact digits d digit

private theorem squeezeFrom_word {text : List Char}
    (solid : text.all (fun c => !isBlank c && c != '"') = true) (rest : List Char) :
    squeezeFrom .outside (text ++ rest) = text ++ squeezeFrom .outside rest := by
  apply squeezeFrom_solid
  intro c member
  have checked := List.all_eq_true.mp solid c member
  simpa only [Bool.and_eq_true, Bool.not_eq_true', bne_iff_ne] using checked

private theorem squeezeFrom_mark {c : Char} (visible : isBlank c = false) (no_quote : c ≠ '"')
    (rest : List Char) : squeezeFrom .outside (c :: rest) = c :: squeezeFrom .outside rest :=
  @squeezeFrom_solid [c] (by simp [visible, no_quote]) rest

section Squeeze

variable (layout : Layout)

private theorem squeezeFrom_items (items : List Json) (level : Nat)
    (squeezed : ∀ item ∈ items, ∀ rest, squeezeFrom .outside (layout.onto level item rest) =
      compactOnto item (squeezeFrom .outside rest)) (rest : List Char) :
    squeezeFrom .outside (layout.itemsOnto level items rest) =
      compactItems items (squeezeFrom .outside rest) := by
  have gap := squeezeFrom_blanks (layout.blank_gap level)
  induction items with
  | nil => rw [itemsOnto, compactItems]
  | cons item items ih =>
    obtain ⟨first, later⟩ := List.forall_mem_cons.mp squeezed
    cases items with
    | nil => rw [itemsOnto, gap, first, compactItems]
    | cons next items =>
      rw [itemsOnto_cons_cons, gap, first, squeezeFrom_mark (by decide) (by decide), ih later,
        compactItems_cons_cons]

private theorem squeezeFrom_fields (fields : List (String × Json)) (level : Nat)
    (squeezed : ∀ entry ∈ fields, ∀ rest,
      squeezeFrom .outside (layout.onto level entry.2 rest) =
        compactOnto entry.2 (squeezeFrom .outside rest)) (rest : List Char) :
    squeezeFrom .outside (layout.fieldsOnto level fields rest) =
      compactFields fields (squeezeFrom .outside rest) := by
  have gap := squeezeFrom_blanks (layout.blank_gap level)
  have space := squeezeFrom_blanks layout.blank_space
  have colon := squeezeFrom_mark (c := ':') (by decide) (by decide)
  induction fields with
  | nil => rw [fieldsOnto, compactFields]
  | cons entry fields ih =>
    obtain ⟨name, value⟩ := entry
    obtain ⟨first, later⟩ := List.forall_mem_cons.mp squeezed
    cases fields with
    | nil => rw [fieldsOnto, gap, squeezeFrom_quote, colon, space, first, compactFields]
    | cons next fields =>
      rw [fieldsOnto_cons_cons, gap, squeezeFrom_quote, colon, space, first,
        squeezeFrom_mark (by decide) (by decide), ih later, compactFields_cons_cons]

theorem squeezeFrom_onto {j : Json} (natural : j.Natural) (level : Nat) (rest : List Char) :
    squeezeFrom .outside (layout.onto level j rest) = compactOnto j (squeezeFrom .outside rest) := by
  induction natural generalizing level rest with
  | null => exact @squeezeFrom_word ['n', 'u', 'l', 'l'] (by decide) rest
  | bool b =>
    cases b with
    | true => exact @squeezeFrom_word ['t', 'r', 'u', 'e'] (by decide) rest
    | false => exact @squeezeFrom_word ['f', 'a', 'l', 's', 'e'] (by decide) rest
  | nat n =>
    rw [nat, onto, compactOnto, text_ofNat]
    exact squeezeFrom_solid (solid_toDigits n) rest
  | string s =>
    rw [onto, compactOnto]
    exact squeezeFrom_quote s rest
  | @array items natural squeezed =>
    have gap := squeezeFrom_blanks (layout.blank_gap level)
    have closing := squeezeFrom_mark (c := ']') (by decide) (by decide)
    cases items with
    | nil => exact @squeezeFrom_word ['[', ']'] (by decide) rest
    | cons item items =>
      have within := squeezeFrom_items layout (item :: items) (level + 1)
        (fun item member => squeezed item member (level + 1))
      rw [onto, squeezeFrom_mark (by decide) (by decide), within, gap, closing, compactOnto]
  | @object fields natural squeezed =>
    have gap := squeezeFrom_blanks (layout.blank_gap level)
    have closing := squeezeFrom_mark (c := '\x7d') (by decide) (by decide)
    cases fields with
    | nil => exact @squeezeFrom_word ['\x7b', '\x7d'] (by decide) rest
    | cons entry fields =>
      have within := squeezeFrom_fields layout (entry :: fields) (level + 1)
        (fun entry member => squeezed entry member (level + 1))
      rw [onto, squeezeFrom_mark (by decide) (by decide), within, gap, closing, compactOnto]

end Squeeze

end Layout

theorem squeeze_pretty {j : Json} (natural : j.Natural) : squeeze j.pretty = j.compact := by
  unfold squeeze pretty compact
  rw [String.toList_ofList, Layout.prettyOnto_eq, Layout.indented.squeezeFrom_onto natural]
  rfl

end LispHost.Json
