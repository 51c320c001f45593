import LispHost.Proofs.Json.Layout
import Mathlib.Data.List.DropRight
import Mathlib.Data.List.TakeDrop

/-!
Printed JSON trees are read back.

The reader takes from the front of a text exactly what was printed for a tree, in whatever layout, and leaves the
rest. Both its bounds are kept by the length of the text: each container it opens and each value it starts is
written by at least one character.
-/

set_option autoImplicit false

namespace LispHost.Json

open Reader (isBlank skipBlank)

/-! ### Blanks and numbers -/

theorem skipBlank_blanks {blanks : List Char} (all : ∀ c ∈ blanks, isBlank c = true)
    (rest : List Char) : skipBlank (blanks ++ rest) = skipBlank rest := by
  unfold skipBlank
  exact List.dropWhile_append_of_pos all

theorem skipBlank_of_visible {c : Char} (visible : isBlank c = false) (rest : List Char) :
    skipBlank (c :: rest) = c :: rest := by
  unfold skipBlank
  exact List.dropWhile_cons_of_neg (by simp [visible])

theorem skipBlank_skipBlank (s : List Char) : skipBlank (skipBlank s) = skipBlank s := by
  unfold skipBlank
  exact List.dropWhile_idempotent isBlank s

theorem value_skipBlank (depth fuel : Nat) (s : List Char) :
    Reader.value depth fuel (skipBlank s) = Reader.value depth fuel s := by
  cases fuel with
  | zero => rfl
  | succ fuel => rw [Reader.value, Reader.value, skipBlank_skipBlank]

theorem items_skipBlank (depth fuel : Nat) (s : List Char) :
    Reader.items depth fuel (skipBlank s) = Reader.items depth fuel s := by
  cases fuel with
  | zero => rfl
  | succ fuel => rw [Reader.items, Reader.items, value_skipBlank]

theorem fields_skipBlank (depth fuel : Nat) (s : List Char) :
    Reader.fields depth fuel (skipBlank s) = Reader.fields depth fuel s := by
  cases fuel with
  | zero => rfl
  | succ fuel => rw [Reader.fields, Reader.fields, skipBlank_skipBlank]

/-- A text that does not go on with a number. -/
def EndsNumber (rest : List Char) : Prop :=
  ∀ c ∈ rest.head?, c.isDigit = false ∧ c ≠ '.' ∧ c ≠ 'e' ∧ c ≠ 'E'

private theorem endsNumber_of_blanks {blanks rest : List Char}
    (all : ∀ c ∈ blanks, isBlank c = true) (ends : EndsNumber rest) :
    EndsNumber (blanks ++ rest) := by
  cases blanks with
  | nil => exact ends
  | cons c blanks =>
    intro first member
    have blank := all c List.mem_cons_self
    rw [List.cons_append, List.head?_cons, Option.mem_some_iff] at member
    subst member
    simp only [isBlank, Bool.or_eq_true, decide_eq_true_eq] at blank
    rcases blank with ((rfl | rfl) | rfl) | rfl <;> decide

private theorem endsNumber_cons {c : Char} (rest : List Char)
    (ends : c.isDigit = false ∧ c ≠ '.' ∧ c ≠ 'e' ∧ c ≠ 'E') : EndsNumber (c :: rest) := by
  intro first member
  rw [List.head?_cons, Option.mem_some_iff] at member
  subst member
  exact ends

theorem number_toDigits (n : Nat) {rest : List Char} (ends : EndsNumber rest) :
    Reader.number (Nat.toDigits 10 n ++ rest) = some (.ofNat n, rest) := by
  have digits : ∀ c ∈ Nat.toDigits 10 n, c.isDigit = true := fun c member =>
    Nat.isDigit_of_mem_toDigits (by decide) (by decide) member
  have cut : (Nat.toDigits 10 n ++ rest).span Char.isDigit = (Nat.toDigits 10 n, rest) := by
    rw [List.span_eq_takeWhile_dropWhile, List.takeWhile_append_of_pos digits,
      List.dropWhile_append_of_pos digits]
    cases rest with
    | nil => simp
    | cons c rest =>
      have stops := (ends c rfl).1
      simp [stops]
  have no_zero : (Nat.toDigits 10 n).length = 1 ∨ (Nat.toDigits 10 n).head? ≠ some '0' := by
    rcases Nat.eq_zero_or_pos n with rfl | positive
    · exact .inl rfl
    · exact .inr (Text.head?_toDigits_ne_zero (by decide) (by decide) positive)
  have fraction : Reader.fraction rest = some ([], rest) := by
    cases rest with
    | nil => rfl
    | cons c rest =>
      unfold Reader.fraction
      split
      · rename_i point
        exact absurd (List.cons.inj point).1 (ends c rfl).2.1
      · rfl
  have exponent : Reader.exponent rest = some (none, rest) := by
    cases rest with
    | nil => rfl
    | cons c rest =>
      obtain ⟨-, -, no_small, no_large⟩ := ends c rfl
      exact if_neg (by simp [no_small, no_large])
  have read : Reader.unsigned false (Nat.toDigits 10 n ++ rest) = some (.ofNat n, rest) := by
    unfold Reader.unsigned
    rw [cut]
    simp [fraction, exponent, Nat.toDigits_ne_nil, no_zero, Text.decimalNumber_toDigits,
      Decimal.ofNat, guard]
  unfold Reader.number
  split
  · rename_i after written
    cases first : Nat.toDigits 10 n with
    | nil => exact absurd first Nat.toDigits_ne_nil
    | cons c more =>
      rw [first] at written digits
      have minus : c = '-' := (List.cons.inj written).1
      have digit := digits c List.mem_cons_self
      rw [minus] at digit
      cases digit
  · exact read

/-! ### Trees -/

namespace Layout

variable (layout : Layout)

/-- What is printed for a tree begins with a character that neither is a blank nor closes an array. -/
theorem exists_onto_eq_cons {j : Json} (natural : j.Natural) (level : Nat) (rest : List Char) :
    ∃ c text, layout.onto level j rest = c :: text ∧ isBlank c = false ∧ c ≠ ']' := by
  cases natural with
  | null => exact ⟨_, _, rfl, by decide⟩
  | bool b => cases b <;> exact ⟨_, _, rfl, by decide⟩
  | string s => exact ⟨_, _, rfl, by decide⟩
  | nat n =>
    have digits : ∀ d < 10, isBlank d.digitChar = false ∧ d.digitChar ≠ ']' := by decide
    cases written : Nat.toDigits 10 n with
    | nil => exact absurd written Nat.toDigits_ne_nil
    | cons c more =>
      obtain ⟨d, digit, rfl⟩ := Text.exists_digit_of_mem_toDigits (by decide)
        (written ▸ List.mem_cons_self : c ∈ Nat.toDigits 10 n)
      exact ⟨d.digitChar, more ++ rest, by rw [nat, onto, text_ofNat, written]; rfl, digits d digit⟩
  | @array items natural => cases items <;> exact ⟨_, _, rfl, by decide⟩
  | @object fields natural => cases fields <;> exact ⟨_, _, rfl, by decide⟩

private theorem length_le_itemsOnto {items : List Json} {level : Nat}
    (longer : ∀ item ∈ items, ∀ rest : List Char,
      rest.length < (layout.onto level item rest).length) (rest : List Char) :
    rest.length ≤ (layout.itemsOnto level items rest).length := by
  induction items with
  | nil => rw [itemsOnto]
  | cons item items ih =>
    obtain ⟨first, later⟩ := List.forall_mem_cons.mp longer
    cases items with
    | nil =>
      have item_longer := first rest
      rw [itemsOnto, List.length_append]
      omega
    | cons next items =>
      have item_longer := first (',' :: layout.itemsOnto level (next :: items) rest)
      have rest_longer := ih later
      rw [itemsOnto_cons_cons, List.length_append]
      rw [List.length_cons] at item_longer
      omega

private theorem length_quote (s : String) (rest : List Char) :
    rest.length + 2 ≤ (quote s rest).length := by
  simp only [quote, List.length_cons, List.length_append]
  omega

private theorem length_le_fieldsOnto {fields : List (String × Json)} {level : Nat}
    (longer : ∀ entry ∈ fields, ∀ rest : List Char,
      rest.length < (layout.onto level entry.2 rest).length) (rest : List Char) :
    rest.length ≤ (layout.fieldsOnto level fields rest).length := by
  induction fields with
  | nil => rw [fieldsOnto]
  | cons entry fields ih =>
    obtain ⟨name, value⟩ := entry
    obtain ⟨first, later⟩ := List.forall_mem_cons.mp longer
    dsimp only at first
    cases fields with
    | nil =>
      have value_longer := first rest
      have named := length_quote name (':' :: (layout.space ++ layout.onto level value rest))
      rw [fieldsOnto, List.length_append]
      rw [List.length_cons, List.length_append] at named
      omega
    | cons next fields =>
      have value_longer := first (',' :: layout.fieldsOnto level (next :: fields) rest)
      have rest_longer := ih later
      have named := length_quote name (':' :: (layout.space ++
        layout.onto level value (',' :: layout.fieldsOnto level (next :: fields) rest)))
      rw [fieldsOnto_cons_cons, List.length_append]
      rw [List.length_cons, List.length_append] at named
      rw [List.length_cons] at value_longer
      omega

theorem length_lt_onto {j : Json} (natural : j.Natural) (level : Nat) (rest : List Char) :
    rest.length < (layout.onto level j rest).length := by
  induction natural generalizing level rest with
  | null =>
    rw [onto]
    simp only [List.length_cons]
    omega
  | bool b =>
    cases b <;>
    · rw [onto]
      simp only [List.length_cons]
      omega
  | nat n =>
    have digits : (Nat.toDigits 10 n).length ≠ 0 := by simp [Nat.toDigits_ne_nil]
    rw [nat, onto, text_ofNat, List.length_append]
    omega
  | string s =>
    have quoted := length_quote s rest
    rw [onto]
    omega
  | @array items natural longer =>
    cases items with
    | nil =>
      rw [onto]
      simp only [List.length_cons]
      omega
    | cons item items =>
      have within := layout.length_le_itemsOnto (fun item member => longer item member (level + 1))
        (layout.gap level ++ ']' :: rest)
      rw [List.length_append, List.length_cons] at within
      rw [onto, List.length_cons]
      omega
  | @object fields natural longer =>
    cases fields with
    | nil =>
      rw [onto]
      simp only [List.length_cons]
      omega
    | cons entry fields =>
      have within := layout.length_le_fieldsOnto (fun entry member => longer entry member (level + 1))
        (layout.gap level ++ '\x7d' :: rest)
      rw [List.length_append, List.length_cons] at within
      rw [onto, List.length_cons]
      omega

end Layout

/-! ### One item -/

section Steps

variable {depth fuel : Nat} {s t u rest : List Char}

theorem value_blanks {blanks : List Char} (all : ∀ c ∈ blanks, isBlank c = true)
    (s : List Char) : Reader.value depth fuel (blanks ++ s) = Reader.value depth fuel s := by
  rw [← value_skipBlank, skipBlank_blanks all, value_skipBlank]

theorem items_last {item : Json} (read : Reader.value depth fuel s = some (item, t))
    (closed : skipBlank t = ']' :: rest) :
    Reader.items depth (fuel + 1) s = some ([item], rest) := by
  rw [Reader.items, read]
  simp [closed]

theorem items_more {item : Json} {items : List Json}
    (read : Reader.value depth fuel s = some (item, t)) (comma : skipBlank t = ',' :: u)
    (later : Reader.items depth fuel u = some (items, rest)) :
    Reader.items depth (fuel + 1) s = some (item :: items, rest) := by
  rw [Reader.items, read]
  simp [comma, later]

variable {name : String} {value : Json} {body : List Char}

theorem fields_last (quoted : skipBlank s = '"' :: body)
    (named : Reader.stringBody body = some (name, ':' :: t))
    (read : Reader.value depth fuel t = some (value, u)) (closed : skipBlank u = '\x7d' :: rest) :
    Reader.fields depth (fuel + 1) s = some ([(name, value)], rest) := by
  have colon : skipBlank (':' :: t) = ':' :: t := skipBlank_of_visible (by decide) t
  rw [Reader.fields, quoted]
  simp [named, colon, read, closed]

theorem fields_more {v : List Char} {fields : List (String × Json)}
    (quoted : skipBlank s = '"' :: body)
    (named : Reader.stringBody body = some (name, ':' :: t))
    (read : Reader.value depth fuel t = some (value, u)) (comma : skipBlank u = ',' :: v)
    (later : Reader.fields depth fuel v = some (fields, rest)) :
    Reader.fields depth (fuel + 1) s = some ((name, value) :: fields, rest) := by
  have colon : skipBlank (':' :: t) = ':' :: t := skipBlank_of_visible (by decide) t
  rw [Reader.fields, quoted]
  simp [named, colon, read, comma, later]

theorem value_array {items : List Json} {c : Char} (room : depth ≠ 0)
    (begins : skipBlank s = c :: t) (other : c ≠ ']')
    (read : Reader.items (depth - 1) fuel s = some (items, rest)) :
    Reader.value depth (fuel + 1) ('[' :: s) = some (.array items, rest) := by
  rw [← items_skipBlank, begins] at read
  rw [Reader.value, skipBlank_of_visible (by decide)]
  refine (if_neg room).trans ?_
  rw [begins]
  split
  · rename_i written
    exact absurd (List.cons.inj written).1 other
  · rw [read]
    rfl

theorem value_object {fields : List (String × Json)} (room : depth ≠ 0)
    (begins : skipBlank s = '"' :: t)
    (read : Reader.fields (depth - 1) fuel s = some (fields, rest)) :
    Reader.value depth (fuel + 1) ('\x7b' :: s) = some (.object fields, rest) := by
  rw [← fields_skipBlank, begins] at read
  rw [Reader.value, skipBlank_of_visible (by decide)]
  refine (if_neg room).trans ?_
  rw [begins]
  change (Reader.fields (depth - 1) fuel ('"' :: t)).map _ = _
  rw [read]
  rfl

end Steps

/-! ### Whole trees -/

namespace Layout

variable (layout : Layout)

/-- The tree is read back at a level from the front of any text that does not go on with a number, if the bounds
of the reader allow for its length. -/
def ReadBack (layout : Layout) (level : Nat) (j : Json) : Prop :=
  ∀ (rest : List Char) (depth fuel : Nat), EndsNumber rest →
    (layout.onto level j rest).length ≤ depth + rest.length →
    2 * (layout.onto level j rest).length ≤ fuel + 2 * rest.length →
    Reader.value depth fuel (layout.onto level j rest) = some (j, rest)

private theorem endsNumber_comma (rest : List Char) : EndsNumber (',' :: rest) :=
  endsNumber_cons rest (by decide)

section Items

variable {level depth fuel : Nat} {tail rest : List Char}

private theorem items_itemsOnto {item : Json} {items : List Json}
    (natural : ∀ j ∈ item :: items, j.Natural) (read : ∀ j ∈ item :: items, layout.ReadBack level j)
    (ends : EndsNumber tail) (closed : skipBlank tail = ']' :: rest)
    (deep : (layout.itemsOnto level (item :: items) tail).length ≤ depth + tail.length)
    (fueled : 2 * (layout.itemsOnto level (item :: items) tail).length < fuel + 2 * tail.length) :
    Reader.items depth fuel (layout.itemsOnto level (item :: items) tail) =
      some (item :: items, rest) := by
  have gap := layout.blank_gap level
  induction items generalizing item fuel with
  | nil =>
    have longer := layout.length_lt_onto (natural item List.mem_cons_self) level tail
    rw [itemsOnto] at deep fueled ⊢
    rw [List.length_append] at deep fueled
    cases fuel with
    | zero => omega
    | succ fuel =>
      have value := read item List.mem_cons_self tail depth fuel ends (by omega) (by omega)
      exact items_last ((value_blanks gap _).trans value) closed
  | cons next items ih =>
    obtain ⟨first, later⟩ := List.forall_mem_cons.mp natural
    obtain ⟨read_first, read_later⟩ := List.forall_mem_cons.mp read
    have rest_longer : tail.length ≤ (layout.itemsOnto level (next :: items) tail).length :=
      layout.length_le_itemsOnto
      (fun j member => layout.length_lt_onto (later j member) level) tail
    have longer := layout.length_lt_onto first level
      (',' :: layout.itemsOnto level (next :: items) tail)
    rw [itemsOnto_cons_cons] at deep fueled ⊢
    rw [List.length_append] at deep fueled
    rw [List.length_cons] at longer
    cases fuel with
    | zero => omega
    | succ fuel =>
      have value := read_first (',' :: layout.itemsOnto level (next :: items) tail) depth fuel
        (endsNumber_comma _) (by rw [List.length_cons]; omega) (by rw [List.length_cons]; omega)
      exact items_more ((value_blanks gap _).trans value) (skipBlank_of_visible (by decide) _)
        (ih later read_later (by omega) (by omega))

private theorem fields_fieldsOnto {entry : String × Json} {fields : List (String × Json)}
    (natural : ∀ e ∈ entry :: fields, e.2.Natural)
    (read : ∀ e ∈ entry :: fields, layout.ReadBack level e.2)
    (ends : EndsNumber tail) (closed : skipBlank tail = '\x7d' :: rest)
    (deep : (layout.fieldsOnto level (entry :: fields) tail).length ≤ depth + tail.length)
    (fueled : 2 * (layout.fieldsOnto level (entry :: fields) tail).length <
      fuel + 2 * tail.length) :
    Reader.fields depth fuel (layout.fieldsOnto level (entry :: fields) tail) =
      some (entry :: fields, rest) := by
  have gap := layout.blank_gap level
  have space := layout.blank_space
  induction fields generalizing entry fuel with
  | nil =>
    obtain ⟨name, value⟩ := entry
    have longer : tail.length < (layout.onto level value tail).length :=
      layout.length_lt_onto (natural _ List.mem_cons_self) level tail
    have named := length_quote name (':' :: (layout.space ++ layout.onto level value tail))
    obtain ⟨body, quoted, string⟩ :=
      stringBody_quote name (':' :: (layout.space ++ layout.onto level value tail))
    rw [fieldsOnto] at deep fueled ⊢
    rw [List.length_cons, List.length_append] at named
    rw [List.length_append] at deep fueled
    cases fuel with
    | zero => omega
    | succ fuel =>
      have read_back : layout.ReadBack level value := read _ List.mem_cons_self
      have value_read := read_back tail depth fuel ends (by omega) (by omega)
      refine fields_last ?_ string ((value_blanks space _).trans value_read) closed
      rw [skipBlank_blanks gap, quoted, skipBlank_of_visible (by decide)]
  | cons next fields ih =>
    obtain ⟨name, value⟩ := entry
    obtain ⟨first, later⟩ := List.forall_mem_cons.mp natural
    obtain ⟨read_first, read_later⟩ := List.forall_mem_cons.mp read
    dsimp only at first read_first
    have rest_longer : tail.length ≤ (layout.fieldsOnto level (next :: fields) tail).length :=
      layout.length_le_fieldsOnto
      (fun e member => layout.length_lt_onto (later e member) level) tail
    have longer := layout.length_lt_onto first level
      (',' :: layout.fieldsOnto level (next :: fields) tail)
    have named := length_quote name (':' :: (layout.space ++
      layout.onto level value (',' :: layout.fieldsOnto level (next :: fields) tail)))
    obtain ⟨body, quoted, string⟩ := stringBody_quote name (':' :: (layout.space ++
      layout.onto level value (',' :: layout.fieldsOnto level (next :: fields) tail)))
    rw [fieldsOnto_cons_cons] at deep fueled ⊢
    rw [List.length_cons, List.length_append] at named
    rw [List.length_append] at deep fueled
    rw [List.length_cons] at longer
    cases fuel with
    | zero => omega
    | succ fuel =>
      have value_read := read_first (',' :: layout.fieldsOnto level (next :: fields) tail) depth
        fuel (endsNumber_comma _) (by rw [List.length_cons]; omega)
        (by rw [List.length_cons]; omega)
      refine fields_more ?_ string ((value_blanks space _).trans value_read)
        (skipBlank_of_visible (by decide) _) (ih later read_later (by omega) (by omega))
      rw [skipBlank_blanks gap, quoted, skipBlank_of_visible (by decide)]

end Items

private theorem exists_itemsOnto_eq {item : Json} (natural : item.Natural) (items : List Json)
    (level : Nat) (tail : List Char) :
    ∃ c text, skipBlank (layout.itemsOnto level (item :: items) tail) = c :: text ∧ c ≠ ']' := by
  have gap := layout.blank_gap level
  have begins (rest : List Char) : ∃ c text,
      skipBlank (layout.gap level ++ layout.onto level item rest) = c :: text ∧ c ≠ ']' := by
    obtain ⟨c, text, written, visible, other⟩ := layout.exists_onto_eq_cons natural level rest
    exact ⟨c, text, by rw [skipBlank_blanks gap, written, skipBlank_of_visible visible], other⟩
  cases items with
  | nil => simpa only [itemsOnto] using begins tail
  | cons next items =>
    rw [itemsOnto_cons_cons]
    exact begins _

private theorem exists_fieldsOnto_eq (entry : String × Json) (fields : List (String × Json))
    (level : Nat) (tail : List Char) :
    ∃ text, skipBlank (layout.fieldsOnto level (entry :: fields) tail) = '"' :: text := by
  have gap := layout.blank_gap level
  have begins (name : String) (rest : List Char) :
      ∃ text, skipBlank (layout.gap level ++ quote name rest) = '"' :: text :=
    ⟨_, by rw [skipBlank_blanks gap, quote, skipBlank_of_visible (by decide)]⟩
  obtain ⟨name, value⟩ := entry
  cases fields with
  | nil => simpa only [fieldsOnto] using begins name _
  | cons next fields =>
    rw [fieldsOnto_cons_cons]
    exact begins name _

private theorem readBack_of_succ {j : Json} (natural : j.Natural) {level : Nat}
    (read : ∀ (rest : List Char) (depth fuel : Nat), EndsNumber rest →
      (layout.onto level j rest).length ≤ depth + rest.length →
      2 * (layout.onto level j rest).length ≤ fuel + 1 + 2 * rest.length →
      Reader.value depth (fuel + 1) (layout.onto level j rest) = some (j, rest)) :
    layout.ReadBack level j := by
  intro rest depth fuel ends deep fueled
  have longer := layout.length_lt_onto natural level rest
  cases fuel with
  | zero => omega
  | succ fuel => exact read rest depth fuel ends deep fueled

private theorem value_number {d : Char} (digit : d.isDigit = true) (text : List Char)
    (depth fuel : Nat) : Reader.value depth (fuel + 1) (d :: text) =
      (Reader.number (d :: text)).map fun (n, rest) => (.number n, rest) := by
  have visible : isBlank d = false := by
    cases blank : isBlank d with
    | false => rfl
    | true =>
      simp only [isBlank, Bool.or_eq_true, decide_eq_true_eq] at blank
      rcases blank with ((rfl | rfl) | rfl) | rfl <;> cases digit
  rw [Reader.value, skipBlank_of_visible visible]
  -- No digit begins a word, a string or a container.
  split <;> first | rfl | (rename_i written; cases (List.cons.inj written).1; cases digit)

/-- What closes a container ends a number, and is found behind the blanks in front of it. -/
private theorem closing {c : Char} (level : Nat) (rest : List Char) (visible : isBlank c = false)
    (ends : c.isDigit = false ∧ c ≠ '.' ∧ c ≠ 'e' ∧ c ≠ 'E') :
    EndsNumber (layout.gap level ++ c :: rest) ∧
      skipBlank (layout.gap level ++ c :: rest) = c :: rest := by
  have gap := layout.blank_gap level
  refine ⟨endsNumber_of_blanks gap (endsNumber_cons rest ends), ?_⟩
  rw [skipBlank_blanks gap, skipBlank_of_visible visible]

private theorem readBack_array {item : Json} {items : List Json}
    (natural : ∀ j ∈ item :: items, j.Natural)
    (read : ∀ j ∈ item :: items, ∀ level, layout.ReadBack level j) (level : Nat) :
    layout.ReadBack level (.array (item :: items)) := by
  refine layout.readBack_of_succ (.array natural) fun rest depth fuel ends deep fueled => ?_
  obtain ⟨tail_ends, tail_blank⟩ := layout.closing (c := ']') level rest (by decide) (by decide)
  obtain ⟨c, text, begins, other⟩ := layout.exists_itemsOnto_eq
    (natural item List.mem_cons_self) items (level + 1) (layout.gap level ++ ']' :: rest)
  have longer := layout.length_le_itemsOnto
    (fun j member => layout.length_lt_onto (natural j member) (level + 1))
    (layout.gap level ++ ']' :: rest)
  rw [onto] at deep fueled ⊢
  rw [List.length_cons] at deep fueled
  rw [List.length_append, List.length_cons] at longer
  refine value_array (by omega) begins other ?_
  exact layout.items_itemsOnto natural (fun j member => read j member (level + 1)) tail_ends
    tail_blank (by rw [List.length_append, List.length_cons]; omega)
    (by rw [List.length_append, List.length_cons]; omega)

private theorem readBack_object {entry : String × Json} {fields : List (String × Json)}
    (natural : ∀ e ∈ entry :: fields, e.2.Natural)
    (read : ∀ e ∈ entry :: fields, ∀ level, layout.ReadBack level e.2) (level : Nat) :
    layout.ReadBack level (.object (entry :: fields)) := by
  refine layout.readBack_of_succ (.object natural) fun rest depth fuel ends deep fueled => ?_
  obtain ⟨tail_ends, tail_blank⟩ := layout.closing (c := '\x7d') level rest (by decide) (by decide)
  obtain ⟨text, begins⟩ := layout.exists_fieldsOnto_eq entry fields (level + 1)
    (layout.gap level ++ '\x7d' :: rest)
  have longer := layout.length_le_fieldsOnto
    (fun e member => layout.length_lt_onto (natural e member) (level + 1))
    (layout.gap level ++ '\x7d' :: rest)
  rw [onto] at deep fueled ⊢
  rw [List.length_cons] at deep fueled
  rw [List.length_append, List.length_cons] at longer
  refine value_object (by omega) begins ?_
  exact layout.fields_fieldsOnto natural (fun e member => read e member (level + 1)) tail_ends
    tail_blank (by rw [List.length_append, List.length_cons]; omega)
    (by rw [List.length_append, List.length_cons]; omega)

theorem readBack {j : Json} (natural : j.Natural) (level : Nat) : layout.ReadBack level j := by
  induction natural generalizing level with
  | null =>
    refine layout.readBack_of_succ .null fun rest depth fuel ends deep fueled => ?_
    rw [onto, Reader.value, skipBlank_of_visible (by decide)]
    rfl
  | bool b =>
    refine layout.readBack_of_succ (.bool b) fun rest depth fuel ends deep fueled => ?_
    cases b <;>
    · rw [onto, Reader.value, skipBlank_of_visible (by decide)]
      rfl
  | nat n =>
    refine layout.readBack_of_succ (.nat n) fun rest depth fuel ends deep fueled => ?_
    have number := number_toDigits n ends
    rw [nat, onto, text_ofNat]
    cases written : Nat.toDigits 10 n with
    | nil => exact absurd written Nat.toDigits_ne_nil
    | cons d more =>
      have digit : d.isDigit = true := Nat.isDigit_of_mem_toDigits (by decide) (by decide)
        (written ▸ List.mem_cons_self : d ∈ Nat.toDigits 10 n)
      rw [written] at number
      rw [List.cons_append] at number ⊢
      rw [value_number digit, number]
      rfl
  | string s =>
    refine layout.readBack_of_succ (.string s) fun rest depth fuel ends deep fueled => ?_
    obtain ⟨body, quoted, read⟩ := stringBody_quote s rest
    rw [onto, quoted, Reader.value, skipBlank_of_visible (by decide)]
    simp [read]
  | @array items natural read =>
    cases items with
    | nil =>
      refine layout.readBack_of_succ (.array natural) fun rest depth fuel ends deep fueled => ?_
      have room : depth ≠ 0 := by
        simp only [onto, List.length_cons] at deep
        omega
      rw [onto, Reader.value, skipBlank_of_visible (by decide)]
      exact if_neg room
    | cons item items => exact layout.readBack_array natural read level
  | @object fields natural read =>
    cases fields with
    | nil =>
      refine layout.readBack_of_succ (.object natural) fun rest depth fuel ends deep fueled => ?_
      have room : depth ≠ 0 := by
        simp only [onto, List.length_cons] at deep
        omega
      rw [onto, Reader.value, skipBlank_of_visible (by decide)]
      exact if_neg room
    | cons entry fields => exact layout.readBack_object natural read level

end Layout

/-- A text that is printed for a tree in a layout is read as this tree, if containers may nest as deep as the
text is long. -/
theorem parse?_onto {j : Json} (natural : j.Natural) (layout : Layout) {depth : Nat}
    (deep : (layout.onto 0 j []).length ≤ depth) :
    parse? depth (String.ofList (layout.onto 0 j [])) = some j := by
  have ends : EndsNumber [] := by
    intro first member
    cases member
  have read := layout.readBack natural 0 [] depth (2 * (layout.onto 0 j []).length + 2) ends deep
    (by omega)
  unfold parse?
  rw [String.toList_ofList]
  change (Reader.value depth _ _ >>= fun result => _) = _
  rw [read]
  rfl

end LispHost.Json
