import LispHost.Proofs.Text.Digits
import LispHost.Word.Reader
import Mathlib.Data.List.DropRight

/-!
Words as people write them.

White space around a text does not count. What is left asks for a radix, and without its underscores it is read
digit by digit. It is a word if and only if it is a numeral, digits after at most one plus sign, of a number below
`2 ^ 32`. Otherwise it is empty, or some of its digits from the left already denote a number that is too large, or
it has a character that is no digit of the radix before that can happen. The decimal text of a word and its padded
hexadecimal text are read back.
-/

set_option autoImplicit false

namespace LispHost

namespace Text

private theorem head?_dropWhile_isBlank (s : List Char) :
    ∀ c ∈ (s.dropWhile isBlank).head?, isBlank c = false := by
  intro c first
  have visible := List.head?_dropWhile_not isBlank s
  rw [Option.mem_def.mp first] at visible
  exact visible

theorem trim_spec (text : String) :
    ∃ before after : List Char, text.toList = before ++ (trim text).toList ++ after ∧
      (∀ c ∈ before, isBlank c = true) ∧ (∀ c ∈ after, isBlank c = true) ∧
      (∀ c ∈ (trim text).toList.head?, isBlank c = false) ∧
      ∀ c ∈ (trim text).toList.getLast?, isBlank c = false := by
  have blank (s : List Char) : ∀ c ∈ s.takeWhile isBlank, isBlank c = true :=
    fun _ member => List.mem_takeWhile_imp member
  have kept : (trim text).toList = trimRight (trimLeft text.toList) := String.toList_ofList
  have split : trimLeft text.toList = trimRight (trimLeft text.toList) ++
      ((trimLeft text.toList).reverse.takeWhile isBlank).reverse := by
    rw [trimRight, ← List.reverse_append, List.takeWhile_append_dropWhile, List.reverse_reverse]
  refine ⟨text.toList.takeWhile isBlank, ((trimLeft text.toList).reverse.takeWhile isBlank).reverse,
    ?_, blank text.toList, ?_, ?_, ?_⟩
  · rw [kept, List.append_assoc, ← split, trimLeft, List.takeWhile_append_dropWhile]
  · intro c member
    exact blank _ c (List.mem_reverse.mp member)
  · intro c first
    apply head?_dropWhile_isBlank text.toList
    rw [← trimLeft, split, List.head?_append, ← kept, Option.mem_def.mp first]
    rfl
  · intro c last
    apply head?_dropWhile_isBlank (trimLeft text.toList).reverse
    rwa [kept, trimRight, List.getLast?_reverse] at last

theorem trim_of_visible {s : List Char} (visible : ∀ c ∈ s, isBlank c = false) :
    trim (String.ofList s) = String.ofList s := by
  have solid {s : List Char} (visible : ∀ c ∈ s, isBlank c = false) : s.dropWhile isBlank = s := by
    cases s with
    | nil => rfl
    | cons c rest => rw [List.dropWhile_cons, visible c (List.mem_cons_self ..)]; rfl
  rw [trim, String.toList_ofList, trimLeft, solid visible, trimRight,
    solid fun c member => visible c (List.mem_reverse.mp member), List.reverse_reverse]

end Text

namespace Word

open Text (IsDigit Denotes digitValue?_eq_some_iff)

variable {bound radix acc : Nat} {s : List Char}

/-- The number that digits denote after a number that has been read. -/
def Continues (radix acc : Nat) (digits : List Char) (n : Nat) : Prop :=
  ∃ values, List.Forall₂ (IsDigit radix) digits values ∧
    Nat.ofDigits radix (values.reverse ++ [acc]) = n

theorem continues_zero_iff {digits : List Char} {n : Nat} :
    Continues radix 0 digits n ↔ Denotes radix digits n := by
  simp only [Continues, Denotes, Nat.ofDigits_append_zero]

theorem continues_nil_iff {n : Nat} : Continues radix acc [] n ↔ acc = n := by
  simp [Continues]

theorem continues_cons_iff (small : radix ≤ 16) {c : Char} {digits : List Char} {n d : Nat}
    (digit : IsDigit radix c d) :
    Continues radix acc (c :: digits) n ↔ Continues radix (acc * radix + d) digits n := by
  have weigh (values : List Nat) : Nat.ofDigits radix ((d :: values).reverse ++ [acc]) =
      Nat.ofDigits radix (values.reverse ++ [acc * radix + d]) := by
    simp only [List.reverse_cons, List.append_assoc, Nat.ofDigits_append, List.singleton_append,
      Nat.ofDigits_cons]
    rw [Nat.mul_comm acc, Nat.add_comm (radix * acc)]
    rfl
  constructor
  · rintro ⟨values, digits_eq, number⟩
    obtain ⟨d', rest, digit', rest_eq, rfl⟩ := List.forall₂_cons_left_iff.mp digits_eq
    obtain rfl := digit.unique small digit'
    exact ⟨rest, rest_eq, (weigh rest).symm.trans number⟩
  · rintro ⟨rest, rest_eq, number⟩
    exact ⟨d :: rest, .cons digit rest_eq, (weigh rest).trans number⟩

theorem Continues.le {digits : List Char} {n : Nat} (positive : 0 < radix)
    (continues : Continues radix acc digits n) : acc ≤ n := by
  obtain ⟨values, -, rfl⟩ := continues
  rw [Nat.ofDigits_append, Nat.ofDigits_singleton]
  have weight : 0 < radix ^ values.reverse.length := Nat.pow_pos positive
  have grown : acc ≤ radix ^ values.reverse.length * acc := Nat.le_mul_of_pos_left acc weight
  omega

theorem Continues.exists_digit {c : Char} {digits : List Char} {n : Nat}
    (continues : Continues radix acc (c :: digits) n) : ∃ d, IsDigit radix c d := by
  obtain ⟨values, digits_eq, -⟩ := continues
  obtain ⟨d, rest, digit, -, -⟩ := List.forall₂_cons_left_iff.mp digits_eq
  exact ⟨d, digit⟩

/-! ### Digits read from the left -/

theorem readDigits_of_digit (small : radix ≤ 16) {c : Char} {rest : List Char} {d : Nat}
    (digit : IsDigit radix c d) : readDigits bound radix acc (c :: rest) =
      if bound ≤ acc * radix + d then .error .tooLarge
      else readDigits bound radix (acc * radix + d) rest := by
  rw [readDigits, (digitValue?_eq_some_iff small).mpr digit]

theorem readDigits_of_no_digit (small : radix ≤ 16) {c : Char} {rest : List Char}
    (no_digit : ∀ d, ¬ IsDigit radix c d) :
    readDigits bound radix acc (c :: rest) = .error .badDigit := by
  have value : Text.digitValue? radix c = none := by
    apply Option.eq_none_iff_forall_ne_some.mpr
    intro d found
    exact no_digit d ((digitValue?_eq_some_iff small).mp found)
  rw [readDigits, value]

theorem readDigits_eq_ok_iff (positive : 0 < radix) (small : radix ≤ 16) (below : acc < bound)
    {n : Nat} : readDigits bound radix acc s = .ok n ↔ Continues radix acc s n ∧ n < bound := by
  induction s generalizing acc with
  | nil =>
    rw [readDigits, continues_nil_iff, Except.ok.injEq]
    exact ⟨fun same => ⟨same, same ▸ below⟩, fun both => both.1⟩
  | cons c rest ih =>
    by_cases digit : ∃ d, IsDigit radix c d
    · obtain ⟨d, digit⟩ := digit
      rw [readDigits_of_digit small digit, continues_cons_iff small digit]
      by_cases large : bound ≤ acc * radix + d
      · rw [if_pos large]
        constructor
        · intro read
          cases read
        · rintro ⟨continues, n_lt⟩
          have least := continues.le positive
          omega
      · rw [if_neg large]
        exact ih (Nat.not_le.mp large)
    · rw [readDigits_of_no_digit small (not_exists.mp digit)]
      constructor
      · intro read
        cases read
      · intro both
        exact absurd both.1.exists_digit digit

/-- Digits are too many as soon as those from the left denote a number that is too large. -/
theorem readDigits_eq_tooLarge_iff (small : radix ≤ 16) (below : acc < bound) :
    readDigits bound radix acc s = .error .tooLarge ↔
      ∃ front n, front <+: s ∧ Continues radix acc front n ∧ bound ≤ n := by
  have never {n : Nat} (continues : Continues radix acc [] n) (large : bound ≤ n) : False := by
    have same := continues_nil_iff.mp continues
    omega
  induction s generalizing acc with
  | nil =>
    constructor
    · intro read
      cases read
    · rintro ⟨front, n, start, continues, large⟩
      obtain rfl := List.prefix_nil.mp start
      exact (never continues large).elim
  | cons c rest ih =>
    by_cases digit : ∃ d, IsDigit radix c d
    · obtain ⟨d, digit⟩ := digit
      have shorter : (∃ front n, front <+: c :: rest ∧ Continues radix acc front n ∧ bound ≤ n) ↔
          ∃ front n, front <+: rest ∧ Continues radix (acc * radix + d) front n ∧ bound ≤ n := by
        constructor
        · rintro ⟨front, n, start, continues, large⟩
          cases front with
          | nil => exact (never continues large).elim
          | cons c' front =>
            obtain ⟨rfl, later⟩ := List.cons_prefix_cons.mp start
            exact ⟨front, n, later, (continues_cons_iff small digit).mp continues, large⟩
        · rintro ⟨front, n, start, continues, large⟩
          exact ⟨c :: front, n, List.cons_prefix_cons.mpr ⟨rfl, start⟩,
            (continues_cons_iff small digit).mpr continues, large⟩
      rw [readDigits_of_digit small digit, shorter]
      by_cases large : bound ≤ acc * radix + d
      · rw [if_pos large]
        exact ⟨fun _ => ⟨[], _, List.nil_prefix, continues_nil_iff.mpr rfl, large⟩, fun _ => rfl⟩
      · rw [if_neg large]
        have below : acc * radix + d < bound := Nat.not_le.mp large
        refine ih below fun continues large => ?_
        have same := continues_nil_iff.mp continues
        omega
    · rw [readDigits_of_no_digit small (not_exists.mp digit)]
      constructor
      · intro read
        cases read
      · rintro ⟨front, n, start, continues, large⟩
        cases front with
        | nil => exact (never continues large).elim
        | cons c' front =>
          obtain ⟨rfl, -⟩ := List.cons_prefix_cons.mp start
          exact absurd continues.exists_digit digit

theorem readDigits_ne_empty (small : radix ≤ 16) :
    readDigits bound radix acc s ≠ .error .empty := by
  induction s generalizing acc with
  | nil => exact fun read => nomatch read
  | cons c rest ih =>
    by_cases digit : ∃ d, IsDigit radix c d
    · obtain ⟨d, digit⟩ := digit
      rw [readDigits_of_digit small digit]
      split
      · exact fun read => nomatch read
      · exact ih
    · rw [readDigits_of_no_digit small (not_exists.mp digit)]
      exact fun read => nomatch read

/-! ### Numerals -/

/-- A text without the plus sign that it may begin with. -/
def unsigned : List Char → List Char
  | '+' :: rest => rest
  | s => s

/-- At most one plus sign, and then one or more digits of a radix that denote the number. -/
def Numeral (radix : Nat) (s : List Char) (n : Nat) : Prop :=
  ∃ digits, (s = digits ∨ s = '+' :: digits) ∧ digits ≠ [] ∧ Denotes radix digits n

/-- Some of the digits from the left denote a number that is too large. -/
def TooLarge (bound radix : Nat) (digits : List Char) : Prop :=
  ∃ front n, front <+: digits ∧ Denotes radix front n ∧ bound ≤ n

theorem not_isDigit_plus (small : radix ≤ 16) (d : Nat) : ¬ IsDigit radix '+' d := by
  rintro ⟨digit, same⟩
  have different : ∀ d < 16, ¬ ('+' = d.digitChar ∨ '+' = d.digitChar.toUpper) := by decide
  exact different d (by omega) same

theorem numeral_iff (small : radix ≤ 16) {n : Nat} :
    Numeral radix s n ↔ unsigned s ≠ [] ∧ Denotes radix (unsigned s) n := by
  constructor
  · rintro ⟨digits, rfl | rfl, some_digit, denotes⟩
    · have same : unsigned s = s := by
        rw [unsigned.eq_def]
        split
        · rename_i rest
          obtain ⟨d, digit⟩ := (continues_zero_iff.mpr denotes).exists_digit
          exact absurd digit (not_isDigit_plus small d)
        · rfl
      rw [same]
      exact ⟨some_digit, denotes⟩
    · exact ⟨some_digit, denotes⟩
  · rintro ⟨some_digit, denotes⟩
    refine ⟨unsigned s, ?_, some_digit, denotes⟩
    rw [unsigned.eq_def]
    split
    · exact .inr rfl
    · exact .inl rfl

theorem readNumber_of_bare (bare : unsigned s = []) :
    readNumber bound radix s = .error (if s = [] then .empty else .badDigit) := by
  rw [unsigned.eq_def] at bare
  split at bare
  · subst bare
    rfl
  · subst bare
    rfl

theorem readNumber_of_digits (some_digit : unsigned s ≠ []) :
    readNumber bound radix s = readDigits bound radix 0 (unsigned s) := by
  rw [unsigned.eq_def] at some_digit ⊢
  rw [readNumber.eq_def]
  split
  · exact absurd rfl some_digit
  · exact absurd rfl some_digit
  · rfl
  · split
    · rename_i unmarked
      exact (unmarked _ rfl).elim
    · rfl

theorem readNumber_eq_ok_iff (positive : 0 < radix) (small : radix ≤ 16) (room : 0 < bound) {n : Nat} :
    readNumber bound radix s = .ok n ↔ Numeral radix s n ∧ n < bound := by
  rw [numeral_iff small, ← continues_zero_iff]
  by_cases bare : unsigned s = []
  · rw [readNumber_of_bare bare]
    exact ⟨fun read => (nomatch read), fun all => absurd bare all.1.1⟩
  · rw [readNumber_of_digits bare, readDigits_eq_ok_iff positive small room, and_assoc]
    exact (and_iff_right bare).symm

theorem readNumber_eq_empty_iff (small : radix ≤ 16) :
    readNumber bound radix s = .error .empty ↔ s = [] := by
  constructor
  · intro read
    by_cases bare : unsigned s = []
    · rw [readNumber_of_bare bare] at read
      by_contra some_char
      rw [if_neg some_char] at read
      cases read
    · rw [readNumber_of_digits bare] at read
      exact absurd read (readDigits_ne_empty small)
  · rintro rfl
    rfl

theorem readNumber_eq_tooLarge_iff (small : radix ≤ 16) (room : 0 < bound) :
    readNumber bound radix s = .error .tooLarge ↔ TooLarge bound radix (unsigned s) := by
  simp only [TooLarge, ← continues_zero_iff]
  by_cases bare : unsigned s = []
  · rw [readNumber_of_bare bare, bare, ← readDigits_eq_tooLarge_iff small room]
    constructor
    · intro read
      split at read <;> cases read
    · intro read
      cases read
  · rw [readNumber_of_digits bare, readDigits_eq_tooLarge_iff small room]

/-! ### Whole texts -/

def Hexadecimal (s : List Char) : Prop :=
  ['0', 'x'] <+: s ∨ ['0', 'X'] <+: s

instance (s : List Char) : Decidable (Hexadecimal s) :=
  inferInstanceAs (Decidable (_ ∨ _))

def radixOf (s : List Char) : Nat :=
  if Hexadecimal s then 16 else 10

/-- What a text has after its radix mark, without underscores. -/
def bodyOf (s : List Char) : List Char :=
  (if Hexadecimal s then s.drop 2 else s).filter (· ≠ '_')

theorem radixOf_bounds (s : List Char) : 1 < radixOf s ∧ radixOf s ≤ 16 := by
  rw [radixOf]
  split <;> decide

theorem ofChars_eq (s : List Char) :
    ofChars s = (readNumber wordCount (radixOf s) (bodyOf s)).map UInt32.ofNat := by
  have split : splitRadix s = (radixOf s, if Hexadecimal s then s.drop 2 else s) := by
    rw [splitRadix.eq_def, radixOf]
    split
    · rfl
    · rfl
    · rename_i not_lower not_upper
      have decimal : ¬ Hexadecimal s := by
        rintro (⟨rest, rfl⟩ | ⟨rest, rfl⟩)
        · exact not_lower rest rfl
        · exact not_upper rest rfl
      rw [if_neg decimal, if_neg decimal]
  rw [ofChars, split]
  rfl

theorem parse_eq (text : String) :
    parse text =
      match readNumber wordCount (radixOf (Text.trim text).toList) (bodyOf (Text.trim text).toList) with
      | .ok n => .ok (UInt32.ofNat n)
      | .error fault => .error ⟨Text.trim text, fault⟩ := by
  simp only [parse, ofChars_eq]
  cases readNumber wordCount (radixOf (Text.trim text).toList) (bodyOf (Text.trim text).toList) <;> rfl

theorem parse_eq_ok_iff (text : String) {w : Word} :
    parse text = .ok w ↔
      Numeral (radixOf (Text.trim text).toList) (bodyOf (Text.trim text).toList) w.toNat := by
  rw [parse_eq]
  generalize (Text.trim text).toList = s
  obtain ⟨large, small⟩ := radixOf_bounds s
  have room : 0 < wordCount := by decide
  have accepted {n : Nat} : readNumber wordCount (radixOf s) (bodyOf s) = .ok n ↔
      Numeral (radixOf s) (bodyOf s) n ∧ n < wordCount :=
    readNumber_eq_ok_iff (Nat.lt_of_succ_lt large) small room
  constructor
  · intro read
    split at read
    · rename_i n numeral
      cases read
      obtain ⟨numeral, n_lt⟩ := accepted.mp numeral
      rwa [UInt32.toNat_ofNat_of_lt' n_lt]
    · cases read
  · intro numeral
    rw [accepted.mpr ⟨numeral, w.toNat_lt⟩]
    exact congrArg Except.ok (UInt32.ofNat_toNat ..)

theorem parse_eq_error_iff (text : String) {bad : BadText} :
    parse text = .error bad ↔ bad.text = Text.trim text ∧
      readNumber wordCount (radixOf (Text.trim text).toList) (bodyOf (Text.trim text).toList) =
        .error bad.fault := by
  rw [parse_eq]
  cases readNumber wordCount (radixOf (Text.trim text).toList) (bodyOf (Text.trim text).toList) with
  | ok n => simp
  | error fault =>
    cases bad
    simp [eq_comm]

theorem parse_ofList {s : List Char} (visible : ∀ c ∈ s, Text.isBlank c = false) {w : Word} :
    parse (String.ofList s) = .ok w ↔ Numeral (radixOf s) (bodyOf s) w.toNat := by
  rw [parse_eq_ok_iff, Text.trim_of_visible visible, String.toList_ofList]

private theorem plain_of_mem_toDigits {radix n : Nat} {c : Char} (large : 1 < radix) (small : radix ≤ 16)
    (member : c ∈ Nat.toDigits radix n) :
    Text.isBlank c = false ∧ c ≠ '_' ∧ c ≠ 'x' ∧ c ≠ 'X' := by
  obtain ⟨d, digit, rfl⟩ := Text.exists_digit_of_mem_toDigits large member
  have plain : ∀ d < 16, Text.isBlank d.digitChar = false ∧ d.digitChar ≠ '_' ∧
      d.digitChar ≠ 'x' ∧ d.digitChar ≠ 'X' := by decide
  exact plain d (by omega)

private theorem numeral_of_denotes {digits : List Char} {n : Nat} (some_digit : digits ≠ [])
    (denotes : Denotes radix digits n) : Numeral radix digits n :=
  ⟨digits, .inl rfl, some_digit, denotes⟩

theorem parse_decimal (w : Word) : parse w.decimal = .ok w := by
  have plain {c : Char} (member : c ∈ Nat.toDigits 10 w.toNat) :=
    plain_of_mem_toDigits (by decide) (by decide) member
  have decimal : ¬ Hexadecimal (Nat.toDigits 10 w.toNat) := by
    rintro (start | start)
    · exact (plain (start.subset (List.mem_cons_of_mem _ (List.mem_cons_self ..)))).2.2.1 rfl
    · exact (plain (start.subset (List.mem_cons_of_mem _ (List.mem_cons_self ..)))).2.2.2 rfl
  have body : bodyOf (Nat.toDigits 10 w.toNat) = Nat.toDigits 10 w.toNat := by
    rw [bodyOf, if_neg decimal, List.filter_eq_self]
    intro c member
    exact decide_eq_true (plain member).2.1
  refine (parse_ofList fun c member => (plain member).1).mpr ?_
  rw [radixOf, if_neg decimal, body]
  exact numeral_of_denotes Nat.toDigits_ne_nil (Text.denotes_toDigits (by decide) w.toNat)

theorem parse_padded (w : Word) : parse w.padded = .ok w := by
  obtain ⟨count, padded⟩ : ∃ count, w.padded =
      String.ofList ('0' :: 'x' :: (List.replicate count '0' ++ Nat.toDigits 16 w.toNat)) := ⟨_, rfl⟩
  have plain : ∀ c ∈ List.replicate count '0' ++ Nat.toDigits 16 w.toNat,
      Text.isBlank c = false ∧ c ≠ '_' := by
    intro c member
    rcases List.mem_append.mp member with zero | digit
    · rw [List.eq_of_mem_replicate zero]
      decide
    · have all := plain_of_mem_toDigits (by decide) (by decide) digit
      exact ⟨all.1, all.2.1⟩
  have visible : ∀ c ∈ '0' :: 'x' :: (List.replicate count '0' ++ Nat.toDigits 16 w.toNat),
      Text.isBlank c = false := by
    intro c member
    rcases List.mem_cons.mp member with rfl | member
    · decide
    · rcases List.mem_cons.mp member with rfl | member
      · decide
      · exact (plain c member).1
  have hexadecimal :
      Hexadecimal ('0' :: 'x' :: (List.replicate count '0' ++ Nat.toDigits 16 w.toNat)) :=
    .inl ⟨_, rfl⟩
  have body : bodyOf ('0' :: 'x' :: (List.replicate count '0' ++ Nat.toDigits 16 w.toNat)) =
      List.replicate count '0' ++ Nat.toDigits 16 w.toNat := by
    rw [bodyOf, if_pos hexadecimal, List.filter_eq_self.mpr]
    · rfl
    · intro c member
      exact decide_eq_true (plain c member).2
  rw [padded, parse_ofList visible, radixOf, if_pos hexadecimal, body]
  have denotes := Text.denotes_toDigits (show 1 < 16 by decide) w.toNat
  refine numeral_of_denotes ?_ (denotes.zeros (by decide) count)
  exact List.append_ne_nil_of_right_ne_nil _ Nat.toDigits_ne_nil

/-- Every text, without the white space around it, asks for a radix, sixteen after `0x` or `0X` and ten otherwise,
and what it has besides, without underscores, is read as a word if and only if it is a numeral of a number below
`2 ^ 32` in that radix. It fails as empty if and only if nothing is left to read, as too large if and only if some
digits from the left, after the sign, already denote `2 ^ 32` or more, and as a bad digit in all other cases. So
the decimal text and the padded hexadecimal text of every word are read back. -/
theorem parse_exact (text : String) :
    let s := (Text.trim text).toList
    let body := bodyOf s
    (∃ before after : List Char, text.toList = before ++ s ++ after ∧
      (∀ c ∈ before, Text.isBlank c = true) ∧ (∀ c ∈ after, Text.isBlank c = true) ∧
      (∀ c ∈ s.head?, Text.isBlank c = false) ∧ ∀ c ∈ s.getLast?, Text.isBlank c = false) ∧
    (∀ n, (∃ w : Word, w.toNat = n ∧ parse text = .ok w) ↔
      Numeral (radixOf s) body n ∧ n < wordCount) ∧
    (parse text = .error ⟨Text.trim text, .empty⟩ ↔ body = []) ∧
    (parse text = .error ⟨Text.trim text, .tooLarge⟩ ↔
      TooLarge wordCount (radixOf s) (unsigned body)) ∧
    (parse text = .error ⟨Text.trim text, .badDigit⟩ ↔
      (¬ ∃ n, Numeral (radixOf s) body n ∧ n < wordCount) ∧ body ≠ [] ∧
        ¬ TooLarge wordCount (radixOf s) (unsigned body)) ∧
    (∀ bad, parse text = .error bad → bad.text = Text.trim text) ∧
    ∀ w : Word, parse w.decimal = .ok w ∧ parse w.padded = .ok w := by
  intro s body
  obtain ⟨-, small⟩ := radixOf_bounds s
  have accepted : ∀ n, (∃ w : Word, w.toNat = n ∧ parse text = .ok w) ↔
      Numeral (radixOf s) body n ∧ n < wordCount := by
    intro n
    constructor
    · rintro ⟨w, rfl, read⟩
      exact ⟨(parse_eq_ok_iff text).mp read, w.toNat_lt⟩
    · rintro ⟨numeral, n_lt⟩
      have same : (UInt32.ofNat n).toNat = n := UInt32.toNat_ofNat_of_lt' n_lt
      exact ⟨UInt32.ofNat n, same, (parse_eq_ok_iff text).mpr (same.symm ▸ numeral)⟩
  have empty : parse text = .error ⟨Text.trim text, .empty⟩ ↔ body = [] := by
    rw [parse_eq_error_iff, and_iff_right rfl]
    exact readNumber_eq_empty_iff small
  have tooLarge : parse text = .error ⟨Text.trim text, .tooLarge⟩ ↔
      TooLarge wordCount (radixOf s) (unsigned body) := by
    rw [parse_eq_error_iff, and_iff_right rfl]
    exact readNumber_eq_tooLarge_iff small (by decide)
  have named : ∀ bad, parse text = .error bad → bad.text = Text.trim text :=
    fun bad failed => ((parse_eq_error_iff text).mp failed).1
  refine ⟨Text.trim_spec text, accepted, empty, tooLarge, ?_, named,
    fun w => ⟨parse_decimal w, parse_padded w⟩⟩
  rw [ne_eq, ← empty, ← tooLarge]
  simp only [← accepted]
  constructor
  · intro failed
    rw [failed]
    simp
  · rintro ⟨unread, some_char, not_large⟩
    cases result : parse text with
    | ok w => exact absurd ⟨w.toNat, w, rfl, result⟩ unread
    | error bad =>
      obtain ⟨trimmed, fault⟩ := bad
      obtain rfl := named _ result
      cases fault with
      | empty => exact absurd result some_char
      | tooLarge => exact absurd result not_large
      | badDigit => rfl

/-- The sign stands after the radix mark, and a text that is already too large has no bad digit any more. -/
theorem parse_exact_signedHex :
    parse "\u3000 0X+1_f\n" = .ok 31 ∧
      parse "42949672960z" = .error ⟨"42949672960z", .tooLarge⟩ ∧
      parse " 0x_" = .error ⟨"0x_", .empty⟩ := by
  refine ⟨?_, ?_, ?_⟩
  · obtain ⟨-, accepted, -⟩ := parse_exact "\u3000 0X+1_f\n"
    have radix : radixOf (Text.trim "\u3000 0X+1_f\n").toList = 16 := by decide +kernel
    have body : bodyOf (Text.trim "\u3000 0X+1_f\n").toList = ['+', '1', 'f'] := by decide +kernel
    have denotes : Denotes 16 ['1', 'f'] 31 := Text.denotes_toDigits (by decide) 31
    have numeral : Numeral 16 ['+', '1', 'f'] 31 := ⟨['1', 'f'], .inr rfl, by decide, denotes⟩
    rw [radix, body] at accepted
    obtain ⟨w, value, read⟩ := (accepted 31).mpr ⟨numeral, by decide⟩
    rw [read, UInt32.toNat_inj.mp (show w.toNat = (31 : Word).toNat from value)]
  · obtain ⟨-, -, -, tooLarge, -⟩ := parse_exact "42949672960z"
    have trimmed : Text.trim "42949672960z" = "42949672960z" := by decide +kernel
    have digits : unsigned (bodyOf "42949672960z".toList) = Nat.toDigits 10 42949672960 ++ ['z'] := by
      decide +kernel
    have denotes := Text.denotes_toDigits (show 1 < 10 by decide) 42949672960
    rw [trimmed, digits] at tooLarge
    exact tooLarge.mpr ⟨_, _, List.prefix_append _ _, denotes, by decide⟩
  · obtain ⟨-, -, empty, -⟩ := parse_exact " 0x_"
    have trimmed : Text.trim " 0x_" = "0x_" := by decide +kernel
    rw [trimmed] at empty
    exact empty.mpr (by decide +kernel)

end Word

end LispHost
