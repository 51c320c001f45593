import LispHost.Text.Digits
import Mathlib.Data.List.Forall2
import Mathlib.Data.Nat.Digits.Defs

/-!
Numbers and their digits.

Digits are taken from the right when a number is written, and from the left when it is read. In any radix up
to sixteen, what was written is read back. A text of digits, letters in either case, denotes the sum of its
digits by weight, however many zeros come first.
-/

set_option autoImplicit false

namespace LispHost.Text

variable {radix : Nat}

theorem digitValue?_digitChar (small : radix ≤ 16) {d : Nat} (digit : d < radix) :
    digitValue? radix d.digitChar = some d := by
  have values : ∀ d < 16, digitValue? 16 d.digitChar = some d := by decide
  have value := values d (by omega)
  rw [digitValue?, Option.filter_eq_some_iff] at value ⊢
  exact ⟨value.1, by simpa using digit⟩

theorem exists_digit_of_mem_toDigits (large : 1 < radix) {n : Nat} {c : Char}
    (member : c ∈ Nat.toDigits radix n) : ∃ d < radix, c = d.digitChar := by
  induction n using Nat.strongRecOn with
  | ind n ih =>
  by_cases last : n < radix
  · rw [Nat.toDigits_of_lt_base last, List.mem_singleton] at member
    exact ⟨n, last, member⟩
  · have more : radix ≤ n := by omega
    rw [Nat.toDigits_of_base_le large more, List.mem_append, List.mem_singleton] at member
    rcases member with front | back
    · exact ih (n / radix) (Nat.div_lt_self (by omega) large) front
    · exact ⟨n % radix, Nat.mod_lt n (by omega), back⟩

theorem radixNumber?_toDigits (large : 1 < radix) (small : radix ≤ 16) (n : Nat) :
    radixNumber? radix (Nat.toDigits radix n) = some n := by
  have read : (Nat.toDigits radix n).foldlM
      (fun acc c => (digitValue? radix c).map (acc * radix + ·)) 0 = some n := by
    induction n using Nat.strongRecOn with
    | ind n ih =>
    by_cases last : n < radix
    · rw [Nat.toDigits_of_lt_base last]
      simp [digitValue?_digitChar small last]
    · have more : radix ≤ n := by omega
      have value := digitValue?_digitChar small (Nat.mod_lt n (show 0 < radix by omega))
      rw [Nat.toDigits_of_base_le large more, List.foldlM_append,
        ih (n / radix) (Nat.div_lt_self (by omega) large)]
      simp only [Option.bind_eq_bind, Option.bind_some, List.foldlM_cons, value, Option.map_some,
        List.foldlM_nil]
      rw [Nat.mul_comm, Nat.div_add_mod]
      rfl
  rw [radixNumber?, if_neg (by simp [Nat.toDigits_ne_nil])]
  exact read

theorem head?_toDigits_ne_zero (large : 1 < radix) (small : radix ≤ 16) {n : Nat} (positive : 0 < n) :
    (Nat.toDigits radix n).head? ≠ some '0' := by
  have nonzero : ∀ d < 16, 0 < d → d.digitChar ≠ '0' := by decide
  induction n using Nat.strongRecOn with
  | ind n ih =>
  by_cases last : n < radix
  · rw [Nat.toDigits_of_lt_base last, List.head?_cons]
    intro zero
    exact nonzero n (by omega) positive (Option.some.inj zero)
  · have more : radix ≤ n := by omega
    have front := ih (n / radix) (Nat.div_lt_self positive large)
      (Nat.div_pos more (by omega))
    rw [Nat.toDigits_of_base_le large more, List.head?_append]
    cases first : (Nat.toDigits radix (n / radix)).head? with
    | none =>
      have empty := List.head?_eq_none_iff.mp first
      exact absurd empty Nat.toDigits_ne_nil
    | some c =>
      rw [first] at front
      simpa using front

theorem decimalNumber_toDigits (n : Nat) : decimalNumber (Nat.toDigits 10 n) = n := by
  have values : ∀ d < 10, d.digitChar.toNat - 48 = d := by decide
  induction n using Nat.strongRecOn with
  | ind n ih =>
  by_cases last : n < 10
  · rw [Nat.toDigits_of_lt_base last]
    simp [decimalNumber, values n last]
  · have more : 10 ≤ n := by omega
    have front := ih (n / 10) (Nat.div_lt_self (by omega) (by decide))
    unfold decimalNumber at front ⊢
    rw [Nat.toDigits_of_base_le (by decide) more, List.foldl_append, front, List.foldl_cons,
      List.foldl_nil, values _ (Nat.mod_lt n (by decide))]
    omega

/-! ### What digits denote -/

/-- A character is the digit of this value; a letter may be of either case. -/
def IsDigit (radix : Nat) (c : Char) (d : Nat) : Prop :=
  d < radix ∧ (c = d.digitChar ∨ c = d.digitChar.toUpper)

/-- Digits of a radix, the one of the greatest weight first, that sum up to this number. -/
def Denotes (radix : Nat) (digits : List Char) (n : Nat) : Prop :=
  ∃ values, List.Forall₂ (IsDigit radix) digits values ∧ Nat.ofDigits radix values.reverse = n

theorem digitValue?_eq_some_iff (small : radix ≤ 16) {c : Char} {d : Nat} :
    digitValue? radix c = some d ↔ IsDigit radix c d := by
  constructor
  · intro value
    obtain ⟨value, digit⟩ := Option.filter_eq_some_iff.mp value
    have digit : d < radix := of_decide_eq_true digit
    have spelled {base : Nat} (number : c.toNat = d + base) : c = Char.ofNat (d + base) := by
      rw [← number, Char.ofNat_toNat]
    refine ⟨digit, ?_⟩
    split_ifs at value with decimal lower upper
    · have least : 48 ≤ c.toNat := decimal.1
      have most : c.toNat ≤ 57 := decimal.2
      have value := Option.some.inj value
      have chars : ∀ d < 10, Char.ofNat (d + 48) = d.digitChar := by decide
      exact .inl ((spelled (by omega)).trans (chars d (by omega)))
    · have least : 97 ≤ c.toNat := lower.1
      have value := Option.some.inj value
      have chars : ∀ d < 16, 10 ≤ d → Char.ofNat (d + 87) = d.digitChar := by decide
      exact .inl ((spelled (by omega)).trans (chars d (by omega) (by omega)))
    · have least : 65 ≤ c.toNat := upper.1
      have value := Option.some.inj value
      have chars : ∀ d < 16, 10 ≤ d → Char.ofNat (d + 55) = d.digitChar.toUpper := by decide
      exact .inr ((spelled (by omega)).trans (chars d (by omega) (by omega)))
  · rintro ⟨digit, rfl | rfl⟩
    · exact digitValue?_digitChar small digit
    · have values : ∀ d < 16, digitValue? 16 d.digitChar.toUpper = some d := by decide
      have value := values d (by omega)
      rw [digitValue?, Option.filter_eq_some_iff] at value ⊢
      exact ⟨value.1, by simpa using digit⟩

theorem IsDigit.unique (small : radix ≤ 16) {c : Char} {d d' : Nat} (digit : IsDigit radix c d)
    (digit' : IsDigit radix c d') : d = d' := by
  rw [← digitValue?_eq_some_iff small] at digit digit'
  exact Option.some.inj (digit.symm.trans digit')

theorem isDigit_digitChar {d : Nat} (digit : d < radix) : IsDigit radix d.digitChar d :=
  ⟨digit, .inl rfl⟩

theorem denotes_nil : Denotes radix [] 0 :=
  ⟨[], .nil, rfl⟩

theorem Denotes.snoc {digits : List Char} {n d : Nat} {c : Char} (denotes : Denotes radix digits n)
    (digit : IsDigit radix c d) : Denotes radix (digits ++ [c]) (n * radix + d) := by
  obtain ⟨values, digits_eq, rfl⟩ := denotes
  refine ⟨values ++ [d], List.rel_append digits_eq (.cons digit .nil), ?_⟩
  rw [List.reverse_append, List.reverse_singleton, List.singleton_append, Nat.ofDigits_cons,
    Nat.mul_comm, Nat.add_comm]

theorem Denotes.zeros {digits : List Char} {n : Nat} (denotes : Denotes radix digits n)
    (positive : 0 < radix) (count : Nat) :
    Denotes radix (List.replicate count '0' ++ digits) n := by
  obtain ⟨values, digits_eq, rfl⟩ := denotes
  have zeros : List.Forall₂ (IsDigit radix) (List.replicate count '0') (List.replicate count 0) := by
    induction count with
    | zero => exact .nil
    | succ count ih => exact .cons (isDigit_digitChar positive) ih
  refine ⟨List.replicate count 0 ++ values, List.rel_append zeros digits_eq, ?_⟩
  rw [List.reverse_append, List.reverse_replicate, Nat.ofDigits_append_replicate_zero]

theorem denotes_toDigits (large : 1 < radix) (n : Nat) : Denotes radix (Nat.toDigits radix n) n := by
  induction n using Nat.strongRecOn with
  | ind n ih =>
  by_cases last : n < radix
  · have one := denotes_nil.snoc (isDigit_digitChar last)
    rw [Nat.toDigits_of_lt_base last]
    simpa using one
  · have more : radix ≤ n := by omega
    have front := ih (n / radix) (Nat.div_lt_self (by omega) large)
    have whole := front.snoc (isDigit_digitChar (Nat.mod_lt n (by omega)))
    rw [Nat.mul_comm, Nat.div_add_mod] at whole
    rwa [Nat.toDigits_of_base_le large more]

end LispHost.Text
