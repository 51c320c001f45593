import LispHost.Text.Utf8

/-!
The bytes of a text.

The encoder computes the bytes of a character by shifts and remainders. They are the bytes in which strings
are stored, so the length and the bytes of an encoded text are those of the string itself. The decoder reads
them back one character after the other, whatever follows, so every text survives its encoding.
-/

set_option autoImplicit false

namespace LispHost.Text.Utf8

theorem encodeChar_eq (c : Char) : encodeChar c = String.utf8EncodeChar c := by
  have same : c.val.toNat = c.toNat := rfl
  have bound : c.toNat < 0x110000 := by
    have valid := c.valid
    simp only [UInt32.isValidChar, Nat.isValidChar, same] at valid
    omega
  simp only [encodeChar, String.utf8EncodeChar, same, Nat.shiftRight_eq_div_pow, Nat.mul_zero,
    Nat.mul_one, Nat.reduceMul, Nat.reducePow, Nat.div_one, Nat.add_comm (_ % _),
    ← Nat.lt_succ_iff, Nat.succ_eq_add_one, Nat.reduceAdd]
  -- Both sides split at the same bounds; they differ in remainders that leave the first byte as it is.
  by_cases one : c.toNat < 0x80
  · rw [if_pos one, if_pos one]
  · by_cases two : c.toNat < 0x800
    · have first : c.toNat / 64 % 32 = c.toNat / 64 := Nat.mod_eq_of_lt (by omega)
      rw [if_neg one, if_neg one, if_pos two, if_pos two, first]
    · by_cases three : c.toNat < 0x10000
      · have first : c.toNat / 4096 % 16 = c.toNat / 4096 := Nat.mod_eq_of_lt (by omega)
        rw [if_neg one, if_neg one, if_neg two, if_neg two, if_pos three, if_pos three, first]
      · have first : c.toNat / 262144 % 8 = c.toNat / 262144 := Nat.mod_eq_of_lt (by omega)
        rw [if_neg one, if_neg one, if_neg two, if_neg two, if_neg three, if_neg three, first]

theorem encode_eq (s : String) : encode s = s.toByteArray.data.toList := by
  have chars : encodeChar = String.utf8EncodeChar := funext encodeChar_eq
  rw [encode, chars, ← String.utf8Encode_toList, List.utf8Encode, List.data_toByteArray]

/-! ### Bytes read back -/

theorem eventsFrom_cons (s : State) (b : UInt8) (rest : List UInt8) :
    eventsFrom s (b :: rest) = (s.feed b).1 ++ eventsFrom (s.feed b).2 rest := by
  cases s <;> rfl

theorem eventsFrom_opening {n need low high bits : Nat} (rest : List UInt8)
    (opens : start (UInt8.ofNat n) = ([], .within 1 need low high bits)) :
    eventsFrom .idle (UInt8.ofNat n :: rest) = eventsFrom (.within 1 need low high bits) rest := by
  rw [eventsFrom_cons, State.feed, opens]
  rfl

theorem eventsFrom_inner {seen need low high bits n : Nat} (rest : List UInt8) (byte : n < 256)
    (inside : low ≤ n ∧ n ≤ high) (more : ¬need ≤ 1) :
    eventsFrom (.within seen need low high bits) (UInt8.ofNat n :: rest) =
      eventsFrom (.within (seen + 1) (need - 1) 0x80 0xBF (bits * 64 + (n - 0x80))) rest := by
  have value : (UInt8.ofNat n).toNat = n := UInt8.toNat_ofNat_of_lt' byte
  rw [eventsFrom_cons, State.feed, value, if_pos inside, if_neg more]
  rfl

theorem eventsFrom_last {seen low high bits n : Nat} (rest : List UInt8) (byte : n < 256)
    (inside : low ≤ n ∧ n ≤ high) :
    eventsFrom (.within seen 1 low high bits) (UInt8.ofNat n :: rest) =
      .char (Char.ofNat (bits * 64 + (n - 0x80))) :: eventsFrom .idle rest := by
  have value : (UInt8.ofNat n).toNat = n := UInt8.toNat_ofNat_of_lt' byte
  rw [eventsFrom_cons, State.feed, value, if_pos inside, if_pos (Nat.le_refl 1)]
  rfl

/-- The first of three bytes. Two of them bound the second byte more tightly than the others. -/
private theorem start_of_three {n : Nat} (least : 0x800 ≤ n) (most : n < 0x10000)
    (no_surrogate : n < 0xD800 ∨ 0xDFFF < n) :
    ∃ low high,
      start (UInt8.ofNat (0xE0 + n / 4096)) = ([], .within 1 2 low high (n / 4096)) ∧
      low ≤ 0x80 + n / 64 % 64 ∧ 0x80 + n / 64 % 64 ≤ high := by
  have byte : (UInt8.ofNat (0xE0 + n / 4096)).toNat = 0xE0 + n / 4096 :=
    UInt8.toNat_ofNat_of_lt' (show _ < 256 by omega)
  rw [start, byte, if_neg (by omega), if_neg (by omega), if_neg (by omega)]
  by_cases lowest : n / 4096 = 0
  · exact ⟨0xA0, 0xBF, by rw [if_pos (by omega), lowest], by omega, by omega⟩
  · by_cases surrogate : n / 4096 = 13
    · refine ⟨0x80, 0x9F, ?_, by omega, by omega⟩
      rw [if_neg (by omega), if_pos (by omega), surrogate]
    · refine ⟨0x80, 0xBF, ?_, by omega, by omega⟩
      rw [if_neg (by omega), if_neg (by omega), if_pos (by omega), Nat.add_sub_cancel_left]

private theorem start_of_four {n : Nat} (least : 0x10000 ≤ n) (most : n < 0x110000) :
    ∃ low high,
      start (UInt8.ofNat (0xF0 + n / 262144)) = ([], .within 1 3 low high (n / 262144)) ∧
      low ≤ 0x80 + n / 4096 % 64 ∧ 0x80 + n / 4096 % 64 ≤ high := by
  have byte : (UInt8.ofNat (0xF0 + n / 262144)).toNat = 0xF0 + n / 262144 :=
    UInt8.toNat_ofNat_of_lt' (show _ < 256 by omega)
  rw [start, byte, if_neg (by omega), if_neg (by omega), if_neg (by omega),
    if_neg (by omega), if_neg (by omega), if_neg (by omega)]
  by_cases lowest : n / 262144 = 0
  · exact ⟨0x90, 0xBF, by rw [if_pos (by omega), lowest], by omega, by omega⟩
  · by_cases highest : n / 262144 = 4
    · refine ⟨0x80, 0x8F, ?_, by omega, by omega⟩
      rw [if_neg (by omega), if_neg (by omega), if_pos (by omega), highest]
    · refine ⟨0x80, 0xBF, ?_, by omega, by omega⟩
      rw [if_neg (by omega), if_pos (by omega), Nat.add_sub_cancel_left]

theorem eventsFrom_encodeChar (c : Char) (rest : List UInt8) :
    eventsFrom .idle (encodeChar c ++ rest) = .char c :: eventsFrom .idle rest := by
  have valid := c.valid
  have same : c.val.toNat = c.toNat := rfl
  simp only [UInt32.isValidChar, Nat.isValidChar, same] at valid
  have back : Char.ofNat c.toNat = c := Char.ofNat_toNat c
  simp only [encodeChar, Nat.shiftRight_eq_div_pow, Nat.mul_zero, Nat.mul_one, Nat.reduceMul,
    Nat.reducePow, Nat.div_one]
  generalize c.toNat = n at valid back ⊢
  have whole {m : Nat} (eq : m = n) : Event.char (Char.ofNat m) :: eventsFrom .idle rest =
      .char c :: eventsFrom .idle rest := by rw [eq, back]
  have first {m : Nat} (byte : m < 256) : (UInt8.ofNat m).toNat = m :=
    UInt8.toNat_ofNat_of_lt' byte
  by_cases one : n < 0x80
  · rw [if_pos one, List.singleton_append, eventsFrom_cons, State.feed, start,
      first (by omega), if_pos one]
    exact whole rfl
  · rw [if_neg one]
    by_cases two : n < 0x800
    · have opens : start (UInt8.ofNat (0xC0 + n / 64)) =
          ([], .within 1 1 0x80 0xBF (0xC0 + n / 64 - 0xC0)) := by
        rw [start, first (by omega), if_neg (by omega), if_neg (by omega), if_pos (by omega)]
      rw [if_pos two, List.cons_append, List.singleton_append,
        eventsFrom_opening _ opens, eventsFrom_last _ (by omega) (by omega)]
      exact whole (by omega)
    · rw [if_neg two]
      by_cases three : n < 0x10000
      · rw [if_pos three, List.cons_append, List.cons_append, List.singleton_append]
        obtain ⟨low, high, opens, inside⟩ := start_of_three (by omega) three (by omega)
        rw [eventsFrom_opening _ opens, eventsFrom_inner _ (by omega) inside (by omega),
          eventsFrom_last _ (by omega) (by omega)]
        exact whole (by omega)
      · rw [if_neg three, List.cons_append, List.cons_append, List.cons_append,
          List.singleton_append]
        obtain ⟨low, high, opens, inside⟩ :=
          start_of_four (Nat.le_of_not_lt three) (by omega)
        rw [eventsFrom_opening _ opens, eventsFrom_inner _ (by omega) inside (by omega),
          eventsFrom_inner _ (by omega) (by omega) (by omega),
          eventsFrom_last _ (by omega) (by omega)]
        exact whole (by omega)

theorem decode?_encode (s : String) : decode? (encode s) = some s := by
  have chars (text : List Char) :
      charsOf? (eventsFrom .idle (text.flatMap encodeChar)) = some text := by
    induction text with
    | nil => rfl
    | cons c text ih => rw [List.flatMap_cons, eventsFrom_encodeChar, charsOf?, ih]; rfl
  rw [decode?, events, encode, chars, Option.map_some, String.ofList_toList]

theorem eq_of_mem_encodeChar {c : Char} (member : 10 ∈ encodeChar c) : c = '\n' := by
  have bound : c.toNat < 0x110000 := by
    have valid := c.valid
    have same : c.val.toNat = c.toNat := rfl
    simp only [UInt32.isValidChar, Nat.isValidChar, same] at valid
    omega
  have high {m : Nat} (large : 0x80 ≤ m) (byte : m < 256) : 10 ≠ UInt8.ofNat m := by
    intro same
    have value := congrArg UInt8.toNat same
    rw [UInt8.toNat_ofNat_of_lt' byte] at value
    simp only [UInt8.reduceToNat] at value
    omega
  simp only [encodeChar, Nat.shiftRight_eq_div_pow, Nat.mul_zero, Nat.mul_one, Nat.reduceMul,
    Nat.reducePow, Nat.div_one] at member
  by_cases one : c.toNat < 0x80
  · rw [if_pos one, List.mem_singleton] at member
    have byte : c.toNat < 256 := by omega
    have value := congrArg UInt8.toNat member
    rw [UInt8.toNat_ofNat_of_lt' byte] at value
    exact Char.toNat_inj.mp value.symm
  · rw [if_neg one] at member
    -- Every byte of a longer character is out of the range of single ones.
    split at member
    · simp only [List.mem_cons, List.not_mem_nil, or_false] at member
      rcases member with same | same
      · exact absurd same (high (by omega) (by omega))
      · exact absurd same (high (by omega) (by omega))
    · split at member
      · simp only [List.mem_cons, List.not_mem_nil, or_false] at member
        rcases member with same | same | same
        all_goals exact absurd same (high (by omega) (by omega))
      · simp only [List.mem_cons, List.not_mem_nil, or_false] at member
        rcases member with same | same | same | same
        all_goals exact absurd same (high (by omega) (by omega))

theorem not_mem_encode {s : String} (single : '\n' ∉ s.toList) : 10 ∉ encode s := by
  intro member
  obtain ⟨c, listed, byte⟩ := List.mem_flatMap.mp member
  exact single (eq_of_mem_encodeChar byte ▸ listed)

theorem encode_append (first second : String) :
    encode (first ++ second) = encode first ++ encode second := by
  rw [encode, String.toList_append, List.flatMap_append]
  rfl

end LispHost.Text.Utf8
